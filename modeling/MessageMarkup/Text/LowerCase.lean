import MessageMarkup.Text.LetterCase

/-!
# Lower case

Full lower-casing of a text. It goes letter by letter but for two exceptions: a capital I with a
dot becomes an `i` and a combining dot, and a capital sigma takes its final form at the end of a
word.

## Main definitions

- `lower` — a text in lower case

## Main statements

- `lowerFrom_of_ascii` — ASCII text is lower-cased character by character
-/

namespace MessageMarkup.Text

/-- Whether the next character that is not passed over is a letter with case. -/
def continuesWord (cs : List Char) : Bool :=
  (cs.find? (!isCaseIgnorable ·)).any isCased

/-- One character in lower case. `insideWord` says whether a letter stands before it, `rest` is
    what follows. -/
def lowerAt (insideWord : Bool) (c : Char) (rest : List Char) : List Char :=
  if c = 'Σ' then [if insideWord && !continuesWord rest then 'ς' else 'σ']
  else if c = 'İ' then ['i', '\u0307']
  else [lowerCounterpart c]

/-- Characters in lower case. `insideWord` says whether the last character before them that is not
    passed over is a letter with case. -/
def lowerFrom (insideWord : Bool) : List Char → List Char
  | [] => []
  | c :: cs =>
    lowerAt insideWord c cs ++ lowerFrom (if isCaseIgnorable c then insideWord else isCased c) cs

def lower (s : String) : String :=
  String.ofList (lowerFrom false s.toList)

@[simp]
theorem toList_lower (s : String) : (lower s).toList = lowerFrom false s.toList := by
  simp [lower]

/-- ASCII text is lower-cased character by character. -/
theorem lowerFrom_of_ascii {insideWord : Bool} {cs : List Char} (h : ∀ c ∈ cs, c.toNat < 0x80) :
    lowerFrom insideWord cs = cs.map Char.toLower := by
  induction cs generalizing insideWord with
  | nil => rfl
  | cons c cs ih =>
    have hc : c.toNat < 0x80 := h c (by simp)
    have hsigma : c ≠ 'Σ' := by rintro rfl; exact absurd hc (by decide)
    have hdotted : c ≠ 'İ' := by rintro rfl; exact absurd hc (by decide)
    simp [lowerFrom, lowerAt, hsigma, hdotted, lowerCounterpart, hc,
      ih fun d hd => h d (by simp [hd])]

end MessageMarkup.Text
