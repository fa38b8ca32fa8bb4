/-!
# Blank characters and trimming

The characters that count as blank, and the removal of blanks from both ends of a text.

## Main definitions

- `isBlank` — the white space characters, inside and outside ASCII
- `dropBlanks`, `trimBlanks` — a list of characters without its leading, or its outer, blanks
- `trim` — the same on strings
- `Trimmed` — a text that begins and ends with no blank

## Main statements

- `trimBlanks_trimmed` — a trimmed list begins and ends with no blank
- `trim_eq_self_iff` — trimming leaves exactly the trimmed texts alone
-/

namespace MessageMarkup.Text

/-- The white space characters: the ASCII ones with the four separators `U+001C` to `U+001F`,
    the next-line control, and every space, line and paragraph separator beyond ASCII.
    The zero-width characters are not among them. -/
def isBlank (c : Char) : Bool :=
  let n := c.toNat
  (0x09 ≤ n && n ≤ 0x0D) || (0x1C ≤ n && n ≤ 0x20) || n == 0x85 || n == 0xA0 || n == 0x1680
    || (0x2000 ≤ n && n ≤ 0x200A) || n == 0x2028 || n == 0x2029 || n == 0x202F || n == 0x205F
    || n == 0x3000

/-- A list of characters without its leading blanks. -/
def dropBlanks (cs : List Char) : List Char :=
  cs.dropWhile isBlank

/-- A list of characters without its leading and trailing blanks. -/
def trimBlanks (cs : List Char) : List Char :=
  (dropBlanks (dropBlanks cs).reverse).reverse

/-- A text without its leading and trailing blanks. -/
def trim (s : String) : String :=
  String.ofList (trimBlanks s.toList)

/-- A list of characters that neither begins nor ends with a blank. -/
def TrimmedChars (cs : List Char) : Prop :=
  (∀ c ∈ cs.head?, isBlank c = false) ∧ (∀ c ∈ cs.getLast?, isBlank c = false)

/-- A text that neither begins nor ends with a blank. -/
def Trimmed (s : String) : Prop :=
  TrimmedChars s.toList

@[simp]
theorem toList_trim (s : String) : (trim s).toList = trimBlanks s.toList := by
  simp [trim]

theorem head?_dropBlanks (cs : List Char) : ∀ c ∈ (dropBlanks cs).head?, isBlank c = false := by
  intro c hc
  have := List.head?_dropWhile_not isBlank cs
  rw [Option.mem_def.1 (show c ∈ (cs.dropWhile isBlank).head? from hc)] at this
  simpa using this

theorem dropBlanks_eq_self {cs : List Char} (h : ∀ c ∈ cs.head?, isBlank c = false) :
    dropBlanks cs = cs := by
  cases cs with
  | nil => rfl
  | cons c cs =>
    have hc : isBlank c = false := h c (by simp)
    simp [dropBlanks, hc]

theorem dropBlanks_suffix (cs : List Char) : dropBlanks cs <:+ cs :=
  List.dropWhile_suffix isBlank

theorem trimBlanks_subset (cs : List Char) : trimBlanks cs ⊆ cs := by
  intro c hc
  have hc := (dropBlanks_suffix _).subset (List.mem_reverse.1 hc)
  exact (dropBlanks_suffix cs).subset (List.mem_reverse.1 hc)

/-- A blank in front is trimmed away. -/
theorem trimBlanks_cons {c : Char} (h : isBlank c = true) (cs : List Char) :
    trimBlanks (c :: cs) = trimBlanks cs := by
  simp [trimBlanks, dropBlanks, h]

/-- A blank at the end is trimmed away. -/
theorem trimBlanks_append_singleton {c : Char} (h : isBlank c = true) (cs : List Char) :
    trimBlanks (cs ++ [c]) = trimBlanks cs := by
  rw [trimBlanks, trimBlanks, dropBlanks, dropBlanks, List.dropWhile_append]
  split
  · next hblank => simp [List.isEmpty_iff.1 hblank, dropBlanks, h]
  · simp [dropBlanks, h]

theorem trimBlanks_trimmed (cs : List Char) : TrimmedChars (trimBlanks cs) := by
  constructor
  · intro c hc
    obtain ⟨before, hbefore⟩ := dropBlanks_suffix (dropBlanks cs).reverse
    have hrev : dropBlanks cs = trimBlanks cs ++ before.reverse := by
      have := congrArg List.reverse hbefore
      simpa [trimBlanks] using this.symm
    refine head?_dropBlanks cs c ?_
    rw [hrev, List.head?_append, Option.mem_def.1 hc]
    rfl
  · intro c hc
    refine head?_dropBlanks (dropBlanks cs).reverse c ?_
    simpa [trimBlanks] using hc

theorem trimBlanks_eq_self {cs : List Char} (h : TrimmedChars cs) : trimBlanks cs = cs := by
  unfold trimBlanks
  rw [dropBlanks_eq_self h.1, dropBlanks_eq_self, List.reverse_reverse]
  intro c hc
  exact h.2 c (by simpa using hc)

/-- Trimming leaves exactly the trimmed texts alone. -/
theorem trim_eq_self_iff {s : String} : trim s = s ↔ Trimmed s := by
  rw [← String.toList_inj, toList_trim]
  refine ⟨fun h => ?_, trimBlanks_eq_self⟩
  rw [Trimmed, ← h]
  exact trimBlanks_trimmed _

@[simp]
theorem trim_trim (s : String) : trim (trim s) = trim s := by
  rw [trim_eq_self_iff, Trimmed, toList_trim]
  exact trimBlanks_trimmed _

end MessageMarkup.Text
