import Mathlib.Data.List.TakeWhile

/-!
# Tokens

A message is a sequence of tokens: characters that stand for themselves, doubled percent signs,
placeholders and tags. This is the grammar of the language as a reader of its description would
write it down, in one pass from left to right and without a state.

## Main definitions

- `Token` — the tokens, with labels and names as they are written
- `Token.lex` — the tokens of a message
- `Token.Lexes` — the same as a relation, one rule for each way in which a token begins
- `Token.source` — a token as it stands in a message

## Main statements

- `Token.lexes_lex`, `Token.lex_eq_of_lexes` — the function computes the relation
- `Token.flatMap_source_lex` — the tokens of a message, written out, are the message
-/

namespace MessageMarkup

/-- A piece of a message. -/
inductive Token where
  /-- A character that stands for itself. -/
  | literal (c : Char)
  /-- Two percent signs, which stand for one. -/
  | percent
  | placeholder (name : List Char)
  | opening (label : List Char)
  | closing (label : List Char)
  | void (label : List Char)
  deriving DecidableEq, Repr

namespace Token

/-- The tag of a label: a close tag if the label begins with `/`, else a void one if it ends with
    `/`, else an open tag. -/
def ofLabel : List Char → Token
  | '/' :: label => closing label
  | label => if label.getLast? = some '/' then void label.dropLast else opening label

/-- What stands for a name between percent signs: a placeholder, or a percent sign if there is no
    name. -/
def ofName (name : List Char) : Token :=
  if name = [] then percent else placeholder name

/-- A token as it stands in a message. -/
def source : Token → List Char
  | literal c => [c]
  | percent => ['%', '%']
  | placeholder name => '%' :: (name ++ ['%'])
  | opening label => '<' :: (label ++ ['>'])
  | closing label => '<' :: '/' :: (label ++ ['>'])
  | void label => '<' :: (label ++ ['/', '>'])

/-- The text that a token stands for; markup stands for none. -/
def text : Token → List Char
  | literal c => [c]
  | percent => ['%']
  | placeholder _ | opening _ | closing _ | void _ => []

/-- Whether a token stands for text. -/
def isText : Token → Bool
  | literal _ | percent => true
  | placeholder _ | opening _ | closing _ | void _ => false

/-- The characters that a label may hold. -/
def isLabelChar (c : Char) : Bool :=
  c ≠ '<' && c ≠ '>'

/-- The tokens of a message. A `%` that no other follows makes all the rest literal, and a `<` is
    literal with what follows it up to the next `<` or the end if no `>` comes first. -/
def lex : List Char → List Token
  | [] => []
  | c :: cs =>
    if c = '%' then
      match _h : cs.dropWhile (· ≠ '%') with
      | [] => (c :: cs).map literal
      | _ :: rest => ofName (cs.takeWhile (· ≠ '%')) :: lex rest
    else if c = '<' then
      match _h : cs.dropWhile isLabelChar with
      | '>' :: rest => ofLabel (cs.takeWhile isLabelChar) :: lex rest
      | rest => (c :: cs.takeWhile isLabelChar).map literal ++ lex rest
    else literal c :: lex cs
termination_by cs => cs.length
decreasing_by
  all_goals
    have hle := List.length_dropWhile_le (· ≠ '%') cs
    have hle' := List.length_dropWhile_le isLabelChar cs
    grind

/-- How a message is cut into tokens: one rule for each way in which it may begin. -/
inductive Lexes : List Char → List Token → Prop
  | nil : Lexes [] []
  | named {name rest ts} : '%' ∉ name → Lexes rest ts →
      Lexes ('%' :: (name ++ '%' :: rest)) (ofName name :: ts)
  | unended {rest} : '%' ∉ rest → Lexes ('%' :: rest) (('%' :: rest).map literal)
  | tag {label rest ts} : '<' ∉ label → '>' ∉ label → Lexes rest ts →
      Lexes ('<' :: (label ++ '>' :: rest)) (ofLabel label :: ts)
  | stray {label rest ts} : '<' ∉ label → '>' ∉ label → (∀ c ∈ rest.head?, c = '<') →
      Lexes rest ts → Lexes ('<' :: (label ++ rest)) (('<' :: label).map literal ++ ts)
  | plain {c rest ts} : c ≠ '%' → c ≠ '<' → Lexes rest ts → Lexes (c :: rest) (literal c :: ts)

theorem ofLabel_slash_cons (label : List Char) : ofLabel ('/' :: label) = closing label := rfl

theorem ofLabel_append_slash {label : List Char} (hhead : (label ++ ['/']).head? ≠ some '/') :
    ofLabel (label ++ ['/']) = void label := by
  unfold ofLabel
  split
  · next h => simp [h] at hhead
  · simp

theorem ofLabel_opening {label : List Char} (hhead : label.head? ≠ some '/')
    (hlast : label.getLast? ≠ some '/') : ofLabel label = opening label := by
  unfold ofLabel
  split
  · simp at hhead
  · rw [if_neg hlast]

theorem isText_ofLabel (label : List Char) : (ofLabel label).isText = false := by
  unfold ofLabel
  split
  · rfl
  · split <;> rfl

theorem takeWhile_isLabelChar (cs : List Char) :
    '<' ∉ cs.takeWhile isLabelChar ∧ '>' ∉ cs.takeWhile isLabelChar := by
  constructor
  · intro hmem
    simpa [isLabelChar] using List.mem_takeWhile_imp hmem
  · intro hmem
    simpa [isLabelChar] using List.mem_takeWhile_imp hmem

/-- A label ends where a mark of a tag stands, or with the message. -/
theorem head?_dropWhile_isLabelChar {cs : List Char} :
    ∀ c ∈ (cs.dropWhile isLabelChar).head?, c = '<' ∨ c = '>' := by
  intro c hc
  have := List.head?_dropWhile_not isLabelChar cs
  rw [Option.mem_def.1 hc] at this
  simpa [isLabelChar, or_iff_not_imp_left] using this

theorem isLabelChar_of_mem {label : List Char} (hopen : '<' ∉ label) (hclose : '>' ∉ label) :
    ∀ c ∈ label, isLabelChar c = true := by
  intro c hc
  have h₁ : c ≠ '<' := fun h => hopen (h ▸ hc)
  have h₂ : c ≠ '>' := fun h => hclose (h ▸ hc)
  simp [isLabelChar, h₁, h₂]

@[simp]
theorem lex_nil : lex [] = [] := by
  rw [lex]

theorem lex_named {name : List Char} (hname : '%' ∉ name) (rest : List Char) :
    lex ('%' :: (name ++ '%' :: rest)) = ofName name :: lex rest := by
  have hall : ∀ c ∈ name, decide (c ≠ '%') = true := by
    intro c hc
    have : c ≠ '%' := fun h => hname (h ▸ hc)
    simp [this]
  have htake : (name ++ '%' :: rest).takeWhile (· ≠ '%') = name := by
    rw [List.takeWhile_append_of_pos hall]
    simp
  have hdrop : (name ++ '%' :: rest).dropWhile (· ≠ '%') = '%' :: rest := by
    rw [List.dropWhile_append_of_pos hall]
    simp
  rw [lex, if_pos rfl]
  split
  · next h =>
    rw [hdrop] at h
    cases h
  · next h =>
    rw [hdrop] at h
    cases h
    rw [htake]

theorem lex_unended {rest : List Char} (hrest : '%' ∉ rest) :
    lex ('%' :: rest) = ('%' :: rest).map literal := by
  have hdrop : rest.dropWhile (· ≠ '%') = [] := by
    rw [List.dropWhile_eq_nil_iff]
    intro c hc
    have : c ≠ '%' := fun h => hrest (h ▸ hc)
    simp [this]
  rw [lex, if_pos rfl]
  split
  · rfl
  · next h =>
    rw [hdrop] at h
    cases h

theorem lex_tag {label : List Char} (hopen : '<' ∉ label) (hclose : '>' ∉ label)
    (rest : List Char) :
    lex ('<' :: (label ++ '>' :: rest)) = ofLabel label :: lex rest := by
  have hall := isLabelChar_of_mem hopen hclose
  have htake : (label ++ '>' :: rest).takeWhile isLabelChar = label := by
    rw [List.takeWhile_append_of_pos hall]
    simp [isLabelChar]
  have hdrop : (label ++ '>' :: rest).dropWhile isLabelChar = '>' :: rest := by
    rw [List.dropWhile_append_of_pos hall]
    simp [isLabelChar]
  rw [lex, if_neg (by decide), if_pos rfl]
  split
  · next h =>
    rw [hdrop] at h
    injection h with _ h
    rw [htake, h]
  · next h => exact absurd hdrop (h _)

theorem lex_stray {label rest : List Char} (hopen : '<' ∉ label) (hclose : '>' ∉ label)
    (hrest : ∀ c ∈ rest.head?, c = '<') :
    lex ('<' :: (label ++ rest)) = ('<' :: label).map literal ++ lex rest := by
  have hall := isLabelChar_of_mem hopen hclose
  have hstop : rest.takeWhile isLabelChar = [] ∧ rest.dropWhile isLabelChar = rest := by
    cases rest with
    | nil => simp
    | cons c rest =>
      obtain rfl : c = '<' := hrest c rfl
      simp [isLabelChar]
  have htake : (label ++ rest).takeWhile isLabelChar = label := by
    rw [List.takeWhile_append_of_pos hall, hstop.1, List.append_nil]
  have hdrop : (label ++ rest).dropWhile isLabelChar = rest := by
    rw [List.dropWhile_append_of_pos hall, hstop.2]
  rw [lex, if_neg (by decide), if_pos rfl]
  split
  · next h =>
    rw [hdrop] at h
    subst h
    exact absurd (hrest '>' rfl) (by decide)
  · rw [htake, hdrop]

theorem lex_plain {c : Char} (hpercent : c ≠ '%') (hopen : c ≠ '<') (rest : List Char) :
    lex (c :: rest) = literal c :: lex rest := by
  rw [lex, if_neg hpercent, if_neg hopen]

/-- The tokens of a message are among those that the rules allow. -/
theorem lexes_lex (cs : List Char) : Lexes cs (lex cs) := by
  induction cs using lex.induct with
  | case1 =>
    rw [lex_nil]
    exact .nil
  | case2 cs hdrop =>
    have hnot : '%' ∉ cs := by
      intro hmem
      simpa using List.dropWhile_eq_nil_iff.1 hdrop _ hmem
    rw [lex_unended hnot]
    exact .unended hnot
  | case3 cs c rest hdrop ih =>
    have hnot : '%' ∉ cs.takeWhile (· ≠ '%') := by
      intro hmem
      simpa using List.mem_takeWhile_imp hmem
    have hc := List.head?_dropWhile_not (· ≠ '%') cs
    have hcs := List.takeWhile_append_dropWhile (p := (· ≠ '%')) (l := cs)
    generalize cs.takeWhile (· ≠ '%') = name at hnot hcs
    simp only [hdrop, List.head?_cons, decide_eq_false_iff_not, ne_eq, not_not] at hc hcs
    subst hc hcs
    rw [lex_named hnot]
    exact .named hnot ih
  | case4 cs rest hdrop _ ih =>
    obtain ⟨hopen, hclose⟩ := takeWhile_isLabelChar cs
    have hcs := List.takeWhile_append_dropWhile (p := isLabelChar) (l := cs)
    generalize cs.takeWhile isLabelChar = label at hopen hclose hcs
    rw [hdrop] at hcs
    subst hcs
    rw [lex_tag hopen hclose]
    exact .tag hopen hclose ih
  | case5 cs _ hdrop ih =>
    obtain ⟨hopen, hclose⟩ := takeWhile_isLabelChar cs
    have hcs := List.takeWhile_append_dropWhile (p := isLabelChar) (l := cs)
    have hhead : ∀ c ∈ (cs.dropWhile isLabelChar).head?, c = '<' := by
      intro c hc
      obtain ⟨tail, htail⟩ := List.head?_eq_some_iff.1 hc
      refine (head?_dropWhile_isLabelChar c hc).resolve_right fun h => ?_
      exact hdrop tail (h ▸ htail)
    generalize cs.takeWhile isLabelChar = label at hopen hclose hcs
    generalize cs.dropWhile isLabelChar = rest at hhead hcs ih
    subst hcs
    rw [lex_stray hopen hclose hhead]
    exact .stray hopen hclose hhead ih
  | case6 c cs hpercent hopen ih =>
    rw [lex_plain hpercent hopen]
    exact .plain hpercent hopen ih

/-- The rules allow but one way to cut a message. -/
theorem lex_eq_of_lexes {cs : List Char} {ts : List Token} (h : Lexes cs ts) : lex cs = ts := by
  induction h with
  | nil => rw [lex_nil]
  | named hname _ ih => rw [lex_named hname, ih]
  | unended hrest => rw [lex_unended hrest]
  | tag hopen hclose _ ih => rw [lex_tag hopen hclose, ih]
  | stray hopen hclose hrest _ ih => rw [lex_stray hopen hclose hrest, ih]
  | plain hpercent hopen _ ih => rw [lex_plain hpercent hopen, ih]

theorem source_ofName (name : List Char) : (ofName name).source = '%' :: (name ++ ['%']) := by
  by_cases h : name = []
  · simp [ofName, h, source]
  · simp [ofName, h, source]

/-- The tag of a label is written as that label. -/
theorem source_ofLabel (label : List Char) : (ofLabel label).source = '<' :: (label ++ ['>']) := by
  unfold ofLabel
  split
  · rfl
  · split
    · next h =>
      obtain ⟨init, rfl⟩ := List.getLast?_eq_some_iff.1 h
      simp [source]
    · rfl

theorem flatMap_source_literal (cs : List Char) : (cs.map literal).flatMap source = cs := by
  induction cs with
  | nil => rfl
  | cons c cs ih => simpa [source] using ih

/-- The tokens of a message, written out, are the message. -/
theorem flatMap_source_lex (cs : List Char) : (lex cs).flatMap source = cs := by
  have h := lexes_lex cs
  generalize lex cs = ts at h
  induction h with
  | nil => rfl
  | named _ _ ih => simp [source_ofName, ih]
  | unended _ => exact flatMap_source_literal _
  | tag _ _ _ ih => simp [source_ofLabel, ih]
  | stray _ _ _ _ ih => rw [List.flatMap_append, flatMap_source_literal, ih]; rfl
  | plain _ _ _ ih => simp [source, ih]

end Token

end MessageMarkup
