import MessageMarkup.Proofs.Unescape

/-!
# The markup of a message

The markup of a message can be told from its tokens, whether or not its tags nest. Trimming a
message leaves it alone, and a message freed of escapes has the same markup with its names freed of
them.

## Main definitions

- `Token.markup` — kind and name of all markup in a message

## Main statements

- `signatures_of_parse` — the nodes of a message have its markup
- `Token.markup_trimBlanks`, `Token.markup_unescapeChars` — the markup of a message that is trimmed,
  or freed of escapes
-/

namespace MessageMarkup

open Node Plural

namespace Token

/-- Kind and name of the markup that a token begins, if it does. A close tag only ends some. -/
def signature? : Token → Option (Kind × String)
  | placeholder name => some (.placeholder, String.ofList name)
  | opening label => some (.tag, Text.trim (String.ofList label))
  | void label => some (.voidTag, Text.trim (String.ofList label))
  | literal _ | percent | closing _ => none

/-- Kind and name of all markup in a message. -/
def markup (cs : List Char) : List (Kind × String) :=
  (lex cs).filterMap signature?

theorem filterMap_signature?_of_isText {run : List Token} (h : ∀ t ∈ run, t.isText = true) :
    run.filterMap signature? = [] := by
  rw [List.filterMap_eq_nil_iff]
  intro t ht
  have htext := h t ht
  cases t with
  | literal _ | percent => rfl
  | placeholder _ | opening _ | closing _ | void _ => cases htext

/-- Nodes have the markup of the tokens that spell them. -/
theorem signatures_of_spells {ts : List Token} {nodes : List Node} (h : Spells ts nodes) :
    signatures nodes = ts.filterMap signature? := by
  induction h with
  | nil => rfl
  | text _ hrun _ _ ih =>
    rw [signatures_text, List.filterMap_append, filterMap_signature?_of_isText hrun, ih]
    rfl
  | placeholder _ ih =>
    rw [signatures_placeholder, ih]
    rfl
  | void _ ih =>
    rw [signatures_voidTag, ih]
    rfl
  | @tag label inner children rest nodes _ _ ihInner ihRest =>
    have hopening : signature? (opening label) = some (.tag, Text.trim (String.ofList label)) := rfl
    have hclosing : signature? (closing label) = none := rfl
    rw [signatures_tag, List.filterMap_cons_some hopening, List.filterMap_append,
      List.filterMap_cons_none hclosing, ihInner, ihRest]

/-- A character that is no mark, put behind a message, is one more token. -/
theorem lexes_append_literal {cs : List Char} {ts : List Token} (h : Lexes cs ts) {c : Char}
    (hpercent : c ≠ '%') (hopen : c ≠ '<') (hclose : c ≠ '>') :
    Lexes (cs ++ [c]) (ts ++ [literal c]) := by
  induction h with
  | nil => exact .plain hpercent hopen .nil
  | @named name rest ts hname _ ih => simpa using Lexes.named hname ih
  | @unended rest hrest =>
    have hrest' : '%' ∉ rest ++ [c] := by simp [hrest, hpercent.symm]
    simpa using Lexes.unended hrest'
  | @tag label rest ts hlabel hlabel' _ ih => simpa using Lexes.tag hlabel hlabel' ih
  | @stray label rest ts hlabel hlabel' hhead h ih =>
    cases rest with
    | nil =>
      -- The character joins a label that the message does not end.
      cases h
      have hmore : '<' ∉ label ++ [c] := by simp [hlabel, hopen.symm]
      have hmore' : '>' ∉ label ++ [c] := by simp [hlabel', hclose.symm]
      simpa using Lexes.stray hmore hmore' (by simp) .nil
    | cons d rest =>
      have hhead' : ∀ e ∈ (d :: rest ++ [c]).head?, e = '<' := hhead
      simpa using Lexes.stray hlabel hlabel' hhead' ih
  | plain hpercent' hopen' _ ih => exact .plain hpercent' hopen' ih

/-- A blank is no mark. -/
theorem ne_of_isBlank {c : Char} (h : Text.isBlank c = true) : c ≠ '%' ∧ c ≠ '<' ∧ c ≠ '>' := by
  refine ⟨?_, ?_, ?_⟩
  all_goals
    rintro rfl
    exact absurd h (by decide)

theorem markup_cons_blank {c : Char} (h : Text.isBlank c = true) (cs : List Char) :
    markup (c :: cs) = markup cs := by
  obtain ⟨hpercent, hopen, _⟩ := ne_of_isBlank h
  rw [markup, lex_plain hpercent hopen]
  rfl

theorem markup_append_blank {c : Char} (h : Text.isBlank c = true) (cs : List Char) :
    markup (cs ++ [c]) = markup cs := by
  obtain ⟨hpercent, hopen, hclose⟩ := ne_of_isBlank h
  have hlexes := lexes_append_literal (lexes_lex cs) hpercent hopen hclose
  rw [markup, lex_eq_of_lexes hlexes, List.filterMap_append]
  exact List.append_nil _

theorem markup_dropBlanks (cs : List Char) : markup (Text.dropBlanks cs) = markup cs := by
  induction cs with
  | nil => rfl
  | cons c cs ih =>
    by_cases hblank : Text.isBlank c = true
    · rw [Text.dropBlanks, List.dropWhile_cons_of_pos hblank, markup_cons_blank hblank]
      exact ih
    · rw [Text.dropBlanks, List.dropWhile_cons_of_neg hblank]

theorem markup_rdropWhile_isBlank (cs : List Char) :
    markup (cs.rdropWhile Text.isBlank) = markup cs := by
  induction cs using List.reverseRecOn with
  | nil => rfl
  | append_singleton cs c ih =>
    by_cases hblank : Text.isBlank c = true
    · rw [List.rdropWhile_concat_pos _ _ _ hblank, ih, markup_append_blank hblank]
    · rw [List.rdropWhile_concat_neg _ _ _ hblank]

/-- A trimmed message has the same markup. -/
theorem markup_trimBlanks (cs : List Char) : markup (Text.trimBlanks cs) = markup cs := by
  rw [Text.trimBlanks_eq, markup_rdropWhile_isBlank, markup_dropBlanks]

theorem signature?_unescape (t : Token) :
    t.unescape.signature? = t.signature?.map (Prod.map id Plural.unescape) := by
  cases t with
  | literal _ | percent | closing _ => rfl
  | placeholder name => simp [unescape, signature?, Plural.unescape]
  | opening label | void label => simp [unescape, signature?, trim_unescape]

theorem filterMap_signature?_unescapeAll (ts : List Token) :
    (unescapeAll ts).filterMap signature? =
      (ts.filterMap signature?).map (Prod.map id Plural.unescape) := by
  have hcons (t : Token) (ts : List Token) :
      (t :: ts).filterMap signature? = t.signature?.toList ++ ts.filterMap signature? := by
    cases h : t.signature? <;> simp [h]
  have htoken (t : Token) :
      t.unescape.signature?.toList = t.signature?.toList.map (Prod.map id Plural.unescape) := by
    rw [signature?_unescape, Option.toList_map]
  fun_induction unescapeAll ts with
  | case1 => rfl
  | case2 t => rw [hcons, hcons, List.map_append, htoken]; rfl
  | case3 t u ts h ih =>
    obtain ⟨rfl, rfl⟩ := h
    exact ih
  | case4 t u ts h ih => rw [hcons, hcons t, List.map_append, htoken, ih]

/-- A message freed of escapes has the same markup with its names freed of them. -/
theorem markup_unescapeChars (cs : List Char) :
    markup (unescapeChars cs) = (markup cs).map (Prod.map id Plural.unescape) := by
  rw [markup, lex_unescapeChars, filterMap_signature?_unescapeAll]
  rfl

end Token

/-- The nodes of a message have its markup. -/
theorem signatures_of_parse {limit : Int} {source : String} {nodes : List Node}
    (h : parse limit source = .ok nodes) : signatures nodes = Token.markup source.toList :=
  Token.signatures_of_spells (parse_eq_ok_iff.1 h).1

end MessageMarkup
