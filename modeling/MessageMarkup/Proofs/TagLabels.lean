import MessageMarkup.Proofs.Blame
import MessageMarkup.Proofs.Markup

/-!
# Labels that look like attributes

A label with a space in it looks like a tag with attributes, which the language does not have. The
parser looks for the space only where a close tag bears another label than the tag that it meets. A
close tag that repeats the label, space and all, ends the tag as any other does.

## Main statements

- `Token.Spells.opening_mem_iff` — the labels that open tags are those that close them
- `Token.Leaves.append_closing` — a close tag that repeats a label ends its tag
- `Node.tag_mem_signatures_iff` — the tags of an accepted message are named by its close tags
- `tag_has_space_iff` — which messages have a tag with a space in its name, and which are rejected
  for attributes
-/

namespace MessageMarkup

namespace Token

/-- Where tokens spell nodes, the labels that open a tag are those that close one. -/
theorem Spells.opening_mem_iff {ts : List Token} {nodes : List Node} (h : Spells ts nodes)
    (label : List Char) : opening label ∈ ts ↔ closing label ∈ ts := by
  induction h with
  | nil => simp
  | @text run rest nodes _ hrun _ _ ih =>
    have hopening : opening label ∉ run := fun hmem => by simpa [isText] using hrun _ hmem
    have hclosing : closing label ∉ run := fun hmem => by simpa [isText] using hrun _ hmem
    simp only [List.mem_append, hopening, hclosing, false_or, ih]
  | placeholder _ ih | void _ ih => simpa using ih
  | tag _ _ ihInner ihRest =>
    simp only [List.mem_cons, List.mem_append, opening.injEq, closing.injEq, reduceCtorEq, false_or,
      ihInner, ihRest]
    exact or_left_comm

/-- How many tags are open at once is told by what comes before and what comes after. -/
theorem mostOpen_append {front : List Token} {labels labels' : List (List Char)}
    (h : front.foldlM openAfter labels = some labels') (back : List Token) :
    mostOpen labels.length (front ++ back) =
      max (mostOpen labels.length front) (mostOpen labels'.length back) := by
  induction front generalizing labels with
  | nil =>
    obtain rfl : labels = labels' := by simpa using h
    simp [mostOpen, le_mostOpen]
  | cons t front ih =>
    rw [List.foldlM_cons] at h
    obtain ⟨labels₁, hafter, h⟩ := Option.bind_eq_some_iff.1 h
    have ih := ih h
    cases t with
    | literal _ | percent | placeholder _ | void _ =>
      cases hafter
      exact ih
    | opening label =>
      cases hafter
      rw [List.length_cons] at ih
      simp only [List.cons_append, mostOpen, ih, max_assoc]
    | closing label =>
      cases labels with
      | nil => cases hafter
      | cons innermost outer =>
        rw [openAfter, Option.ite_none_right_eq_some] at hafter
        cases hafter.2
        simp only [List.cons_append, mostOpen, List.length_cons, Nat.add_sub_cancel, ih, max_assoc]

/-- The tags that are open in the end count among those that are at once. -/
theorem length_le_mostOpen {front : List Token} {labels labels' : List (List Char)}
    (h : front.foldlM openAfter labels = some labels') :
    labels'.length ≤ mostOpen labels.length front := by
  have happend := mostOpen_append h []
  rw [List.append_nil] at happend
  rw [happend]
  exact le_max_right _ _

/-- A close tag that repeats the label of the innermost open tag ends this tag, whatever the label
    holds. -/
theorem Leaves.append_closing {limit : Int} {front : List Token} {label : List Char}
    {outer : List (List Char)} (h : Leaves limit front (label :: outer)) :
    Leaves limit (front ++ [closing label]) outer := by
  obtain ⟨hopen, hmost⟩ := h
  refine ⟨?_, ?_⟩
  · rw [List.foldlM_append, hopen]
    simp [openAfter]
  · have hinner : (label :: outer).length ≤ mostOpen 0 front := length_le_mostOpen hopen
    have happend : mostOpen 0 (front ++ [closing label]) = mostOpen 0 front := by
      refine (mostOpen_append hopen [closing label]).trans (max_eq_left ?_)
      simpa [mostOpen] using hinner
    rwa [happend]

end Token

/-- The paired tags of an accepted message are named by the labels that close them, without the outer
    blanks. -/
theorem Node.tag_mem_signatures_iff {limit : Int} {source : String} {nodes : List Node}
    (h : parse limit source = .ok nodes) (name : String) :
    (.tag, name) ∈ signatures nodes ↔
      ∃ label, .closing label ∈ Token.lex source.toList ∧ name = Text.trim (String.ofList label) := by
  have hspells := (parse_eq_ok_iff.1 h).1
  rw [Token.signatures_of_spells hspells, List.mem_filterMap]
  constructor
  · rintro ⟨t, hmem, ht⟩
    cases t with
    | literal _ | percent | closing _ | placeholder _ | void _ => cases ht
    | opening label =>
      rw [Token.signature?, Option.some_inj, Prod.mk.injEq] at ht
      exact ⟨label, (hspells.opening_mem_iff label).1 hmem, ht.2.symm⟩
  · rintro ⟨label, hmem, rfl⟩
    exact ⟨.opening label, (hspells.opening_mem_iff label).2 hmem, rfl⟩

/-- A message is rejected for attributes just if some close tag that can be reached meets an open tag
    of another label, and that one holds a space. -/
theorem parse_eq_tagHasAttributes_iff {limit : Int} {source label : String} {position : Nat} :
    parse limit source = .error (.tagHasAttributes source label position) ↔
      ∃ front other back innermost outer,
        Token.lex source.toList = front ++ .closing other :: back ∧
          Token.Leaves (Nesting.clamp limit) front (innermost :: outer) ∧ innermost ≠ other ∧
          ' ' ∈ innermost ∧ label = String.ofList innermost ∧ position = Token.extent front := by
  rw [← blames_iff]
  constructor
  · intro h
    generalize hfailure : Failure.tagHasAttributes source label position = failure at h
    cases h with
    | leftOpen => cases hfailure
    | @token front back t labels _ hlex hleaves hoffends =>
      cases hoffends with
      | tooDeep _ | unopened | mismatch _ _ => cases hfailure
      | @attributes innermost other outer hne hspace =>
        cases hfailure
        exact ⟨front, other, back, innermost, outer, hlex, hleaves, hne, hspace, rfl, rfl⟩
  · rintro ⟨front, other, back, innermost, outer, hlex, hleaves, hne, hspace, rfl, rfl⟩
    exact .token hlex hleaves (.attributes hne hspace)

/-- A tag of an accepted message has a space in its name just if some close tag has one inside its
    label. A message is rejected for attributes just if a close tag meets an open tag that has a space in
    its label and another label. Where the labels agree, the tag is closed. -/
theorem tag_has_space_iff (limit : Int) (source : String) :
    (∀ nodes, parse limit source = .ok nodes →
      ((∃ name, (Node.Kind.tag, name) ∈ Node.signatures nodes ∧ ' ' ∈ name.toList) ↔
        ∃ label, Token.closing label ∈ Token.lex source.toList ∧ ' ' ∈ Text.trimBlanks label)) ∧
      (∀ label position, parse limit source = .error (.tagHasAttributes source label position) ↔
        ∃ front other back innermost outer,
          Token.lex source.toList = front ++ .closing other :: back ∧
            Token.Leaves (min limit 475) front (innermost :: outer) ∧ innermost ≠ other ∧
            ' ' ∈ innermost ∧ label = String.ofList innermost ∧ position = Token.extent front) ∧
      ∀ front label back outer, Token.lex source.toList = front ++ .closing label :: back →
        Token.Leaves (min limit 475) front (label :: outer) →
          Token.Leaves (min limit 475) (front ++ [.closing label]) outer := by
  refine ⟨fun nodes h => ?_, fun label position => parse_eq_tagHasAttributes_iff,
    fun front label back outer _ h => h.append_closing⟩
  simp only [Node.tag_mem_signatures_iff h]
  constructor
  · rintro ⟨_, ⟨label, hmem, rfl⟩, hspace⟩
    exact ⟨label, hmem, by simpa using hspace⟩
  · rintro ⟨label, hmem, hspace⟩
    exact ⟨_, ⟨label, hmem, rfl⟩, by simpa using hspace⟩

/-- A label with a space is accepted as the name of a tag where the close tag repeats it, even if it is
    written like one with an attribute. -/
theorem parse_tag_with_space :
    parse 100 "<a b>x</a b>" = .ok [.tag "a b" [.text "x"]] ∧
      (Node.Kind.tag, "a b") ∈ Node.signatures [.tag "a b" [.text "x"]] ∧ ' ' ∈ "a b".toList ∧
      parse 100 "<a b=c>x</a b=c>" = .ok [.tag "a b=c" [.text "x"]] ∧
      parse 100 "< b>x</ b>" = .ok [.tag "b" [.text "x"]] ∧
      parse 100 "<a b>x</a>" = .error (.tagHasAttributes "<a b>x</a>" "a b" 6) := by
  decide +kernel

end MessageMarkup
