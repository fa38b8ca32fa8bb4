import MessageMarkup.Proofs.Unescape

/-!
# Reading with and without escapes

Freed of escapes, a message is read as the same nodes with their texts and names freed of them. It
can also be read only if the message can, unless the escapes were all that told the label of an
open tag from that of a close tag.

## Main definitions

- `Token.LabelsStayApart` — no open tag comes to bear the label of a close tag by the loss of
  escapes

## Main statements

- `Token.exists_append_of_unescapeAll` — a cut between tokens freed of escapes is one between tokens
- `Token.Spells.of_unescapeAll` — tokens spell something if, freed of escapes, they do
- `parse_unescape_commutes` — reading commutes with the removal of escapes
-/

namespace MessageMarkup

open Node

namespace Token

open Plural

/-- Open and close tags with different labels have different labels also when freed of escapes. -/
def LabelsStayApart (ts : List Token) : Prop :=
  ∀ label label', opening label ∈ ts → closing label' ∈ ts →
    unescapeChars label = unescapeChars label' → label = label'

theorem LabelsStayApart.mono {ts us : List Token} (h : LabelsStayApart ts) (hsub : us ⊆ ts) :
    LabelsStayApart us :=
  fun label label' hopen hclose => h label label' (hsub hopen) (hsub hclose)

/-- Where tokens freed of escapes are cut in two, the tokens can be cut at the same place, unless
    the second part begins with a pipe, which may have lost its backslash. -/
theorem exists_append_of_unescapeAll {ts left right : List Token}
    (h : unescapeAll ts = left ++ right) (hright : right.head? ≠ some (literal '|')) :
    ∃ left' right', ts = left' ++ right' ∧ unescapeAll left' = left ∧
      unescapeAll right' = right := by
  induction ts using unescapeAll.induct generalizing left with
  | case1 =>
    obtain ⟨rfl, rfl⟩ := List.append_eq_nil_iff.1 h.symm
    exact ⟨[], [], rfl, rfl, rfl⟩
  | case2 t =>
    cases left with
    | nil => exact ⟨[], [t], rfl, rfl, h⟩
    | cons u left =>
      obtain ⟨rfl, hnil⟩ := List.cons_eq_cons.1 h
      obtain ⟨rfl, rfl⟩ := List.append_eq_nil_iff.1 hnil.symm
      exact ⟨[t], [], rfl, rfl, rfl⟩
  | case3 t u ts hpair ih =>
    obtain ⟨rfl, rfl⟩ := hpair
    rw [unescapeAll_pair] at h
    cases left with
    | nil =>
      -- The second part would begin with the pipe.
      rw [List.nil_append] at h
      exact absurd (congrArg List.head? h).symm hright
    | cons v left =>
      obtain ⟨rfl, htail⟩ := List.cons_eq_cons.1 h
      obtain ⟨left', right', rfl, rfl, rfl⟩ := ih htail
      exact ⟨_ :: _ :: left', right', rfl, unescapeAll_pair left', rfl⟩
  | case4 t u ts hpair ih =>
    rw [not_and_or] at hpair
    have hcons : unescapeAll (t :: u :: ts) = t.unescape :: unescapeAll (u :: ts) :=
      unescapeAll_cons (by simpa using hpair)
    cases left with
    | nil => exact ⟨[], _, rfl, rfl, h⟩
    | cons v left =>
      rw [hcons] at h
      obtain ⟨rfl, htail⟩ := List.cons_eq_cons.1 h
      obtain ⟨left', right', hts, rfl, rfl⟩ := ih htail
      refine ⟨t :: left', right', by rw [hts]; rfl, unescapeAll_cons ?_, rfl⟩
      cases left' with
      | nil => simp
      | cons w left' =>
        obtain ⟨rfl, -⟩ := List.cons_eq_cons.1 hts
        simpa using hpair

/-- Markup among tokens freed of escapes comes from markup. -/
theorem exists_cons_of_unescapeAll {ts rest : List Token} {u : Token} (hu : u.isText = false)
    (h : unescapeAll ts = u :: rest) :
    ∃ t ts', ts = t :: ts' ∧ t.unescape = u ∧ unescapeAll ts' = rest := by
  have hhead : ∀ t ∈ ts.head?, t.isText = false := by
    rw [← isText_head?_unescapeAll, h]
    simpa using hu
  cases ts with
  | nil => cases h
  | cons t ts =>
    rw [unescapeAll_cons_of_isText (hhead t rfl)] at h
    obtain ⟨rfl, rfl⟩ := List.cons_eq_cons.1 h
    exact ⟨t, ts, rfl, rfl, rfl⟩

/-- Tokens spell something if, freed of escapes, they do, and labels stay apart. -/
theorem Spells.of_unescapeAll {ts : List Token} {others : List Node}
    (h : Spells (Token.unescapeAll ts) others) (hlabels : LabelsStayApart ts) :
    ∃ nodes, Spells ts nodes := by
  -- Every piece that is spelled is pulled back to the tokens that it comes from.
  generalize hus : Token.unescapeAll ts = us at h
  induction h generalizing ts with
  | nil =>
    rw [unescapeAll_eq_nil.1 hus]
    exact ⟨[], .nil⟩
  | @text run rest nodes hne hrun hrest _ ih =>
    obtain ⟨run', rest', rfl, rfl, rfl⟩ :=
      exists_append_of_unescapeAll hus (head?_ne_literal hrest _)
    obtain ⟨nodes', h'⟩ := ih (hlabels.mono (by simp)) rfl
    exact ⟨_, .text (mt unescapeAll_eq_nil.2 hne) (forall_isText_unescapeAll.1 hrun)
      (isText_head?_unescapeAll.1 hrest) h'⟩
  | placeholder _ ih =>
    obtain ⟨t, rest', rfl, ht, rfl⟩ := exists_cons_of_unescapeAll rfl hus
    obtain ⟨nodes', h'⟩ := ih (hlabels.mono (by simp)) rfl
    cases t with
    | placeholder name => exact ⟨_, .placeholder h'⟩
    | literal _ | percent | opening _ | closing _ | void _ => cases ht
  | void _ ih =>
    obtain ⟨t, rest', rfl, ht, rfl⟩ := exists_cons_of_unescapeAll rfl hus
    obtain ⟨nodes', h'⟩ := ih (hlabels.mono (by simp)) rfl
    cases t with
    | void label => exact ⟨_, .void h'⟩
    | literal _ | percent | opening _ | closing _ | placeholder _ => cases ht
  | tag _ _ ihInner ihRest =>
    obtain ⟨t, ts', rfl, ht, hts'⟩ := exists_cons_of_unescapeAll rfl hus
    obtain ⟨inner', tail', rfl, rfl, htail⟩ := exists_append_of_unescapeAll hts' (by simp)
    obtain ⟨t', rest', rfl, ht', rfl⟩ := exists_cons_of_unescapeAll rfl htail
    obtain ⟨children', hinner⟩ := ihInner (hlabels.mono fun _ h => by simp [h]) rfl
    obtain ⟨nodes', hrest⟩ := ihRest (hlabels.mono fun _ h => by simp [h]) rfl
    cases t with
    | opening label =>
      cases t' with
      | closing label' =>
        -- Both tags bear the label of the derivation when freed of escapes, so they bear one label.
        obtain rfl := opening.inj ht
        obtain rfl := hlabels label label' (by simp) (by simp) (closing.inj ht').symm
        exact ⟨_, .tag hinner hrest⟩
      | literal _ | percent | placeholder _ | opening _ | void _ => cases ht'
    | literal _ | percent | placeholder _ | closing _ | void _ => cases ht

end Token

/-- A message that can be read can also be read freed of escapes, and then its texts and names are
    freed of them. No other message becomes readable by that if the labels of its open and close
    tags stay apart. -/
theorem parse_unescape_commutes (limit : Int) (source : String) :
    (∀ nodes, parse limit source = .ok nodes →
      parse limit (Plural.unescape source) = .ok (rewordAll Plural.unescape nodes)) ∧
    (Token.LabelsStayApart (Token.lex source.toList) →
      ∀ others, parse limit (Plural.unescape source) = .ok others →
        ∃ nodes, parse limit source = .ok nodes ∧ rewordAll Plural.unescape nodes = others) := by
  refine ⟨fun nodes h => parse_unescape h, fun hlabels others h => ?_⟩
  obtain ⟨hspells, hdepth⟩ := parse_eq_ok_iff.1 h
  rw [Plural.unescape, String.toList_ofList, Token.lex_unescapeChars] at hspells
  obtain ⟨nodes, hnodes⟩ := hspells.of_unescapeAll hlabels
  -- Both are as deep as there are tags open at once, so the limit allows these nodes too.
  have hsame : depthOf nodes = depthOf others := by
    rw [← depthOf_rewordAll Plural.unescape, ← Token.mostOpen_of_spells hnodes.unescapeAll,
      Token.mostOpen_of_spells hspells]
  have hparse := parse_eq_ok_iff.2 ⟨hnodes, hsame ▸ hdepth⟩
  exact ⟨nodes, hparse, by simpa [parse_unescape hparse] using h⟩

/-- A pipe in a text, in a name, and in the label of a tag that is closed under the same label. -/
theorem parse_unescape_commutes_label :
    let source := "<a\\|b>x\\|%n\\|m%</a\\|b>"
    let nodes : List Node := [.tag "a\\|b" [.text "x\\|", .placeholder "n\\|m"]]
    let others : List Node := [.tag "a|b" [.text "x|", .placeholder "n|m"]]
    parse 100 source = .ok nodes ∧ parse 100 (Plural.unescape source) = .ok others ∧
      Token.LabelsStayApart (Token.lex source.toList) ∧
        ∃ nodes', parse 100 source = .ok nodes' ∧ rewordAll Plural.unescape nodes' = others := by
  intro source nodes others
  have hparse : parse 100 source = .ok nodes := by decide +kernel
  have hothers : rewordAll Plural.unescape nodes = others := by decide +kernel
  have hlabels : Token.LabelsStayApart (Token.lex source.toList) := by
    intro label label' hopen hclose _
    have hlex : Token.lex source.toList =
        [.opening ['a', '\\', '|', 'b'], .literal 'x', .literal '\\', .literal '|',
          .placeholder ['n', '\\', '|', 'm'], .closing ['a', '\\', '|', 'b']] := by decide +kernel
    rw [hlex] at hopen hclose
    simp_all
  obtain ⟨hcommutes, hconverse⟩ := parse_unescape_commutes 100 source
  have hunescaped := hcommutes nodes hparse
  rw [hothers] at hunescaped
  exact ⟨hparse, hunescaped, hlabels, hconverse hlabels others hunescaped⟩

/-- Labels that differ only by an escape close no tag before it is removed, and do afterwards. -/
example :
    (parse 100 "<a\\|b></a|b>").isOk = false ∧
      parse 100 (Plural.unescape "<a\\|b></a|b>") = .ok [.tag "a|b" []] := by
  decide +kernel

end MessageMarkup
