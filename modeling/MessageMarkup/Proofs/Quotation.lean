import MessageMarkup.Proofs.Blame
import MessageMarkup.Proofs.Demand
import MessageMarkup.Proofs.Parsed
import MessageMarkup.Proofs.Problems

/-!
# What failures quote

The header of a failure quotes labels, names, types of functions and keys as they are, and the block
of its diagnostic a locale. Whatever call fails, each of them consists of characters of one text that
the call was given.

## Main definitions

- `Failure.words` — what the header of a failure quotes as it is
- `Failure.DrawsOn` — all that a failure quotes comes from some texts
- `Call`, `Call.FailsWith` — calls of the library, and what they fail for
- `Call.Given` — the texts that a call is given

## Main statements

- `drawsOn_of_parse` — what is quoted of a message that cannot be read
- `Formatter.drawsOn_of_format` — what is quoted of one that cannot be formatted
- `Call.drawsOn_given` — what is quoted comes from the texts of the call
-/

namespace MessageMarkup

open Outcome
open Plural (LocaleData)

namespace Failure

/-- The texts from outside that the header of a failure quotes as they are. -/
def words : Failure → List String
  | tagHasAttributes _ label _ => [label]
  | valueNotProvided name => [name]
  | valueNotText name typeName => [name, typeName]
  | pluralFormNotFound key _ _ _ | messageNotFound key => [key]
  | unbalancedTags _ _ | nestingTooDeep _ | invalidPluralForms _ _ _ _ => []

/-- All that a failure quotes as it is consists of characters of one of some texts. -/
def DrawsOn (failure : Failure) (given : String → Prop) : Prop :=
  ∀ word ∈ failure.words ++ failure.diagnostic.locale.toList,
    ∃ text, given text ∧ word.toList ⊆ text.toList

theorem DrawsOn.mono {failure : Failure} {given others : String → Prop}
    (h : failure.DrawsOn given)
    (hothers : ∀ text, given text → ∃ other, others other ∧ text.toList ⊆ other.toList) :
    failure.DrawsOn others := by
  intro word hword
  obtain ⟨text, htext, hsubset⟩ := h word hword
  obtain ⟨other, hother, hsubset'⟩ := hothers text htext
  exact ⟨other, hother, List.Subset.trans hsubset hsubset'⟩

theorem DrawsOn.weaken {failure : Failure} {given others : String → Prop}
    (h : failure.DrawsOn given) (hothers : ∀ text, given text → others text) :
    failure.DrawsOn others :=
  h.mono fun text htext => ⟨text, hothers text htext, List.Subset.refl _⟩

end Failure

namespace Token

theorem source_subset_of_mem_lex {cs : List Char} {t : Token} (h : t ∈ lex cs) : t.source ⊆ cs := by
  intro c hc
  rw [← flatMap_source_lex cs]
  exact List.mem_flatMap.2 ⟨t, h, hc⟩

/-- The names of markup in a message consist of characters of the message. -/
theorem name_subset_of_mem_markup {cs : List Char} {kind : Node.Kind} {name : String}
    (h : (kind, name) ∈ markup cs) : name.toList ⊆ cs := by
  obtain ⟨t, ht, hname⟩ := List.mem_filterMap.1 h
  refine List.Subset.trans ?_ (source_subset_of_mem_lex ht)
  intro c hc
  cases t with
  | literal _ | percent | closing _ => cases hname
  | placeholder label =>
    cases hname
    rw [String.toList_ofList] at hc
    simp [source, hc]
  | opening label | void label =>
    cases hname
    simp [source, mem_of_mem_trim hc]

/-- A tag that is open after some tokens was open before, or is opened by one of them. -/
theorem mem_of_foldlM_openAfter {ts : List Token} {labels labels' : List (List Char)}
    (h : ts.foldlM openAfter labels = some labels') {label : List Char} (hlabel : label ∈ labels') :
    label ∈ labels ∨ opening label ∈ ts := by
  induction ts generalizing labels with
  | nil =>
    cases h
    exact .inl hlabel
  | cons t ts ih =>
    rw [List.foldlM_cons] at h
    obtain ⟨labels₁, hafter, h⟩ := Option.bind_eq_some_iff.1 h
    obtain hlabel₁ | hlabel₁ := ih h
    · cases t with
      | literal _ | percent | placeholder _ | void _ =>
        cases hafter
        exact .inl hlabel₁
      | opening other =>
        cases hafter
        obtain rfl | hlabel₁ := List.mem_cons.1 hlabel₁
        · exact .inr List.mem_cons_self
        · exact .inl hlabel₁
      | closing other =>
        cases labels with
        | nil => cases hafter
        | cons innermost outer =>
          rw [openAfter, Option.ite_none_right_eq_some] at hafter
          cases hafter.2
          exact .inl (List.mem_cons_of_mem _ hlabel₁)
    · exact .inr (List.mem_cons_of_mem _ hlabel₁)

end Token

/-- Whatever a message that cannot be read fails for, the failure quotes the message only. -/
theorem drawsOn_of_parse {limit : Int} {source : String} {failure : Failure}
    (h : parse limit source = .error failure) : failure.DrawsOn (· = source) := by
  intro word hword
  refine ⟨source, rfl, ?_⟩
  cases blames_iff.2 h with
  | leftOpen => cases hword
  | @token front back t labels _ hlex hleaves hoffends =>
    cases hoffends with
    | tooDeep _ | unopened | mismatch _ _ => cases hword
    | @attributes innermost label outer _ _ =>
      obtain rfl := List.mem_singleton.1 hword
      obtain hnil | hopening := Token.mem_of_foldlM_openAfter hleaves.1 List.mem_cons_self
      · cases hnil
      · have hmem : Token.opening innermost ∈ Token.lex source.toList := by simp [hlex, hopening]
        intro c hc
        refine Token.source_subset_of_mem_lex hmem ?_
        rw [String.toList_ofList] at hc
        simp [Token.source, hc]

namespace Plural

theorem subset_of_mem_splitForms {afterBackslash : Bool} {cs form : List Char}
    (h : form ∈ splitForms afterBackslash cs) : form ⊆ cs := by
  induction cs generalizing afterBackslash form with
  | nil =>
    obtain rfl := List.mem_singleton.1 h
    exact List.Subset.refl _
  | cons c cs ih =>
    by_cases hc : c = Mark.delimiter ∧ afterBackslash = false
    · rw [splitForms, if_pos hc] at h
      obtain rfl | h := List.mem_cons.1 h
      · exact List.nil_subset _
      · exact List.subset_cons_of_subset _ (ih h)
    · rw [splitForms_cons hc] at h
      obtain ⟨first, rest, hsplit⟩ := List.exists_cons_of_ne_nil (splitForms_ne_nil (c = Mark.escape) cs)
      have hrest : ∀ piece ∈ first :: rest, piece ⊆ cs := fun piece hpiece => ih (hsplit ▸ hpiece)
      rw [hsplit, List.modifyHead_cons] at h
      obtain rfl | h := List.mem_cons.1 h
      · exact List.cons_subset_cons _ (hrest first List.mem_cons_self)
      · exact List.subset_cons_of_subset _ (hrest form (List.mem_cons_of_mem _ h))

theorem subset_of_mem_forms {message form : String} (h : form ∈ forms message) :
    form.toList ⊆ message.toList := by
  obtain ⟨piece, hpiece, rfl⟩ := List.mem_map.1 h
  intro c hc
  rw [String.toList_ofList] at hc
  exact subset_of_mem_splitForms hpiece (Text.trimBlanks_subset _ (mem_of_mem_unescapeChars hc))

end Plural

namespace Formatter

/-- Some name comes to a function of this type. -/
def HasFunction (f : Formatter) (values : Table Value) (typeName : String) : Prop :=
  ∃ name renderer, (f.effective values).get? name = some (.function renderer) ∧
    renderer.typeName = typeName

/-- What a message that cannot be formatted fails for quotes the message, or the type of a function. -/
theorem drawsOn_of_format {f : Formatter} {source : String} {values : Table Value}
    {failure : Failure} (h : f.format source values = .error failure) :
    failure.DrawsOn fun text => text = source ∨ f.HasFunction values text := by
  cases hparse : parse f.limit source with
  | error e =>
    rw [format, hparse] at h
    obtain rfl := Except.error.inj h
    exact (drawsOn_of_parse hparse).weaken fun _ => .inl
  | ok nodes =>
    rw [← failure?_eq_some, failure?_format hparse] at h
    obtain ⟨⟨kind, name⟩, hlookup, hmissing⟩ := List.exists_of_findSome?_eq_some h
    have hname : name.toList ⊆ source.toList := by
      rw [Node.mem_lookups, signatures_of_parse hparse] at hlookup
      exact Token.name_subset_of_mem_markup hlookup
    intro word hword
    simp only [missing?] at hmissing
    split at hmissing
    · cases hmissing
      obtain rfl := List.mem_singleton.1 hword
      exact ⟨source, .inl rfl, hname⟩
    · cases hmissing
    · next renderer hrenderer =>
      rw [Option.ite_none_left_eq_some] at hmissing
      cases hmissing.2
      obtain rfl | rfl := List.mem_pair.1 hword
      · exact ⟨source, .inl rfl, hname⟩
      · exact ⟨_, .inr ⟨name, renderer, hrenderer, rfl⟩, List.Subset.refl _⟩

end Formatter

namespace Provider

/-- The text is the message of a key or the locale that the message belongs to. -/
def Finds (p : Provider) (key text : String) : Prop :=
  ∃ message locale, p.find key = .ok (message, locale) ∧ text ∈ [message, locale]

/-- A message that is not found is reported by its key. -/
theorem drawsOn_of_find {p : Provider} {key : String} {failure : Failure}
    (h : p.find key = .error failure) : failure.DrawsOn (· = key) := by
  simp only [find] at h
  split at h
  · cases h
  · split at h
    · cases h
    · cases h
      intro word hword
      obtain rfl := List.mem_singleton.1 hword
      exact ⟨word, rfl, List.Subset.refl _⟩

end Provider

namespace Translator

variable {t : Translator} {p : Provider} {key : String} {params : Table Value} {failure : Failure}

theorem drawsOn_of_message (h : t.message p key params = .error failure) :
    failure.DrawsOn fun text => text = key ∨ p.Finds key text ∨
      t.formatter.HasFunction (t.values.override params) text := by
  obtain hnone | ⟨message, locale, hfind, h⟩ := message_eq_error h
  · exact (Provider.drawsOn_of_find hnone).weaken fun _ => .inl
  · refine (Formatter.drawsOn_of_format h).mono ?_
    rintro text (rfl | htext)
    · refine ⟨message, .inr (.inl ⟨message, locale, hfind, by simp⟩), fun c hc => ?_⟩
      rw [Plural.unescape, String.toList_ofList] at hc
      exact Plural.mem_of_mem_unescapeChars hc
    · exact ⟨text, .inr (.inr htext), List.Subset.refl _⟩

theorem drawsOn_of_plural {quantity : Quantity} {data : LocaleData}
    (h : t.plural p key quantity params data = .error (.message failure)) :
    failure.DrawsOn fun text => text = key ∨ p.Finds key text ∨
      t.formatter.HasFunction (t.pluralValues quantity.toValue params) text := by
  obtain hnone | ⟨message, locale, hfind, ⟨index, rfl⟩ | ⟨form, hform, h⟩⟩ := plural_eq_error h
  · exact (Provider.drawsOn_of_find hnone).weaken fun _ => .inl
  · intro word hword
    obtain rfl | rfl := List.mem_pair.1 hword
    · exact ⟨word, .inl rfl, List.Subset.refl _⟩
    · exact ⟨word, .inr (.inl ⟨message, word, hfind, by simp⟩), List.Subset.refl _⟩
  · refine (Formatter.drawsOn_of_format h).mono ?_
    rintro text (rfl | htext)
    · exact ⟨message, .inr (.inl ⟨message, locale, hfind, by simp⟩),
        Plural.subset_of_mem_forms hform⟩
    · exact ⟨text, .inr (.inr htext), List.Subset.refl _⟩

end Translator

/-- What validation fails for quotes one of the two messages, or the locale. -/
theorem Translation.drawsOn_of_isValid {limit : Int} {base translated locale : String}
    {data : LocaleData} {failure : Failure}
    (h : isValid limit base translated locale data = .error failure) :
    failure.DrawsOn (· ∈ [base, translated, locale]) := by
  obtain ⟨form, hform, hparse⟩ | rfl := exists_parse_of_isValid_eq_error h
  · refine (drawsOn_of_parse hparse).mono ?_
    rintro _ rfl
    simp only [List.mem_cons, List.mem_append] at hform
    obtain rfl | rfl | hform | hform := hform
    · exact ⟨_, by simp, List.Subset.refl _⟩
    · exact ⟨_, by simp, List.Subset.refl _⟩
    · exact ⟨base, by simp, Plural.subset_of_mem_forms hform⟩
    · exact ⟨translated, by simp, Plural.subset_of_mem_forms hform⟩
  · intro word hword
    obtain rfl := List.mem_singleton.1 hword
    exact ⟨word, by simp, List.Subset.refl _⟩

/-- A call that may fail. -/
inductive Call where
  | parse (limit : Int) (source : String)
  | format (formatter : Formatter) (source : String) (values : Table Value)
  | message (translator : Translator) (provider : Provider) (key : String) (params : Table Value)
  | plural (translator : Translator) (provider : Provider) (key : String) (quantity : Quantity)
      (params : Table Value)
  | validate (limit : Int) (base translated locale : String)

namespace Call

/-- What a call fails for, with what locale data knows. -/
def FailsWith (data : LocaleData) : Call → Failure → Prop
  | parse limit source, failure => MessageMarkup.parse limit source = .error failure
  | format f source values, failure => f.format source values = .error failure
  | message t p key params, failure => t.message p key params = .error failure
  | plural t p key quantity params, failure =>
    t.plural p key quantity params data = .error (.message failure)
  | validate limit base translated locale, failure =>
    Translation.isValid limit base translated locale data = .error failure

/-- The texts that a call is given: what it finds under its key is among them, and so are the types of
    functions that are given as values. -/
def Given : Call → String → Prop
  | parse _ source, text => text = source
  | format f source values, text => text = source ∨ f.HasFunction values text
  | message t p key params, text =>
    text = key ∨ p.Finds key text ∨ t.formatter.HasFunction (t.values.override params) text
  | plural t p key quantity params, text =>
    text = key ∨ p.Finds key text ∨
      t.formatter.HasFunction (t.pluralValues quantity.toValue params) text
  | validate _ base translated locale, text => text ∈ [base, translated, locale]

/-- All that a failure quotes as it is consists of characters of one text that the call was given. -/
theorem drawsOn_given {data : LocaleData} {call : Call} {failure : Failure}
    (h : call.FailsWith data failure) :
    failure.DrawsOn call.Given := by
  cases call with
  | parse limit source => exact drawsOn_of_parse h
  | format f source values => exact Formatter.drawsOn_of_format h
  | message t p key params => exact Translator.drawsOn_of_message h
  | plural t p key quantity params => exact Translator.drawsOn_of_plural h
  | validate limit base translated locale => exact Translation.drawsOn_of_isValid h

end Call

end MessageMarkup
