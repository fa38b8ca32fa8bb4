import MessageMarkup.Proofs.Introspection
import MessageMarkup.Proofs.Markup
import MessageMarkup.Proofs.PluralForms
import MessageMarkup.Translator

/-!
# Names that a translator asks for

Introspection tells the names in a message beforehand, a translator asks for them when it formats
one. Both free the forms of a plural message from escapes before they read them. A message that is
not plural is read by introspection as it is written, but is freed of escapes by a translator.

## Main statements

- `Names.mem_all_ofForms` — the names that introspection finds are those of the markup it reads
- `Formatter.exists_markup_of_misses` — a missing value is that of some markup
- `Translator.message_eq_error`, `Translator.plural_eq_error` — what a translator fails for
- `Translator.missed_name_mem` — a name that a translator misses is one that introspection has found,
  or what becomes of one without escapes
-/

namespace MessageMarkup

open Node Outcome
open Plural (LocaleData)

theorem Failure.Misses.unique {failure : Failure} {name other : String} (h : failure.Misses name)
    (hother : failure.Misses other) : name = other := by
  have hfacts := h.2.symm.trans hother.2
  simpa using hfacts

/-- What keeps a message from being read is no missing value. -/
theorem not_misses_of_parse {limit : Int} {source : String} {failure : Failure}
    (h : parse limit source = .error failure) (name : String) : ¬ failure.Misses name := by
  obtain ⟨fault, _, rfl⟩ := parse_eq_error_iff_run.1 h
  rintro ⟨hcategory, _⟩
  cases fault <;> cases hcategory

/-- The name of a missing value is that of some markup in the message. -/
theorem Formatter.exists_markup_of_misses {f : Formatter} {source name : String}
    {values : Table Value} {failure : Failure} (h : f.format source values = .error failure)
    (hmisses : failure.Misses name) : ∃ kind, (kind, name) ∈ Token.markup source.toList := by
  cases hparse : parse f.limit source with
  | error e =>
    rw [format, hparse] at h
    obtain rfl := Except.error.inj h
    exact absurd hmisses (not_misses_of_parse hparse name)
  | ok nodes =>
    rw [← failure?_eq_some, failure?_format hparse] at h
    obtain ⟨s, hs, hmissing⟩ := List.exists_of_findSome?_eq_some h
    obtain rfl := (misses_of_missing? hmissing).unique hmisses
    refine ⟨s.1, ?_⟩
    rw [← signatures_of_parse hparse, ← mem_lookups]
    exact hs

namespace Names

theorem mem_all_append {a b : Names} {name : String} :
    name ∈ (a ++ b).all ↔ name ∈ a.all ∨ name ∈ b.all := by
  have happend : a ++ b =
      ⟨a.placeholders ++ b.placeholders, a.tags ++ b.tags, a.voidTags ++ b.voidTags⟩ := rfl
  simp only [happend, all, List.mem_append]
  tauto

/-- The names in messages that can be read are those of the markup in them. -/
theorem mem_all_ofForms {limit : Int} {forms : List String} {names : Names}
    (h : ofForms limit forms = .ok names) {name : String} :
    name ∈ names.all ↔ ∃ form ∈ forms, ∃ kind, (kind, name) ∈ Token.markup form.toList := by
  induction forms generalizing names with
  | nil =>
    obtain rfl := Except.ok.inj h
    simp [all, empty]
  | cons form forms ih =>
    simp only [ofForms, bind_eq_ok] at h
    obtain ⟨nodes, hparse, first, hfirst, rest, hrest, h⟩ := h
    obtain rfl := Except.ok.inj h
    rw [ofNodes, collect_eq_ok (DepthGuard.admits_of_parse hparse)] at hfirst
    obtain rfl := Except.ok.inj hfirst
    rw [mem_all_append, mem_all_ofSignatures, signatures_of_parse hparse, ih hrest]
    simp

/-- The names in a plural message are those of the markup in its forms. -/
theorem mem_all_ofMessage_of_isPlural {limit : Int} {message : String} {names : Names}
    (h : ofMessage limit message = .ok names) (hplural : Plural.isPlural message = true)
    {name : String} :
    name ∈ names.all ↔
      ∃ form ∈ Plural.forms message, ∃ kind, (kind, name) ∈ Token.markup form.toList := by
  rw [ofMessage, if_pos hplural] at h
  exact mem_all_ofForms h

/-- The names in any other message are those of the markup in it. -/
theorem mem_all_ofMessage_of_not_isPlural {limit : Int} {message : String} {names : Names}
    (h : ofMessage limit message = .ok names) (hplural : Plural.isPlural message = false)
    {name : String} :
    name ∈ names.all ↔ ∃ kind, (kind, name) ∈ Token.markup message.toList := by
  rw [ofMessage, if_neg (by simp [hplural])] at h
  rw [mem_all_ofForms h]
  simp

end Names

/-- The only form of a message that is not plural has the markup of the message freed of escapes,
    though it is trimmed as well. -/
theorem Token.markup_of_mem_forms {message form : String} (hplural : Plural.isPlural message = false)
    (h : form ∈ Plural.forms message) :
    markup form.toList = markup (Plural.unescape message).toList := by
  rw [Plural.forms_of_isPlural_eq_false hplural, List.mem_singleton] at h
  subst h
  simp only [Plural.unescape, String.toList_ofList, Text.toList_trim, markup_unescapeChars,
    markup_trimBlanks]

namespace Translator

variable {t : Translator} {p : Provider} {key message locale name : String} {params : Table Value}
  {data : LocaleData} {failure : Failure}

/-- A translator fails for a key that it does not find, or where it formats the message of the key. -/
theorem message_eq_error (h : t.message p key params = .error failure) :
    p.find key = .error failure ∨
      ∃ message locale, p.find key = .ok (message, locale) ∧
        t.formatter.format (Plural.unescape message) (t.values.override params) =
          .error failure := by
  simp only [Translator.message, bind_eq_error] at h
  obtain h | ⟨⟨message, locale⟩, hfind, h | ⟨_, _, h⟩⟩ := h
  · exact .inl h
  · exact .inr ⟨message, locale, hfind, h⟩
  · cases h

/-- Of a plural message the form for the quantity may be missing as well. -/
theorem plural_eq_error {quantity : Quantity}
    (h : t.plural p key quantity params data = .error (.message failure)) :
    p.find key = .error failure ∨
      ∃ message locale, p.find key = .ok (message, locale) ∧
        ((∃ index,
            failure = .pluralFormNotFound key index (Plural.forms message).length locale) ∨
          ∃ form ∈ Plural.forms message,
            t.formatter.format form (t.pluralValues quantity.toValue params) =
              .error failure) := by
  simp only [Translator.plural] at h
  split at h
  · next hfind =>
    cases h
    exact .inl hfind
  · next message locale hfind =>
    refine .inr ⟨message, locale, hfind, ?_⟩
    split at h
    · cases h
    · split at h
      · cases h
      · next hform =>
        cases h
        simp only [pluralForm, bind_eq_error] at hform
        obtain hmissing | ⟨form, hok, hform | ⟨_, _, hform⟩⟩ := hform
        · exact .inl ⟨_, (Plural.Rule.form_eq_error.1 hmissing).2⟩
        · exact .inr ⟨form, List.mem_of_getElem? (Plural.Rule.form_eq_ok.1 hok), hform⟩
        · cases hform

theorem exists_markup_of_message (hfind : p.find key = .ok (message, locale))
    (h : t.message p key params = .error failure) (hmisses : failure.Misses name) :
    ∃ kind, (kind, name) ∈ Token.markup (Plural.unescape message).toList := by
  obtain hnone | ⟨message', locale', hfind', h⟩ := message_eq_error h
  · rw [hfind] at hnone
    cases hnone
  · rw [hfind] at hfind'
    cases hfind'
    exact Formatter.exists_markup_of_misses h hmisses

theorem exists_markup_of_plural (hfind : p.find key = .ok (message, locale)) {quantity : Quantity}
    (h : t.plural p key quantity params data = .error (.message failure))
    (hmisses : failure.Misses name) :
    ∃ form ∈ Plural.forms message, ∃ kind, (kind, name) ∈ Token.markup form.toList := by
  obtain hnone | ⟨message', locale', hfind', h⟩ := plural_eq_error h
  · rw [hfind] at hnone
    cases hnone
  · rw [hfind] at hfind'
    cases hfind'
    obtain ⟨index, rfl⟩ | ⟨form, hform, h⟩ := h
    · -- Without a form for the quantity it is the form that is missing, not a value.
      cases hmisses.1
    · exact ⟨form, hform, Formatter.exists_markup_of_misses h hmisses⟩

/-- Whatever locale data knows, a name whose value a translator misses is one that introspection
    finds in a plural message, or in one without escapes. In any other message introspection finds a
    name that becomes the missing one when it is freed of escapes. -/
theorem missed_name_mem (hfind : p.find key = .ok (message, locale)) {limit : Int} {names : Names}
    (hnames : Names.ofMessage limit message = .ok names) (hmisses : failure.Misses name)
    (hfails : (∃ quantity, t.plural p key quantity params data = .error (.message failure)) ∨
      Plural.isPlural message = false ∧ t.message p key params = .error failure) :
    (Plural.isPlural message = true ∨ Plural.unescape message = message → name ∈ names.all) ∧
      (Plural.isPlural message = false → ∃ asked ∈ names.all, name = Plural.unescape asked) := by
  by_cases hplural : Plural.isPlural message = true
  · refine ⟨fun _ => ?_, fun h => absurd hplural (by simp [h])⟩
    obtain ⟨quantity, h⟩ | ⟨h, _⟩ := hfails
    · exact (Names.mem_all_ofMessage_of_isPlural hnames hplural).2
        (exists_markup_of_plural hfind h hmisses)
    · exact absurd hplural (by simp [h])
  · rw [Bool.not_eq_true] at hplural
    have hmarkup : ∃ kind, (kind, name) ∈ Token.markup (Plural.unescape message).toList := by
      obtain ⟨quantity, h⟩ | ⟨_, h⟩ := hfails
      · obtain ⟨form, hform, hmem⟩ := exists_markup_of_plural hfind h hmisses
        rwa [Token.markup_of_mem_forms hplural hform] at hmem
      · exact exists_markup_of_message hfind h hmisses
    constructor
    · rintro (h | h)
      · simp [hplural] at h
      · rw [h] at hmarkup
        exact (Names.mem_all_ofMessage_of_not_isPlural hnames hplural).2 hmarkup
    · rintro -
      obtain ⟨kind, hmem⟩ := hmarkup
      rw [Plural.unescape, String.toList_ofList, Token.markup_unescapeChars, List.mem_map] at hmem
      obtain ⟨⟨_, asked⟩, hasked, heq⟩ := hmem
      refine ⟨asked, ?_, (Prod.ext_iff.1 heq).2.symm⟩
      exact (Names.mem_all_ofMessage_of_not_isPlural hnames hplural).2 ⟨_, hasked⟩

/-- A name with a pipe in the second form of a plural message. -/
theorem missed_name_mem_plural :
    let t : Translator := ⟨.standard, .empty, .concat⟩
    let p : Provider := ⟨⟨"en", .ofList [("key", some "none|%a\\|b%")]⟩, ⟨"en", .empty⟩⟩
    t.plural p "key" (.integer 1) .empty Plural.Standard.data =
        .error (.message (.valueNotProvided "a|b")) ∧
      ∃ names, Names.ofMessage 50 "none|%a\\|b%" = .ok names ∧ "a|b" ∈ names.all := by
  intro t p
  have hfind : p.find "key" = .ok ("none|%a\\|b%", "en") := by decide +kernel
  have hnames : Names.ofMessage 50 "none|%a\\|b%" = .ok ⟨["a|b"], [], []⟩ := by decide +kernel
  have hfails : t.plural p "key" (.integer 1) .empty Plural.Standard.data =
      .error (.message (.valueNotProvided "a|b")) := by
    rw [← failure?_eq_some]
    decide +kernel
  refine ⟨hfails, _, hnames, ?_⟩
  exact (missed_name_mem hfind hnames ⟨rfl, rfl⟩ (.inl ⟨_, hfails⟩)).1 (.inl (by decide +kernel))

/-- The same name in a message that is not plural. Introspection finds it with the backslash, and
    tells nothing of the name that the translator then misses. -/
theorem message_misses_unlisted_name :
    let t : Translator := ⟨.standard, .empty, .concat⟩
    let p : Provider := ⟨⟨"en", .ofList [("key", some "%a\\|b%")]⟩, ⟨"en", .empty⟩⟩
    p.find "key" = .ok ("%a\\|b%", "en") ∧ Plural.isPlural "%a\\|b%" = false ∧
      ∃ names failure, Names.ofMessage 50 "%a\\|b%" = .ok names ∧
        t.message p "key" .empty = .error failure ∧ failure.Misses "a|b" ∧ "a|b" ∉ names.all := by
  intro t p
  have hfails : t.message p "key" .empty = .error (.valueNotProvided "a|b") := by
    rw [← failure?_eq_some]
    decide +kernel
  refine ⟨by decide +kernel, by decide +kernel, ⟨["a\\|b"], [], []⟩, _, by decide +kernel, hfails,
    ⟨rfl, rfl⟩, by decide⟩

end Translator

end MessageMarkup
