import MessageMarkup.Plural.Condition
import MessageMarkup.Text.LowerCase

/-!
# Standard plural rules

Plural rules of the Unicode locale data, for some languages outside the built-in families and for
codes with an encoding or a modifier. They are one instance of locale data, to run the library with;
other instances know other languages.

## Main definitions

- `Plural.Standard.entries` — rules with the locale identifiers they hold for
- `Plural.Standard.identifier` — the identifier in a locale code
- `Plural.Standard.rule?` — the rule of a locale code
- `Plural.Standard.data` — the rules as locale data
-/

namespace MessageMarkup.Plural.Standard

/-- A rule and the identifiers of the locales it holds for. -/
structure Entry where
  identifiers : List String
  rule : ConditionRule

def entries : List Entry :=
  [⟨["kk", "dv", "ee", "gsw", "kk_kz", "kk_cyrl_kz", "ky", "ug", "uz"],
     [(.one, [[.within .quantity [(1, 1)]]])]⟩,
   ⟨["ak"],
     [(.one, [[.within .quantity [(0, 1)]]])]⟩,
   ⟨["ast", "en", "ia", "ji", "sc", "und", "yi"],
     [(.one, [[.within .whole [(1, 1)], .within .places [(0, 0)]]])]⟩,
   ⟨["bm", "cmn", "in", "ja", "jw", "lo", "my", "root", "sah", "to", "wo", "yo"], []⟩,
   ⟨["br", "br_fr"],
     [(.one,
        [[.modWithin .quantity 10 [(1, 1)],
          .modOutside .quantity 100 [(11, 11), (71, 71), (91, 91)]]]),
      (.two,
        [[.modWithin .quantity 10 [(2, 2)],
          .modOutside .quantity 100 [(12, 12), (72, 72), (92, 92)]]]),
      (.few,
        [[.modWithin .quantity 10 [(3, 4), (9, 9)],
          .modOutside .quantity 100 [(10, 19), (70, 79), (90, 99)]]]),
      (.many, [[.outside .quantity [(0, 0)], .modWithin .quantity 1000000 [(0, 0)]]])]⟩,
   ⟨["ceb", "tl"],
     [(.one,
        [[.within .places [(0, 0)], .within .whole [(1, 1), (2, 2), (3, 3)]],
         [.within .places [(0, 0)], .modOutside .whole 10 [(4, 4), (6, 6), (9, 9)]],
         [.outside .places [(0, 0)], .modOutside .fraction 10 [(4, 4), (6, 6), (9, 9)]]])]⟩,
   ⟨["cy"],
     [(.zero, [[.within .quantity [(0, 0)]]]),
      (.one, [[.within .quantity [(1, 1)]]]),
      (.two, [[.within .quantity [(2, 2)]]]),
      (.few, [[.within .quantity [(3, 3)]]]),
      (.many, [[.within .quantity [(6, 6)]]])]⟩,
   ⟨["doi", "pcm"],
     [(.one, [[.within .whole [(0, 0)]], [.within .quantity [(1, 1)]]])]⟩,
   ⟨["dsb", "hsb"],
     [(.one,
        [[.within .places [(0, 0)], .modWithin .whole 100 [(1, 1)]],
         [.modWithin .fraction 100 [(1, 1)]]]),
      (.two,
        [[.within .places [(0, 0)], .modWithin .whole 100 [(2, 2)]],
         [.modWithin .fraction 100 [(2, 2)]]]),
      (.few,
        [[.within .places [(0, 0)], .modWithin .whole 100 [(3, 4)]],
         [.modWithin .fraction 100 [(3, 4)]]])]⟩,
   ⟨["ff", "kab"],
     [(.one, [[.within .whole [(0, 0), (1, 1)]]])]⟩,
   ⟨["fr"],
     [(.one, [[.within .whole [(0, 0), (1, 1)]]]),
      (.many,
        [[.within .power [(0, 0)],
          .outside .whole [(0, 0)],
          .modWithin .whole 1000000 [(0, 0)],
          .within .places [(0, 0)]],
         [.outside .power [(0, 5)]]])]⟩,
   ⟨["gd", "gd_gb"],
     [(.one, [[.within .quantity [(1, 1), (11, 11)]]]),
      (.two, [[.within .quantity [(2, 2), (12, 12)]]]),
      (.few, [[.within .quantity [(3, 10), (13, 19)]]])]⟩,
   ⟨["gv"],
     [(.one, [[.within .places [(0, 0)], .modWithin .whole 10 [(1, 1)]]]),
      (.two, [[.within .places [(0, 0)], .modWithin .whole 10 [(2, 2)]]]),
      (.few,
        [[.within .places [(0, 0)],
          .modWithin .whole 100 [(0, 0), (20, 20), (40, 40), (60, 60), (80, 80)]]]),
      (.many, [[.outside .places [(0, 0)]]])]⟩,
   ⟨["iu", "naq", "sat", "se", "smn"],
     [(.one, [[.within .quantity [(1, 1)]]]),
      (.two, [[.within .quantity [(2, 2)]]])]⟩,
   ⟨["iw"],
     [(.one,
        [[.within .whole [(1, 1)], .within .places [(0, 0)]],
         [.within .whole [(0, 0)], .outside .places [(0, 0)]]]),
      (.two, [[.within .whole [(2, 2)], .within .places [(0, 0)]]])]⟩,
   ⟨["ksh"],
     [(.zero, [[.within .quantity [(0, 0)]]]),
      (.one, [[.within .quantity [(1, 1)]]])]⟩,
   ⟨["kw"],
     [(.zero, [[.within .quantity [(0, 0)]]]),
      (.one, [[.within .quantity [(1, 1)]]]),
      (.two,
        [[.modWithin .quantity 100 [(2, 2), (22, 22), (42, 42), (62, 62), (82, 82)]],
         [.modWithin .quantity 1000 [(0, 0)],
          .modWithin .quantity 100000
            [(1000, 20000), (40000, 40000), (60000, 60000), (80000, 80000)]],
         [.outside .quantity [(0, 0)], .modWithin .quantity 1000000 [(100000, 100000)]]]),
      (.few, [[.modWithin .quantity 100 [(3, 3), (23, 23), (43, 43), (63, 63), (83, 83)]]]),
      (.many,
        [[.outside .quantity [(1, 1)],
          .modWithin .quantity 100 [(1, 1), (21, 21), (41, 41), (61, 61), (81, 81)]]])]⟩,
   ⟨["lag"],
     [(.zero, [[.within .quantity [(0, 0)]]]),
      (.one, [[.within .whole [(0, 0), (1, 1)], .outside .quantity [(0, 0)]]])]⟩,
   ⟨["mo"],
     [(.one, [[.within .whole [(1, 1)], .within .places [(0, 0)]]]),
      (.few,
        [[.outside .places [(0, 0)]],
         [.within .quantity [(0, 0)]],
         [.outside .quantity [(1, 1)], .modWithin .quantity 100 [(1, 19)]]])]⟩,
   ⟨["mt"],
     [(.one, [[.within .quantity [(1, 1)]]]),
      (.two, [[.within .quantity [(2, 2)]]]),
      (.few, [[.within .quantity [(0, 0)]], [.modWithin .quantity 100 [(3, 10)]]]),
      (.many, [[.modWithin .quantity 100 [(11, 19)]]])]⟩,
   ⟨["pl"],
     [(.one, [[.within .whole [(1, 1)], .within .places [(0, 0)]]]),
      (.few,
        [[.within .places [(0, 0)],
          .modWithin .whole 10 [(2, 4)],
          .modOutside .whole 100 [(12, 14)]]]),
      (.many,
        [[.within .places [(0, 0)], .outside .whole [(1, 1)], .modWithin .whole 10 [(0, 1)]],
         [.within .places [(0, 0)], .modWithin .whole 10 [(5, 9)]],
         [.within .places [(0, 0)], .modWithin .whole 100 [(12, 14)]]])]⟩,
   ⟨["ru"],
     [(.one,
        [[.within .places [(0, 0)],
          .modWithin .whole 10 [(1, 1)],
          .modOutside .whole 100 [(11, 11)]]]),
      (.few,
        [[.within .places [(0, 0)],
          .modWithin .whole 10 [(2, 4)],
          .modOutside .whole 100 [(12, 14)]]]),
      (.many,
        [[.within .places [(0, 0)], .modWithin .whole 10 [(0, 0)]],
         [.within .places [(0, 0)], .modWithin .whole 10 [(5, 9)]],
         [.within .places [(0, 0)], .modWithin .whole 100 [(11, 14)]]])]⟩,
   ⟨["scn"],
     [(.one, [[.within .whole [(1, 1)], .within .places [(0, 0)]]]),
      (.many,
        [[.within .power [(0, 0)],
          .outside .whole [(0, 0)],
          .modWithin .whole 1000000 [(0, 0)],
          .within .places [(0, 0)]],
         [.outside .power [(0, 5)]]])]⟩,
   ⟨["shi"],
     [(.one, [[.within .whole [(0, 0)]], [.within .quantity [(1, 1)]]]),
      (.few, [[.within .quantity [(2, 10)]]])]⟩,
   ⟨["si"],
     [(.one,
        [[.within .quantity [(0, 0), (1, 1)]],
         [.within .whole [(0, 0)], .within .fraction [(1, 1)]]])]⟩,
   ⟨["tzm"],
     [(.one, [[.within .quantity [(0, 1)]], [.within .quantity [(11, 99)]]])]⟩]

/-- The identifier in a normalized lower-case locale code: what stands before the first `.` or
    `@`, which introduce an encoding and a modifier. -/
def identifier (code : String) : String :=
  String.ofList (code.toList.takeWhile fun c => c ≠ '.' && c ≠ '@')

/-- The rule of a normalized lower-case locale code. -/
def rule? (code : String) : Option ConditionRule :=
  (entries.find? fun e => identifier code ∈ e.identifiers).map Entry.rule

/-- The standard rules as locale data. Codes may be in any case. -/
def data : LocaleData := fun code =>
  (rule? (Text.lower code)).map ConditionRule.classifier

end MessageMarkup.Plural.Standard
