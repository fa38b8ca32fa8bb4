import MessageMarkup.Parser.State

/-!
# Reading messages

A message is text with paired tags `<name>…</name>`, void tags `<name/>`, placeholders `%name%`
and the escape `%%` for a percent sign. A `<` that no `>` follows before the next `<` is text, and
so is a tag or placeholder that the message does not end.

## Main definitions

- `Parser.run` — the nodes that a list of characters stands for
- `parse` — the nodes of a message under a nesting limit
-/

namespace MessageMarkup

/-- Reads a list of characters from the first to the last, and then ends the message. -/
def Parser.run (limit : Int) (cs : List Char) : Except Parser.Fault (List Node) :=
  match cs.foldlM Parser.State.next (Parser.State.start limit) with
  | .ok state => state.finish
  | .error fault => .error fault

/-- The nodes of a message. At most `limit` tags may be open at once, or as many as are honoured
    if that is less. -/
def parse (limit : Int) (source : String) : Except Failure (List Node) :=
  match Parser.run limit source.toList with
  | .ok nodes => .ok nodes
  | .error fault => .error (fault.toFailure source)

end MessageMarkup
