/-
# EntitySchema.Yaml.Document -- the value in a file

A file holds one document as UTF-8 text.  A carriage return ends a line, with or
without a line feed behind it, and the control characters do not occur; a file
without a document holds null.
-/
import EntitySchema.Yaml.Construction

namespace EntitySchema.Yaml

set_option autoImplicit false

/-- A text in which every line ends with a line feed. -/
def lineFeeds : List Char → List Char
  | '\r' :: '\n' :: rest => '\n' :: lineFeeds rest
  | '\r' :: rest => '\n' :: lineFeeds rest
  | c :: rest => c :: lineFeeds rest
  | [] => []

def isAllowed (c : Char) : Bool :=
  c == '\t' || c == '\n' || c == '\r' || c == '\u0085' || (' ' ≤ c && c ≤ '~')
    || ('\u00a0' ≤ c && c ≤ '\ufffd') || 0x10000 ≤ c.toNat

def ofText (text : String) : Except Fault Value :=
  let cs := lineFeeds text.toList
  if !cs.all isAllowed then .error .malformed
  else
    match (Token.ofChars? cs).bind Node.ofTokens? with
    | none => .error .malformed
    | some none => .ok .null
    | some (some node) => nodeValue node

/-- The value of the document in a file. -/
def ofBytes (bytes : ByteArray) : Except Fault Value :=
  match String.fromUTF8? bytes with
  | some text => ofText text
  | none => .error .notUtf8

end EntitySchema.Yaml
