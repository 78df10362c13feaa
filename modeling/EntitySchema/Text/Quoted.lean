/-
# EntitySchema.Text.Quoted -- a text shown between quotes

Messages show the texts they speak of between quotes, in one written form:
single quotes, or double quotes when the text holds a single quote and no
double one.  A backslash and the quote in use are escaped, the line break, the
carriage return and the tab have escapes of their own, and every other
character that is not printable is written by its code point in two, four or
eight hexadecimal digits.  `showList` puts a list of texts between brackets.
-/
import EntitySchema.Unicode.PrintTable

namespace EntitySchema.Text

open EntitySchema.Unicode

set_option autoImplicit false

/-- The low `width` hexadecimal digits of a number, in lower case. -/
def hexDigits : Nat → Nat → List Char
  | 0, _ => []
  | width + 1, n => hexDigits width (n / 16) ++ [Nat.digitChar (n % 16)]

/-- A character by its code point. -/
def codeEscape (c : Char) : List Char :=
  let code := c.toNat
  if code < 0x100 then '\\' :: 'x' :: hexDigits 2 code
  else if code < 0x10000 then '\\' :: 'u' :: hexDigits 4 code
  else '\\' :: 'U' :: hexDigits 8 code

def quotedChar (quote c : Char) : List Char :=
  if c = quote ∨ c = '\\' then ['\\', c]
  else if c = '\n' then ['\\', 'n']
  else if c = '\r' then ['\\', 'r']
  else if c = '\t' then ['\\', 't']
  else if isPrintable c then [c]
  else codeEscape c

/-- The quote a text is shown between. -/
def quoteFor (cs : List Char) : Char :=
  if cs.contains '\'' && !cs.contains '"' then '"' else '\''

def quoted (text : String) : String :=
  let cs := text.toList
  let quote := quoteFor cs
  String.ofList (quote :: cs.flatMap (quotedChar quote) ++ [quote])

/-- A list of texts, each between quotes. -/
def showList (texts : List String) : String :=
  "[" ++ String.intercalate ", " (texts.map quoted) ++ "]"

end EntitySchema.Text
