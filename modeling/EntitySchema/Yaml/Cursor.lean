/-
# EntitySchema.Yaml.Cursor -- a place in a text

A cursor is the rest of a text with the place where it starts: how many
characters lie in front of it, and the line and column they end in.  Reading past
the end gives the character `endOfText`, which no document holds.
-/

namespace EntitySchema.Yaml

set_option autoImplicit false

/-- What is read at the end of a text. -/
def endOfText : Char := '\x00'

/-- Characters that end a line. -/
def isBreak (c : Char) : Bool := c == '\n' || c == '\u0085' || c == '\u2028' || c == '\u2029'

def isSpace (c : Char) : Bool := c == ' ' || c == '\t'

/-- Characters that end a word: blanks, tabs, line breaks and the end of the text. -/
def endsWord (c : Char) : Bool := isSpace c || isBreak c || c == endOfText

/-- Characters that end a word on a line that allows no tabs. -/
def endsField (c : Char) : Bool := c == ' ' || isBreak c || c == endOfText

structure Cursor where
  rest : List Char
  index : Nat := 0
  line : Nat := 0
  column : Nat := 0
  deriving DecidableEq, Repr

namespace Cursor

def peekAt (cursor : Cursor) (ahead : Nat) : Char := cursor.rest.getD ahead endOfText

def peek (cursor : Cursor) : Char := cursor.peekAt 0

/-- The place behind the next character; a byte order mark takes no column. -/
def advance (cursor : Cursor) : Cursor :=
  match cursor.rest with
  | [] => cursor
  | c :: rest =>
      if isBreak c then
        { rest, index := cursor.index + 1, line := cursor.line + 1, column := 0 }
      else
        { rest, index := cursor.index + 1, line := cursor.line,
          column := if c == '\ufeff' then cursor.column else cursor.column + 1 }

def advanceBy (cursor : Cursor) : Nat → Cursor
  | 0 => cursor
  | count + 1 => cursor.advance.advanceBy count

/-- The longest run of accepted characters, and the place behind it. -/
def span (cursor : Cursor) (accepts : Char → Bool) : List Char × Cursor :=
  let run := cursor.rest.takeWhile accepts
  (run, cursor.advanceBy run.length)

def skip (cursor : Cursor) (accepts : Char → Bool) : Cursor := (cursor.span accepts).2

def skipComment (cursor : Cursor) : Cursor :=
  if cursor.peek == '#' then cursor.skip (!isBreak ·) else cursor

/-- The line break that comes next, as it stands in a text, and the place behind it. -/
def takeBreak? (cursor : Cursor) : Option (Char × Cursor) :=
  let c := cursor.peek
  if isBreak c then some (if c == '\u0085' then '\n' else c, cursor.advance) else none

/-- The place behind the rest of a line that holds nothing but blanks and a comment. -/
def endLine? (cursor : Cursor) : Option Cursor :=
  let cursor := (cursor.skip (· == ' ')).skipComment
  match cursor.takeBreak? with
  | some (_, behind) => some behind
  | none => if cursor.peek == endOfText then some cursor else none

/-- Whether a line of three dashes, or of three dots, starts here. -/
def marks (cursor : Cursor) (mark : Char) : Bool :=
  cursor.column == 0 && cursor.peek == mark && cursor.peekAt 1 == mark && cursor.peekAt 2 == mark
    && endsWord (cursor.peekAt 3)

/-- Whether a document starts or ends here. -/
def atMarker (cursor : Cursor) : Bool := cursor.marks '-' || cursor.marks '.'

end Cursor

end EntitySchema.Yaml
