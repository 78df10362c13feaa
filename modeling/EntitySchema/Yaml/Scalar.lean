/-
# EntitySchema.Yaml.Scalar -- scalars in plain, quoted and block style

A plain scalar ends in front of a comment, a mapping value or a less indented
line.  A quoted scalar ends at its quote; two single quotes stand for one, and a
backslash between double quotes starts an escape.  In both a line break stands for a
blank and each further one for itself.  A block scalar keeps its lines, or
folds them, from the indentation of its first line on.

Every reader returns the text and the place behind it.  The readers that go
on from line to line are bounded by the length of the text, which they
cannot outlast because every round takes a character.
-/
import EntitySchema.Yaml.Cursor

namespace EntitySchema.Yaml

set_option autoImplicit false

/-- The text that a line break and the breaks behind it fold into. -/
def folded (first : Char) (others : List Char) : List Char :=
  if first != '\n' then first :: others
  else if others.isEmpty then [' ']
  else others

/-! ## Plain scalars -/

/-- Characters that have a meaning in flow collections. -/
def isFlowMark (c : Char) : Bool :=
  c == ',' || c == '[' || c == ']' || c == '\x7b' || c == '\x7d'

/-- The front of a plain scalar up to the first place where it may end. -/
def plainRun (inFlow : Bool) : List Char → List Char
  | [] => []
  | c :: rest =>
      let next := rest.headD endOfText
      if endsWord c || (c == ':' && (endsWord next || (inFlow && isFlowMark next)))
          || (inFlow && (isFlowMark c || c == '?')) then []
      else c :: plainRun inFlow rest

/-- The breaks between two lines of a plain scalar, last first in `passed`; none
in front of the start or end of a document. -/
def plainBreaks (fuel : Nat) (passed : List Char) (cursor : Cursor) :
    Option (List Char) × Cursor :=
  match fuel with
  | 0 => (some passed.reverse, cursor)
  | fuel + 1 =>
      if cursor.peek == ' ' then plainBreaks fuel passed cursor.advance
      else match cursor.takeBreak? with
        | none => (some passed.reverse, cursor)
        | some (c, behind) =>
            if behind.atMarker then (none, behind) else plainBreaks fuel (c :: passed) behind

/-- What stands between two pieces of a plain scalar. -/
structure PlainGap where
  /-- The text it stands for; empty or none if the scalar ends. -/
  text : Option (List Char)
  brokeLine : Bool
  cursor : Cursor

/-- What stands behind a piece of a plain scalar. -/
def plainGap (cursor : Cursor) : PlainGap :=
  let (blanks, cursor) := cursor.span (· == ' ')
  match cursor.takeBreak? with
  | none => { text := some blanks, brokeLine := false, cursor }
  | some (c, behind) =>
      if behind.atMarker then { text := none, brokeLine := true, cursor := behind }
      else
        let (breaks, cursor) := plainBreaks (behind.rest.length + 1) [] behind
        { text := breaks.map (folded c), brokeLine := true, cursor }

/-- A plain scalar behind the pieces in `passed`, with what stands between them
and the place `cursor`. -/
def plainFrom (fuel : Nat) (inFlow : Bool) (indent : Int) (passed gap : List Char)
    (brokeLine : Bool) (cursor : Cursor) : List Char × Bool × Cursor :=
  match fuel with
  | 0 => (passed, brokeLine, cursor)
  | fuel + 1 =>
      let run := if cursor.peek == '#' then [] else plainRun inFlow cursor.rest
      if run.isEmpty then (passed, brokeLine, cursor)
      else
        let passed := passed ++ gap ++ run
        let next := plainGap (cursor.advanceBy run.length)
        match next.text with
        | some (c :: more) =>
            if next.cursor.peek == '#' || (!inFlow && (next.cursor.column : Int) < indent) then
              (passed, next.brokeLine, next.cursor)
            else plainFrom fuel inFlow indent passed (c :: more) next.brokeLine next.cursor
        | _ => (passed, next.brokeLine, next.cursor)

/-- A plain scalar: its text, whether the place behind it is on a later line, and
that place. -/
def plain (inFlow : Bool) (indent : Int) (cursor : Cursor) : String × Bool × Cursor :=
  let (text, brokeLine, cursor) :=
    plainFrom (cursor.rest.length + 1) inFlow indent [] [] false cursor
  (String.ofList text, brokeLine, cursor)

/-! ## Quoted scalars -/

/-- The character that a one letter escape stands for. -/
def letterEscape? : Char → Option Char
  | '0' => some '\x00'
  | 'a' => some '\x07'
  | 'b' => some '\x08'
  | 't' | '\t' => some '\t'
  | 'n' => some '\n'
  | 'v' => some '\x0b'
  | 'f' => some '\x0c'
  | 'r' => some '\r'
  | 'e' => some '\x1b'
  | ' ' => some ' '
  | '"' => some '"'
  | '\\' => some '\\'
  | '/' => some '/'
  | 'N' => some '\u0085'
  | '_' => some '\u00a0'
  | 'L' => some '\u2028'
  | 'P' => some '\u2029'
  | _ => none

/-- How many digits an escape by number has. -/
def escapeWidth? : Char → Option Nat
  | 'x' => some 2
  | 'u' => some 4
  | 'U' => some 8
  | _ => none

def hexDigit? (c : Char) : Option Nat :=
  if '0' ≤ c ∧ c ≤ '9' then some (c.toNat - '0'.toNat)
  else if 'a' ≤ c ∧ c ≤ 'f' then some (c.toNat - 'a'.toNat + 10)
  else if 'A' ≤ c ∧ c ≤ 'F' then some (c.toNat - 'A'.toNat + 10)
  else none

/-- The number that the first `width` characters of a text write in hexadecimal. -/
def hexNumber? (width : Nat) (cs : List Char) : Option Nat :=
  if cs.length < width then none
  else (cs.take width).foldlM (fun n c => (hexDigit? c).map (n * 16 + ·)) 0

/-- The second half of a surrogate pair, if an escape for one comes next. -/
def lowSurrogate? : List Char → Option Nat
  | '\\' :: 'u' :: rest => (hexNumber? 4 rest).filter fun low => 0xDC00 ≤ low && low < 0xE000
  | _ => none

/-- The character of an escape by number behind its letter, and how many characters
it takes; two escapes that form a surrogate pair are one character. -/
def numberedChar? (width : Nat) (cs : List Char) : Option (Char × Nat) := do
  let number ← hexNumber? width cs
  if number > 0x10FFFF then none
  else
    match (if 0xD800 ≤ number ∧ number < 0xDC00 then lowSurrogate? (cs.drop width) else none) with
    | some low =>
        return (Char.ofNat (0x10000 + (number - 0xD800) * 0x400 + (low - 0xDC00)), width + 6)
    | none => return (Char.ofNat number, width)

/-- The line breaks behind the first in a quoted scalar, each with the blanks
around it, last first in `passed`. -/
def quotedBreaks? (fuel : Nat) (passed : List Char) (cursor : Cursor) :
    Option (List Char × Cursor) :=
  match fuel with
  | 0 => none
  | fuel + 1 =>
      if cursor.atMarker then none
      else
        let cursor := cursor.skip isSpace
        match cursor.takeBreak? with
        | some (c, behind) => quotedBreaks? fuel (c :: passed) behind
        | none => some (passed.reverse, cursor)

/-- The text of a quoted scalar up to its quote, behind the text in `passed`. -/
def quotedFrom? (fuel : Nat) (quote : Char) (passed : List Char) (cursor : Cursor) :
    Option (List Char × Cursor) :=
  match fuel with
  | 0 => none
  | fuel + 1 =>
      let double := quote == '"'
      let c := cursor.peek
      if cursor.rest.isEmpty then none
      else if c == quote then
        if !double && cursor.peekAt 1 == quote then
          quotedFrom? fuel quote (passed ++ [quote]) (cursor.advanceBy 2)
        else some (passed, cursor.advance)
      else if double && c == '\\' then
        let cursor := cursor.advance
        let escape := cursor.peek
        match letterEscape? escape, escapeWidth? escape, cursor.takeBreak? with
        | some c, _, _ => quotedFrom? fuel quote (passed ++ [c]) cursor.advance
        | none, some width, _ => do
            let (c, taken) ← numberedChar? width cursor.advance.rest
            quotedFrom? fuel quote (passed ++ [c]) (cursor.advanceBy (taken + 1))
        | none, none, some (_, behind) => do
            let (breaks, cursor) ← quotedBreaks? (behind.rest.length + 1) [] behind
            quotedFrom? fuel quote (passed ++ breaks) cursor
        | none, none, none => none
      else if isSpace c || isBreak c then
        let (blanks, cursor) := cursor.span isSpace
        match cursor.takeBreak? with
        | some (c, behind) => do
            let (breaks, cursor) ← quotedBreaks? (behind.rest.length + 1) [] behind
            quotedFrom? fuel quote (passed ++ folded c breaks) cursor
        | none => quotedFrom? fuel quote (passed ++ blanks) cursor
      else
        let (run, cursor) := cursor.span fun c =>
          !(isSpace c || isBreak c || c == '\'' || c == '"' || c == '\\')
        if run.isEmpty then quotedFrom? fuel quote (passed ++ [c]) cursor.advance
        else quotedFrom? fuel quote (passed ++ run) cursor

/-- A scalar between quotes, read from its first quote on. -/
def quoted? (cursor : Cursor) : Option (String × Cursor) := do
  let (text, behind) ← quotedFrom? (cursor.rest.length + 1) cursor.peek [] cursor.advance
  return (String.ofList text, behind)

/-! ## Block scalars -/

/-- What becomes of the line breaks at the end of a block scalar. -/
inductive Chomping where
  | strip
  | clip
  | keep
  deriving DecidableEq, Repr

/-- The chomping a sign asks for. -/
def chomping? : Char → Option Chomping
  | '+' => some .keep
  | '-' => some .strip
  | _ => none

/-- The indentation a digit asks for; zero asks for none that is possible. -/
def increment? (c : Char) : Option Nat :=
  if c.isDigit then some (c.toNat - '0'.toNat) else none

/-- The header of a block scalar behind its mark: chomping, indentation, and the
place of its first line. -/
def blockHeader? (cursor : Cursor) : Option (Chomping × Option Nat × Cursor) :=
  let (chomping, increment, cursor) :=
    match chomping? cursor.peek, increment? cursor.peek with
    | some chomping, _ =>
        match increment? cursor.advance.peek with
        | some increment => (chomping, some increment, cursor.advanceBy 2)
        | none => (chomping, none, cursor.advance)
    | none, some increment =>
        match chomping? cursor.advance.peek with
        | some chomping => (chomping, some increment, cursor.advanceBy 2)
        | none => (.clip, some increment, cursor.advance)
    | none, none => (.clip, none, cursor)
  if increment == some 0 || !endsField cursor.peek then none
  else cursor.endLine?.map fun cursor => (chomping, increment, cursor)

/-- The empty lines in front of a block scalar, last first in `passed`, and the
largest column that blanks reach. -/
def blockIndentation (fuel : Nat) (passed : List Char) (widest : Nat) (cursor : Cursor) :
    List Char × Nat × Cursor :=
  match fuel with
  | 0 => (passed.reverse, widest, cursor)
  | fuel + 1 =>
      if cursor.peek == ' ' then
        blockIndentation fuel passed (max widest cursor.advance.column) cursor.advance
      else match cursor.takeBreak? with
        | some (c, behind) => blockIndentation fuel (c :: passed) widest behind
        | none => (passed.reverse, widest, cursor)

/-- The place behind blanks, but not behind a column. -/
def skipTo (column : Nat) (cursor : Cursor) : Cursor :=
  cursor.advanceBy (min (cursor.rest.takeWhile (· == ' ')).length (column - cursor.column))

/-- The empty lines between two lines of a block scalar, last first in `passed`. -/
def blockBreaks (fuel : Nat) (indent : Nat) (passed : List Char) (cursor : Cursor) :
    List Char × Cursor :=
  match fuel with
  | 0 => (passed.reverse, cursor)
  | fuel + 1 =>
      let cursor := skipTo indent cursor
      match cursor.takeBreak? with
      | some (c, behind) => blockBreaks fuel indent (c :: passed) behind
      | none => (passed.reverse, cursor)

/-- The lines of a block scalar behind the text in `passed`: the text, the break
of the last line, and the empty lines behind it. -/
def blockLines (fuel : Nat) (folds : Bool) (indent : Nat) (passed breaks : List Char)
    (cursor : Cursor) : List Char × List Char × List Char × Cursor :=
  match fuel with
  | 0 => (passed, [], breaks, cursor)
  | fuel + 1 =>
      if cursor.column != indent || cursor.rest.isEmpty then (passed, [], breaks, cursor)
      else
        let solid := !isSpace cursor.peek
        let (line, cursor) := cursor.span (!isBreak ·)
        let passed := passed ++ breaks ++ line
        match cursor.takeBreak? with
        | none => (passed, [], [], cursor)
        | some (c, behind) =>
            let (breaks, cursor) := blockBreaks (behind.rest.length + 1) indent [] behind
            if cursor.column != indent || cursor.rest.isEmpty then (passed, [c], breaks, cursor)
            else if folds && c == '\n' && solid && !isSpace cursor.peek then
              blockLines fuel folds indent (if breaks.isEmpty then passed ++ [' '] else passed)
                breaks cursor
            else blockLines fuel folds indent (passed ++ [c]) breaks cursor

/-- A block scalar, read from its mark on, in a block of some indentation. -/
def block? (parent : Int) (cursor : Cursor) : Option (String × Cursor) := do
  let folds := cursor.peek == '>'
  let (chomping, increment, cursor) ← blockHeader? cursor.advance
  let least := max (parent + 1) 1
  let fuel := cursor.rest.length + 1
  let (breaks, indent, cursor) := match increment with
    | some increment =>
        let indent := (least + increment - 1).toNat
        let (breaks, cursor) := blockBreaks fuel indent [] cursor
        (breaks, indent, cursor)
    | none =>
        let (breaks, widest, cursor) := blockIndentation fuel [] 0 cursor
        (breaks, max least.toNat widest, cursor)
  let (text, last, breaks, cursor) := blockLines fuel folds indent [] breaks cursor
  let ending := match chomping with
    | .strip => []
    | .clip => last
    | .keep => last ++ breaks
  return (String.ofList (text ++ ending), cursor)

end EntitySchema.Yaml
