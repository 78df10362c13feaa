/-
# EntitySchema.Yaml.Token -- the tokens of a document

In block collections the columns carry the structure, so the reader keeps a stack
of indentations and makes tokens for the starts and ends of blocks
(`Lexing.unwind`, `Lexing.indentTo`).

A mapping key is only known as a key when its colon is found.  Until then the
place where one may have started is remembered, one for each level of flow
collections (`KeyPlace`); it lasts to the end of the line and for at most 1024
characters, and when the colon comes the key's token is put in at that place.  A
place at the indentation of its block has to turn out to be a key.
-/
import EntitySchema.Yaml.Scalar

namespace EntitySchema.Yaml

set_option autoImplicit false

/-- A token of a document. -/
inductive Token where
  | versionDirective (major : Nat)
  | tagDirective (handle uri : String)
  | otherDirective
  | documentStart
  | documentEnd
  | blockSequenceStart
  | blockMappingStart
  | blockEnd
  | flowSequenceStart
  | flowSequenceEnd
  | flowMappingStart
  | flowMappingEnd
  | flowEntry
  | blockEntry
  | key
  | value
  | alias (name : String)
  | anchor (name : String)
  | tag (handle : Option String) (suffix : String)
  | scalar (plain : Bool) (text : String)
  deriving DecidableEq, Repr

/-! ## Names, tags and directives -/

/-- Characters of anchors and of directive names. -/
def isNameChar (c : Char) : Bool :=
  ('a' ≤ c && c ≤ 'z') || ('A' ≤ c && c ≤ 'Z') || c.isDigit || c == '-' || c == '_'

def isTagChar (c : Char) : Bool := isNameChar c || ";/?:@&=+$,.!~*'()[]".toList.contains c

/-- An anchor or alias behind its mark. -/
def name? (cursor : Cursor) : Option (String × Cursor) :=
  let (run, behind) := cursor.span isNameChar
  let next := behind.peek
  if run.isEmpty then none
  else if endsWord next || "?:,]\x7d%@`".toList.contains next then some (String.ofList run, behind)
  else none

/-- A tag handle: an exclamation mark, or two with a name between them. -/
def handle? (cursor : Cursor) : Option (String × Cursor) :=
  if cursor.peek != '!' then none
  else if cursor.peekAt 1 == ' ' then some ("!", cursor.advance)
  else
    let (run, behind) := cursor.advance.span isNameChar
    if behind.peek == '!' then some ("!" ++ String.ofList run ++ "!", behind.advance) else none

def uri? (cursor : Cursor) : Option (String × Cursor) :=
  let (run, behind) := cursor.span isTagChar
  if run.isEmpty then none else some (String.ofList run, behind)

/-- A tag, read from its exclamation mark on. -/
def tag? (cursor : Cursor) : Option (Token × Cursor) := do
  let next := cursor.peekAt 1
  let (token, behind) ←
    if next == '<' then do
      let (uri, behind) ← uri? (cursor.advanceBy 2)
      if behind.peek == '>' then some (Token.tag none uri, behind.advance) else none
    else if endsWord next then some (Token.tag none "!", cursor.advance)
    else if (cursor.advance.rest.takeWhile (!endsField ·)).contains '!' then do
      let (handle, behind) ← handle? cursor
      let (suffix, behind) ← uri? behind
      some (Token.tag (some handle) suffix, behind)
    else do
      let (suffix, behind) ← uri? cursor.advance
      some (Token.tag (some "!") suffix, behind)
  if endsField behind.peek then some (token, behind) else none

def versionNumber? (cursor : Cursor) : Option (Nat × Cursor) :=
  let (run, behind) := cursor.span Char.isDigit
  if run.isEmpty then none
  else some (run.foldl (fun n c => n * 10 + (c.toNat - '0'.toNat)) 0, behind)

/-- The part of a directive behind its name. -/
def directiveBody? (name : String) (cursor : Cursor) : Option (Token × Cursor) :=
  if name = "YAML" then do
    let (major, behind) ← versionNumber? (cursor.skip (· == ' '))
    if behind.peek != '.' then none
    else do
      let (_, behind) ← versionNumber? behind.advance
      if endsField behind.peek then some (.versionDirective major, behind) else none
  else if name = "TAG" then do
    let (handle, behind) ← handle? (cursor.skip (· == ' '))
    if behind.peek != ' ' then none
    else do
      let (uri, behind) ← uri? (behind.skip (· == ' '))
      if endsField behind.peek then some (.tagDirective handle uri, behind) else none
  else some (.otherDirective, cursor.skip (!isBreak ·))

def directive? (cursor : Cursor) : Option (Token × Cursor) := do
  let (run, behind) := cursor.advance.span isNameChar
  if run.isEmpty || !endsField behind.peek then none
  else do
    let (token, behind) ← directiveBody? (String.ofList run) behind
    let behind ← behind.endLine?
    return (token, behind)

/-! ## The state of the reader -/

/-- A place where a mapping key may have started. -/
structure KeyPlace where
  /-- How many tokens lie in front of it. -/
  position : Nat
  required : Bool
  index : Nat
  line : Nat
  column : Nat
  deriving DecidableEq, Repr

/-- A reader of tokens between two of them. -/
structure Lexing where
  cursor : Cursor
  flowLevel : Nat := 0
  /-- The column of the innermost block, and those around it. -/
  indent : Int := -1
  indents : List Int := []
  /-- Whether a key may start here. -/
  keyAllowed : Bool := true
  keys : List (Nat × KeyPlace) := []
  tokens : Array Token := #[]

namespace Lexing

def emit (state : Lexing) (token : Token) (cursor : Cursor) : Lexing :=
  { state with tokens := state.tokens.push token, cursor }

def column (state : Lexing) : Int := state.cursor.column

/-- Gives up the places that lie too far back; a required one may not be given up. -/
def dropStale? (state : Lexing) : Option Lexing :=
  let stale (place : KeyPlace) : Bool :=
    place.line != state.cursor.line || 1024 < state.cursor.index - place.index
  if state.keys.any fun (_, place) => stale place && place.required then none
  else some { state with keys := state.keys.filter fun (_, place) => !stale place }

/-- Gives up the place of the present level. -/
def dropPlace? (state : Lexing) : Option Lexing :=
  match state.keys.lookup state.flowLevel with
  | none => some state
  | some place =>
      if place.required then none
      else some { state with keys := state.keys.filter (·.1 != state.flowLevel) }

/-- Remembers that a key may start here. -/
def savePlace? (state : Lexing) : Option Lexing :=
  if !state.keyAllowed then some state
  else do
    let state ← state.dropPlace?
    let place : KeyPlace :=
      { position := state.tokens.size
        required := state.flowLevel == 0 && state.indent == state.column
        index := state.cursor.index
        line := state.cursor.line
        column := state.cursor.column }
    return { state with keys := (state.flowLevel, place) :: state.keys }

/-- Ends the blocks that lie further in than a column. -/
def unwindFrom (column : Int) (indent : Int) (tokens : Array Token) :
    List Int → Int × List Int × Array Token
  | [] => (indent, [], tokens)
  | outer :: rest =>
      if indent > column then unwindFrom column outer (tokens.push .blockEnd) rest
      else (indent, outer :: rest, tokens)

/-- Ends the blocks that lie further in than a column; flow collections ignore columns. -/
def unwind (state : Lexing) (column : Int) : Lexing :=
  if state.flowLevel != 0 then state
  else
    let (indent, indents, tokens) := unwindFrom column state.indent state.tokens state.indents
    { state with indent, indents, tokens }

/-- Starts a block at a column unless one is there, its token before the token at a position. -/
def indentTo (state : Lexing) (column : Int) (position : Nat) (token : Token) : Lexing :=
  if state.indent < column then
    { state with
      indent := column, indents := state.indent :: state.indents,
      tokens := state.tokens.insertIdxIfInBounds position token }
  else state

/-! ## One token -/

/-- The end of all blocks, for a token that stands outside of them. -/
def outside? (state : Lexing) : Option Lexing := do
  let state ← (state.unwind (-1)).dropPlace?
  return { state with keyAllowed := false }

def openFlow? (state : Lexing) (token : Token) : Option Lexing := do
  let state ← state.savePlace?
  return { state with flowLevel := state.flowLevel + 1, keyAllowed := true }.emit token
    state.cursor.advance

/-- The end of a flow collection, if there is one to end. -/
def closeFlow? (state : Lexing) (token : Token) : Option Lexing := do
  if state.flowLevel = 0 then none
  else
    let state ← state.dropPlace?
    return { state with flowLevel := state.flowLevel - 1, keyAllowed := false }.emit token
      state.cursor.advance

def flowEntry? (state : Lexing) : Option Lexing := do
  let state ← { state with keyAllowed := true }.dropPlace?
  return state.emit .flowEntry state.cursor.advance

/-- A dash in front of an item, or a question mark in front of a key. -/
def blockMark? (state : Lexing) (start token : Token) (keyAllowed : Bool) : Option Lexing := do
  let state ←
    if state.flowLevel != 0 then some state
    else if !state.keyAllowed then none
    else some (state.indentTo state.column state.tokens.size start)
  let state ← { state with keyAllowed }.dropPlace?
  return state.emit token state.cursor.advance

/-- A colon in front of a value; it makes a key of the place that is remembered. -/
def value? (state : Lexing) : Option Lexing :=
  match state.keys.lookup state.flowLevel with
  | some place =>
      let state : Lexing :=
        { state with
          keys := state.keys.filter (·.1 != state.flowLevel)
          tokens := state.tokens.insertIdxIfInBounds place.position .key
          keyAllowed := false }
      let state :=
        if state.flowLevel != 0 then state
        else state.indentTo place.column place.position .blockMappingStart
      some (state.emit .value state.cursor.advance)
  | none => state.blockMark? .blockMappingStart .value (state.flowLevel == 0)

/-- A token that may be the start of a key. -/
def keyStart? (state : Lexing) (read : Cursor → Option (Token × Cursor)) : Option Lexing := do
  let state ← state.savePlace?
  let (token, behind) ← read state.cursor
  return { state with keyAllowed := false }.emit token behind

def plain? (state : Lexing) : Option Lexing := do
  let state ← state.savePlace?
  let (text, brokeLine, behind) :=
    Yaml.plain (state.flowLevel != 0) (state.indent + 1) state.cursor
  return { state with keyAllowed := brokeLine }.emit (.scalar true text) behind

def block? (state : Lexing) : Option Lexing := do
  let state ← { state with keyAllowed := true }.dropPlace?
  let (text, behind) ← Yaml.block? state.indent state.cursor
  return state.emit (.scalar false text) behind

/-- Whether a plain scalar starts with the next character. -/
def startsPlain (state : Lexing) : Bool :=
  let c := state.cursor.peek
  let next := state.cursor.peekAt 1
  !(endsWord c || "-?:,[]\x7b\x7d#&*!|>'\"%@`".toList.contains c)
    || (!endsWord next && (c == '-' || (state.flowLevel == 0 && (c == '?' || c == ':'))))

/-- The token that starts with the next character, at a place where nothing is to be skipped. -/
def token? (state : Lexing) : Option Lexing :=
  let cursor := state.cursor
  let inFlow := state.flowLevel != 0
  let alone := endsWord (cursor.peekAt 1)
  if cursor.column == 0 && cursor.peek == '%' then do
    let state ← state.outside?
    let (token, behind) ← directive? state.cursor
    return state.emit token behind
  else if cursor.marks '-' then
    state.outside?.map (·.emit .documentStart (cursor.advanceBy 3))
  else if cursor.marks '.' then
    state.outside?.map (·.emit .documentEnd (cursor.advanceBy 3))
  else match cursor.peek with
    | '[' => state.openFlow? .flowSequenceStart
    | '\x7b' => state.openFlow? .flowMappingStart
    | ']' => state.closeFlow? .flowSequenceEnd
    | '\x7d' => state.closeFlow? .flowMappingEnd
    | ',' => state.flowEntry?
    | '*' => state.keyStart? fun cursor =>
        (name? cursor.advance).map fun (name, behind) => (.alias name, behind)
    | '&' => state.keyStart? fun cursor =>
        (name? cursor.advance).map fun (name, behind) => (.anchor name, behind)
    | '!' => state.keyStart? tag?
    | '\'' | '"' => state.keyStart? fun cursor =>
        (quoted? cursor).map fun (text, behind) => (.scalar false text, behind)
    | c =>
        if c == '-' && alone then state.blockMark? .blockSequenceStart .blockEntry true
        else if c == '?' && (inFlow || alone) then
          state.blockMark? .blockMappingStart .key !inFlow
        else if c == ':' && (inFlow || alone) then state.value?
        else if (c == '|' || c == '>') && !inFlow then state.block?
        else if state.startsPlain then state.plain?
        else none

/-! ## All tokens -/

/-- Skips blanks, comments and line breaks; on a new line a key may start. -/
def skipFrom (fuel : Nat) (state : Lexing) : Lexing :=
  match fuel with
  | 0 => state
  | fuel + 1 =>
      let cursor := (state.cursor.skip (· == ' ')).skipComment
      match cursor.takeBreak? with
      | some (_, behind) =>
          skipFrom fuel
            { state with
              cursor := behind, keyAllowed := state.keyAllowed || state.flowLevel == 0 }
      | none => { state with cursor }

/-- The tokens from here to the end of the text. -/
def tokensFrom? (fuel : Nat) (state : Lexing) : Option (List Token) :=
  match fuel with
  | 0 => none
  | fuel + 1 => do
      let state ← (state.skipFrom (state.cursor.rest.length + 1)).dropStale?
      let state := state.unwind state.column
      if state.cursor.rest.isEmpty then
        let state ← (state.unwind (-1)).dropPlace?
        return state.tokens.toList
      else
        let state ← state.token?
        tokensFrom? fuel state

end Lexing

def Token.ofChars? (text : List Char) : Option (List Token) :=
  let text := match text with
    | '\ufeff' :: rest => rest
    | _ => text
  Lexing.tokensFrom? (text.length + 2) { cursor := { rest := text } }

end EntitySchema.Yaml
