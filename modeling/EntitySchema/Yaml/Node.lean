/-
# EntitySchema.Yaml.Node -- the tree that tokens write

A document is one node: a scalar, a sequence or a mapping, each with a tag if it
has one.  A node that is left out is an empty plain scalar.  An anchor names a node,
and an alias stands for the node its name was given to before.

The readers take tokens off the front of a list and return the rest of it; their
number bounds the recursion (`Node.ofTokens?`).
-/
import EntitySchema.Yaml.Token

namespace EntitySchema.Yaml

set_option autoImplicit false

/-- A node of a document. -/
inductive Node where
  /-- A scalar; a plain one has the meaning that its text suggests. -/
  | scalar (tag : Option String) (plain : Bool) (text : String)
  | sequence (tag : Option String) (items : List Node)
  | mapping (tag : Option String) (entries : List (Node × Node))
  deriving Repr, Inhabited

namespace Node

/-- The node that stands where none is written. -/
def empty : Node := .scalar none true ""

/-- What the readers know besides the tokens. -/
structure Context where
  /-- What tag handles stand for. -/
  handles : List (String × String)
  anchors : List (String × Node) := []

/-- What a node is written with in front of its content. -/
structure Properties where
  anchor : Option String := none
  tag : Option String := none

/-- The tag that a handle and a suffix make. -/
def tagText? (context : Context) (handle : Option String) (suffix : String) : Option String :=
  match handle with
  | none => some suffix
  | some handle => (context.handles.lookup handle).map (· ++ suffix)

/-- The anchor and the tag in front of a node, in either order. -/
def properties? (context : Context) : List Token → Option (Properties × List Token)
  | .anchor name :: .tag handle suffix :: rest => do
      let tag ← tagText? context handle suffix
      return ({ anchor := some name, tag := some tag }, rest)
  | .tag handle suffix :: .anchor name :: rest => do
      let tag ← tagText? context handle suffix
      return ({ anchor := some name, tag := some tag }, rest)
  | .anchor name :: rest => some ({ anchor := some name }, rest)
  | .tag handle suffix :: rest => do
      let tag ← tagText? context handle suffix
      return ({ tag := some tag }, rest)
  | tokens => some ({}, tokens)

/-- A tag, where the one that leaves the meaning open counts as none. -/
def Properties.meaning (properties : Properties) : Option String :=
  properties.tag.filter (· != "!")

/-- The scalar that a text makes under a tag; a tag that leaves the meaning open
makes it plain. -/
def Properties.scalar (properties : Properties) (plain : Bool) (text : String) : Node :=
  .scalar properties.meaning ((plain && properties.tag.isNone) || properties.tag == some "!") text

/-- Gives a node the name of its anchor, which must be new. -/
def name? (properties : Properties) (node : Node) (context : Context) (rest : List Token) :
    Option (Node × Context × List Token) :=
  match properties.anchor with
  | none => some (node, context, rest)
  | some anchor =>
      if (context.anchors.lookup anchor).isSome then none
      else some (node, { context with anchors := (anchor, node) :: context.anchors }, rest)

/-- Tokens before which a key or value of a block mapping may be left out. -/
def endsEntry : List Token → Bool
  | .key :: _ | .value :: _ | .blockEnd :: _ => true
  | _ => false

/-- Tokens before which an item of a block sequence may be left out. -/
def endsItem : List Token → Bool
  | .blockEntry :: _ | .blockEnd :: _ => true
  | _ => false

/-- Tokens before which an item of an unindented sequence may be left out. -/
def endsOpenItem : List Token → Bool
  | .blockEntry :: _ => true
  | tokens => endsEntry tokens

/-- Tokens before which a part of a pair in a flow collection may be left out. -/
def endsPair (close : Token) : List Token → Bool
  | .flowEntry :: _ => true
  | token :: _ => token == close
  | [] => false

mutual

/-- A node; one in a block may be a block collection, and one that is the value of
a mapping may be a sequence without indentation of its own. -/
def node? (fuel : Nat) (inBlock openSequence : Bool) (context : Context) (tokens : List Token) :
    Option (Node × Context × List Token) :=
  match fuel with
  | 0 => none
  | fuel + 1 =>
      match tokens with
      | .alias name :: rest => (context.anchors.lookup name).map fun node => (node, context, rest)
      | _ => do
          let (properties, tokens) ← properties? context tokens
          match tokens with
          | .scalar plain text :: rest =>
              name? properties (properties.scalar plain text) context rest
          | .flowSequenceStart :: rest => do
              let (items, context, rest) ← flowItems? fuel true [] context rest
              name? properties (.sequence properties.meaning items) context rest
          | .flowMappingStart :: rest => do
              let (entries, context, rest) ← flowEntries? fuel true [] context rest
              name? properties (.mapping properties.meaning entries) context rest
          | .blockEntry :: rest =>
              if !openSequence then leftOut? properties context tokens
              else do
                let (items, context, rest) ← openItems? fuel [] context (.blockEntry :: rest)
                name? properties (.sequence properties.meaning items) context rest
          | .blockSequenceStart :: rest =>
              if !inBlock then leftOut? properties context tokens
              else do
                let (items, context, rest) ← blockItems? fuel [] context rest
                name? properties (.sequence properties.meaning items) context rest
          | .blockMappingStart :: rest =>
              if !inBlock then leftOut? properties context tokens
              else do
                let (entries, context, rest) ← blockEntries? fuel [] context rest
                name? properties (.mapping properties.meaning entries) context rest
          | _ => leftOut? properties context tokens

def leftOut? (properties : Properties) (context : Context) (tokens : List Token) :
    Option (Node × Context × List Token) :=
  if properties.anchor.isNone && properties.tag.isNone then none
  else name? properties (properties.scalar true "") context tokens

/-- The items of a block sequence, last first in `passed`. -/
def blockItems? (fuel : Nat) (passed : List Node) (context : Context) (tokens : List Token) :
    Option (List Node × Context × List Token) :=
  match fuel with
  | 0 => none
  | fuel + 1 =>
      match tokens with
      | .blockEnd :: rest => some (passed.reverse, context, rest)
      | .blockEntry :: rest =>
          if endsItem rest then blockItems? fuel (empty :: passed) context rest
          else do
            let (item, context, rest) ← node? fuel true false context rest
            blockItems? fuel (item :: passed) context rest
      | _ => none

/-- The items of a sequence without indentation, last first in `passed`. -/
def openItems? (fuel : Nat) (passed : List Node) (context : Context) (tokens : List Token) :
    Option (List Node × Context × List Token) :=
  match fuel with
  | 0 => none
  | fuel + 1 =>
      match tokens with
      | .blockEntry :: rest =>
          if endsOpenItem rest then openItems? fuel (empty :: passed) context rest
          else do
            let (item, context, rest) ← node? fuel true false context rest
            openItems? fuel (item :: passed) context rest
      | _ => some (passed.reverse, context, tokens)

def blockPart? (fuel : Nat) (context : Context) (tokens : List Token) :
    Option (Node × Context × List Token) :=
  if endsEntry tokens then some (empty, context, tokens) else node? fuel true true context tokens

/-- The entries of a block mapping, last first in `passed`. -/
def blockEntries? (fuel : Nat) (passed : List (Node × Node)) (context : Context)
    (tokens : List Token) : Option (List (Node × Node) × Context × List Token) :=
  match fuel with
  | 0 => none
  | fuel + 1 =>
      match tokens with
      | .blockEnd :: rest => some (passed.reverse, context, rest)
      | .key :: rest => do
          let (key, context, rest) ← blockPart? fuel context rest
          match rest with
          | .value :: rest => do
              let (value, context, rest) ← blockPart? fuel context rest
              blockEntries? fuel ((key, value) :: passed) context rest
          | _ => blockEntries? fuel ((key, empty) :: passed) context rest
      | _ => none

def flowPart? (fuel : Nat) (close : Token) (context : Context) (tokens : List Token) :
    Option (Node × Context × List Token) :=
  if endsPair close tokens then some (empty, context, tokens)
  else node? fuel false false context tokens

/-- The key behind its token in a flow collection, and its value. -/
def flowPair? (fuel : Nat) (close : Token) (context : Context) (tokens : List Token) :
    Option ((Node × Node) × Context × List Token) :=
  match fuel with
  | 0 => none
  | fuel + 1 => do
      let (key, context, rest) ←
        match tokens with
        | .value :: _ => some (empty, context, tokens)
        | _ => flowPart? fuel close context tokens
      match rest with
      | .value :: rest => do
          let (value, context, rest) ← flowPart? fuel close context rest
          return ((key, value), context, rest)
      | _ => return ((key, empty), context, rest)

/-- The items of a flow sequence, last first in `passed`; all but the first follow a comma. -/
def flowItems? (fuel : Nat) (first : Bool) (passed : List Node) (context : Context)
    (tokens : List Token) : Option (List Node × Context × List Token) :=
  match fuel with
  | 0 => none
  | fuel + 1 =>
      let item (tokens : List Token) : Option (List Node × Context × List Token) :=
        match tokens with
        | .flowSequenceEnd :: rest => some (passed.reverse, context, rest)
        | .key :: rest => do
            let (pair, context, rest) ← flowPair? fuel .flowSequenceEnd context rest
            flowItems? fuel false (.mapping none [pair] :: passed) context rest
        | _ => do
            let (item, context, rest) ← node? fuel false false context tokens
            flowItems? fuel false (item :: passed) context rest
      match tokens with
      | .flowSequenceEnd :: rest => some (passed.reverse, context, rest)
      | .flowEntry :: rest => if first then item tokens else item rest
      | _ => if first then item tokens else none

/-- The entries of a flow mapping, last first in `passed`; all but the first follow a comma. -/
def flowEntries? (fuel : Nat) (first : Bool) (passed : List (Node × Node)) (context : Context)
    (tokens : List Token) : Option (List (Node × Node) × Context × List Token) :=
  match fuel with
  | 0 => none
  | fuel + 1 =>
      let entry (tokens : List Token) : Option (List (Node × Node) × Context × List Token) :=
        match tokens with
        | .flowMappingEnd :: rest => some (passed.reverse, context, rest)
        | .key :: rest => do
            let (pair, context, rest) ← flowPair? fuel .flowMappingEnd context rest
            flowEntries? fuel false (pair :: passed) context rest
        | _ => do
            let (key, context, rest) ← node? fuel false false context tokens
            flowEntries? fuel false ((key, empty) :: passed) context rest
      match tokens with
      | .flowMappingEnd :: rest => some (passed.reverse, context, rest)
      | .flowEntry :: rest => if first then entry tokens else entry rest
      | _ => if first then entry tokens else none

end

/-! ## Documents -/

/-- What the tag handles stand for unless a directive says otherwise. -/
def usualHandles : List (String × String) := [("!", "!"), ("!!", "tag:yaml.org,2002:")]

/-- The tag handles of the directives in front of a document, and the tokens behind
them; a version or a handle may be stated once. -/
def directives? (versioned : Bool) (handles : List (String × String)) :
    List Token → Option (List (String × String) × List Token)
  | .versionDirective major :: rest =>
      if versioned || major != 1 then none else directives? true handles rest
  | .tagDirective handle uri :: rest =>
      if (handles.lookup handle).isSome then none
      else directives? versioned (handles ++ [(handle, uri)]) rest
  | .otherDirective :: rest => directives? versioned handles rest
  | tokens => some (handles, tokens)

/-- Whether a document with a start of its own is empty. -/
def endsDocument : List Token → Bool
  | [] | .documentStart :: _ | .documentEnd :: _ | .versionDirective _ :: _
  | .tagDirective _ _ :: _ | .otherDirective :: _ => true
  | _ => false

/-- Whether tokens start with a directive or the start of a document. -/
def startsExplicitly : List Token → Bool
  | .documentStart :: _ | .versionDirective _ :: _ | .tagDirective _ _ :: _
  | .otherDirective :: _ => true
  | _ => false

/-- The node at the front of tokens, outside every other; each token is taken and
each empty place passed at the cost of at most two steps. -/
def ofDocument? (handles : List (String × String)) (tokens : List Token) :
    Option (Node × List Token) :=
  (node? (2 * tokens.length + 2) true false { handles } tokens).map fun (node, _, rest) =>
    (node, rest)

/-- The first document that tokens write, and the tokens behind it. -/
def firstDocument? (tokens : List Token) : Option (Node × List Token) :=
  if startsExplicitly tokens then
    match directives? false [] tokens with
    | some (handles, .documentStart :: rest) =>
        if endsDocument rest then some (empty, rest)
        else ofDocument? (handles ++ usualHandles) rest
    | _ => none
  else ofDocument? usualHandles tokens

/-- The only document that tokens write, where they write any. -/
def ofTokens? (tokens : List Token) : Option (Option Node) :=
  if tokens.isEmpty then some none
  else
    match firstDocument? tokens with
    | some (node, rest) =>
        if (rest.dropWhile (· == .documentEnd)).isEmpty then some (some node) else none
    | none => none

end Node

end EntitySchema.Yaml
