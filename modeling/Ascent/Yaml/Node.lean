import Ascent.Yaml.Lexer

/-!
# From tokens to a document

The first document of a token list, as a tree of nodes.  Only the first
document is read, and nothing behind it is looked at but the one token that
ends it.

Every function reads from the front of the token list and leaves the rest in
the state.  The list of tokens ends early where the text cannot be read, so a
token that is not there always means failure.
-/

namespace Ascent.Yaml

/-- A node of a document. -/
inductive Node where
  /-- A scalar with its tag, which is empty if none was given.  An implicit one
  is resolved by its text. -/
  | scalar (tag : String) (implicit : Bool) (text : String)
  | sequence (members : List Node)
  | mapping (entries : List (Node × Node))
  /-- Another mention of an anchored node. -/
  | alias (target : Node)
deriving Inhabited

namespace Node

/-- The scalar that stands where nothing is written. -/
def empty : Node :=
  .scalar "" true ""

/-- What is known while a document is read. -/
structure Reading where
  tokens : List Token
  /-- The anchors in the order in which their nodes start; a node that is not
  finished has no value yet. -/
  anchors : Array (String × Option Node)

/-- A reader of a part of a document. -/
abbrev Reader (α : Type) :=
  StateT Reading Option α

/-- The next token, which stays where it is. -/
def peek : Reader Token := do
  match (← get).tokens with
  | token :: _ => return token
  | [] => failure

/-- Go over the next token. -/
def advance : Reader Unit := do
  let _ ← peek
  modify fun reading => { reading with tokens := reading.tokens.drop 1 }

/-- The node with an anchor.  The last node that started with this name counts,
and it must be finished. -/
def anchored (name : String) : Reader Node := do
  match (← get).anchors.toList.reverse.find? (·.1 == name) with
  | some (_, some node) => return node
  | _ => failure

/-- Read a node under an anchor. -/
def anchoring (anchor : Option String) (read : Reader Node) : Reader Node := do
  match anchor with
  | none => read
  | some name =>
      let place := (← get).anchors.size
      modify fun reading => { reading with anchors := reading.anchors.push (name, none) }
      let node ← read
      modify fun reading =>
        { reading with anchors := reading.anchors.setIfInBounds place (name, some node) }
      return node

/-- The expansions of tag handles. -/
abbrev Handles :=
  List (String × String)

/-- The handles that need no directive. -/
def standardHandles : Handles :=
  [("!", "!"), ("!!", "tag:yaml.org,2002:")]

/-- The anchor and the tag in front of a node, in either order. -/
def properties : Reader (Option String × Option (String × String)) := do
  match ← peek with
  | .anchor name =>
      advance
      match ← peek with
      | .tag handle suffix =>
          advance
          return (some name, some (handle, suffix))
      | _ => return (some name, none)
  | .tag handle suffix =>
      advance
      match ← peek with
      | .anchor name =>
          advance
          return (some name, some (handle, suffix))
      | _ => return (none, some (handle, suffix))
  | _ => return (none, none)

/-- The full text of a tag; the handle must be known. -/
def expand? (handles : Handles) : Option (String × String) → Option String
  | none => some ""
  | some ("", suffix) => some suffix
  | some (handle, suffix) =>
      match handles.lookup handle with
      | some expansion => if (expansion ++ suffix).isEmpty then none else some (expansion ++ suffix)
      | none => none

/-- The collections a node may be at its place. -/
structure Position where
  /-- Whether block collections are allowed. -/
  block : Bool
  /-- Whether entries of a sequence may stand without a start of their own. -/
  indentless : Bool

/-- Inside a flow collection. -/
def Position.flow : Position :=
  ⟨false, false⟩

/-- At the top or as a member of a block sequence. -/
def Position.member : Position :=
  ⟨true, false⟩

/-- As a key or value of a block mapping. -/
def Position.entry : Position :=
  ⟨true, true⟩

mutual

/-- Read a node.  The first argument bounds the depth of the recursion. -/
def node (handles : Handles) : Nat → Position → Reader Node
  | 0, _ => failure
  | fuel + 1, position => do
      match ← peek with
      | .alias name =>
          advance
          return .alias (← anchored name)
      | _ =>
          let (anchor, tag) ← properties
          let tag ← (expand? handles tag : Option String)
          anchoring anchor do
            match ← peek with
            | .blockEntry =>
                if position.indentless then .sequence <$> indentlessMembers handles fuel
                else if anchor.isSome || !tag.isEmpty then return .scalar tag tag.isEmpty ""
                else failure
            | .scalar text plain =>
                advance
                return .scalar tag ((tag.isEmpty && plain) || tag == "!") text
            | .flowSequenceStart =>
                advance
                .sequence <$> flowMembers handles fuel true
            | .flowMappingStart =>
                advance
                .mapping <$> flowEntries handles fuel true
            | token =>
                if position.block && token == .blockSequenceStart then
                  advance
                  .sequence <$> blockMembers handles fuel
                else if position.block && token == .blockMappingStart then
                  advance
                  .mapping <$> blockEntries handles fuel
                else if anchor.isSome || !tag.isEmpty then return .scalar tag tag.isEmpty ""
                else failure

/-- Read a node unless one of some tokens comes next; then it is empty. -/
def nodeUnless (handles : Handles) : Nat → Position → List Token → Reader Node
  | 0, _, _ => failure
  | fuel + 1, position, ends => do
      if ends.contains (← peek) then return .empty else node handles fuel position

/-- The members of a block sequence, up to its end. -/
def blockMembers (handles : Handles) : Nat → Reader (List Node)
  | 0 => failure
  | fuel + 1 => do
      match ← peek with
      | .blockEntry =>
          advance
          let member ← nodeUnless handles fuel .member [.blockEntry, .blockEnd]
          return member :: (← blockMembers handles fuel)
      | .blockEnd =>
          advance
          return []
      | _ => failure

/-- The members of a sequence without a start of its own; whatever else comes
next ends it. -/
def indentlessMembers (handles : Handles) : Nat → Reader (List Node)
  | 0 => failure
  | fuel + 1 => do
      match ← peek with
      | .blockEntry =>
          advance
          let member ← nodeUnless handles fuel .member [.blockEntry, .key, .value, .blockEnd]
          return member :: (← indentlessMembers handles fuel)
      | _ => return []

/-- The entries of a block mapping, up to its end. -/
def blockEntries (handles : Handles) : Nat → Reader (List (Node × Node))
  | 0 => failure
  | fuel + 1 => do
      match ← peek with
      | .key =>
          advance
          let key ← nodeUnless handles fuel .entry [.key, .value, .blockEnd]
          let value ←
            if (← peek) == .value then
              advance
              nodeUnless handles fuel .entry [.key, .value, .blockEnd]
            else pure .empty
          return (key, value) :: (← blockEntries handles fuel)
      | .blockEnd =>
          advance
          return []
      | _ => failure

/-- The members of a flow sequence, up to its end; all but the first one follow
a comma.  A member announced as a key is a mapping with one entry. -/
def flowMembers (handles : Handles) : Nat → (first : Bool) → Reader (List Node)
  | 0, _ => failure
  | fuel + 1, first => do
      match ← peek with
      | .flowSequenceEnd =>
          advance
          return []
      | token =>
          if !first then
            if token == .flowEntry then advance else failure
          match ← peek with
          | .flowSequenceEnd =>
              advance
              return []
          | .key =>
              advance
              let next ← peek
              let key ←
                if [.value, .flowEntry, .flowSequenceEnd].contains next then
                  advance
                  pure .empty
                else node handles fuel .flow
              let value ←
                if (← peek) == .value then
                  advance
                  nodeUnless handles fuel .flow [.flowEntry, .flowSequenceEnd]
                else pure .empty
              let _ ← peek
              return .mapping [(key, value)] :: (← flowMembers handles fuel false)
          | _ =>
              let member ← node handles fuel .flow
              return member :: (← flowMembers handles fuel false)

/-- The entries of a flow mapping, up to its end; all but the first one follow a
comma.  A node that is not announced as a key has no value. -/
def flowEntries (handles : Handles) : Nat → (first : Bool) → Reader (List (Node × Node))
  | 0, _ => failure
  | fuel + 1, first => do
      match ← peek with
      | .flowMappingEnd =>
          advance
          return []
      | token =>
          if !first then
            if token == .flowEntry then advance else failure
          match ← peek with
          | .flowMappingEnd =>
              advance
              return []
          | .key =>
              advance
              let key ← nodeUnless handles fuel .flow [.value, .flowEntry, .flowMappingEnd]
              let value ←
                if (← peek) == .value then
                  advance
                  nodeUnless handles fuel .flow [.flowEntry, .flowMappingEnd]
                else pure .empty
              return (key, value) :: (← flowEntries handles fuel false)
          | _ =>
              let key ← node handles fuel .flow
              let _ ← peek
              return (key, .empty) :: (← flowEntries handles fuel false)

end

/-- Read directives up to the first other token: whether a version was given,
and the handles that were defined.  The version must be 1.1; neither it nor a
handle may be given twice. -/
def directives : List Token → (version : Bool) → Handles → Option (Handles × List Token)
  | .version major minor :: rest, version, handles =>
      if version || major != 1 || minor != 1 then none else directives rest true handles
  | .handle name expansion :: rest, version, handles =>
      if (handles.lookup name).isSome then none
      else directives rest version (handles ++ [(name, expansion)])
  | rest, _, handles => some (handles, rest)

/-- Read the content of a document: its tag handles are known.  One token more
must follow. -/
def content (handles : Handles) (tokens : List Token) (explicit : Bool) : Option Node := do
  let fuel := 3 * tokens.length + 3
  let read : Reader Node := do
    let node ←
      if explicit then
        match ← peek with
        | .version _ _ => pure .empty
        | .handle _ _ => pure .empty
        | .documentStart => pure .empty
        | .documentEnd => pure .empty
        | .streamEnd => pure .empty
        | _ => node handles fuel .member
      else node handles fuel .member
    let _ ← peek
    return node
  let (node, _) ← read.run ⟨tokens, #[]⟩
  return node

/-- The first document of a token list.  A list without any document stands for
an empty scalar; failure means that the text is not well formed. -/
def ofTokens? : List Token → Option Node
  | [] => none
  | .streamEnd :: _ => some .empty
  | .documentStart :: rest => content standardHandles rest true
  | token :: rest =>
      match token with
      | .version _ _ => start (token :: rest)
      | .handle _ _ => start (token :: rest)
      | _ => content standardHandles (token :: rest) false
where
  /-- Read the directives and the mark between them and the document. -/
  start (tokens : List Token) : Option Node := do
    let (defined, rest) ← directives tokens false []
    match rest with
    | .documentStart :: rest =>
        let inherited := standardHandles.filter fun entry => (defined.lookup entry.1).isNone
        content (defined ++ inherited) rest true
    | _ => none

/-- The first document of a text. -/
def parse? (text : String) : Option Node :=
  ofTokens? (tokens text)

end Node

end Ascent.Yaml
