import DartRoutes.Yaml.Graph
import DartRoutes.Yaml.Token

/-!
# Reading nodes

The graph of scalars and collections that the tokens of a text describe. An anchor names a node, and
an alias stands for the node that it refers to, even inside that node. Tokens are asked for one by
one, so that a fault of the tokens counts only if no rule is broken in front of it.
-/

namespace DartRoutes.Yaml

/-- What is known while the tokens of a document are read. -/
structure NodeReader where
  stream : TokenStream
  graph : Graph
  anchors : List (Text × NodeId)
  handles : List (Text × Text)

/-- A step that reads tokens. -/
abbrev NodeRead := StateT NodeReader Read

namespace NodeReader

/-- The handles that need no directive. -/
def defaultHandles : List (Text × Text) :=
  [("!", "!"), ("!!", "tag:yaml.org,2002:")]

def fail {α : Type} : NodeRead α :=
  throw .malformed

/-- The next token; there is none at the end of the text. -/
def next? : NodeRead (Option Token) := do
  let stream := (← get).stream
  match stream.tokens, stream.fault? with
  | token :: _, _ => return some token
  | [], some fault => throw fault
  | [], none => return none

/-- Goes behind the next token. -/
def advance : NodeRead Unit :=
  modify fun reader => { reader with stream.tokens := reader.stream.tokens.drop 1 }

/-- A new node. -/
def create (tag : Tag) (content : Content) : NodeRead NodeId := do
  let graph := (← get).graph
  modify fun reader => { reader with graph := graph.push ⟨tag, content⟩ }
  return graph.size

/-- A new node for something that is left out. -/
def createEmpty : NodeRead NodeId :=
  create .null (.scalar [])

/-- A new node whose parts are read when it has its number already. -/
def createAround (tag : Tag) (anchor? : Option Text) (empty : Content)
    (parts : NodeRead Content) : NodeRead NodeId := do
  let id ← create tag empty
  if let some anchor := anchor? then
    modify fun reader => { reader with anchors := (anchor, id) :: reader.anchors }
  let content ← parts
  modify fun reader => { reader with graph := reader.graph.put id ⟨tag, content⟩ }
  return id

/-- Is the next token one of the given ones? The end of the text counts as such. -/
def isAt (tokens : List Token) : NodeRead Bool := do
  match ← next? with
  | some token => return tokens.contains token
  | none => return true

/-- Goes behind the next token if it is the given one. -/
def accept (token : Token) : NodeRead Bool := do
  if (← next?) = some token then
    advance
    return true
  else return false

/-- Goes behind the given token, which has to be there. -/
def expect (token : Token) : NodeRead Unit := do
  unless ← accept token do fail

def anchor? : NodeRead (Option Text) := do
  match ← next? with
  | some (.anchor anchor) =>
      advance
      return some anchor
  | _ => return none

/-- The handle and the suffix of a tag, if there is one. -/
def tagParts? : NodeRead (Option (Option Text × Text)) := do
  match ← next? with
  | some (.tag handle? suffix) =>
      advance
      return some (handle?, suffix)
  | _ => return none

/-- The full name of a tag. -/
def tagName : Option Text × Text → NodeRead Text
  | (none, suffix) => return suffix
  | (some handle, suffix) => do
      match (← get).handles.lookup handle with
      | some expansion => return expansion ++ suffix
      | none => fail

/-- The anchor and the full tag name of a node, in either order. -/
def properties : NodeRead (Option Text × Option Text) := do
  let first? ← anchor?
  let parts? ← tagParts?
  let anchor? ← if first?.isNone && parts?.isSome then anchor? else pure first?
  match parts? with
  | some parts => return (anchor?, some (← tagName parts))
  | none => return (anchor?, none)

/-- The tag of a node that has the given tag name, or no tag of its own. -/
def tagOr (default : Tag) (tagName? : Option Text) : Tag :=
  match tagName? with
  | none => default
  | some ['!'] => default
  | some name => .ofName name

/-- The node that an alias refers to. -/
def aliased (anchor : Text) : NodeRead NodeId := do
  match (← get).anchors.lookup anchor with
  | some id => return id
  | none => fail

/-- Fails if an anchor is taken. -/
def checkAnchor : Option Text → NodeRead Unit
  | some anchor => do if ((← get).anchors.lookup anchor).isSome then fail
  | none => return

mutual

/-- A node; block collections are possible only outside brackets and braces, and a sequence without
an indentation of its own only as an entry of a mapping. -/
def node : (fuel : Nat) → (inBlock mayBeIndentless : Bool) → NodeRead NodeId
  | 0, _, _ => fail
  | fuel + 1, inBlock, mayBeIndentless => do
      if let some (.alias anchor) ← next? then
        advance
        aliased anchor
      else
        let (anchor?, tagName?) ← properties
        let token? ← next?
        checkAnchor anchor?
        let scalar (tag : Tag) (text : Text) : NodeRead NodeId :=
          createAround tag anchor? (.scalar text) (pure (.scalar text))
        let sequence (items : NodeRead (List NodeId)) : NodeRead NodeId :=
          createAround (tagOr .sequence tagName?) anchor? (.sequence []) (.sequence <$> items)
        let mapping (entries : NodeRead (List Entry)) : NodeRead NodeId :=
          createAround (tagOr .mapping tagName?) anchor? (.mapping []) (.mapping <$> entries)
        match token? with
        | some (.scalar text plain) =>
            advance
            let default := if plain || tagName? = some ['!'] then Scalar.tagOf text else .text
            scalar (tagOr default tagName?) text
        | some .flowSequenceStart =>
            advance
            sequence (flowItems fuel true)
        | some .flowMappingStart =>
            advance
            mapping (flowEntries fuel true)
        | token? =>
            if mayBeIndentless && token? == some .blockEntry then
              sequence (indentlessItems fuel)
            else if inBlock && token? == some .blockSequenceStart then
              advance
              sequence (blockItems fuel)
            else if inBlock && token? == some .blockMappingStart then
              advance
              mapping (blockEntries fuel)
            else if anchor?.isSome || tagName?.isSome then scalar (tagOr .null tagName?) []
            else fail

def blockItems : (fuel : Nat) → NodeRead (List NodeId)
  | 0 => fail
  | fuel + 1 => do
      if ← accept .blockEntry then
        let item ←
          if ← isAt [.blockEntry, .blockEnd] then createEmpty else node fuel true false
        return item :: (← blockItems fuel)
      else
        expect .blockEnd
        return []

/-- The items of a sequence that stands at the indentation of the mapping around it. -/
def indentlessItems : (fuel : Nat) → NodeRead (List NodeId)
  | 0 => fail
  | fuel + 1 => do
      if ← accept .blockEntry then
        let item ←
          if ← isAt [.blockEntry, .key, .value, .blockEnd] then createEmpty
          else node fuel true false
        return item :: (← indentlessItems fuel)
      else return []

def blockEntries : (fuel : Nat) → NodeRead (List Entry)
  | 0 => fail
  | fuel + 1 => do
      if ← accept .key then
        let key ← if ← isAt [.key, .value, .blockEnd] then createEmpty else node fuel true true
        let value ←
          if ← accept .value then
            if ← isAt [.key, .value, .blockEnd] then createEmpty else node fuel true true
          else createEmpty
        return (key, value) :: (← blockEntries fuel)
      else
        expect .blockEnd
        return []

def flowItems : (fuel : Nat) → (isFirst : Bool) → NodeRead (List NodeId)
  | 0, _ => fail
  | fuel + 1, isFirst => do
      if ← accept .flowSequenceEnd then return []
      else
        unless isFirst do expect .flowEntry
        if ← accept .key then
          let pair ← createAround .mapping none (.mapping []) do
            let key ←
              if ← isAt [.value, .flowEntry, .flowSequenceEnd] then createEmpty
              else node fuel false false
            let value ←
              if ← accept .value then
                if ← isAt [.flowEntry, .flowSequenceEnd] then createEmpty
                else node fuel false false
              else createEmpty
            return .mapping [(key, value)]
          return pair :: (← flowItems fuel false)
        else if ← accept .flowSequenceEnd then return []
        else
          let item ← node fuel false false
          return item :: (← flowItems fuel false)

def flowEntries : (fuel : Nat) → (isFirst : Bool) → NodeRead (List Entry)
  | 0, _ => fail
  | fuel + 1, isFirst => do
      if ← accept .flowMappingEnd then return []
      else
        unless isFirst do expect .flowEntry
        if ← accept .key then
          let key ←
            if ← isAt [.value, .flowEntry, .flowMappingEnd] then createEmpty
            else node fuel false false
          let value ←
            if ← accept .value then
              if ← isAt [.flowEntry, .flowMappingEnd] then createEmpty
              else node fuel false false
            else createEmpty
          return (key, value) :: (← flowEntries fuel false)
        else if ← accept .flowMappingEnd then return []
        else
          let key ← node fuel false false
          return (key, ← createEmpty) :: (← flowEntries fuel false)

end

/-- The directives of a document, which has at most `fuel` of them: whether a version was stated,
and the handles. -/
def directives : (fuel : Nat) → (versioned : Bool) → (handles : List (Text × Text)) →
    NodeRead (List (Text × Text))
  | 0, _, _ => fail
  | fuel + 1, versioned, handles => do
      match ← next? with
      | some (.directive directive) =>
          advance
          match directive with
          | .version major =>
              if versioned || major != 1 then fail
              else directives fuel true handles
          | .tagHandle handle expansion =>
              if (handles.lookup handle).isSome then fail
              else directives fuel versioned (handles ++ [(handle, expansion)])
          | .unknown => directives fuel versioned handles
      | _ => return handles

/-- Goes behind the marks of the end of a document. -/
def skipDocumentEnds : (fuel : Nat) → NodeRead Unit
  | 0 => return
  | fuel + 1 => do
      if ← accept .documentEnd then skipDocumentEnds fuel

/-- The root node of a text, if the text is not empty; a text has at most one document. -/
def document (fuel : Nat) : NodeRead (Option NodeId) := do
  match ← next? with
  | none => return none
  | some token =>
      let starts := match token with
        | .directive _ | .documentStart => true
        | _ => false
      let root ←
        if starts then
          let handles ← directives fuel false []
          modify fun reader => { reader with handles := handles ++ defaultHandles }
          expect .documentStart
          match ← next? with
          | none | some .documentStart | some .documentEnd | some (.directive _) => createEmpty
          | _ => node fuel true false
        else node fuel true false
      skipDocumentEnds fuel
      match ← next? with
      | none => return some root
      | some _ => do
          let _ ← directives fuel false []
          fail

end NodeReader

/-- The nodes of a stream of tokens, and the number of the root, if there is one. -/
def Graph.ofTokens (stream : TokenStream) : Read (Graph × Option NodeId) := do
  let start : NodeReader := ⟨stream, .empty, [], NodeReader.defaultHandles⟩
  let (root?, reader) ← (NodeReader.document (4 * stream.tokens.length + 8)).run start
  return (reader.graph, root?)

end DartRoutes.Yaml
