import NetAtlas.Yaml.Resolution
import NetAtlas.Yaml.Token

/-!
The nodes of a YAML document: scalars, lists and mappings with their tags, every alias replaced by
the node that it stands for.
-/

namespace NetAtlas.Yaml

inductive Node where
  | scalar (tag text : String)
  | list (tag : String) (items : List Node)
  | mapping (tag : String) (entries : List (Node × Node))
deriving Inhabited

/-- Tokens to come, anchors so far, and handles for tags. An anchor inside its own node has no node
yet. -/
structure Builder where
  tokens : List Token
  anchors : List (String × Option Node)
  handles : List (String × String)

abbrev Building := StateT Builder (Except Problem)

def standardHandles : List (String × String) := [("!", "!"), ("!!", standardTags)]

def peekToken : Building (Option Token) := return (← get).tokens.head?

def dropToken : Building Unit := modify fun b => { b with tokens := b.tokens.drop 1 }

def refuse {α : Type} (p : Problem) : Building α := throw p

/-- Passes over a token that has to be there. -/
def expect (t : Token) : Building Unit := do
  if (← peekToken) = some t then dropToken else refuse .unexpected

/-- Passes over a token if it is there. -/
def accept (t : Token) : Building Bool := do
  if (← peekToken) = some t then
    dropToken
    return true
  else return false

/-- Is one of the tokens next, or the end? -/
def atAny (ts : List Token) : Building Bool := do
  match ← peekToken with
  | some t => return ts.contains t
  | none => return true

/-- What stands in front of a node. -/
structure Properties where
  anchor : Option String
  tag : Option String

def tagText (handle : Option String) (suffix : String) : Building String := do
  match handle with
  | none => return suffix
  | some h =>
    match (← get).handles.lookup h with
    | some meaning => return meaning ++ suffix
    | none => refuse .badTag

def anchor? : Building (Option String) := do
  match ← peekToken with
  | some (.anchor name) =>
    dropToken
    return some name
  | _ => return none

def tag? : Building (Option String) := do
  match ← peekToken with
  | some (.tag handle suffix) =>
    dropToken
    let text ← tagText handle suffix
    return some text
  | _ => return none

/-- An anchor and a tag, in either order. -/
def properties : Building Properties := do
  match ← anchor? with
  | some name =>
    let tag ← tag?
    return ⟨some name, tag⟩
  | none =>
    match ← tag? with
    | some tag =>
      let anchor ← anchor?
      return ⟨anchor, some tag⟩
    | none => return ⟨none, none⟩

/-- Opens an anchor, which must be new. -/
def openAnchor (p : Properties) : Building Unit := do
  match p.anchor with
  | none => return ()
  | some name =>
    if ((← get).anchors.lookup name).isSome then refuse (.repeatedAnchor name)
    modify fun b => { b with anchors := (name, none) :: b.anchors }

/-- Gives an anchor its node. -/
def closeAnchor (p : Properties) (n : Node) : Building Node := do
  match p.anchor with
  | none => return n
  | some name =>
    modify fun b => { b with anchors := (name, some n) :: b.anchors }
    return n

def aliased (name : String) : Building Node := do
  match (← get).anchors.lookup name with
  | some (some n) => return n
  | _ => refuse (.undefinedAlias name)

/-- The tag of a list or mapping, where none or a lone mark means the standard one. -/
def collectionTag (standard : String) : Option String → String
  | none | some "!" => standard
  | some tag => tag

/-- A text with its tag. Without one, a plain text shows by its form what it is. -/
def scalarNode (tag : Option String) (text : String) (plain : Bool) : Node :=
  match tag with
  | none => .scalar (if plain then tagOfPlain text else textTag) text
  | some "!" => .scalar (tagOfPlain text) text
  | some tag => .scalar tag text

def emptyNode : Node := scalarNode none "" true

mutual

/-- A node. Block collections are allowed in a block only, and a list without indentation of its
own where an entry of a mapping may have one. -/
def node (block indentless : Bool) : (fuel : Nat) → Building Node
  | 0 => refuse .unexpected
  | fuel + 1 => do
    match ← peekToken with
    | some (.alias name) =>
      dropToken
      aliased name
    | _ =>
      let p ← properties
      openAnchor p
      let n ←
        match ← peekToken with
        | some (.scalar text plain) => do
          dropToken
          pure (scalarNode p.tag text plain)
        | some .blockEntry => do
          if !indentless then refuse .unexpected
          let items ← looseItems fuel
          pure (.list (collectionTag listTag p.tag) items)
        | some .openList => do
          dropToken
          let items ← flowItems true fuel
          pure (.list (collectionTag listTag p.tag) items)
        | some .openMapping => do
          dropToken
          let entries ← flowEntries true fuel
          pure (.mapping (collectionTag mappingTag p.tag) entries)
        | some .blockSequence => do
          if !block then refuse .unexpected
          dropToken
          let items ← blockItems fuel
          pure (.list (collectionTag listTag p.tag) items)
        | some .blockMapping => do
          if !block then refuse .unexpected
          dropToken
          let entries ← blockEntries fuel
          pure (.mapping (collectionTag mappingTag p.tag) entries)
        | _ =>
          if p.anchor.isSome || p.tag.isSome then pure (scalarNode p.tag "" true)
          else refuse .unexpected
      closeAnchor p n

/-- A node, or an empty one before some tokens. -/
def nodeBefore (ends : List Token) (block indentless : Bool) : (fuel : Nat) → Building Node
  | 0 => refuse .unexpected
  | fuel + 1 => do
    if ← atAny ends then return emptyNode else node block indentless fuel

/-- The items of an indented list, and its end. -/
def blockItems : (fuel : Nat) → Building (List Node)
  | 0 => refuse .unexpected
  | fuel + 1 => do
    if ← accept .blockEntry then
      let n ← nodeBefore [.blockEntry, .blockEnd] true false fuel
      let ns ← blockItems fuel
      return n :: ns
    else
      expect .blockEnd
      return []

/-- The items of a list that is indented no further than the mapping around it. -/
def looseItems : (fuel : Nat) → Building (List Node)
  | 0 => refuse .unexpected
  | fuel + 1 => do
    if ← accept .blockEntry then
      let n ← nodeBefore [.blockEntry, .key, .value, .blockEnd] true false fuel
      let ns ← looseItems fuel
      return n :: ns
    else return []

/-- The entries of an indented mapping, and its end. -/
def blockEntries : (fuel : Nat) → Building (List (Node × Node))
  | 0 => refuse .unexpected
  | fuel + 1 => do
    if ← accept .key then
      let k ← nodeBefore [.key, .value, .blockEnd] true true fuel
      let v ←
        if ← accept .value then nodeBefore [.key, .value, .blockEnd] true true fuel
        else pure emptyNode
      let es ← blockEntries fuel
      return (k, v) :: es
    else
      expect .blockEnd
      return []

/-- The items of a list in brackets, and its end. A key among them is a mapping of one entry. -/
def flowItems (first : Bool) : (fuel : Nat) → Building (List Node)
  | 0 => refuse .unexpected
  | fuel + 1 => do
    if ← accept .closeList then return []
    if !first then expect .flowEntry
    if ← accept .closeList then return []
    let n ←
      if ← accept .key then do
        let k ← nodeBefore [.value, .flowEntry, .closeList] false false fuel
        let v ← flowValue [.flowEntry, .closeList] fuel
        pure (.mapping mappingTag [(k, v)])
      else node false false fuel
    let ns ← flowItems false fuel
    return n :: ns

/-- The entries of a mapping in braces, and its end. -/
def flowEntries (first : Bool) : (fuel : Nat) → Building (List (Node × Node))
  | 0 => refuse .unexpected
  | fuel + 1 => do
    if ← accept .closeMapping then return []
    if !first then expect .flowEntry
    if ← accept .closeMapping then return []
    let entry ←
      if ← accept .key then do
        let k ← nodeBefore [.value, .flowEntry, .closeMapping] false false fuel
        let v ← flowValue [.flowEntry, .closeMapping] fuel
        pure (k, v)
      else do
        let k ← node false false fuel
        pure (k, emptyNode)
    let es ← flowEntries false fuel
    return entry :: es

/-- The value behind a colon, or an empty one. -/
def flowValue (ends : List Token) : (fuel : Nat) → Building Node
  | 0 => refuse .unexpected
  | fuel + 1 => do
    if ← accept .value then nodeBefore ends false false fuel else return emptyNode

end

/-- Directives in front of a document: at most one version, which must be 1, and handles. -/
def directives : (fuel : Nat) → (versioned : Bool) → Building Bool
  | 0, _ => refuse .unexpected
  | fuel + 1, versioned => do
    match ← peekToken with
    | some (.version major) =>
      if versioned || major != 1 then refuse .badDirective
      dropToken
      let _ ← directives fuel true
      return true
    | some (.handle name meaning) =>
      let known := (← get).handles.drop standardHandles.length
      if (known.lookup name).isSome then refuse .badDirective
      dropToken
      modify fun b => { b with handles := b.handles ++ [(name, meaning)] }
      let _ ← directives fuel versioned
      return true
    | some .otherDirective =>
      dropToken
      let _ ← directives fuel versioned
      return true
    | _ => return false

def skipDocumentEnds : (fuel : Nat) → Building Unit
  | 0 => return ()
  | fuel + 1 => do
    if ← accept .documentEnd then skipDocumentEnds fuel

/-- The one document of a text, if there is any. -/
def document : Building (Option Node) := do
  let size := 4 * (← get).tokens.length + 8
  let found ← directives size false
  match ← peekToken with
  | none => if found then refuse .unexpected else return none
  | some t =>
    let n ←
      if t = .documentStart then do
        dropToken
        nodeBefore [.documentStart, .documentEnd, .version 0, .otherDirective] true false size
      else do
        if found then refuse .unexpected
        node true false size
    if ← accept .documentEnd then skipDocumentEnds size
    if (← peekToken).isSome then refuse .manyDocuments
    return some n

/-- The node of a text, if it holds a document. -/
def nodeOf? (cs : List Char) : Except Problem (Option Node) := do
  let tokens ← tokensOf cs
  let (n, _) ← document.run ⟨tokens, [], standardHandles⟩
  return n

end NetAtlas.Yaml
