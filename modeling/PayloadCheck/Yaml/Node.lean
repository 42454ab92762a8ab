import PayloadCheck.Yaml.Tag
import PayloadCheck.Yaml.Tokens

/-!
# Nodes

The structure of a document: texts, lists and maps with their tags. A node may be named by an
anchor, and an alias puts the named node in its place.
-/

namespace PayloadCheck.Yaml

/-- A part of a document. -/
inductive Node where
  | scalar (tag : Tag) (text : String)
  | list (tag : Tag) (items : List Node)
  | map (tag : Tag) (entries : List (Node × Node))

/-- The node where none is written. -/
def Node.empty : Node := .scalar .null ""

/-- What is left of the tokens, the nodes named so far, and what handles stand for. A name whose
node is not finished has none yet. -/
structure Pending where
  tokens : List Token
  anchors : List (String × Option Node) := []
  handles : List (String × String) := []

/-- Readers of nodes. -/
abbrev Reader := StateT Pending Step

namespace Reader

/-- Ends a reading because the tokens do not fit together. -/
def refuse {α : Type} (what : String) : Reader α := fun _ => malformed what

/-- The next token. -/
def peek : Reader (Option Token) := do return (← get).tokens.head?

/-- Goes on to the token after the next. -/
def skip : Reader Unit := modify fun s => { s with tokens := s.tokens.tail }

/-- Whether the next token is one of some. -/
def sees (ts : List Token) : Reader Bool := do return (← peek).any ts.contains

/-- Goes over the next token if it is the given one; tells whether. -/
def accepts (t : Token) : Reader Bool := do
  if (← peek) == some t then
    skip
    return true
  else return false

/-- The handles that need no directive. -/
def usualHandles : List (String × String) := [("!", "!"), ("!!", Tag.standard)]

/-- The full name of a tag. -/
def fullName (handle : Option String) (suffix : String) : Reader String := do
  match handle with
  | none => return suffix
  | some h =>
    match (← get).handles.lookup h with
    | some leading => return leading ++ suffix
    | none => refuse "a handle has no meaning"

/-- Reads an anchor and a tag, in either order; each may be missing. -/
def properties : Reader (Option String × Option String) := do
  match ← peek with
  | some (.anchor name) =>
    skip
    match ← peek with
    | some (.tag handle suffix) =>
      skip
      return (some name, some (← fullName handle suffix))
    | _ => return (some name, none)
  | some (.tag handle suffix) =>
    skip
    match ← peek with
    | some (.anchor name) =>
      skip
      return (some name, some (← fullName handle suffix))
    | _ => return (none, some (← fullName handle suffix))
  | _ => return (none, none)

/-- The node that an alias stands for. -/
def named (name : String) : Reader Node := do
  match (← get).anchors.lookup name with
  | some (some node) => return node
  | some none => refuse "a node stands in itself"
  | none => refuse "an alias has no anchor"

/-- Notes that a node has a name. Two nodes have different names. -/
def announce (anchor : Option String) : Reader Unit := do
  match anchor with
  | none => return
  | some name =>
    if ((← get).anchors.lookup name).isSome then refuse "two anchors have one name"
    else modify fun s => { s with anchors := (name, none) :: s.anchors }

/-- Notes the node of a name. -/
def remember (anchor : Option String) (node : Node) : Reader Node := do
  match anchor with
  | none => return node
  | some name =>
    modify fun s => { s with anchors := (name, some node) :: s.anchors }
    return node

/-- The tag of a text: the written one, or the one that it has by its form. -/
def textTag (plain : Bool) (text : String) : Option String → Tag
  | none => if plain then .ofPlain text else .text
  | some name => if name == "!" then .ofPlain text else .ofName name

/-- The tag of a list or map: the written one, or the usual one. -/
def collectionTag (usual : Tag) : Option String → Tag
  | none => usual
  | some name => if name == "!" then usual else .ofName name

mutual

/-- Reads a node. In a block, indented lists and maps are read as well; as the value of a key, a
list need not be indented. -/
def node (inBlock unindented : Bool) : (steps : Nat) → Reader Node
  | 0 => refuse "the nesting is too deep"
  | n + 1 => do
    match ← peek with
    | some (.alias name) =>
      skip
      named name
    | _ =>
      let (anchor, tag) ← properties
      announce anchor
      match ← peek with
      | some (.scalar plain text) =>
        skip
        remember anchor (.scalar (textTag plain text tag) text)
      | some .listOpen =>
        skip
        remember anchor (.list (collectionTag .list tag) (← bracketItems true n))
      | some .mapOpen =>
        skip
        remember anchor (.map (collectionTag .map tag) (← bracketEntries true n))
      | next =>
        if unindented && next == some .dash then
          remember anchor (.list (collectionTag .list tag) (← unindentedItems n))
        else if inBlock && next == some .blockSequence then
          skip
          remember anchor (.list (collectionTag .list tag) (← blockItems n))
        else if inBlock && next == some .blockMap then
          skip
          remember anchor (.map (collectionTag .map tag) (← blockEntries n))
        else if anchor.isSome || tag.isSome then
          remember anchor (.scalar (textTag true "" tag) "")
        else refuse "a node is expected"

/-- Reads the items of an indented list. -/
def blockItems : (steps : Nat) → Reader (List Node)
  | 0 => refuse "the nesting is too deep"
  | n + 1 => do
    if ← accepts .dash then
      let item ← if ← sees [.dash, .blockEnd] then pure Node.empty else node true false n
      return item :: (← blockItems n)
    else if ← accepts .blockEnd then return []
    else refuse "the end of a block is expected"

/-- Reads the items of a list that is not indented. -/
def unindentedItems : (steps : Nat) → Reader (List Node)
  | 0 => refuse "the nesting is too deep"
  | n + 1 => do
    if ← accepts .dash then
      let item ← if ← sees [.dash, .key, .value, .blockEnd] then pure Node.empty
        else node true false n
      return item :: (← unindentedItems n)
    else return []

/-- Reads the entries of an indented map. -/
def blockEntries : (steps : Nat) → Reader (List (Node × Node))
  | 0 => refuse "the nesting is too deep"
  | n + 1 => do
    let absent := [Token.key, .value, .blockEnd]
    if ← accepts .key then
      let key ← if ← sees absent then pure Node.empty else node true true n
      let value ← if ← accepts .value then
          if ← sees absent then pure Node.empty else node true true n
        else pure Node.empty
      return (key, value) :: (← blockEntries n)
    else if ← accepts .blockEnd then return []
    else refuse "the end of a block is expected"

/-- Reads the items of a list in brackets. An item may be a key and its value. -/
def bracketItems (first : Bool) : (steps : Nat) → Reader (List Node)
  | 0 => refuse "the nesting is too deep"
  | n + 1 => do
    if ← accepts .listClose then return []
    if !first then
      if !(← accepts .comma) then refuse "a comma or a closing bracket is expected"
    if ← accepts .key then
      let key ← if ← sees [.value, .comma, .listClose] then pure Node.empty else node false false n
      let value ← if ← accepts .value then
          if ← sees [.comma, .listClose] then pure Node.empty else node false false n
        else pure Node.empty
      return .map .map [(key, value)] :: (← bracketItems false n)
    else if ← accepts .listClose then return []
    else
      let item ← node false false n
      return item :: (← bracketItems false n)

/-- Reads the entries of a map in brackets. A key may have no value. -/
def bracketEntries (first : Bool) : (steps : Nat) → Reader (List (Node × Node))
  | 0 => refuse "the nesting is too deep"
  | n + 1 => do
    if ← accepts .mapClose then return []
    if !first then
      if !(← accepts .comma) then refuse "a comma or a closing bracket is expected"
    if ← accepts .key then
      let key ← if ← sees [.value, .comma, .mapClose] then pure Node.empty else node false false n
      let value ← if ← accepts .value then
          if ← sees [.comma, .mapClose] then pure Node.empty else node false false n
        else pure Node.empty
      return (key, value) :: (← bracketEntries false n)
    else if ← accepts .mapClose then return []
    else
      let key ← node false false n
      return (key, Node.empty) :: (← bracketEntries false n)

end

/-! ## Documents -/

/-- Whether a token is a directive. -/
def isDirective : Option Token → Bool
  | some (.directive _) => true
  | _ => false

/-- Reads the directives of a document: at most one version, which must be 1, and handles with
different names. -/
def directives (versionSeen : Bool) (handles : List (String × String)) :
    List Token → Step (List (String × String) × List Token)
  | .directive d :: rest =>
    match d with
    | .version major _ =>
      if versionSeen then malformed "a document has one version"
      else if major != 1 then malformed "the version is not known"
      else directives true handles rest
    | .handle name leading =>
      if (handles.lookup name).isSome then malformed "two handles have one name"
      else directives versionSeen ((name, leading) :: handles) rest
    | .unknown => directives versionSeen handles rest
  | ts => .ok (handles ++ usualHandles, ts)

/-- Reads the beginning of a document. -/
def beginning : Reader Unit := fun s =>
  match s.tokens with
  | .documentStart :: rest => .ok ((), ⟨rest, [], usualHandles⟩)
  | .directive d :: rest => do
    let (handles, rest) ← directives false [] (.directive d :: rest)
    match rest with
    | .documentStart :: rest => return ((), ⟨rest, [], handles⟩)
    | _ => malformed "the beginning of the document is expected"
  | tokens => .ok ((), ⟨tokens, [], usualHandles⟩)

/-- Reads a document: it may be empty after an explicit beginning, and it is the only one. -/
def document (steps : Nat) : Reader Node := do
  let explicit := isDirective (← peek) || (← sees [.documentStart])
  beginning
  let next ← peek
  let isEmpty := next.isNone || isDirective next || (← sees [.documentStart, .documentEnd])
  let root ← if explicit && isEmpty then pure Node.empty else node true false steps
  modify fun s => { s with tokens := s.tokens.dropWhile (· == .documentEnd) }
  if (← peek).isSome then refuse "there is more than one document" else return root

end Reader

/-- The node of a document that has one; nesting is bounded by the number of tokens. -/
def Node.ofTokens (tokens : List Token) : Step (Option Node) :=
  if tokens.isEmpty then .ok none
  else do
    let (root, _) ← Reader.document (3 * tokens.length + 3) { tokens }
    return some root

end PayloadCheck.Yaml
