import WorkQueue.Yaml.Scanner

/-!
# Reading YAML text

Puts the tokens of a text together to the value of its only document. Nodes may carry anchors, which
aliases later repeat, and tags, which say what plain scalars are.

## Main definitions

* `Yaml.Reading`: the tokens left, and the names that nodes have been given
* `Yaml.Reading.node`: the node that starts with the next token
* `Yaml.read?`: the value of a text; a text without content is an empty mapping
-/

namespace WorkQueue.Yaml

/-- A node that has been read; a scalar whose text does not fit its tag has no value. -/
abbrev Node := Option Yaml

/-- A node that is empty. -/
def Node.empty : Node := some .null

/-- A name for a node. -/
structure Anchor where
  name : String
  /-- The node, once it has been read. -/
  node : Option Node := none
  deriving Inhabited

/-- What is known in the middle of a document. -/
structure Reading where
  /-- The tokens that follow. -/
  tokens : List Token
  /-- The anchors so far, the last one first. -/
  anchors : List Anchor := []
  /-- The handle that the last directive declared, and what it stands for. -/
  handle : Option (String × String) := none

/-! ### Values -/

/-- The values that belong to each other as keys and values. A node without a value is no key: the
next one takes its place. -/
def pairs : List Node → List (Yaml × Yaml)
  | some key :: value :: rest => (key, value.getD .null) :: pairs rest
  | none :: rest => pairs rest
  | _ => []

/-- The mapping of nodes that are keys and values in turn. -/
def mappingOf? (nodes : List Node) : Option Node := (mapping? (pairs nodes)).map some

/-- The list of nodes. -/
def sequenceOf (nodes : List Node) : Node := some (.sequence (nodes.map (·.getD .null)))

/-- What tags of the language itself begin with. -/
def coreTag : String := "tag:yaml.org,2002:"

/-- The value of a plain scalar with a tag. -/
def ofTagged (tag : TagName) (s : String) : Node :=
  if tag.handle ≠ coreTag then some (.text s)
  else if tag.suffix = "bool" then
    if s = "true" then some (.bool true) else if s = "false" then some (.bool false) else none
  else if tag.suffix = "int" then (Text.word? 10 s.toList).map .integer
  else if tag.suffix = "float" then
    if isSpecialReal s || (Binary64.ofText? s).isSome then some (.real s) else none
  else if tag.suffix = "null" then if s = "~" ∨ s = "null" then some .null else none
  else some (.text s)

/-- The value of a scalar. Only of plain ones does the tag matter. -/
def scalarNode (plain : Bool) (tag : Option TagName) (s : String) : Node :=
  if !plain then some (.text s)
  else
    match tag with
    | some tag => ofTagged tag s
    | none => some (ofPlain s)

namespace Reading

/-! ### Names -/

/-- What a handle of a tag stands for; a handle in marks has to be declared. -/
def resolve? (r : Reading) (tag : TagName) : Option TagName :=
  match r.handle.filter fun h => h.1 = tag.handle with
  | some (_, expansion) => some { tag with handle := expansion }
  | none =>
    if tag.handle = "!!" then some { tag with handle := coreTag }
    else if 2 ≤ tag.handle.length then none
    else some tag

/-- Adds an anchor, whose node is still to be read. -/
def declare (r : Reading) (name : String) : Reading :=
  { r with anchors := { name := name } :: r.anchors }

/-- Gives the anchor that was added after `before` other ones its node. -/
def complete (r : Reading) (before : Option Nat) (node : Node) : Reading :=
  match before with
  | none => r
  | some before =>
    { r with anchors := r.anchors.modify (r.anchors.length - 1 - before) fun a =>
        { a with node := some node } }

/-- The node that an alias repeats. Inside of the node itself it has no value. -/
def lookup? (r : Reading) (name : String) : Option Node :=
  (r.anchors.find? fun a => a.name = name).map fun a => a.node.getD none

/-- The names before a node. -/
structure Names where
  /-- The number of anchors before the one of this node. -/
  anchor : Option Nat := none
  tag : Option TagName := none

/-- Reads the anchor and the tag of a node, in either order. -/
def names (r : Reading) : Option (Names × Reading) :=
  let count := some r.anchors.length
  match r.tokens with
  | .anchor name :: .tag tag :: rest => do
    let tag ← r.resolve? tag
    some (⟨count, tag⟩, { r with tokens := rest }.declare name)
  | .tag tag :: .anchor name :: rest => do
    let tag ← r.resolve? tag
    some (⟨count, tag⟩, { r with tokens := rest }.declare name)
  | .anchor name :: rest => some (⟨count, none⟩, { r with tokens := rest }.declare name)
  | .tag tag :: rest => do
    let tag ← r.resolve? tag
    some (⟨none, tag⟩, { r with tokens := rest })
  | _ => some ({}, r)

/-! ### Nodes -/

/-- The tokens that follow. -/
def at_ (r : Reading) (rest : List Token) : Reading := { r with tokens := rest }

/-- An entry of a block ends here. -/
def endsBlockEntry : List Token → Bool
  | .key :: _ | .value :: _ | .blockEnd :: _ => true
  | _ => false

/-- An item of a block ends here. -/
def endsBlockItem : List Token → Bool
  | .blockEntry :: _ | .blockEnd :: _ => true
  | _ => false

/-- An item of a list whose dashes stand in the column of the keys ends here. -/
def endsFlatItem (tokens : List Token) : Bool := endsBlockItem tokens || endsBlockEntry tokens

/-- An entry inside braces ends here. -/
def endsFlowEntry : List Token → Bool
  | .flowEntry :: _ | .flowMappingEnd :: _ => true
  | _ => false

/-- An item inside brackets ends here. -/
def endsFlowItem : List Token → Bool
  | .flowEntry :: _ | .flowSequenceEnd :: _ => true
  | _ => false

mutual

/-- Reads a node. Blocks may start only if `block` holds, and a list without a block of its own only
if `flat` holds. -/
def node : Nat → Bool → Bool → Reading → Option (Node × Reading)
  | 0, _, _, _ => none
  | fuel + 1, block, flat, r =>
    match r.tokens with
    | .alias name :: rest => (r.lookup? name).map fun n => (n, r.at_ rest)
    | _ =>
      match r.names with
      | none => none
      | some (names, r) =>
        let named := names.anchor.isSome || names.tag.isSome
        let empty := if named then some (scalarNode true names.tag "", r) else none
        let outcome := match r.tokens with
          | .scalar plain s :: rest => some (scalarNode plain names.tag s, r.at_ rest)
          | .flowSequenceStart :: rest => flowItems fuel true [] (r.at_ rest)
          | .flowMappingStart :: rest => flowKey fuel true [] (r.at_ rest)
          | .blockSequenceStart :: rest => if block then blockItems fuel [] (r.at_ rest) else empty
          | .blockMappingStart :: rest => if block then blockKey fuel [] (r.at_ rest) else empty
          | .blockEntry :: _ => if flat then flatItems fuel [] r else empty
          | _ => empty
        outcome.map fun (n, r) => (n, r.complete names.anchor n)

/-- Reads the items of a block. -/
def blockItems : Nat → List Node → Reading → Option (Node × Reading)
  | 0, _, _ => none
  | fuel + 1, acc, r =>
    match r.tokens with
    | .blockEnd :: rest => some (sequenceOf acc.reverse, r.at_ rest)
    | .blockEntry :: rest =>
      if endsBlockItem rest then blockItems fuel (Node.empty :: acc) (r.at_ rest)
      else
        match node fuel true false (r.at_ rest) with
        | none => none
        | some (n, r) => blockItems fuel (n :: acc) r
    | _ => none

/-- Reads the items of a list without a block of its own. -/
def flatItems : Nat → List Node → Reading → Option (Node × Reading)
  | 0, _, _ => none
  | fuel + 1, acc, r =>
    match r.tokens with
    | .blockEntry :: rest =>
      if endsFlatItem rest then flatItems fuel (Node.empty :: acc) (r.at_ rest)
      else
        match node fuel true false (r.at_ rest) with
        | none => none
        | some (n, r) => flatItems fuel (n :: acc) r
    | _ => some (sequenceOf acc.reverse, r)

/-- Reads the entries of a block, from a key on. -/
def blockKey : Nat → List Node → Reading → Option (Node × Reading)
  | 0, _, _ => none
  | fuel + 1, acc, r =>
    match r.tokens with
    | .key :: rest =>
      if endsBlockEntry rest then blockValue fuel (Node.empty :: acc) (r.at_ rest)
      else
        match node fuel true true (r.at_ rest) with
        | none => none
        | some (n, r) => blockValue fuel (n :: acc) r
    | .value :: _ => blockValue fuel (Node.empty :: acc) r
    | .blockEnd :: rest => (mappingOf? acc.reverse).map fun n => (n, r.at_ rest)
    | _ => none

/-- Reads the value of an entry of a block and the entries after it. -/
def blockValue : Nat → List Node → Reading → Option (Node × Reading)
  | 0, _, _ => none
  | fuel + 1, acc, r =>
    match r.tokens with
    | .value :: rest =>
      if endsBlockEntry rest then blockKey fuel (Node.empty :: acc) (r.at_ rest)
      else
        match node fuel true true (r.at_ rest) with
        | none => none
        | some (n, r) => blockKey fuel (n :: acc) r
    | _ => blockKey fuel (Node.empty :: acc) r

/-- Reads the entries inside braces, from a key on. -/
def flowKey : Nat → Bool → List Node → Reading → Option (Node × Reading)
  | 0, _, _, _ => none
  | fuel + 1, first, acc, r =>
    let next := match r.tokens with
      | .flowEntry :: rest => if first then none else some (r.at_ rest)
      | .flowMappingEnd :: _ => some r
      | _ => if first then some r else none
    match next with
    | none => none
    | some r =>
      match r.tokens with
      | .flowMappingEnd :: rest => (mappingOf? acc.reverse).map fun n => (n, r.at_ rest)
      | .value :: _ => flowValue fuel (Node.empty :: acc) r
      | .key :: .value :: rest => flowValue fuel (Node.empty :: acc) (r.at_ (.value :: rest))
      | .key :: rest =>
        if endsFlowEntry rest then flowValue fuel (Node.empty :: acc) (r.at_ rest)
        else
          match node fuel false false (r.at_ rest) with
          | none => none
          | some (n, r) => flowValue fuel (n :: acc) r
      | _ =>
        match node fuel false false r with
        | none => none
        | some (n, r) => flowKey fuel false (Node.empty :: n :: acc) r

/-- Reads the value of an entry inside braces and the entries after it. -/
def flowValue : Nat → List Node → Reading → Option (Node × Reading)
  | 0, _, _ => none
  | fuel + 1, acc, r =>
    match r.tokens with
    | .value :: rest =>
      if endsFlowEntry rest then flowKey fuel false (Node.empty :: acc) (r.at_ rest)
      else
        match node fuel false false (r.at_ rest) with
        | none => none
        | some (n, r) => flowKey fuel false (n :: acc) r
    | _ => flowKey fuel false (Node.empty :: acc) r

/-- Reads the items inside brackets. A pair of a key and a value stands for a mapping. -/
def flowItems : Nat → Bool → List Node → Reading → Option (Node × Reading)
  | 0, _, _, _ => none
  | fuel + 1, first, acc, r =>
    let next := match r.tokens with
      | .flowEntry :: rest => if first then none else some (r.at_ rest)
      | .flowSequenceEnd :: _ => some r
      | _ => if first then some r else none
    match next with
    | none => none
    | some r =>
      match r.tokens with
      | .flowSequenceEnd :: rest => some (sequenceOf acc.reverse, r.at_ rest)
      | .key :: rest =>
        match flowPair fuel (r.at_ rest) with
        | none => none
        | some (n, r) => flowItems fuel false (n :: acc) r
      | _ =>
        match node fuel false false r with
        | none => none
        | some (n, r) => flowItems fuel false (n :: acc) r

/-- Reads a key and a value inside brackets, as a mapping. The sign after a missing key is passed
over, whatever it is. -/
def flowPair : Nat → Reading → Option (Node × Reading)
  | 0, _ => none
  | fuel + 1, r =>
    let key := match r.tokens with
      | .value :: rest | .flowEntry :: rest | .flowSequenceEnd :: rest =>
        some (Node.empty, r.at_ rest)
      | _ => node fuel false false r
    match key with
    | none => none
    | some (key, r) =>
      let value := match r.tokens with
        | .value :: rest =>
          if endsFlowItem rest then some (Node.empty, r.at_ rest)
          else node fuel false false (r.at_ rest)
        | _ => some (Node.empty, r)
      match value with
      | none => none
      | some (value, r) => (mappingOf? [key, value]).map fun n => (n, r)

end

/-! ### Documents -/

/-- Passes the ends of documents. -/
def dropEnds : List Token → List Token
  | .documentEnd :: rest => dropEnds rest
  | tokens => tokens

/-- Passes the directives before a document. The version may be named once, and of the handles only
the one of the last directive counts. -/
def directives : Bool → List Token → Option (String × String) →
    Option (List Token × Option (String × String))
  | versioned, .version :: rest, _ => if versioned then none else directives true rest none
  | versioned, .tagHandle handle expansion :: rest, _ =>
    directives versioned rest (some (handle, expansion))
  | _, tokens, handle => some (tokens, handle)

/-- The document is empty after its start marker. -/
def endsDocument : List Token → Bool
  | .version :: _ | .tagHandle .. :: _ | .documentStart :: _ | .documentEnd :: _ => true
  | .streamEnd :: _ => true
  | _ => false

/-- Reads a document. Directives need a start marker after them. -/
def document? (tokens : List Token) : Option (Node × List Token) := do
  let fuel := 4 * tokens.length + 8
  let (rest, handle) ← directives false tokens none
  match rest with
  | .documentStart :: rest =>
    if endsDocument rest then some (Node.empty, rest)
    else
      let (n, r) ← node fuel true false { tokens := rest, handle := handle }
      some (n, r.tokens)
  | _ =>
    if rest.length < tokens.length then none
    else
      let (n, r) ← node fuel true false { tokens := tokens }
      some (n, r.tokens)

end Reading

/-- A text with line feeds as its only line breaks. -/
def unifyBreaks : List Char → List Char
  | [] => []
  | '\r' :: '\n' :: cs => '\n' :: unifyBreaks cs
  | '\r' :: cs => '\n' :: unifyBreaks cs
  | c :: cs => c :: unifyBreaks cs

/-- The characters of a text that count, which end before the first null character. -/
def content (s : String) : List Char := unifyBreaks (s.toList.takeWhile fun c => c ≠ '\x00')

/-- The value of a text that holds at most one document. -/
def read? (s : String) : Option Yaml := do
  let tokens ← tokens? (content s)
  match Reading.dropEnds tokens with
  | [.streamEnd] => some (.mapping [])
  | tokens =>
    let (n, rest) ← Reading.document? tokens
    match Reading.dropEnds rest with
    | [.streamEnd] => n
    | _ => none

end WorkQueue.Yaml
