import TagCatalog.Yaml.Lexer
import TagCatalog.Yaml.Node

/-!
# Reading YAML

The nodes of a YAML document from its tokens, by recursive descent.

* `Reader`: the tokens that are left, the declared tag handles and the anchors;
* `Entries`: the entries of a mapping as they come in, keys and values in turn;
* `Reader.node`: one node;
* `document?`: the node of a text, if it holds a document. A text with several documents is refused.
-/

namespace TagCatalog.Yaml

/-- The state of the reader. -/
structure Reader where
  rest : List Token
  /-- The declared tag handles and what they stand for. -/
  handles : List (String × String)
  /-- The anchors, each with its number, the last one first. -/
  anchors : List (String × Nat)
  /-- The nodes of the anchors whose nodes are complete. -/
  nodes : List (Nat × Node)

/-- The computations of the reader. -/
abbrev Read := StateT Reader Option

/-- The entries of a mapping so far, the last one first, and the key that waits for its value. -/
structure Entries where
  done : List (Node × Node)
  key : Node

/-- No entries. -/
def Entries.empty : Entries := ⟨[], .bad⟩

/-- The next node of a mapping: a key, or the value of the key before it. A bad key does not wait
for a value. No key may occur twice. -/
def Entries.add? (e : Entries) (n : Node) : Option Entries :=
  if e.key.isBad then some { e with key := n }
  else if e.done.any (·.1.same e.key) then none
  else some ⟨(e.key, n) :: e.done, .bad⟩

/-- The mapping of the entries. -/
def Entries.node (e : Entries) : Node := .mapping e.done.reverse

/-- What stands before the content of a node. -/
structure Properties where
  anchor : Option Nat
  /-- The prefix and suffix of the tag. -/
  tag : Option (String × String)

/-- The prefix of the tags of the core schema. -/
def coreTags : String := "tag:yaml.org,2002:"

namespace Reader

/-- The text is no YAML document. -/
def refuse {α : Type} : Read α := fun _ => none

/-- The next token. -/
def peek : Read Token := do return (← get).rest.head?.getD .streamEnd

/-- Passes a token. -/
def skip : Read Unit := modify fun s => { s with rest := s.rest.tail }

/-- The next node of a mapping. -/
def add (e : Entries) (n : Node) : Read Entries := fun s => (e.add? n).map (·, s)

/-! ## Properties -/

/-- Declares an anchor. -/
def declare (name : String) : Read Nat := do
  let number := (← get).anchors.length
  modify fun s => { s with anchors := (name, number) :: s.anchors }
  return number

/-- A tag with its handle replaced by what that stands for. -/
def resolve (handle suffix : String) : Read (String × String) := do
  let declared := ((← get).handles.find? (·.1 == handle)).map (·.2)
  match declared with
  | some value => return (value, suffix)
  | none =>
    if handle == "!!" then return (coreTags, suffix)
    else if 2 ≤ handle.length && handle.endsWith "!" then refuse
    else return (handle, suffix)

/-- An anchor and a tag, in either order. -/
def properties : Read Properties := do
  match ← peek with
  | .anchor name =>
    skip
    let anchor ← declare name
    match ← peek with
    | .tag handle suffix =>
      skip
      return ⟨some anchor, some (← resolve handle suffix)⟩
    | _ => return ⟨some anchor, none⟩
  | .tag handle suffix =>
    skip
    let tag ← resolve handle suffix
    match ← peek with
    | .anchor name =>
      skip
      return ⟨some (← declare name), some tag⟩
    | _ => return ⟨none, some tag⟩
  | _ => return ⟨none, none⟩

/-- The node of an alias. -/
def aliased (name : String) : Read Node := do
  let s ← get
  match s.anchors.find? (·.1 == name) with
  | none => refuse
  | some (_, number) => return ((s.nodes.find? (·.1 == number)).map (·.2)).getD .bad

/-- A complete node, kept for the aliases of its anchor. -/
def complete (p : Properties) (n : Node) : Read Node := do
  match p.anchor with
  | some number => modify fun s => { s with nodes := (number, n) :: s.nodes }
  | none => pure ()
  return n

/-- The node of a scalar. -/
def scalar (p : Properties) (plain : Bool) (text : String) : Node :=
  if !plain then .text text
  else match p.tag with
    | some (value, suffix) => if value == coreTags then .ofTagged suffix text else .text text
    | none => .ofPlain text

/-! ## Nodes -/

/-- The tokens that end a part of a block mapping without content. -/
def endsBlockPart : Token → Bool
  | .key | .value | .blockEnd => true
  | _ => false

/-- The tokens that end an entry of a flow collection without content. -/
def endsFlowPart (closing : Token) (t : Token) : Bool := t == .flowEntry || t == closing

mutual

/-- A node, at most `fuel` deep and long; whether block collections may stand here, and whether a
block sequence may stand here without being indented. -/
def node (block indentless : Bool) : Nat → Read Node
  | 0 => refuse
  | n + 1 => do
    match ← peek with
    | .alias name =>
      skip
      aliased name
    | _ =>
      let p ← properties
      match ← peek with
      | .scalar plain text =>
        skip
        complete p (scalar p plain text)
      | .flowSequenceStart =>
        skip
        complete p (← flowSequence n true [])
      | .flowMappingStart =>
        skip
        complete p (← flowMapping n true .empty)
      | t =>
        if t == .blockEntry && indentless then complete p (← indentlessSequence n [])
        else if t == .blockSequenceStart && block then
          skip
          complete p (← blockSequence n [])
        else if t == .blockMappingStart && block then
          skip
          complete p (← blockMapping n .empty)
        else if p.anchor.isSome || p.tag.isSome then complete p (scalar p true "")
        else refuse

/-- The items of a block sequence. -/
def blockSequence : Nat → List Node → Read Node
  | 0, _ => refuse
  | n + 1, items => do
    match ← peek with
    | .blockEnd =>
      skip
      return .list items.reverse
    | .blockEntry =>
      skip
      match ← peek with
      | .blockEntry | .blockEnd => blockSequence n (.null :: items)
      | _ =>
        let item ← node true false n
        blockSequence n (item :: items)
    | _ => refuse

/-- The items of a block sequence that is not indented. -/
def indentlessSequence : Nat → List Node → Read Node
  | 0, _ => refuse
  | n + 1, items => do
    if (← peek) == .blockEntry then
      skip
      let t ← peek
      if t == .blockEntry || endsBlockPart t then indentlessSequence n (.null :: items)
      else
        let item ← node true false n
        indentlessSequence n (item :: items)
    else return .list items.reverse

/-- The entries of a block mapping. -/
def blockMapping : Nat → Entries → Read Node
  | 0, _ => refuse
  | n + 1, entries => do
    match ← peek with
    | .key =>
      skip
      let key ← if endsBlockPart (← peek) then pure .null else node true true n
      blockValue n (← add entries key)
    | .value => blockValue n (← add entries .null)
    | .blockEnd =>
      skip
      return entries.node
    | _ => refuse

/-- The value of an entry of a block mapping, and the entries behind it. -/
def blockValue : Nat → Entries → Read Node
  | 0, _ => refuse
  | n + 1, entries => do
    if (← peek) == .value then
      skip
      let value ← if endsBlockPart (← peek) then pure .null else node true true n
      blockMapping n (← add entries value)
    else blockMapping n (← add entries .null)

/-- The entries of a flow mapping. -/
def flowMapping : Nat → Bool → Entries → Read Node
  | 0, _, _ => refuse
  | n + 1, first, entries => do
    if (← peek) == .flowMappingEnd then
      skip
      return entries.node
    else
      if !first then
        if (← peek) == .flowEntry then skip else refuse
      match ← peek with
      | .key =>
        skip
        let t ← peek
        let key ← if t == .value || endsFlowPart .flowMappingEnd t then pure .null
          else node false false n
        flowValue n (← add entries key)
      | .value => flowValue n (← add entries .null)
      | .flowMappingEnd =>
        skip
        return entries.node
      | _ =>
        let key ← node false false n
        flowMapping n false (← add (← add entries key) .null)

/-- The value of an entry of a flow mapping, and the entries behind it. -/
def flowValue : Nat → Entries → Read Node
  | 0, _ => refuse
  | n + 1, entries => do
    if (← peek) == .value then
      skip
      let value ← if endsFlowPart .flowMappingEnd (← peek) then pure .null
        else node false false n
      flowMapping n false (← add entries value)
    else flowMapping n false (← add entries .null)

/-- The items of a flow sequence. -/
def flowSequence : Nat → Bool → List Node → Read Node
  | 0, _, _ => refuse
  | n + 1, first, items => do
    if (← peek) == .flowSequenceEnd then
      skip
      return .list items.reverse
    else
      if !first then
        if (← peek) == .flowEntry then skip else refuse
      match ← peek with
      | .flowSequenceEnd =>
        skip
        return .list items.reverse
      | .key =>
        skip
        let item ← singlePair n
        flowSequence n false (item :: items)
      | _ =>
        let item ← node false false n
        flowSequence n false (item :: items)

/-- A mapping of one entry in a flow sequence. A mark that stands in place of the key is passed. -/
def singlePair : Nat → Read Node
  | 0 => refuse
  | n + 1 => do
    let t ← peek
    let key ← if t == .value || endsFlowPart .flowSequenceEnd t then do
        skip
        pure Node.null
      else node false false n
    let entries ← add .empty key
    if (← peek) == .value then
      skip
      let value ← if endsFlowPart .flowSequenceEnd (← peek) then pure .null
        else node false false n
      return (← add entries value).node
    else return (← add entries .null).node

end

/-! ## Documents -/

/-- Passes the ends of documents. -/
def skipEnds : Read Unit := modify fun s =>
  { s with rest := s.rest.dropWhile (· == .documentEnd) }

/-- The directives before a document; there is at most one version, and a tag handle holds only
until the next directive. -/
def directives : Nat → Bool → Read Unit
  | 0, _ => refuse
  | n + 1, versioned => do
    match ← peek with
    | .versionDirective =>
      if versioned then refuse
      else
        modify fun s => { s with handles := [] }
        skip
        directives n true
    | .tagDirective handle value =>
      modify fun s => { s with handles := [(handle, value)] }
      skip
      directives n versioned
    | _ => return

/-- The tokens that end a document without content. -/
def endsDocument : Token → Bool
  | .versionDirective | .tagDirective .. | .documentStart | .documentEnd | .streamEnd => true
  | _ => false

/-- The content of a document behind its start. -/
def content (fuel : Nat) : Read Node := do
  match ← peek with
  | .versionDirective | .tagDirective .. | .documentStart =>
    directives fuel false
    if (← peek) == .documentStart then
      skip
      if endsDocument (← peek) then return .null else node true false fuel
    else refuse
  | _ => node true false fuel

/-- The document of a stream, if there is one, and the end of the stream. -/
def stream (fuel : Nat) : Read (Option Node) := do
  skipEnds
  if (← peek) == .streamEnd then return none
  else
    let n ← content fuel
    skipEnds
    if (← peek) == .streamEnd then return some n else refuse

end Reader

/-- The document of a text, if it is YAML and holds at most one. -/
def document? (text : String) : Option (Option Node) :=
  (tokens? text).bind fun tokens =>
    (Reader.stream (4 * tokens.length + 8) ⟨tokens, [], [], []⟩).map (·.1)

end TagCatalog.Yaml
