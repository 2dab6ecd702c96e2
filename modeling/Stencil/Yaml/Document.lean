import Stencil.Yaml.Lexer
import Stencil.Yaml.Node

/-!
# From tokens to documents

The grammar of documents. A node is an alias, or a scalar, a sequence or a mapping with
properties in front; where a node may be missing there is an absent scalar. Nothing is said
about why a text is no document: a reader gives `none`.
-/

namespace Stencil.Yaml

/-- The names given so far with their slots, the latest first, and the handles of tags. -/
structure Scope where
  names : List (List Char × Nat)
  handles : List (List Char × List Char)

namespace Scope

def usualHandles : List (List Char × List Char) :=
  [(['!'], ['!']), (['!', '!'], "tag:yaml.org,2002:".toList)]

def size (s : Scope) : Nat := (s.names.map Prod.fst).eraseDups.length

def declare (s : Scope) (name : List Char) : Scope := { s with names := (name, s.size) :: s.names }

def slot? (s : Scope) (name : List Char) : Option Nat := s.names.lookup name

def tag? (s : Scope) (handle suffix : List Char) : Option (List Char) :=
  if handle.isEmpty then some suffix else (s.handles.lookup handle).map (· ++ suffix)

end Scope

structure Reader where
  tokens : List Token
  scope : Scope

namespace Reader

def peek? (r : Reader) : Option Token := r.tokens.head?

def advance (r : Reader) : Reader := { r with tokens := r.tokens.tail }

end Reader

abbrev Parsed := Option (Node × Reader)

/-! ### Properties -/

structure Properties where
  start : Option Mark
  name : Option (List Char)
  tag : Option (List Char)

namespace Properties

def none : Properties := ⟨.none, .none, .none⟩

def isSome (p : Properties) : Bool := p.start.isSome

/-- Reads an anchor and a tag in either order, each at most once. -/
def read? (r : Reader) : Option (Properties × Reader) := do
  let first ← r.peek?
  match first.kind with
  | .anchor name =>
    let r := r.advance
    let second ← r.peek?
    match second.kind with
    | .tag handle suffix =>
      let tag ← r.scope.tag? handle suffix
      return (⟨some first.start, some name, some tag⟩, r.advance)
    | _ => return (⟨some first.start, some name, .none⟩, r)
  | .tag handle suffix =>
    let tag ← r.scope.tag? handle suffix
    let r := r.advance
    let second ← r.peek?
    match second.kind with
    | .anchor name => return (⟨some first.start, some name, some tag⟩, r.advance)
    | _ => return (⟨some first.start, .none, some tag⟩, r)
  | _ => return (.none, r)

/-- The heading of a node that begins here, and the place with its name given. -/
def heading (p : Properties) (r : Reader) (m : Mark) : Heading × Reader :=
  let m := p.start.getD m
  match p.name with
  | some name => (⟨m, p.tag, some r.scope.size⟩, { r with scope := r.scope.declare name })
  | .none => (⟨m, p.tag, .none⟩, r)

end Properties

/-- The tag of a scalar: the tag that is only an exclamation mark says nothing. -/
def scalarTag (tag : Option (List Char)) : Option (List Char) := tag.filter (· != ['!'])

/-! ### Where a node may be missing -/

def endsEntry : Token.Kind → Bool
  | .entry | .blockEnd => true
  | _ => false

/-- Whether the token ends a key or a value of a block mapping. -/
def endsPart : Token.Kind → Bool
  | .key | .value | .blockEnd => true
  | _ => false

/-- Whether the token ends an entry of a sequence that is not indented. -/
def endsLooseEntry : Token.Kind → Bool
  | .entry | .key | .value | .blockEnd => true
  | _ => false

def endsSequenceKey : Token.Kind → Bool
  | .value | .comma | .flowSequenceEnd => true
  | _ => false

def endsSequenceValue : Token.Kind → Bool
  | .comma | .flowSequenceEnd => true
  | _ => false

def endsMappingKey : Token.Kind → Bool
  | .value | .comma | .flowMappingEnd => true
  | _ => false

def endsMappingValue : Token.Kind → Bool
  | .comma | .flowMappingEnd => true
  | _ => false

/-! ### Nodes -/

mutual

/-- A node. In a block it may be a block; `loose` says that a sequence need not be indented. -/
def node : Nat → (block loose : Bool) → Reader → Parsed
  | 0, _, _, _ => none
  | fuel + 1, block, loose, r => do
    let first ← r.peek?
    match first.kind with
    | .alias name =>
      let slot ← r.scope.slot? name
      return (.alias first.start slot, r.advance)
    | _ =>
      let (p, r) ← Properties.read? r
      let t ← r.peek?
      let (h, named) := p.heading r t.start
      match t.kind with
      | .entry =>
        if loose then
          let (items, r) ← looseEntries fuel named
          return (.sequence h items, r)
        else if p.isSome then return (.scalar h .plain "", named)
        else none
      | .scalar style text =>
        return (.scalar { h with tag := scalarTag h.tag } style text, named.advance)
      | .flowSequence =>
        let (items, r) ← flowItems fuel true named.advance
        return (.sequence h items, r)
      | .flowMapping =>
        let (pairs, r) ← flowPairs fuel true named.advance
        return (.mapping h pairs, r)
      | .blockSequence =>
        if block then
          let (items, r) ← blockEntries fuel named.advance
          return (.sequence h items, r)
        else if p.isSome then return (.scalar h .plain "", named)
        else none
      | .blockMapping =>
        if block then
          let (pairs, r) ← blockPairs fuel named.advance
          return (.mapping h pairs, r)
        else if p.isSome then return (.scalar h .plain "", named)
        else none
      | _ => if p.isSome then return (.scalar h .plain "", named) else none

def blockEntries : Nat → Reader → Option (List Node × Reader)
  | 0, _ => none
  | fuel + 1, r => do
    let t ← r.peek?
    match t.kind with
    | .entry =>
      let (item, r) ← part fuel endsEntry false t.stop r.advance
      let (more, r) ← blockEntries fuel r
      return (item :: more, r)
    | .blockEnd => return ([], r.advance)
    | _ => none

/-- The entries of a sequence that is not indented. -/
def looseEntries : Nat → Reader → Option (List Node × Reader)
  | 0, _ => none
  | fuel + 1, r => do
    let t ← r.peek?
    match t.kind with
    | .entry =>
      let (item, r) ← part fuel endsLooseEntry false t.stop r.advance
      let (more, r) ← looseEntries fuel r
      return (item :: more, r)
    | _ => return ([], r)

def blockPairs : Nat → Reader → Option (List (Node × Node) × Reader)
  | 0, _ => none
  | fuel + 1, r => do
    let t ← r.peek?
    match t.kind with
    | .key =>
      let (key, r) ← part fuel endsPart true t.stop r.advance
      let (value, r) ← blockValue fuel r
      let (more, r) ← blockPairs fuel r
      return ((key, value) :: more, r)
    | .blockEnd => return ([], r.advance)
    | _ => none

def blockValue : Nat → Reader → Parsed
  | 0, _ => none
  | fuel + 1, r => do
    let t ← r.peek?
    match t.kind with
    | .value => part fuel endsPart true t.stop r.advance
    | _ => return (.absent t.start, r)

/-- A node of a block, or an absent one if the next token ends it. -/
def part : Nat → (Token.Kind → Bool) → Bool → Mark → Reader → Parsed
  | 0, _, _, _, _ => none
  | fuel + 1, ends, loose, m, r => do
    let t ← r.peek?
    if ends t.kind then return (.absent m, r) else node fuel true loose r

/-- The items of a flow sequence; between two of them there is a comma. -/
def flowItems : Nat → Bool → Reader → Option (List Node × Reader)
  | 0, _, _ => none
  | fuel + 1, isFirst, r => do
    let t ← r.peek?
    match t.kind with
    | .flowSequenceEnd => return ([], r.advance)
    | _ =>
      let r ← if isFirst then some r else if t.kind == .comma then some r.advance else none
      let t ← r.peek?
      match t.kind with
      | .flowSequenceEnd => return ([], r.advance)
      | .key =>
        let (key, r) ← singleKey fuel r.advance
        let (value, r) ← singleValue fuel r
        let (more, r) ← flowItems fuel false r
        return (.mapping ⟨t.start, none, none⟩ [(key, value)] :: more, r)
      | _ =>
        let (item, r) ← node fuel false false r
        let (more, r) ← flowItems fuel false r
        return (item :: more, r)

/-- The key of a single pair in a flow sequence. The token that ends an absent key is passed. -/
def singleKey : Nat → Reader → Parsed
  | 0, _ => none
  | fuel + 1, r => do
    let t ← r.peek?
    if endsSequenceKey t.kind then return (.absent t.stop, r.advance) else node fuel false false r

def singleValue : Nat → Reader → Parsed
  | 0, _ => none
  | fuel + 1, r => do
    let t ← r.peek?
    match t.kind with
    | .value =>
      let r := r.advance
      let t ← r.peek?
      if endsSequenceValue t.kind then return (.absent t.start, r) else node fuel false false r
    | _ => return (.absent t.start, r)

/-- The pairs of a flow mapping; between two of them there is a comma. -/
def flowPairs : Nat → Bool → Reader → Option (List (Node × Node) × Reader)
  | 0, _, _ => none
  | fuel + 1, isFirst, r => do
    let t ← r.peek?
    match t.kind with
    | .flowMappingEnd => return ([], r.advance)
    | _ =>
      let r ← if isFirst then some r else if t.kind == .comma then some r.advance else none
      let t ← r.peek?
      match t.kind with
      | .flowMappingEnd => return ([], r.advance)
      | .key =>
        let (key, r) ← pairKey fuel r.advance
        let (value, r) ← pairValue fuel r
        let (more, r) ← flowPairs fuel false r
        return ((key, value) :: more, r)
      | _ =>
        let (key, r) ← node fuel false false r
        let t ← r.peek?
        let (more, r) ← flowPairs fuel false r
        return ((key, .absent t.start) :: more, r)

def pairKey : Nat → Reader → Parsed
  | 0, _ => none
  | fuel + 1, r => do
    let t ← r.peek?
    if endsMappingKey t.kind then return (.absent t.start, r) else node fuel false false r

def pairValue : Nat → Reader → Parsed
  | 0, _ => none
  | fuel + 1, r => do
    let t ← r.peek?
    match t.kind with
    | .value =>
      let r := r.advance
      let t ← r.peek?
      if endsMappingValue t.kind then return (.absent t.start, r) else node fuel false false r
    | _ => return (.absent t.start, r)

end

/-! ### Documents -/

/-- What was seen of a text: nothing but comments, a first document with what follows it, or
    something else. -/
inductive Content where
  /-- There is no document. -/
  | void
  /-- There is a document; whether anything but the end follows it is known. -/
  | document (root : Node) (alone : Bool)
  /-- There is no well-formed first document. -/
  | malformed

namespace Content

/-- The directives in front of a document: at most one version, which has to be known, and no
    handle twice. -/
def directives? (versioned : Bool) (handles : List (List Char × List Char)) :
    List Token → Option (List (List Char × List Char) × List Token)
  | [] => none
  | t :: rest =>
    match t.kind with
    | .version major minor =>
      if versioned || major != 1 || (minor != 1 && minor != 2) then none
      else directives? true handles rest
    | .handle name lead =>
      if (handles.lookup name).isSome then none
      else directives? versioned ((name, lead) :: handles) rest
    | _ => some (handles, t :: rest)

/-- Whether a document may begin without a border: at a token that is neither a directive, nor a
    border, nor the end. -/
def beginsBare : Token.Kind → Bool
  | .version _ _ | .handle _ _ | .documentStart | .streamEnd => false
  | _ => true

/-- Whether a document has no root: at a directive, a border or the end. -/
def endsDocument : Token.Kind → Bool
  | .version _ _ | .handle _ _ | .documentStart | .documentEnd | .streamEnd => true
  | _ => false

/-- The tokens behind marks of the end of a document. -/
def skipEnds (tokens : List Token) : List Token :=
  tokens.dropWhile fun t => t.kind == .documentEnd

/-- Whether only the end follows a document. -/
def isAlone (tokens : List Token) : Bool :=
  match (skipEnds tokens).head? with
  | some t => t.kind == .streamEnd
  | none => false

/-- Whether anything can be told to follow a document: what follows begins with a token. -/
def ofRoot (root : Option (Node × Reader)) : Content :=
  match root with
  | none => .malformed
  | some (root, r) =>
    if r.tokens.isEmpty then .malformed else .document root (isAlone r.tokens)

/-- The content of a text, from its tokens. Nodes are read with more fuel than they can need. -/
def ofTokens (tokens : List Token) : Content :=
  let fuel := 6 * tokens.length + 12
  match tokens with
  | [] => .malformed
  | first :: _ =>
    if first.kind == .streamEnd then .void
    else if beginsBare first.kind then
      ofRoot (node fuel true false ⟨tokens, ⟨[], Scope.usualHandles⟩⟩)
    else
      match directives? false [] tokens with
      | some (handles, border :: rest) =>
        if border.kind == .documentStart then
          match rest with
          | [] => .malformed
          | t :: _ =>
            if endsDocument t.kind then
              ofRoot (some (.absent t.start, ⟨rest, ⟨[], []⟩⟩))
            else
              ofRoot (node fuel true false ⟨rest, ⟨[], handles ++ Scope.usualHandles⟩⟩)
        else .malformed
      | _ => .malformed

def ofText (text : String) : Content := ofTokens (tokens text.toList)

end Content

end Stencil.Yaml
