import LineSieve.Settings.Reading
import LineSieve.Settings.Number
import LineSieve.Settings.Yaml.Token

/-!
# Nodes of YAML

The tree that the tokens of a stream stand for. A scalar without quotes and without a tag stands
for the value that its text looks like. The keys of a mapping differ.

* `Node.ofPlain`: the value of a text without quotes.
* `Node.ofTokens?`: the root of the one document of a stream, if it has one.
* `Node.toValue?`: the value of a node, where keys are texts, numbers or booleans.
-/

namespace LineSieve.Settings.Yaml

inductive Node where
  /-- A text that is not what its tag says. -/
  | invalid
  | null
  | boolean (b : Bool)
  | integer (n : Int)
  /-- A number with a fraction or an exponent, as it is written. -/
  | real (text : String)
  | text (s : String)
  | sequence (items : List Node)
  | mapping (entries : List (Node × Node))
  deriving Inhabited

namespace Node

mutual

/-- Whether two nodes are the same, with their entries in the same order. -/
def same : Node → Node → Bool
  | invalid, invalid | null, null => true
  | boolean a, boolean b => a == b
  | integer m, integer n => m == n
  | real s, real t | text s, text t => s == t
  | sequence ms, sequence ns => sameItems ms ns
  | mapping es, mapping fs => sameEntries es fs
  | _, _ => false

def sameItems : List Node → List Node → Bool
  | [], [] => true
  | m :: ms, n :: ns => m.same n && sameItems ms ns
  | _, _ => false

def sameEntries : List (Node × Node) → List (Node × Node) → Bool
  | [], [] => true
  | (k, m) :: es, (l, n) :: fs => k.same l && m.same n && sameEntries es fs
  | _, _ => false

end

instance : BEq Node := ⟨same⟩

/-! ## Scalars -/

/-- An integer of 64 bits in some base, after an optional sign. -/
def integer? (base : Nat) (cs : List Char) : Option Int := do
  let (negative, digits) := Number.splitSign cs
  let n : Int := ← digitsValue? base digits
  let n := if negative then -n else n
  if -Number.signedBound ≤ n && n < Number.signedBound then some n else none

/-- An integer with the mark of its base, or with a plus sign in front. -/
def markedInteger? : List Char → Option Int
  | '0' :: 'x' :: cs => integer? 16 cs
  | '0' :: 'o' :: cs => integer? 8 cs
  | '+' :: cs => integer? 10 cs
  | _ => none

/-- The words for numbers that are not finite. -/
def unboundedWords : List String :=
  [".inf", ".Inf", ".INF", "+.inf", "+.Inf", "+.INF", "-.inf", "-.Inf", "-.INF",
    ".nan", ".NaN", ".NAN"]

def isReal (s : String) : Bool :=
  unboundedWords.contains s || (Number.read? s.toList).isSome

/-- The value of a text without quotes. -/
def ofPlain (s : String) : Node :=
  match markedInteger? s.toList with
  | some n => .integer n
  | none =>
    if s = "" || s = "~" || s = "null" then .null
    else if s = "true" then .boolean true
    else if s = "false" then .boolean false
    else
      match integer? 10 s.toList with
      | some n => .integer n
      | none => if isReal s then .real s else .text s

/-- The handle of the tags that have a meaning of their own. -/
def standardHandle : String := "tag:yaml.org,2002:"

/-- The value of a text without quotes that has a tag. -/
def ofTagged (handle suffix s : String) : Node :=
  if handle ≠ standardHandle then .text s
  else
    match suffix with
    | "bool" =>
      if s = "true" then .boolean true else if s = "false" then .boolean false else .invalid
    | "int" => match integer? 10 s.toList with
      | some n => .integer n
      | none => .invalid
    | "float" => if isReal s then .real s else .invalid
    | "null" => if s = "~" || s = "null" then .null else .invalid
    | _ => .text s

/-! ## Collections -/

/-- Pairs keys with values, given in turn. A key that is not what its tag says is left out. Keys
must differ. -/
def pairs? : List Node → Option Node → List (Node × Node) → Option (List (Node × Node))
  | [], _, before => some before.reverse
  | n :: ns, none, before => pairs? ns (if n == .invalid then none else some n) before
  | n :: ns, some key, before =>
    if before.any (·.1 == key) then none else pairs? ns none ((key, n) :: before)

/-- The tokens ahead, and what is known of tags and anchors. An anchor has a number, and its node
once that is complete. -/
structure Builder where
  tokens : List Token
  handles : List (String × String)
  anchors : List (String × Nat)
  nodes : List (Nat × Node)

/-- A step of building nodes, which fails on tokens in the wrong order. -/
abbrev Building (α : Type) := StateT Builder Option α

namespace Building

def peek : Building Token := return (← get).tokens.headD .streamEnd

def skip : Building Unit := modify fun b => { b with tokens := b.tokens.drop 1 }

/-- Takes off a token if it comes next, and tells whether it did. -/
def skipIf (t : Token) : Building Bool := do
  if (← peek) = t then
    skip
    return true
  else return false

def expect (t : Token) : Building Unit := do
  if !(← skipIf t) then failure

def anchored (name : String) : Building Nat := do
  let b ← get
  let number := b.anchors.length + 1
  set { b with anchors := (name, number) :: b.anchors }
  return number

/-- The tag that a handle and a suffix stand for. -/
def resolved (handle suffix : String) : Building (String × String) := do
  match (← get).handles.lookup handle with
  | some long => return (long, suffix)
  | none =>
    if handle = "!!" then return (standardHandle, suffix)
    else if 2 ≤ handle.length then failure
    else return (handle, suffix)

/-- An anchor if one comes next. -/
def anchor? : Building (Option Nat) := do
  match ← peek with
  | .anchor name =>
    skip
    return some (← anchored name)
  | _ => return none

/-- A tag if one comes next. -/
def tag? : Building (Option (String × String)) := do
  match ← peek with
  | .tag handle suffix =>
    skip
    return some (← resolved handle suffix)
  | _ => return none

/-- The anchor and the tag of a node, in any order. -/
def properties : Building (Option Nat × Option (String × String)) := do
  match ← anchor? with
  | some number => return (some number, ← tag?)
  | none =>
    match ← tag? with
    | some tag => return (← anchor?, some tag)
    | none => return (none, none)

/-- Remembers the node of an anchor. -/
def remember (anchor : Option Nat) (n : Node) : Building Node := do
  match anchor with
  | some number => modify fun b => { b with nodes := (number, n) :: b.nodes }
  | none => pure ()
  return n

/-- The node of an alias. Inside of its own node an alias stands for nothing. -/
def aliased (name : String) : Building Node := do
  let b ← get
  let number ← b.anchors.lookup name
  return (b.nodes.lookup number).getD .invalid

/-- Whether the next token is one of `ts`. -/
def peekAny (ts : List Token) : Building Bool := return ts.contains (← peek)

def mapping (items : List Node) : Building Node := do
  return .mapping (← pairs? items none [])

/-- An empty node, which needs an anchor or a tag. -/
def bare (anchor : Option Nat) (tag : Option (String × String)) : Building Node := do
  match tag with
  | some (handle, suffix) => remember anchor (ofTagged handle suffix "")
  | none => if anchor.isSome then remember anchor .null else failure

mutual

/-- A node. Blocks, and sequences at the indentation of the mapping around them, only where these
may stand. -/
def node (block indentless : Bool) : Nat → Building Node
  | 0 => failure
  | fuel + 1 => do
    match ← peek with
    | .alias name =>
      skip
      aliased name
    | _ =>
      let (anchor, tag) ← properties
      match ← peek with
      | .entry =>
        if indentless then remember anchor (.sequence (← entries true [] fuel))
        else bare anchor tag
      | .scalar plain content =>
        skip
        match plain, tag with
        | false, _ => remember anchor (.text content)
        | true, some (handle, suffix) => remember anchor (ofTagged handle suffix content)
        | true, none => remember anchor (ofPlain content)
      | .flowSequenceStart =>
        skip
        remember anchor (.sequence (← flowItems true [] fuel))
      | .flowMappingStart =>
        skip
        remember anchor (← mapping (← flowEntries true [] fuel))
      | .sequenceStart =>
        if block then
          skip
          remember anchor (.sequence (← entries false [] fuel))
        else bare anchor tag
      | .mappingStart =>
        if block then
          skip
          remember anchor (← mapping (← blockEntries [] fuel))
        else bare anchor tag
      | _ => bare anchor tag

/-- The entries of a block sequence. One without an indentation of its own has no token at its
end. -/
def entries (indentless : Bool) (before : List Node) : Nat → Building (List Node)
  | 0 => failure
  | fuel + 1 => do
    if ← skipIf .entry then
      let empty ←
        if indentless then peekAny [.entry, .key, .value, .blockEnd]
        else peekAny [.entry, .blockEnd]
      let n ← if empty then pure .null else node true false fuel
      entries indentless (n :: before) fuel
    else if indentless then return before.reverse
    else
      expect .blockEnd
      return before.reverse

/-- The keys and values of a block mapping, in turn. -/
def blockEntries (before : List Node) : Nat → Building (List Node)
  | 0 => failure
  | fuel + 1 => do
    if ← skipIf .blockEnd then return before.reverse
    let ends := [Token.key, .value, .blockEnd]
    let key ←
      if ← skipIf .key then
        if ← peekAny ends then pure .null else node true true fuel
      else if (← peek) = .value then pure .null
      else failure
    let value ←
      if ← skipIf .value then
        if ← peekAny ends then pure .null else node true true fuel
      else pure .null
    blockEntries (value :: key :: before) fuel

/-- The keys and values of a mapping in braces, in turn. -/
def flowEntries (first : Bool) (before : List Node) : Nat → Building (List Node)
  | 0 => failure
  | fuel + 1 => do
    if ← skipIf .flowMappingEnd then return before.reverse
    if !first then expect .comma
    if ← skipIf .flowMappingEnd then return before.reverse
    let keyed ← skipIf .key
    let valued := keyed || (← peek) = .value
    let key ←
      if ← peekAny (if keyed then [.value, .comma, .flowMappingEnd] else [.value]) then pure .null
      else node false false fuel
    let value ←
      if !valued then pure .null
      else if ← skipIf .value then
        if ← peekAny [.comma, .flowMappingEnd] then pure .null else node false false fuel
      else pure .null
    flowEntries false (value :: key :: before) fuel

/-- The items of a sequence in brackets. An item with a key is a mapping of one entry. -/
def flowItems (first : Bool) (before : List Node) : Nat → Building (List Node)
  | 0 => failure
  | fuel + 1 => do
    if ← skipIf .flowSequenceEnd then return before.reverse
    if !first then expect .comma
    if ← skipIf .flowSequenceEnd then return before.reverse
    if ← skipIf .key then
      let key ←
        if ← peekAny [.value, .comma, .flowSequenceEnd] then pure .null else node false false fuel
      let value ←
        if ← skipIf .value then
          if ← peekAny [.comma, .flowSequenceEnd] then pure .null else node false false fuel
        else pure .null
      flowItems false ((← mapping [key, value]) :: before) fuel
    else flowItems false ((← node false false fuel) :: before) fuel

end

/-! ## Documents -/

/-- Notes the directives before a document, of which only one gives a version. -/
def directives (versioned : Bool) : Nat → Building Unit
  | 0 => pure ()
  | fuel + 1 => do
    let .directive name words ← peek | pure ()
    skip
    if name = "YAML" then
      if versioned then failure
      directives true fuel
    else
      let (handle, long) ← match name, words with
        | "TAG", [handle, long] => pure (handle, long)
        | "TAG", _ => failure
        | _, _ => pure ("", "")
      let b ← get
      if (b.handles.lookup handle).isSome then failure
      set { b with handles := (handle, long) :: b.handles }
      directives versioned fuel

def skipDocumentEnds : Building Unit := modify fun b =>
  { b with tokens := b.tokens.dropWhile (· = .documentEnd) }

/-- Enough steps for all tokens. -/
def fuel : Building Nat := return 4 * (← get).tokens.length + 8

/-- The root of the next document. A document that is marked may be empty. -/
def document : Building Node := do
  match ← peek with
  | .documentStart | .directive .. =>
    directives false (← fuel)
    expect .documentStart
    match ← peek with
    | .directive .. | .documentStart | .documentEnd | .streamEnd => return .null
    | _ => node true false (← fuel)
  | _ => node true false (← fuel)

/-- The root of the document of a stream, which holds no other. -/
def stream : Building (Option Node) := do
  skipDocumentEnds
  if (← peek) = .streamEnd then return none
  let root ← document
  skipDocumentEnds
  if (← peek) = .streamEnd then return some root else failure

end Building

/-- The root of the one document that the tokens of a stream stand for; none if there is no
document. -/
def ofTokens? (tokens : List Token) : Option (Option Node) :=
  (Building.stream.run ⟨tokens, [], [], []⟩).map (·.1)

/-! ## Values -/

/-- The text of a key. -/
def keyText? : Node → Option String
  | text s => some s
  | integer n => some (toString n)
  | boolean b => some (if b then "true" else "false")
  | real s => some s
  | _ => none

mutual

/-- The value of a node. Reals are finite, and keys are no collections. -/
def toValue? : Node → Option Value
  | invalid | null => some .null
  | boolean b => some (.boolean b)
  | integer n => some (.integer n)
  | real s => (Number.read? s.toList).map .real
  | text s => some (.text s)
  | sequence items => (toValues? items).map .list
  | mapping entries => (toTable? entries).map .table

def toValues? : List Node → Option (List Value)
  | [] => some []
  | n :: ns => do return (← n.toValue?) :: (← toValues? ns)

/-- The entries of a mapping. Of keys with one text the last counts. -/
def toTable? : List (Node × Node) → Option Table
  | [] => some []
  | (key, n) :: rest => do
    let name ← key.keyText?
    let v ← n.toValue?
    let others ← toTable? rest
    return if (others.lookup name).isSome then others else (name, v) :: others

end

end Node

end LineSieve.Settings.Yaml
