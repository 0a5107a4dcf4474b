import LineSieve.Pattern.Regex

/-!
# The size of a pattern

A pattern is refused if its automaton over the bytes of UTF-8 would take more memory than
`Size.limit`. Repetitions count as many times as their bodies are copied, so a short pattern can be
too large.

The size is that of two automata, one that reads forwards and knows where groups begin and end, and
one that reads backwards and does not. A state takes `stateBytes`, and a state with several
successors more for each of them.

* `Size.byteSequences`: a range of characters as sequences of byte ranges.
* `Size.ofRegex`: the size of the automaton of a regular expression.
* `Size.exceeds`: the pattern is too large.
-/

namespace LineSieve.Pattern

namespace Size

def limit : Nat := 10485760

def stateBytes : Nat := 32

/-- A successor that a range of bytes leads to. -/
def rangeBytes : Nat := 8

/-- A successor that is reached without reading. -/
def branchBytes : Nat := 4

/-! ## Characters as bytes -/

/-- The last code point of each length of encoding, up to the third. -/
def encodingBounds : List Nat := [0x7f, 0x7ff, 0xffff]

/-- The bytes of a code point. -/
def bytesOf (n : Nat) : List Nat := (String.utf8EncodeChar (Char.ofNat n)).map UInt8.toNat

/-- Where a range must be cut so that each byte of its characters ranges independently: at changes
of length, then where the low bits of a byte do not run through all their values. -/
def cut? (r : CodeRange) : Option (CodeRange × CodeRange) :=
  match encodingBounds.find? fun b => r.first ≤ b && b < r.last with
  | some b => some (⟨r.first, b⟩, ⟨b + 1, r.last⟩)
  | none =>
    if r.last ≤ 0x7f then none
    else [64, 64 * 64, 64 * 64 * 64].findSome? fun block =>
      if r.first / block = r.last / block then none
      else if r.first % block ≠ 0 then
        let next := (r.first / block + 1) * block
        some (⟨r.first, next - 1⟩, ⟨next, r.last⟩)
      else if r.last % block ≠ block - 1 then
        let next := r.last / block * block
        some (⟨r.first, next - 1⟩, ⟨next, r.last⟩)
      else none

/-- The byte sequences of the characters of a range, which `fuel` cuts divide. -/
def byteSequences : (fuel : Nat) → CodeRange → List (List CodeRange)
  | 0, _ => []
  | fuel + 1, r =>
    match cut? r with
    | some (a, b) => byteSequences fuel a ++ byteSequences fuel b
    | none => [List.zipWith CodeRange.mk (bytesOf r.first) (bytesOf r.last)]

def setSequences (s : CharSet) : List (List CodeRange) :=
  s.ranges.toList.flatMap (byteSequences 64)

/-! ## Automata of classes -/

/-- Sequences grouped by their first byte range, with what follows it. -/
def byHead : List (List CodeRange) → List (CodeRange × List (List CodeRange))
  | [] => []
  | [] :: rest => byHead rest
  | (r :: tail) :: rest =>
    match byHead rest with
    | (r', tails) :: groups =>
      if r = r' then (r, tail :: tails) :: groups else (r, [tail]) :: (r', tails) :: groups
    | [] => [(r, [tail])]

/-- A state as its byte ranges with the states they lead to. -/
abbrev Node := List (CodeRange × Nat)

/-- Numbers a state; equal states share a number. -/
def intern (node : Node) : StateM (List Node) Nat := do
  let nodes ← get
  match nodes.reverse.idxOf? node with
  | some i => return i + 1
  | none =>
    set (node :: nodes)
    return nodes.length + 1

/-- Builds the states that read the given sequences, which are at most `fuel` long. State zero is
the end. -/
def build : (fuel : Nat) → List (List CodeRange) → StateM (List Node) Nat
  | 0, _ => return 0
  | fuel + 1, sequences => do
    match byHead sequences with
    | [] => return 0
    | groups =>
      let node ← groups.mapM fun (r, tails) => return (r, ← build fuel tails)
      intern node

/-- The number of distinct nonempty beginnings of sequences that are at most `fuel` long. -/
def beginnings : (fuel : Nat) → List (List CodeRange) → Nat
  | 0, _ => 0
  | fuel + 1, sequences =>
    (byHead sequences).foldl (fun n (_, tails) => n + (1 + beginnings fuel tails)) 0

/-- The size of the automaton of a class. Forwards, equal ends of sequences are shared, and
backwards equal beginnings. -/
def ofSet (forwards : Bool) (s : CharSet) : Nat :=
  match s.ranges.toList with
  | [] => 2 * stateBytes
  | [⟨a, b⟩] =>
    if a = b then (bytesOf a).length * stateBytes else ofRanges
  | _ => ofRanges
where
  ofRanges : Nat :=
    if s.isAscii then 2 * stateBytes + s.ranges.size * rangeBytes
    else
      let sequences := setSequences s
      if forwards then
        let nodes := ((build 5 sequences).run []).2
        nodes.foldl (fun n node => n + (stateBytes + node.length * rangeBytes)) stateBytes
      else (2 + beginnings 5 sequences) * stateBytes + sequences.length * branchBytes

/-! ## Automata of expressions -/

mutual

/-- The expression matches the empty text only. -/
def isZeroWidth : Regex → Bool
  | .empty => true
  | .char _ => false
  | .look _ => true
  | .concat parts => allZeroWidth parts
  | .alternation branches => allZeroWidth branches
  | .repetition _ max body => max = some 0 || isZeroWidth body
  | .capture body => isZeroWidth body

def allZeroWidth : List Regex → Bool
  | [] => true
  | r :: rs => isZeroWidth r && allZeroWidth rs

end

mutual

/-- The expression can match the empty text. -/
def isNullable : Regex → Bool
  | .empty => true
  | .char _ => false
  | .look _ => true
  | .concat parts => allNullable parts
  | .alternation branches => anyNullable branches
  | .repetition min _ body => min = 0 || isNullable body
  | .capture body => isNullable body

def allNullable : List Regex → Bool
  | [] => true
  | r :: rs => isNullable r && allNullable rs

def anyNullable : List Regex → Bool
  | [] => false
  | r :: rs => isNullable r || anyNullable rs

end

/-- A state with two successors that are reached without reading. -/
def fork : Nat := stateBytes + 2 * branchBytes

/-- The size of a repetition whose body has the size `body`. -/
def ofRepetition (nullable : Bool) (min : Nat) (max : Option Nat) (body : Nat) : Nat :=
  match min, max with
  | 0, some 0 => stateBytes
  | 1, some 1 => body
  | 0, some 1 => fork + body + stateBytes
  | 0, none => if nullable then 2 * fork + body + stateBytes else fork + body
  | min, none => min * body + fork
  | min, some max =>
    if min = max then min * body
    else (if min = 0 then stateBytes else min * body) + stateBytes + (max - min) * (fork + body)

/-- The single characters that the branches of an alternation consist of, if they all do. -/
def branchSets? (branches : List Regex) : Option (List CharSet) :=
  branches.mapM fun | .char s => some s | _ => none

mutual

/-- The size of the automaton of a regular expression. -/
def ofRegex (forwards : Bool) : Regex → Nat
  | .empty => stateBytes
  | .char s => ofSet forwards s
  | .look _ => stateBytes
  | .concat parts =>
    match ofParts forwards parts with
    | 0 => stateBytes
    | n => n
  | .alternation branches =>
    match branchSets? branches with
    | some sets => ofSet forwards (CharSet.ofRanges (sets.flatMap (·.ranges.toList)))
    | none => 2 * stateBytes + ofBranches forwards branches
  | .repetition min max body =>
    let most := if isZeroWidth body then some (Nat.min (max.getD 1) 1) else max
    let least := if isZeroWidth body then Nat.min min 1 else min
    ofRepetition (isNullable body) least most (ofRegex forwards body)
  | .capture body => ofRegex forwards body + if forwards then 2 * stateBytes else 0

/-- The size of a sequence of parts; empty parts take none. -/
def ofParts (forwards : Bool) : List Regex → Nat
  | [] => 0
  | .empty :: rs => ofParts forwards rs
  | r :: rs => ofRegex forwards r + ofParts forwards rs

def ofBranches (forwards : Bool) : List Regex → Nat
  | [] => 0
  | r :: rs => branchBytes + ofRegex forwards r + ofBranches forwards rs

end

/-- What every automaton has beside the expression: a loop to where the match starts, the bounds of
the match, and the end. -/
def frame : Nat := fork + 2 * stateBytes + rangeBytes + 3 * stateBytes

/-- The pattern is too large. -/
def exceeds (r : Regex) : Bool :=
  limit < ofRegex true r + frame || limit < ofRegex false r + frame

end Size

end LineSieve.Pattern
