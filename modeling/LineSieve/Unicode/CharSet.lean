/-!
# Sets of characters

A set of characters is kept as the sorted array of its maximal ranges of code points. The
surrogates, which no character has, belong to no set: `full` leaves them out and so does every
set made from ranges.

* `CharSet.ofRanges`: the set of the code points of some ranges, in any order and overlapping.
* `CharSet.contains`: membership, by bisection.
* `union`, `inter`, `diff`, `symmDiff`, `complement`: the algebra of sets.
* `CharSet.ofTable`: reads the notation of the property tables, hexadecimal code points and
  ranges between blanks.
-/

namespace LineSieve

/-- The code points from `first` to `last`, both included. -/
structure CodeRange where
  first : Nat
  last : Nat
  deriving DecidableEq, Inhabited, Repr

/-- Sorted, disjoint ranges that do not touch. -/
structure CharSet where
  ranges : Array CodeRange
  deriving DecidableEq, Inhabited, Repr

namespace CharSet

/-! ## Ranges in order -/

/-- Joins ranges, sorted by their first code point, that overlap or touch `current`. -/
def joinFrom (current : CodeRange) : List CodeRange → List CodeRange
  | [] => [current]
  | r :: rs =>
    if r.first ≤ current.last + 1 then joinFrom ⟨current.first, max current.last r.last⟩ rs
    else current :: joinFrom r rs

def join : List CodeRange → List CodeRange
  | [] => []
  | r :: rs => joinFrom r rs

/-- The parts of `[lower, upper]` that the sorted ranges leave free. -/
def gaps (lower upper : Nat) : List CodeRange → List CodeRange
  | [] => if lower ≤ upper then [⟨lower, upper⟩] else []
  | r :: rs =>
    if lower < r.first then ⟨lower, min upper (r.first - 1)⟩ :: gaps (r.last + 1) upper rs
    else gaps (max lower (r.last + 1)) upper rs

/-- The common parts of two sorted lists of ranges. -/
def overlaps (xs ys : List CodeRange) : List CodeRange :=
  match xs, ys with
  | [], _ => []
  | _, [] => []
  | x :: xs, y :: ys =>
    let rest := if x.last ≤ y.last then overlaps xs (y :: ys) else overlaps (x :: xs) ys
    if max x.first y.first ≤ min x.last y.last then
      ⟨max x.first y.first, min x.last y.last⟩ :: rest
    else rest
  termination_by xs.length + ys.length

/-! ## The algebra of sets -/

def lastCodePoint : Nat := 0x10ffff

/-- The two runs of code points that characters have. -/
def fullRanges : List CodeRange := [⟨0, 0xd7ff⟩, ⟨0xe000, lastCodePoint⟩]

def full : CharSet := ⟨fullRanges.toArray⟩

def empty : CharSet := ⟨#[]⟩

/-- Cuts sorted, joined ranges down to the code points of characters. -/
def ofJoined (rs : List CodeRange) : CharSet := ⟨(overlaps rs fullRanges).toArray⟩

def ofRanges (rs : List CodeRange) : CharSet :=
  ofJoined (join ((rs.filter fun r => r.first ≤ r.last).mergeSort fun a b => a.first ≤ b.first))

def singleton (c : Char) : CharSet := ⟨#[⟨c.toNat, c.toNat⟩]⟩

def range (first last : Char) : CharSet := ofRanges [⟨first.toNat, last.toNat⟩]

def isEmpty (s : CharSet) : Bool := s.ranges.isEmpty

def union (s t : CharSet) : CharSet := ofRanges (s.ranges.toList ++ t.ranges.toList)

def inter (s t : CharSet) : CharSet := ⟨(overlaps s.ranges.toList t.ranges.toList).toArray⟩

def complement (s : CharSet) : CharSet := ofJoined (gaps 0 lastCodePoint s.ranges.toList)

def diff (s t : CharSet) : CharSet := s.inter t.complement

def symmDiff (s t : CharSet) : CharSet := (s.diff t).union (t.diff s)

/-- The set lies within the first 128 code points. -/
def isAscii (s : CharSet) : Bool := s.ranges.all fun r => r.last < 128

/-! ## Membership -/

/-- Looks for `n` among the ranges with index from `lo` up to `hi`, which `fuel` halvings exhaust. -/
def search (ranges : Array CodeRange) (n : Nat) : Nat → Nat → Nat → Bool
  | 0, _, _ => false
  | fuel + 1, lo, hi =>
    if lo < hi then
      let mid := (lo + hi) / 2
      let r := ranges.getD mid ⟨1, 0⟩
      if n < r.first then search ranges n fuel lo mid
      else if r.last < n then search ranges n fuel (mid + 1) hi
      else true
    else false

def containsCode (s : CharSet) (n : Nat) : Bool :=
  search s.ranges n (s.ranges.size.log2 + 2) 0 s.ranges.size

def contains (s : CharSet) (c : Char) : Bool := s.containsCode c.toNat

/-! ## Tables -/

def hexDigit (c : Char) : Nat := if c.isDigit then c.toNat - '0'.toNat else c.toNat - 'a'.toNat + 10

def hexNumber (cs : List Char) : Nat := cs.foldl (fun n c => 16 * n + hexDigit c) 0

/-- Reads `41` or `41-5a`. -/
def tableRange (cs : List Char) : CodeRange :=
  let first := hexNumber (cs.takeWhile (· != '-'))
  match cs.dropWhile (· != '-') with
  | [] => ⟨first, first⟩
  | _ :: last => ⟨first, hexNumber last⟩

/-- The entries of a table: what stands between the blanks of its lines. -/
def tableEntries (table : List String) : List (List Char) :=
  table.flatMap fun line => line.toList.splitOn ' '

/-- Reads ranges given in order and apart. -/
def ofTable (table : List String) : CharSet := ⟨((tableEntries table).map tableRange).toArray⟩

end CharSet

end LineSieve
