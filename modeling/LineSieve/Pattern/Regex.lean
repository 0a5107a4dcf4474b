import LineSieve.Unicode.CharSet
import LineSieve.Unicode.Property

/-!
# Regular expressions

The abstract syntax of regular expressions over characters, and the search for a match.

A search works on sets of places: `Regex.reach` maps the places where a match may start to those
where it may end. A place is the number of characters before it. Each node of the expression
visits every place a bounded number of times, so no pattern makes the search backtrack.

* `Regex.reach`: where the matches that start at given places end.
* `Regex.isMatch`: a match starts somewhere in the text.
-/

namespace LineSieve.Pattern

/-- Conditions on the characters around a place. -/
inductive Look where
  | start
  | stop
  | startLine
  | endLine
  | startLineCrlf
  | endLineCrlf
  | wordBoundary (negated unicode : Bool)
  | wordStart (unicode : Bool)
  | wordEnd (unicode : Bool)
  | wordStartHalf (unicode : Bool)
  | wordEndHalf (unicode : Bool)
  deriving DecidableEq, Repr

/-- Regular expressions. -/
inductive Regex where
  | empty
  /-- One character of the set. -/
  | char (set : CharSet)
  | look (look : Look)
  | concat (parts : List Regex)
  | alternation (branches : List Regex)
  /-- The body, at least `min` and at most `max` times. -/
  | repetition (min : Nat) (max : Option Nat) (body : Regex)
  | capture (body : Regex)
  deriving Inhabited

/-! ## Conditions on a place -/

namespace Look

def isWord (unicode : Bool) (c : Char) : Bool :=
  if c.toNat < 128 then c.isAlphanum || c = '_' else unicode && Unicode.word.contains c

/-- The condition holds between the characters `before` and `after`; `none` is an end of the
text. -/
def holds (look : Look) (before after : Option Char) : Bool :=
  match look with
  | start => before.isNone
  | stop => after.isNone
  | startLine => before.isNone || before = some '\n'
  | endLine => after.isNone || after = some '\n'
  | startLineCrlf =>
    before.isNone || before = some '\n' || (before = some '\r' && after ≠ some '\n')
  | endLineCrlf =>
    after.isNone || after = some '\r' || (after = some '\n' && before ≠ some '\r')
  | wordBoundary negated unicode =>
    (before.any (isWord unicode) != after.any (isWord unicode)) != negated
  | wordStart unicode => !before.any (isWord unicode) && after.any (isWord unicode)
  | wordEnd unicode => before.any (isWord unicode) && !after.any (isWord unicode)
  | wordStartHalf unicode => !before.any (isWord unicode)
  | wordEndHalf unicode => !after.any (isWord unicode)

end Look

/-! ## Sets of places -/

/-- Places in a text, in descending order. Most steps add places beyond all others, and these come
first. -/
abbrev Places := List Nat

namespace Places

/-- The places of both lists, in order. -/
def union (xs ys : Places) : Places :=
  match xs, ys with
  | [], ys => ys
  | xs, [] => xs
  | x :: xs, y :: ys =>
    if x > y then x :: union xs (y :: ys)
    else if y > x then y :: union (x :: xs) ys
    else x :: union xs ys
  termination_by xs.length + ys.length

/-- The places of the first list that are not in the second. -/
def diff (xs ys : Places) : Places :=
  match xs, ys with
  | [], _ => []
  | xs, [] => xs
  | x :: xs, y :: ys =>
    if x > y then x :: diff xs (y :: ys)
    else if y > x then diff (x :: xs) ys
    else diff xs ys
  termination_by xs.length + ys.length

/-- Applies `step` exactly `count` times, or fewer if that changes nothing. -/
def iterate (step : Places → Places) : (count : Nat) → Places → Places
  | 0, places => places
  | count + 1, places =>
    let next := step places
    if next = places then places else iterate step count next

/-- All places that at most `rounds` steps reach from `frontier`, with those already `seen`. Only
places not seen before are followed further. -/
def saturate (step : Places → Places) : (rounds : Nat) → (seen frontier : Places) → Places
  | 0, seen, _ => seen
  | rounds + 1, seen, frontier =>
    match (step frontier).diff seen with
    | [] => seen
    | fresh => saturate step rounds (seen.union fresh) fresh

end Places

/-! ## Search -/

namespace Regex

mutual

/-- Where the matches end that start at one of the places. -/
def reach (text : Array Char) : Regex → Places → Places
  | empty, places => places
  | char set, places =>
    (places.filter fun i => text[i]?.any set.contains).map (· + 1)
  | look l, places =>
    places.filter fun i => l.holds (if i = 0 then none else text[i - 1]?) text[i]?
  | concat parts, places => reachAll text parts places
  | alternation branches, places => reachAny text branches places
  | repetition min max body, places =>
    let least := Places.iterate (reach text body) min places
    let rounds := match max with
      | none => text.size + 1
      | some max => Nat.min (max - min) (text.size + 1)
    Places.saturate (reach text body) rounds least least
  | capture body, places => reach text body places

/-- Where matches of the parts, one after the other, end. -/
def reachAll (text : Array Char) : List Regex → Places → Places
  | [], places => places
  | part :: parts, places =>
    match reach text part places with
    | [] => []
    | places => reachAll text parts places

/-- Where matches of one of the branches end. -/
def reachAny (text : Array Char) : List Regex → Places → Places
  | [], _ => []
  | branch :: branches, places => (reach text branch places).union (reachAny text branches places)

end

/-- A match starts somewhere in the text. -/
def isMatch (r : Regex) (text : String) : Bool :=
  let text := text.toList.toArray
  !(reach text r (List.range (text.size + 1)).reverse).isEmpty

end Regex

end LineSieve.Pattern
