import LineSieve.Pattern.Position

/-!
# Pattern trees

The tree of a pattern as it is written. Every node knows the span it was read from.
-/

namespace LineSieve.Pattern

/-- A character that stands for itself or is written by an escape. -/
structure Literal where
  span : Span
  char : Char
  /-- Written as `\x` and two digits, which names a byte where Unicode is off. -/
  namesByte : Bool
  deriving Inhabited

/-- The classes of digits, blanks and word characters, each with a letter of its own. -/
inductive PerlClass where
  | digit
  | space
  | word
  deriving DecidableEq, Repr

/-- The classes written as `[:name:]`. -/
inductive AsciiClass where
  | alnum | alpha | ascii | blank | cntrl | digit | graph | lower | print | punct | space | upper
  | word | xdigit
  deriving DecidableEq, Repr

namespace AsciiClass

def ofName? : String → Option AsciiClass
  | "alnum" => some alnum
  | "alpha" => some alpha
  | "ascii" => some ascii
  | "blank" => some blank
  | "cntrl" => some cntrl
  | "digit" => some digit
  | "graph" => some graph
  | "lower" => some lower
  | "print" => some print
  | "punct" => some punct
  | "space" => some space
  | "upper" => some upper
  | "word" => some word
  | "xdigit" => some xdigit
  | _ => none

end AsciiClass

/-- What a class by property asks for. -/
inductive PropertyQuery where
  | named (name : String)
  | valued (name value : String) (negated : Bool)
  deriving Repr

inductive SetOperator where
  | intersection
  | difference
  | symmetricDifference
  deriving DecidableEq, Repr

/-- The inside of a class in brackets. -/
inductive ClassSet where
  | empty (span : Span)
  | literal (lit : Literal)
  | range (span : Span) (first last : Literal)
  | ascii (span : Span) (cls : AsciiClass) (negated : Bool)
  | property (span : Span) (query : PropertyQuery) (negated : Bool)
  | perl (span : Span) (cls : PerlClass) (negated : Bool)
  | bracketed (span : Span) (negated : Bool) (inside : ClassSet)
  | union (span : Span) (items : List ClassSet)
  | binary (span : Span) (op : SetOperator) (lhs rhs : ClassSet)
  deriving Inhabited

namespace ClassSet

def span : ClassSet → Span
  | empty s => s
  | literal l => l.span
  | range s _ _ => s
  | ascii s _ _ => s
  | property s _ _ => s
  | perl s _ _ => s
  | bracketed s _ _ => s
  | union s _ => s
  | binary s _ _ _ => s

end ClassSet

/-- Conditions on a place in the text. -/
inductive Assertion where
  | startLine
  | endLine
  | startText
  | endText
  | wordBoundary
  | notWordBoundary
  | wordStart
  | wordEnd
  | wordStartHalf
  | wordEndHalf
  deriving DecidableEq, Repr

inductive Flag where
  | caseInsensitive
  | multiLine
  | dotMatchesNewLine
  | swapGreed
  | unicode
  | crlf
  | ignoreWhitespace
  deriving DecidableEq, Repr

/-- A flag, or the sign after which flags are switched off. -/
inductive FlagMark where
  | flag (flag : Flag)
  | negation
  deriving DecidableEq, Repr

/-- The marks of one group, in order, with their spans. -/
abbrev FlagMarks := List (FlagMark × Span)

namespace FlagMarks

/-- What the marks say about a flag, if they name it. -/
def state? (marks : FlagMarks) (flag : Flag) : Option Bool :=
  let rec go (negated : Bool) : FlagMarks → Option Bool
    | [] => none
    | (.negation, _) :: rest => go true rest
    | (.flag f, _) :: rest => if f = flag then some (!negated) else go negated rest
  go false marks

end FlagMarks

inductive GroupKind where
  | capturing
  | flagged (marks : FlagMarks)

inductive Tree where
  | empty (span : Span)
  | flags (span : Span) (marks : FlagMarks)
  | literal (lit : Literal)
  | dot (span : Span)
  | assertion (span : Span) (kind : Assertion)
  | property (span : Span) (query : PropertyQuery) (negated : Bool)
  | perl (span : Span) (cls : PerlClass) (negated : Bool)
  | bracketed (span : Span) (negated : Bool) (inside : ClassSet)
  | repetition (span : Span) (min : Nat) (max : Option Nat) (body : Tree)
  | group (span : Span) (kind : GroupKind) (body : Tree)
  | alternation (span : Span) (branches : List Tree)
  | concat (span : Span) (parts : List Tree)

namespace Tree

def span : Tree → Span
  | empty s => s
  | flags s _ => s
  | literal l => l.span
  | dot s => s
  | assertion s _ => s
  | property s _ _ => s
  | perl s _ _ => s
  | bracketed s _ _ => s
  | repetition s _ _ _ => s
  | group s _ _ => s
  | alternation s _ => s
  | concat s _ => s

instance : Inhabited Tree := ⟨.empty default⟩

end Tree

end LineSieve.Pattern
