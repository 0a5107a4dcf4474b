import LineSieve.Pattern.Parser
import LineSieve.Pattern.Regex
import LineSieve.Unicode.CaseMap
import LineSieve.Unicode.Query

/-!
# From pattern trees to regular expressions

Flags change how the rest of their group is read: with or without regard to case, with or without
Unicode, and what the dot and the line anchors mean. Without Unicode a class is a set of bytes, and
a set that holds a byte beyond the first 128 is refused, since it could split a character.

* `Translation.classSet`: the characters of a class.
* `Translation.regex`: the regular expression of a tree.
-/

namespace LineSieve.Pattern

/-- How a part of the pattern is read. -/
structure Modes where
  caseInsensitive : Bool
  multiLine : Bool
  dotMatchesNewLine : Bool
  unicode : Bool
  crlf : Bool

namespace Modes

def initial : Modes := ⟨false, false, false, true, false⟩

/-- The modes after the marks of a group. -/
def apply (m : Modes) (marks : FlagMarks) : Modes where
  caseInsensitive := (marks.state? .caseInsensitive).getD m.caseInsensitive
  multiLine := (marks.state? .multiLine).getD m.multiLine
  dotMatchesNewLine := (marks.state? .dotMatchesNewLine).getD m.dotMatchesNewLine
  unicode := (marks.state? .unicode).getD m.unicode
  crlf := (marks.state? .crlf).getD m.crlf

end Modes

namespace AsciiClass

def ranges : AsciiClass → List (Char × Char)
  | alnum => [('0', '9'), ('A', 'Z'), ('a', 'z')]
  | alpha => [('A', 'Z'), ('a', 'z')]
  | ascii => [('\x00', '\x7f')]
  | blank => [('\t', '\t'), (' ', ' ')]
  | cntrl => [('\x00', '\x1f'), ('\x7f', '\x7f')]
  | digit => [('0', '9')]
  | graph => [('!', '~')]
  | lower => [('a', 'z')]
  | print => [(' ', '~')]
  | punct => [('!', '/'), (':', '@'), ('[', '\x60'), ('\x7b', '~')]
  | space =>
    [('\t', '\t'), ('\n', '\n'), ('\x0b', '\x0b'), ('\x0c', '\x0c'), ('\r', '\r'), (' ', ' ')]
  | upper => [('A', 'Z')]
  | word => [('0', '9'), ('A', 'Z'), ('_', '_'), ('a', 'z')]
  | xdigit => [('0', '9'), ('A', 'F'), ('a', 'f')]

def set (cls : AsciiClass) : CharSet :=
  CharSet.ofRanges (cls.ranges.map fun (a, b) => ⟨a.toNat, b.toNat⟩)

end AsciiClass

namespace PerlClass

def set (unicode : Bool) : PerlClass → CharSet
  | digit => if unicode then Unicode.decimalNumber else AsciiClass.digit.set
  | space => if unicode then Unicode.whiteSpace else AsciiClass.space.set
  | word => if unicode then Unicode.word else AsciiClass.word.set

end PerlClass

namespace Translation

def fault {α : Type} (kind : FaultKind) (span : Span) : Except Fault α := .error ⟨kind, span, none⟩

/-! ## Classes -/

/-- The bytes that a set of bytes leaves out. -/
def complementBytes (s : CharSet) : CharSet := ⟨(CharSet.gaps 0 255 s.ranges.toList).toArray⟩

/-- Closes a class under case, if that is asked for. -/
def fold (m : Modes) (s : CharSet) : CharSet :=
  if !m.caseInsensitive then s else if m.unicode then s.foldCase else s.foldAsciiCase

/-- Negates a class, if that is asked for. -/
def negate (m : Modes) (span : Span) (negated : Bool) (s : CharSet) : Except Fault CharSet :=
  if m.unicode then .ok (if negated then s.complement else s)
  else
    let s := if negated then complementBytes s else s
    if s.isAscii then .ok s else fault .invalidUtf8 span

/-- Closes a class under case before it is negated. -/
def close (m : Modes) (span : Span) (negated : Bool) (s : CharSet) : Except Fault CharSet :=
  negate m span negated (fold m s)

/-- The character of a literal in a class. Without Unicode it must be a byte below 128. -/
def classChar (m : Modes) (lit : Literal) : Except Fault Char :=
  if m.unicode || lit.char.toNat < 128 then .ok lit.char
  else if lit.namesByte then fault .invalidUtf8 lit.span
  else fault .unicodeNotAllowed lit.span

def asciiClass (m : Modes) (span : Span) (cls : AsciiClass) (negated : Bool) :
    Except Fault CharSet :=
  close m span negated cls.set

def perlClass (m : Modes) (span : Span) (cls : PerlClass) (negated : Bool) : Except Fault CharSet :=
  negate m span negated (cls.set m.unicode)

def propertyClass (m : Modes) (span : Span) (query : PropertyQuery) (negated : Bool) :
    Except Fault CharSet :=
  if !m.unicode then fault .unicodeNotAllowed span
  else
    match query with
    | .named name =>
      match Unicode.setNamed? name with
      | some s => close m span negated s
      | none => fault .propertyNotFound span
    | .valued name value differs =>
      match Unicode.setValued? name value with
      | .ok s => close m span (negated != differs) s
      | .error .unknownProperty => fault .propertyNotFound span
      | .error .unknownValue => fault .propertyValueNotFound span

mutual

/-- The characters of the inside of a class. -/
def classSet (m : Modes) : ClassSet → Except Fault CharSet
  | .empty _ => .ok .empty
  | .literal lit => return .singleton (← classChar m lit)
  | .range _ first last => return .range (← classChar m first) (← classChar m last)
  | .ascii span cls negated => asciiClass m span cls negated
  | .property span query negated => propertyClass m span query negated
  | .perl span cls negated => perlClass m span cls negated
  | .bracketed span negated inside => do close m span negated (← classSet m inside)
  | .union _ items => classUnion m items
  | .binary _ op lhs rhs => do
    let lhs := fold m (← classSet m lhs)
    let rhs := fold m (← classSet m rhs)
    match op with
    | .intersection => return lhs.inter rhs
    | .difference => return lhs.diff rhs
    | .symmetricDifference => return lhs.symmDiff rhs

def classUnion (m : Modes) : List ClassSet → Except Fault CharSet
  | [] => .ok .empty
  | item :: items => do
    let s ← classSet m item
    let t ← classUnion m items
    return s.union t

end

/-! ## Trees -/

/-- A character as it matches in the given modes. -/
def literal (m : Modes) (lit : Literal) : Except Fault Regex :=
  if !m.unicode && lit.namesByte && 128 ≤ lit.char.toNat then fault .invalidUtf8 lit.span
  else
    let s := CharSet.singleton lit.char
    if !m.caseInsensitive then .ok (.char s)
    else if m.unicode then .ok (.char (if Unicode.hasFolding lit.char then s.foldCase else s))
    else .ok (.char s.foldAsciiCase)

def dot (m : Modes) (span : Span) : Except Fault Regex :=
  if !m.unicode then fault .invalidUtf8 span
  else if m.dotMatchesNewLine then .ok (.char .full)
  else if m.crlf then .ok (.char (CharSet.ofRanges [⟨10, 10⟩, ⟨13, 13⟩]).complement)
  else .ok (.char (CharSet.singleton '\n').complement)

def look (m : Modes) : Assertion → Look
  | .startLine => if m.multiLine then (if m.crlf then .startLineCrlf else .startLine) else .start
  | .endLine => if m.multiLine then (if m.crlf then .endLineCrlf else .endLine) else .stop
  | .startText => .start
  | .endText => .stop
  | .wordBoundary => .wordBoundary false m.unicode
  | .notWordBoundary => .wordBoundary true m.unicode
  | .wordStart => .wordStart m.unicode
  | .wordEnd => .wordEnd m.unicode
  | .wordStartHalf => .wordStartHalf m.unicode
  | .wordEndHalf => .wordEndHalf m.unicode

mutual

/-- The regular expression of a tree, and the modes after it. -/
def regex (m : Modes) : Tree → Except Fault (Regex × Modes)
  | .empty _ => .ok (.empty, m)
  | .flags _ marks => .ok (.empty, m.apply marks)
  | .literal lit => return (← literal m lit, m)
  | .dot span => return (← dot m span, m)
  | .assertion _ kind => .ok (.look (look m kind), m)
  | .property span query negated => return (.char (← propertyClass m span query negated), m)
  | .perl span cls negated => return (.char (← perlClass m span cls negated), m)
  | .bracketed span negated inside => do
    return (.char (← close m span negated (← classSet m inside)), m)
  | .repetition _ min max body => do
    let (r, m) ← regex m body
    return (.repetition min max r, m)
  | .group _ .capturing body => do
    let (r, _) ← regex m body
    return (.capture r, m)
  | .group _ (.flagged marks) body => do
    let (r, _) ← regex (m.apply marks) body
    return (r, m)
  | .alternation _ branches => do
    let (rs, m) ← regexes m branches
    return (.alternation rs, m)
  | .concat _ parts => do
    let (rs, m) ← regexes m parts
    return (.concat rs, m)

def regexes (m : Modes) : List Tree → Except Fault (List Regex × Modes)
  | [] => .ok ([], m)
  | tree :: trees => do
    let (r, m) ← regex m tree
    let (rs, m) ← regexes m trees
    return (r :: rs, m)

end

end Translation

end LineSieve.Pattern
