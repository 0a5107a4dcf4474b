import LineSieve.Expr
import LineSieve.Text.Utf8
import LineSieve.Text.Quoted

/-!
# Matchers

A matcher is an expression ready to be tested against texts. Its patterns are of a type `P`, which
an engine compiles and tests, and everything here holds for any engine.

Operands are tested from left to right, and only as long as the answer is open.

* `Substring.occursIn`: a word is in a text, as a sequence of bytes.
* `Matcher.evaluate`: the answer for a text, with the patterns tested for it in order.
* `Matcher.isMatch`: the answer alone.
* `Matcher.and`, `Matcher.or`, `Matcher.not`: combined matchers.
-/

namespace LineSieve

/-- Compiles patterns and tests them. A refusal is a text that explains it. -/
structure Engine (P : Type) where
  compile : String → Except String P
  isMatch : P → String → Bool

namespace Substring

/-- `needle` is a contiguous part of the bytes. -/
def inBytes (needle : Bytes) : Bytes → Bool
  | [] => needle.isEmpty
  | b :: bs => needle.isPrefixOf (b :: bs) || inBytes needle bs

/-- The word is a part of the text. The empty word is a part of every text. -/
def occursIn (word text : String) : Bool := inBytes (Utf8.encode word) (Utf8.encode text)

/-- The form of a word to look for that diagnostics show. -/
def display (word : String) : String := "Substring(" ++ Text.quote word ++ ")"

end Substring

inductive Matcher (P : Type) where
  | substring (word : String)
  | pattern (pattern : P)
  | apply (op : Operator) (operands : List (Matcher P))

namespace Matcher

/-! ## Evaluation -/

/-- The answer of a matcher, and the patterns that were tested for it, in order. -/
structure Verdict (P : Type) where
  holds : Bool
  tested : List P

namespace Verdict

variable {P : Type}

def negate (v : Verdict P) : Verdict P := ⟨!v.holds, v.tested⟩

/-- The answer `v`, found after other patterns were tested. -/
def after (tested : List P) (v : Verdict P) : Verdict P := ⟨v.holds, tested ++ v.tested⟩

end Verdict

section

variable {P : Type} (test : P → Bool) (text : String)

mutual

/-- Evaluates a matcher for `text`; `test` tells which patterns match in it. -/
def evaluate : Matcher P → Verdict P
  | substring word => ⟨Substring.occursIn word text, []⟩
  | pattern p => ⟨test p, [p]⟩
  | apply .not ms => (evaluateAny ms).negate
  | apply .and ms => evaluateAll ms
  | apply .or ms => evaluateAny ms

/-- Evaluates operands up to and including the first that holds. -/
def evaluateAny : List (Matcher P) → Verdict P
  | [] => ⟨false, []⟩
  | m :: ms =>
    let v := evaluate m
    if v.holds then v else (evaluateAny ms).after v.tested

/-- Evaluates operands up to and including the first that does not hold. -/
def evaluateAll : List (Matcher P) → Verdict P
  | [] => ⟨true, []⟩
  | m :: ms =>
    let v := evaluate m
    if v.holds then (evaluateAll ms).after v.tested else v

end

end

variable {P : Type}

/-- The matcher holds of the text. -/
def isMatch (engine : Engine P) (m : Matcher P) (text : String) : Bool :=
  (m.evaluate (engine.isMatch · text) text).holds

/-! ## Combination -/

def and (m n : Matcher P) : Matcher P := .apply .and [m, n]

def or (m n : Matcher P) : Matcher P := .apply .or [m, n]

def not (m : Matcher P) : Matcher P := .apply .not [m]

/-! ## Rendering -/

def operatorTag : Operator → String
  | .not => "Not"
  | .and => "And"
  | .or => "Or"

section

variable (display : P → String)

mutual

/-- The structure of a matcher, as diagnostics show it. -/
def render : Matcher P → String
  | substring word => "Substring(" ++ Substring.display word ++ ")"
  | pattern p => "Pattern(" ++ display p ++ ")"
  | apply op [] => operatorTag op ++ "([])"
  | apply op (m :: ms) => operatorTag op ++ "([" ++ render m ++ renderRest ms ++ "])"

/-- The operands after the first, each behind a comma. -/
def renderRest : List (Matcher P) → String
  | [] => ""
  | m :: ms => ", " ++ render m ++ renderRest ms

end

end

end Matcher

end LineSieve
