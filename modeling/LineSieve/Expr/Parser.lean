import LineSieve.Expr
import LineSieve.Token.Lexer

/-!
# From tokens to expressions

A shift-reduce parser that looks one token ahead. After each token it has shifted, it reduces the
top of its stack as long as a rule applies:

* a literal becomes a tree;
* `NOT tree`, `tree AND tree` and `( tree )` become a tree;
* `tree OR tree` becomes a tree if the next token closes a group, is `OR`, or is absent. Otherwise
  an `AND` may still extend the right operand, so `AND` binds tighter.

Two limits hold: at most `maxTokens` tokens are shifted, and after one token at most `maxRounds`
reductions are tried, of which the last must find no rule to apply.

* `Parser.reduce?`: one reduction.
* `Parser.settle`: reductions up to the limit.
* `Parser.parse`: the whole run, with the tokens it shifted and the number it asked for.
-/

namespace LineSieve

inductive ParseError where
  | malformed
  | tooManyTokens
  | tooManyReductions
  deriving DecidableEq, Repr

namespace ParseError

def message : ParseError → String
  | malformed => "syntax error"
  | tooManyTokens => "too many tokens"
  | tooManyReductions => "too many reduce rounds"

end ParseError

/-- The tokens that a parser can ask for, by position. `none` is the end; what a supply answers
beyond its first `none` is not part of the expression. -/
abbrev TokenSupply := Nat → Option Token

namespace TokenSupply

def ofArray (tokens : Array Token) : TokenSupply := fun i => tokens[i]?

def ofList (tokens : List Token) : TokenSupply := ofArray tokens.toArray

end TokenSupply

namespace Parser

def maxTokens : Nat := 1000

def maxRounds : Nat := 100

/-- An entry of the stack. -/
inductive Item where
  | token (token : Token)
  | tree (expr : Expr)

/-- The stack, top first. -/
abbrev Stack := List Item

/-- An `OR` before this token has its whole right operand. -/
def endsOr : Option Token → Bool
  | none => true
  | some .closeParen => true
  | some .or => true
  | _ => false

/-- Applies the rule that fits the top of the stack, if one does. -/
def reduce? (next : Option Token) : Stack → Option Stack
  | .token (.word text) :: rest => some (.tree (.word text) :: rest)
  | .token (.pattern text) :: rest => some (.tree (.pattern text) :: rest)
  | .tree e :: .token .not :: rest => some (.tree (.apply .not [e]) :: rest)
  | .tree r :: .token .and :: .tree l :: rest => some (.tree (.apply .and [l, r]) :: rest)
  | .tree r :: .token .or :: .tree l :: rest =>
    if endsOr next then some (.tree (.apply .or [l, r]) :: rest) else none
  | .token .closeParen :: .tree e :: .token .openParen :: rest => some (.tree e :: rest)
  | _ => none

/-- Reduces in at most `rounds` rounds, the last of which finds no rule to apply. -/
def settle (next : Option Token) : (rounds : Nat) → Stack → Except ParseError Stack
  | 0, _ => .error .tooManyReductions
  | rounds + 1, stack =>
    match reduce? next stack with
    | none => .ok stack
    | some stack => settle next rounds stack

/-- The result at the end of the tokens: the stack must be one tree. -/
def finish : Stack → Except ParseError Expr
  | [.tree e] => .ok e
  | _ => .error .malformed

/-- What a run of the parser did. -/
structure Run where
  /-- The tokens shifted, in order. -/
  shifted : List Token
  /-- How many times the supply was asked for a token. -/
  asked : Nat
  result : Except ParseError Expr

namespace Run

/-- The run that shifts `token`, asks for the one after it and goes on as `run`. -/
def after (token : Token) (run : Run) : Run := ⟨token :: run.shifted, run.asked + 1, run.result⟩

end Run

/-- Shifts `token`, which is followed by the tokens of the supply from position `i` on. At most
`budget` tokens are shifted. -/
def shift (supply : TokenSupply) : (budget : Nat) → (token : Token) → (i : Nat) → Stack → Run
  | 0, _, _, _ => ⟨[], 0, .error .tooManyTokens⟩
  | budget + 1, token, i, stack =>
    let next := supply i
    Run.after token <|
      match settle next maxRounds (.token token :: stack) with
      | .error e => ⟨[], 0, .error e⟩
      | .ok stack =>
        match next with
        | none => ⟨[], 0, finish stack⟩
        | some next => shift supply budget next (i + 1) stack

/-- Parses the tokens of a supply up to its first `none`. No token at all stands for the
expression that holds of every text. -/
def parse (supply : TokenSupply) : Run :=
  match supply 0 with
  | none => ⟨[], 1, .ok Expr.any⟩
  | some token =>
    let run := shift supply maxTokens token 1 []
    { run with asked := run.asked + 1 }

def parseTokens (tokens : List Token) : Run := parse (TokenSupply.ofList tokens)

end Parser

end LineSieve
