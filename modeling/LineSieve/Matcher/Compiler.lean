import LineSieve.Expr.Text
import LineSieve.Matcher

/-!
# Compiling expressions

A matcher is built from an expression by compiling its patterns. Nodes are visited from the root
down and from left to right; at each node its level is checked first, and the first failure ends
the build.

* `Building`: the outcome of a build together with the patterns that the engine was asked to
  compile, in order.
* `build`: builds a matcher for an expression.
* `compile`: parses a text and builds its matcher, with the records logged on the way.
-/

namespace LineSieve

/-- A build and the patterns compiled for it. A pattern that the engine refuses is the last one. -/
structure Building (α : Type) where
  calls : List String
  result : Except Failure α

namespace Building

variable {α β : Type}

/-- A build that needs no patterns. -/
def done (a : α) : Building α := ⟨[], .ok a⟩

def failed (failure : Failure) : Building α := ⟨[], .error failure⟩

def map (f : α → β) (b : Building α) : Building β := ⟨b.calls, b.result.map f⟩

/-- Goes on after a success. -/
def andThen (b : Building α) (f : α → Building β) : Building β :=
  match b.result with
  | .error failure => ⟨b.calls, .error failure⟩
  | .ok a => ⟨b.calls ++ (f a).calls, (f a).result⟩

end Building

namespace Compiler

/-- The nesting limit where none is given. -/
def defaultMaxDepth : Nat := 20

variable {P : Type} (engine : Engine P) (maxDepth : Nat)

/-- Compiles one pattern. -/
def callEngine (text : String) : Building (Matcher P) :=
  ⟨[text], match engine.compile text with
    | .ok p => .ok (.pattern p)
    | .error reason => .error (.pattern text reason)⟩

mutual

/-- Builds the matcher of a node at the given level. -/
def buildAt (level : Nat) (e : Expr) : Building (Matcher P) :=
  if maxDepth < level then .failed (.tooDeep level)
  else
    match e with
    | .word text => .done (.substring text)
    | .pattern text => callEngine engine text
    | .apply op es => (buildEach (level + 1) es).map (.apply op)

/-- Builds the matchers of operands at the given level, in order. -/
def buildEach (level : Nat) (es : List Expr) : Building (List (Matcher P)) :=
  match es with
  | [] => .done []
  | e :: es => (buildAt level e).andThen fun m => (buildEach level es).map (m :: ·)

end

def build (e : Expr) : Building (Matcher P) := buildAt engine maxDepth 0 e

/-- A compilation: what it logged, and its build. -/
structure Compilation (P : Type) where
  log : List LogRecord
  building : Building (Matcher P)

namespace Compilation

def result {P : Type} (c : Compilation P) : Except Failure (Matcher P) := c.building.result

end Compilation

/-- The record of an expression that is parsed and about to be built. -/
def compileRecord (text : String) (e : Expr) : LogRecord :=
  ⟨.debug, "bmatch::matcher", "compile " ++ Text.quote text ++ " as " ++ e.explain ++
    " with depth " ++ toString e.depth⟩

def compile (text : String) : Compilation P :=
  let reading := Expr.read text
  match reading.result with
  | .error failure => ⟨reading.log, .failed failure⟩
  | .ok e => ⟨reading.log ++ [compileRecord text e], build engine maxDepth e⟩

end Compiler

end LineSieve
