/-!
# Items of a command line

What the arguments of a command line are, one after the other: flags, options with their values, and
positional arguments. Options are known by long names after two dashes and by letters after one;
letters can stand together. After two dashes alone all arguments are positional.

* `CommandLine.items`: the items of a list of arguments.
-/

namespace LineSieve.CommandLine

/-- An option without a value. -/
inductive Flag where
  | explain
  | lower
  | noLower
  | help
  | version
  deriving DecidableEq, Repr

/-- An option with a value. -/
inductive Field where
  | config
  | maxDepth
  deriving DecidableEq, Repr

inductive Item where
  | flag (f : Flag)
  /-- An option with its value; `attached` holds if they are one argument. -/
  | field (f : Field) (value : String) (attached : Bool)
  /-- An option whose value is missing. -/
  | bare (f : Field)
  /-- A flag with a value. -/
  | surplus (f : Flag)
  | positional (text : String)
  | unknown (name : String)
  deriving DecidableEq, Repr

/-- The options that are known. -/
structure Vocabulary where
  long : List (String × (Flag ⊕ Field))
  short : List (Char × Flag)

/-- The items of letters after one dash. Nothing after an unknown letter counts. -/
def letterItems (v : Vocabulary) : List Char → List Item
  | [] => []
  | c :: cs =>
    match v.short.lookup c with
    | some f => .flag f :: letterItems v cs
    | none => [.unknown (String.ofList ['-', c])]

/-- What one argument is by its form. -/
inductive Form where
  /-- Two dashes alone. -/
  | escape
  /-- A long name, and the value after an equals sign. -/
  | long (name : String) (value : Option String)
  | letters (cs : List Char)
  | plain (text : String)
  deriving DecidableEq, Repr

/-- The form of an argument. A dash alone is plain. -/
def Form.of (arg : String) : Form :=
  match arg.toList with
  | ['-', '-'] => .escape
  | '-' :: '-' :: cs =>
    let name := String.ofList (cs.takeWhile (· ≠ '='))
    match cs.dropWhile (· ≠ '=') with
    | [] => .long name none
    | _ :: value => .long name (some (String.ofList value))
  | '-' :: c :: cs => .letters (c :: cs)
  | _ => .plain arg

/-- The items of arguments. Only a plain argument is the value of an option before it. -/
def items (v : Vocabulary) : List String → List Item
  | [] => []
  | arg :: args =>
    match Form.of arg with
    | .escape => args.map .positional
    | .plain text => .positional text :: items v args
    | .letters cs => letterItems v cs ++ items v args
    | .long name value =>
      match v.long.lookup name, value with
      | none, _ => .unknown ("--" ++ name) :: items v args
      | some (.inl f), none => .flag f :: items v args
      | some (.inl f), some _ => .surplus f :: items v args
      | some (.inr f), some value => .field f value true :: items v args
      | some (.inr f), none =>
        match args with
        | [] => [.bare f]
        | next :: rest =>
          match Form.of next with
          | .plain value => .field f value false :: items v rest
          | _ => .bare f :: items v (next :: rest)

end LineSieve.CommandLine
