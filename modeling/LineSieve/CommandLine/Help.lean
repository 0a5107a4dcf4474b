import LineSieve.CommandLine.Options

/-!
# Help

The page that explains the options, with the values of their variables. Lines are at most 100
columns wide, and explanations are wrapped beside the names of the options.
-/

namespace LineSieve.CommandLine

def columns : Nat := 100

/-- Lays words out on lines of at most `width` columns. A word that is too long has a line of its
own. `line` is the current line. -/
def wrapWords (width : Nat) (line : String) : List String → List String
  | [] => [line]
  | w :: ws =>
    if line.length + 1 + w.length ≤ width then wrapWords width (line ++ " " ++ w) ws
    else line :: wrapWords width w ws

def wrap (width : Nat) (words : List String) : List String :=
  match words with
  | [] => [""]
  | w :: ws => wrapWords width w ws

def spaces (n : Nat) : String := String.ofList (List.replicate n ' ')

/-- A name with its explanation, which begins in column `indent`. -/
def entryText (indent : Nat) (name explanation : String) : String :=
  let lines := wrap (columns - indent) (explanation.splitOn " ")
  let first := name ++ spaces (indent - name.length)
  first ++ ("\n" ++ spaces indent).intercalate lines ++ "\n"

/-- The words on a variable. -/
def variableText (env : Environment) (name : String) : String :=
  "[env: " ++ name ++ "=" ++ (env.get? name).getD "" ++ "]"

def optionColumn : Nat := 31

def argumentColumn : Nat := 13

def helpText (env : Environment) (defaultMaxDepth : Nat) : String :=
  let argument := entryText argumentColumn
  let option := entryText optionColumn
  "Print lines matching a boolean expression of substrings and regular expressions\n\n" ++
  "Usage: bmatch [OPTIONS] <EXPR> [FILE]...\n\n" ++
  "Arguments:\n" ++
  argument "  <EXPR>" "Expression, e.g. 'foo AND NOT (bar OR /ba[zr]/)'" ++
  argument "  [FILE]..." "Files to process, '-' stands for stdin" ++
  "\nOptions:\n" ++
  option "      --config <FILE>"
    ("Configuration file path " ++ variableText env configVariable) ++
  option "      --explain" "Print the parsed expression and exit" ++
  option "  -l, --lower"
    ("Match against lowercased lines " ++ variableText env lowerVariable) ++
  option "      --no-lower"
    "Match against lines as they are, overrides --lower option and the configuration" ++
  option "      --max-depth <MAX_DEPTH>"
    ("Maximum nesting level of the expression " ++ variableText env maxDepthVariable ++
      " [default: " ++ toString defaultMaxDepth ++ "]") ++
  option "  -h, --help" "Print help" ++
  option "  -V, --version" "Print version"

def versionText : String := "bmatch 0.1.0\n"

end LineSieve.CommandLine
