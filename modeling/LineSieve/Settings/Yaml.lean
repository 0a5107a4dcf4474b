import LineSieve.Settings.Yaml.Lexer
import LineSieve.Settings.Yaml.Node

/-!
# YAML

Reads streams of at most one document, which is a mapping. Texts without quotes are null, `true`,
`false`, integers, reals or else texts.

* `Yaml.read?`: the entries of the document of a text.
-/

namespace LineSieve.Settings.Yaml

/-- The entries of the document in a text. A text without a document has no entries. -/
def read? (content : String) : Option Table := do
  match ← Node.ofTokens? (← tokens? content) with
  | none => return []
  | some root =>
    match ← root.toValue? with
    | .table entries => return entries
    | _ => none

end LineSieve.Settings.Yaml
