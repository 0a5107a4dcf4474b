import LineSieve.Settings.Json
import LineSieve.Settings.Toml
import LineSieve.Settings.Yaml
import LineSieve.Text.Utf8

/-!
# Formats of settings files

A file has its format by the extension of its name.

* `Format.ofExtension?`: the format of an extension.
* `Format.read?`: the entries of a file.
-/

namespace LineSieve.Settings

inductive Format where
  | toml
  | json
  | yaml
  deriving DecidableEq, Repr

namespace Format

/-- The extensions, in the order in which they are tried. -/
def extensions : List (String × Format) :=
  [("toml", toml), ("json", json), ("yaml", yaml), ("yml", yaml)]

def ofExtension? (extension : String) : Option Format := extensions.lookup extension

/-- The text of a file, without the mark of its encoding. -/
def textOf (content : Bytes) : String :=
  let mark : Bytes := [0xef, 0xbb, 0xbf]
  Utf8.decodeLossy (if mark.isPrefixOf content then content.drop mark.length else content)

def read? (format : Format) (content : Bytes) : Option Table :=
  match format with
  | toml => Toml.read? (textOf content)
  | json => Json.read? (textOf content)
  | yaml => Yaml.read? (textOf content)

end Format

end LineSieve.Settings
