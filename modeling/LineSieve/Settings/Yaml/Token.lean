/-!
# Tokens of YAML

What the text of a YAML stream is made of. Blocks have tokens at their start and end, which
indentation stands for in the text; every key of a block and every key before a colon has a token
in front of it.
-/

namespace LineSieve.Settings.Yaml

inductive Token where
  | directive (name : String) (words : List String)
  | documentStart
  | documentEnd
  | sequenceStart
  | mappingStart
  | blockEnd
  | flowSequenceStart
  | flowSequenceEnd
  | flowMappingStart
  | flowMappingEnd
  | entry
  | comma
  | key
  | value
  | alias (name : String)
  | anchor (name : String)
  /-- A tag of a handle and a suffix. -/
  | tag (handle suffix : String)
  /-- A text; `plain` holds if it has no quotes and is in no block. -/
  | scalar (plain : Bool) (text : String)
  | streamEnd
  deriving DecidableEq, Inhabited

end LineSieve.Settings.Yaml
