import LineSieve.Environment
import LineSieve.Files
import LineSieve.Log
import LineSieve.Settings.Format
import LineSieve.Settings.Layer

/-!
# Settings

The settings of the program, which files overlay. A file may be given without its extension. One
that is not required may be absent, and so may one that is of no known format.

* `Settings.ofLayers`: the settings of layers over the defaults.
* `Settings.loadIn`, `Settings.load`: the settings of files over the defaults.
* `Settings.defaultPath`: the file that is used where none is named.
-/

namespace LineSieve

structure Settings where
  maxDepth : Nat
  lower : Bool
  deriving DecidableEq, Repr

/-- A file with settings. -/
structure SettingsFile where
  path : String
  required : Bool
  deriving DecidableEq, Repr

namespace Settings

def default : Settings := ⟨20, false⟩

def maxDepthKey : String := "max-depth"

def lowerKey : String := "lower"

/-- The setting of a key after layers, the last of which counts. -/
def overlaid (key : String) (initial : Value) (layers : List Layer) : Setting :=
  layers.foldl (Layer.overlay key) ⟨initial, none⟩

/-- The settings of layers. If neither value fits, the first that is come across is to blame. -/
def ofLayers (order : EntryOrder) (layers : List Layer) : Except Error Settings :=
  let layers := order.layers layers
  let maxDepth := (overlaid maxDepthKey (.integer default.maxDepth) layers).toNat maxDepthKey
  let lower := (overlaid lowerKey (.boolean default.lower) layers).toBool lowerKey
  if order.lowerFirst then do
    let lower ← lower
    return ⟨← maxDepth, lower⟩
  else do
    let maxDepth ← maxDepth
    return ⟨maxDepth, ← lower⟩

/-- The names that are tried where there is no file at an absolute path. -/
def candidates (full : String) : List (String × Format) :=
  Format.extensions.map fun (extension, format) => (Path.appendExtension full extension, format)

/-- The path, the format and the content of the file with settings that a path stands for. -/
def locate (files : Files) (path : String) : Except Error (String × Format × Bytes) :=
  let full := files.absolute path
  match files.file? full with
  | some content =>
    match Format.ofExtension? ((Path.extension? full).getD "") with
    | some format => .ok (full, format, content)
    | none => .error (.unsupported full)
  | none =>
    let found := (candidates full).findSome? fun (full, format) =>
      (files.file? full).map fun content => (full, format, content)
    match found with
    | some found => .ok found
    | none => .error (.missing path)

/-- The layer of a file; `none` if the file is not required and cannot be used. -/
def layerOf (files : Files) (file : SettingsFile) : Except Error (Option Layer) :=
  match locate files file.path with
  | .error e => if file.required then .error e else .ok none
  | .ok (full, format, content) =>
    let origin := Path.relativeTo files.workingDirectory full
    match format.read? content with
    | some entries => .ok (some ⟨origin, entries⟩)
    | none => .error (.malformed origin)

/-- The settings of files, whose entries are come across in some order. Values are looked at after
all files are read. -/
def loadIn (order : EntryOrder) (files : Files) (sources : List SettingsFile) :
    Except Error Settings := do
  let layers ← sources.mapM (layerOf files)
  ofLayers order (layers.filterMap id)

/-- The settings of files, whose entries are come across as they are written. -/
def load (files : Files) (sources : List SettingsFile) : Except Error Settings :=
  loadIn .asWritten files sources

/-- The record of a file that is about to be loaded. -/
def loadRecord (file : SettingsFile) : LogRecord :=
  ⟨.debug, "bmatch::settings", "load settings from " ++ Text.quote file.path ++ " (required: " ++
    (if file.required then "true" else "false") ++ ")"⟩

/-- The home directory where the environment names none. -/
def fallbackHome : String := "/root"

/-- The directory of the settings of all programs. -/
def directory (env : Environment) : String :=
  match (env.get? "XDG_CONFIG_HOME").filter Path.isAbsolute with
  | some dir => dir
  | none => Path.join (((env.get? "HOME").filter (· ≠ "")).getD fallbackHome) ".config"

def defaultPath (env : Environment) : String :=
  Path.join (Path.join (directory env) "bmatch") "config.yaml"

/-- The file with the settings: the one that is named, which must exist, or else the one in the
directory of settings. -/
def fileOf (env : Environment) : Option String → SettingsFile
  | some path => ⟨path, true⟩
  | none => ⟨defaultPath env, false⟩

end Settings

end LineSieve
