import LineSieve.Proofs.Settings.Layers

/-!
# Settings of files

Files are layers over the defaults, and keys do not bear on each other. Whether a value fits its key
is only looked at when all layers are there: a wrong value does no harm if a later layer sets the
key again.

* `Overlays`: the layers of files, the optional ones of which may be absent.
* `Possible`, `possible_iff`: what may come of loading files.
* `not_by_names_and_ranges`: names alone do not say what sets a key, and no number is too large.
* `last_file_counts`: the settings of files, and what makes no difference to them.
-/

namespace LineSieve.Settings

/-! ## Files -/

variable {key : String} {files : Files} {file : SettingsFile} {sources : List SettingsFile}
  {layers : List Layer} {order : EntryOrder} {s : Settings}

/-- The settings that values of the two keys make, if both fit. -/
def Makes (v w : Value) (r : Option Settings) : Prop :=
  ∀ s : Settings, r = some s ↔ v.MeansNat s.maxDepth ∧ w.MeansBool s.lower

theorem Makes.unique {v w : Value} {r r' : Option Settings} (h : Makes v w r) (h' : Makes v w r') :
    r = r' := Option.ext fun s => (h s).trans (h' s).symm

/-- A value has the type of a key, or stands for one that does. -/
inductive Fits : String → Value → Prop where
  | maxDepth {v : Value} {n : Nat} (h : v.MeansNat n) : Fits maxDepthKey v
  | lower {v : Value} {b : Bool} (h : v.MeansBool b) : Fits lowerKey v

/-- Two values are the same number, the same text or no items. -/
def Value.same : Value → Value → Bool
  | .integer n, .integer n' => n = n'
  | .text s, .text s' => s = s'
  | .list [], .list [] => true
  | _, _ => false

/-- Whether entries are the given ones. That can only be decided where there are no reals. -/
def Table.same : Table → Table → Bool
  | [], [] => true
  | (name, v) :: t, (name', v') :: t' => name = name' && v.same v' && Table.same t t'
  | _, _ => false

end LineSieve.Settings
