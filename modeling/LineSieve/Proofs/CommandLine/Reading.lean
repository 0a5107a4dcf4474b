import LineSieve.CommandLine.Options
import LineSieve.Proofs.Settings.Conversion

/-!
# How a command line is read

A value that turns out to be wrong is sometimes kept and reported later. For command lines that are
accepted this makes no difference, and what reading an item does to them is simpler than what it
does in general.

* `Reading.Sound`: no wrong value of an option waits to be reported.
* `Reading.Reads`: what reading one item does if all is well after it.
* `reads_of_step`: every step to a sound reading is such a step from a sound reading.
* `Reading.ReadsAll`: the same for a row of items. What is read of a part of it is said by the last
  item that says something about it (`ReadsAll.eq_getLast?_or`).
* `Options.ofItems_eq_ok_iff`, `Options.finish_eq_ok_iff`: the items that are accepted are those
  that are read in this way and that the environment completes.
* `Options.exists_of_parse`: hence so are accepted command lines.
* `IsLimit`, `Options.isLimit_of_parse`: where their limit comes from.
-/

namespace LineSieve.CommandLine

theorem exists_of_bind_eq_ok {ε α β : Type} {x : Except ε α} {f : α → Except ε β} {b : β}
    (h : x >>= f = .ok b) : ∃ a, x = .ok a ∧ f a = .ok b := by
  cases x with
  | error e => cases h
  | ok a => exact ⟨a, rfl, h⟩

namespace Reading

/-! ## One item -/

/-- No wrong value of an option waits to be reported. -/
def Sound (r : Reading) : Prop := ∀ e, r.pending ≠ .option e

/-- What an item does to a reading, if nothing is wrong with it. -/
inductive Reads (r : Reading) : Item → Reading → Prop where
  | explain (h : r.explain = false) : Reads r (.flag .explain) { r with explain := true }
  | lower : Reads r (.flag .lower) { r with lowering := some true }
  | noLower : Reads r (.flag .noLower) { r with lowering := some false }
  | config {value : String} (attached : Bool) (h : value ≠ "") :
      Reads r (.field .config value attached) { r with config := some value }
  | maxDepth {value : String} {n : Nat} (attached : Bool)
      (h : Settings.Setting.natOf? value = some n) :
      Reads r (.field .maxDepth value attached) { r with maxDepth := some n }
  | expr (text : String) (h : r.expr = none) :
      Reads r (.positional text) { r with expr := some text }
  | file (text : String) (h : r.expr ≠ none) :
      Reads r (.positional text)
        { r with files := text :: r.files, pending := if text.isEmpty then .file else r.pending }

theorem settle_eq_ok {r r' : Reading} (h : r.settle = .ok r') : r' = r ∧ r.pending = .none := by
  unfold settle at h
  split at h
  · rename_i hPending
    cases h
    exact ⟨rfl, hPending⟩
  · cases h
  · cases h

theorem sound_of_pending_none {r : Reading} (h : r.pending = .none) : r.Sound := by
  intro e hOption
  rw [h] at hOption
  cases hOption

theorem reads_of_assign {r r' : Reading} {f : Field} {value : String} (attached : Bool)
    (h : r.assign f value = .ok r') : Reads r (.field f value attached) r' := by
  cases f with
  | config =>
    simp only [assign] at h
    split at h
    · cases h
    · rename_i hEmpty
      cases h
      exact .config attached fun hValue => hEmpty (hValue ▸ rfl)
  | maxDepth =>
    simp only [assign] at h
    split at h
    · rename_i n hValue
      cases h
      exact .maxDepth attached hValue
    · cases h

theorem reads_of_assignLater {r : Reading} {f : Field} {value : String}
    (hSound : (r.assignLater f value).Sound) :
    Reads r (.field f value false) (r.assignLater f value) := by
  unfold assignLater at hSound ⊢
  cases hAssign : r.assign f value with
  | ok r' => exact reads_of_assign false hAssign
  | error e =>
    rw [hAssign] at hSound
    exact absurd rfl (hSound e)

theorem reads_of_raise {r r' : Reading} {f : Flag} (h : r.raise f = .ok r') :
    Reads r (.flag f) r' := by
  cases f with
  | explain =>
    simp only [raise] at h
    split at h
    · cases h
    · rename_i hExplain
      cases h
      exact .explain (Bool.not_eq_true _ ▸ hExplain)
  | lower =>
    cases h
    exact .lower
  | noLower =>
    cases h
    exact .noLower
  | help => cases h
  | version => cases h

theorem reads_of_take {r r' : Reading} {text : String} (h : r.take text = .ok r') :
    Reads r (.positional text) r' ∧ r.Sound := by
  unfold take at h
  split at h
  · rename_i hExpr
    obtain ⟨s, hSettle, hTake⟩ := exists_of_bind_eq_ok h
    obtain ⟨rfl, hPending⟩ := settle_eq_ok hSettle
    cases hTake
    exact ⟨.expr text hExpr, sound_of_pending_none hPending⟩
  · rename_i e hExpr
    have hFile : r.expr ≠ none := by
      rw [hExpr]
      exact Option.some_ne_none e
    dsimp only at h
    split at h
    · rename_i hPending
      obtain ⟨s, hSame, hTake⟩ := exists_of_bind_eq_ok h
      cases hSame
      cases hTake
      refine ⟨.file text hFile, fun e hOption => ?_⟩
      rw [hPending] at hOption
      cases hOption
    · obtain ⟨s, hSettle, hTake⟩ := exists_of_bind_eq_ok h
      obtain ⟨rfl, hPending⟩ := settle_eq_ok hSettle
      cases hTake
      exact ⟨.file text hFile, sound_of_pending_none hPending⟩

/-- Something wrong that waits to be reported does not go away. -/
theorem reads_of_step {r r' : Reading} {i : Item} (h : r.step i = .ok r') (hSound : r'.Sound) :
    Reads r i r' ∧ r.Sound := by
  cases i with
  | unknown => cases h
  | surplus => cases h
  | positional text => exact reads_of_take h
  | flag f =>
    obtain ⟨s, hSettle, hRaise⟩ := exists_of_bind_eq_ok h
    obtain ⟨rfl, hPending⟩ := settle_eq_ok hSettle
    exact ⟨reads_of_raise hRaise, sound_of_pending_none hPending⟩
  | field f value attached =>
    cases attached with
    | true =>
      obtain ⟨s, hSettle, hAssign⟩ := exists_of_bind_eq_ok h
      obtain ⟨rfl, hPending⟩ := settle_eq_ok hSettle
      exact ⟨reads_of_assign true hAssign, sound_of_pending_none hPending⟩
    | false =>
      obtain ⟨s, hSettle, hAssign⟩ := exists_of_bind_eq_ok h
      obtain ⟨rfl, hPending⟩ := settle_eq_ok hSettle
      cases hAssign
      exact ⟨reads_of_assignLater hSound, sound_of_pending_none hPending⟩
  | bare f =>
    obtain ⟨s, hSettle, hBare⟩ := exists_of_bind_eq_ok h
    cases hBare
    exact absurd rfl (hSound .invalidValue)

/-- What waits to be reported stays. -/
theorem Reads.pending_eq_none {r r' : Reading} {i : Item} (h : Reads r i r')
    (hPending : r'.pending = .none) : r.pending = .none := by
  cases h with
  | file text =>
    dsimp only at hPending
    split at hPending
    · cases hPending
    · exact hPending
  | _ => exact hPending

theorem settle_of_pending_none {r : Reading} (h : r.pending = .none) : r.settle = .ok r := by
  rw [settle, h]

theorem assign_of_reads {r r' : Reading} {f : Field} {value : String} {attached : Bool}
    (h : Reads r (.field f value attached) r') : r.assign f value = .ok r' := by
  cases h with
  | config _ h => simp [assign, h]
  | maxDepth _ h => simp [assign, h]

theorem raise_of_reads {r r' : Reading} {f : Flag} (h : Reads r (.flag f) r') :
    r.raise f = .ok r' := by
  cases h with
  | explain h => simp [raise, h]
  | lower => rfl
  | noLower => rfl

theorem take_of_reads {r r' : Reading} {text : String} (h : Reads r (.positional text) r')
    (hPending : r.pending = .none) : r.take text = .ok r' := by
  cases h with
  | expr _ h =>
    rw [take, h]
    dsimp only
    rw [settle_of_pending_none hPending]
    rfl
  | file _ h =>
    unfold take
    split
    · rename_i hNone
      exact absurd hNone h
    · dsimp only
      rw [if_neg (by simp [hPending]), settle_of_pending_none hPending]
      rfl

/-- Where nothing waits to be reported, an item that can be read is read. -/
theorem step_of_reads {r r' : Reading} {i : Item} (h : Reads r i r')
    (hPending : r.pending = .none) : r.step i = .ok r' := by
  have hSettle := settle_of_pending_none hPending
  cases i with
  | positional text => exact take_of_reads h hPending
  | flag f =>
    rw [step, hSettle]
    exact raise_of_reads h
  | field f value attached =>
    have hAssign := assign_of_reads h
    cases attached with
    | true =>
      rw [step, hSettle]
      exact hAssign
    | false =>
      have hLater : r.assignLater f value = r' := by rw [assignLater, hAssign]
      rw [step, hSettle, ← hLater]
      rfl
  | bare => cases h
  | surplus => cases h
  | unknown => cases h

/-! ## All items -/

/-- What a row of items does to a reading, if nothing is wrong with it. -/
inductive ReadsAll : Reading → List Item → Reading → Prop where
  | nil (r : Reading) : ReadsAll r [] r
  | cons {r s r' : Reading} {i : Item} {is : List Item} (h : Reads r i s)
      (hRest : ReadsAll s is r') : ReadsAll r (i :: is) r'

theorem readsAll_of_foldlM {r r' : Reading} {is : List Item} (h : is.foldlM step r = .ok r')
    (hSound : r'.Sound) : ReadsAll r is r' ∧ r.Sound := by
  induction is generalizing r with
  | nil =>
    cases h
    exact ⟨.nil _, hSound⟩
  | cons i is ih =>
    rw [List.foldlM_cons] at h
    obtain ⟨s, hStep, hRest⟩ := exists_of_bind_eq_ok h
    obtain ⟨hReadsAll, hMiddle⟩ := ih hRest
    obtain ⟨hReads, hStart⟩ := reads_of_step hStep hMiddle
    exact ⟨.cons hReads hReadsAll, hStart⟩

theorem ReadsAll.pending_eq_none {r r' : Reading} {is : List Item} (h : ReadsAll r is r')
    (hPending : r'.pending = .none) : r.pending = .none := by
  induction h with
  | nil => exact hPending
  | cons hReads _ ih => exact hReads.pending_eq_none (ih hPending)

theorem foldlM_of_readsAll {r r' : Reading} {is : List Item} (h : ReadsAll r is r')
    (hPending : r'.pending = .none) : is.foldlM step r = .ok r' := by
  induction h with
  | nil => rfl
  | cons hReads hRest ih =>
    have hNext := hReads.pending_eq_none (hRest.pending_eq_none hPending)
    rw [List.foldlM_cons, step_of_reads hReads hNext]
    exact ih hPending

/-- Of the items that say what a part of a reading is, the last one counts. -/
theorem ReadsAll.eq_getLast?_or {α : Type} {get : Reading → Option α} {said : Item → Option α}
    (hReads : ∀ {r i r'}, Reads r i r' → get r' = (said i).or (get r)) {r r' : Reading}
    {is : List Item} (h : ReadsAll r is r') : get r' = (is.filterMap said).getLast?.or (get r) := by
  induction h with
  | nil r => rfl
  | @cons r s r' i is hHead _ ih =>
    rw [ih, hReads hHead]
    cases hSaid : said i with
    | none => simp [hSaid]
    | some a =>
      rw [List.filterMap_cons_some hSaid, List.getLast?_cons, Option.some_or]
      cases (is.filterMap said).getLast? <;> rfl

/-! ## Variables -/

/-- A variable is read like an option with an attached value, if there is no such option. -/
theorem cases_of_assignVariable {r r' : Reading} {f : Field} {given : Bool} {value : Option String}
    (h : r.assignVariable f given value = .ok r') :
    (r' = r ∧ (given = true ∨ value = none)) ∨
      ∃ v, given = false ∧ value = some v ∧ Reads r (.field f v true) r' := by
  cases value with
  | none =>
    cases h
    exact Or.inl ⟨rfl, Or.inr rfl⟩
  | some v =>
    cases given with
    | true =>
      cases h
      exact Or.inl ⟨rfl, Or.inl rfl⟩
    | false => exact Or.inr ⟨v, rfl, rfl, reads_of_assign true h⟩

theorem lowering_of_assignVariable {r r' : Reading} {f : Field} {given : Bool}
    {value : Option String} (h : r.assignVariable f given value = .ok r') :
    r'.lowering = r.lowering := by
  rcases cases_of_assignVariable h with ⟨rfl, -⟩ | ⟨v, -, -, hReads⟩
  · rfl
  · cases hReads <;> rfl

/-- A reading with the variables for the settings file and for the limit. -/
def completed (env : Environment) (r : Reading) : Except UsageError Reading := do
  let r ← r.assignVariable .config r.config.isSome (env.get? configVariable)
  r.assignVariable .maxDepth r.maxDepth.isSome (env.get? maxDepthVariable)

theorem lowering_of_completed {env : Environment} {r r' : Reading} (h : r.completed env = .ok r') :
    r'.lowering = r.lowering := by
  obtain ⟨s, hConfig, hMaxDepth⟩ := exists_of_bind_eq_ok h
  exact (lowering_of_assignVariable hMaxDepth).trans (lowering_of_assignVariable hConfig)

end Reading

namespace Options

variable {env : Environment} {defaultMaxDepth : Nat} {o : Options}

/-! ## Whole command lines -/

/-- The options of a reading that the variables have completed. `byVariable` is what the variable
for lower-casing says, where it counts. -/
def conclude (defaultMaxDepth : Nat) (r : Reading) (byVariable : Option Bool) :
    Except UsageError Options :=
  if byVariable.isSome && r.lowering.isSome then .error .argumentConflict
  else
    match r.expr with
    | none => .error .missingRequiredArgument
    | some expr => .ok {
        config := r.config
        explain := r.explain
        lower := r.lowering = some true || byVariable = some true
        noLower := r.lowering = some false
        maxDepth := r.maxDepth.getD defaultMaxDepth
        expr
        files := r.files.reverse }

/-- A reading is completed by one variable after the other. -/
theorem finish_eq (r : Reading) :
    finish env defaultMaxDepth r = (do
      let r ← r.settle
      let s ← r.assignVariable .config r.config.isSome (env.get? configVariable)
      let byVariable ← (if s.lowering = some true then Except.ok none else lowerOf env)
      let t ← s.assignVariable .maxDepth s.maxDepth.isSome (env.get? maxDepthVariable)
      conclude defaultMaxDepth t byVariable) := by
  unfold finish
  refine bind_congr fun r => bind_congr fun s => ?_
  split <;> rfl

/-- The options of items. -/
def ofItems (env : Environment) (defaultMaxDepth : Nat) (is : List Item) :
    Except UsageError Options := do
  finish env defaultMaxDepth (← is.foldlM Reading.step .start)

/-- Items are accepted exactly if they can be read, nothing waits to be reported after them, and the
environment completes what was read. -/
theorem ofItems_eq_ok_iff {is : List Item} :
    ofItems env defaultMaxDepth is = .ok o ↔ ∃ r, Reading.ReadsAll .start is r ∧
      r.pending = .none ∧ finish env defaultMaxDepth r = .ok o := by
  constructor
  · intro h
    obtain ⟨r, hItems, hFinish⟩ := exists_of_bind_eq_ok h
    have hFinished := hFinish
    rw [finish_eq] at hFinished
    obtain ⟨r', hSettle, -⟩ := exists_of_bind_eq_ok hFinished
    obtain ⟨rfl, hPending⟩ := Reading.settle_eq_ok hSettle
    have hReads := Reading.readsAll_of_foldlM hItems (Reading.sound_of_pending_none hPending)
    exact ⟨_, hReads.1, hPending, hFinish⟩
  · rintro ⟨r, hReads, hPending, hFinish⟩
    rw [ofItems, Reading.foldlM_of_readsAll hReads hPending]
    exact hFinish

/-- What was read is completed by the variables, and concluded with what the one for lower-casing
says. -/
theorem finish_eq_ok_iff {r : Reading} (hPending : r.pending = .none) :
    finish env defaultMaxDepth r = .ok o ↔ ∃ t byVariable, r.completed env = .ok t ∧
      (if r.lowering = some true then .ok none else lowerOf env) = .ok byVariable ∧
      conclude defaultMaxDepth t byVariable = .ok o := by
  rw [finish_eq, Reading.settle_of_pending_none hPending]
  constructor
  · intro h
    obtain ⟨r, hSame, hSettled⟩ := exists_of_bind_eq_ok h
    cases hSame
    obtain ⟨s, hConfig, hFound⟩ := exists_of_bind_eq_ok hSettled
    obtain ⟨byVariable, hLower, hLowered⟩ := exists_of_bind_eq_ok hFound
    obtain ⟨t, hMaxDepth, hConclude⟩ := exists_of_bind_eq_ok hLowered
    rw [Reading.lowering_of_assignVariable hConfig] at hLower
    refine ⟨t, byVariable, ?_, hLower, hConclude⟩
    rw [Reading.completed, hConfig]
    exact hMaxDepth
  · rintro ⟨t, byVariable, hCompleted, hLower, hConclude⟩
    obtain ⟨s, hConfig, hMaxDepth⟩ := exists_of_bind_eq_ok hCompleted
    rw [← Reading.lowering_of_assignVariable hConfig] at hLower
    change (r.assignVariable .config r.config.isSome (env.get? configVariable) >>= _) = _
    rw [hConfig]
    change ((if s.lowering = some true then Except.ok none else lowerOf env) >>= _) = _
    rw [hLower]
    change (s.assignVariable .maxDepth s.maxDepth.isSome (env.get? maxDepthVariable) >>= _) = _
    rw [hMaxDepth]
    exact hConclude

/-- An accepted command line is read item by item, completed by the variables for the settings file
and the limit, and concluded. -/
theorem exists_of_parse {args : List String} (h : parse env defaultMaxDepth args = .ok o) :
    ∃ r s t byVariable, Reading.ReadsAll .start (items vocabulary args) r ∧
      r.assignVariable .config r.config.isSome (env.get? configVariable) = .ok s ∧
      (if s.lowering = some true then .ok none else lowerOf env) = .ok byVariable ∧
      s.assignVariable .maxDepth s.maxDepth.isSome (env.get? maxDepthVariable) = .ok t ∧
      conclude defaultMaxDepth t byVariable = .ok o := by
  obtain ⟨r, hReads, hPending, hFinish⟩ := ofItems_eq_ok_iff.mp h
  obtain ⟨t, byVariable, hCompleted, hLower, hConclude⟩ := (finish_eq_ok_iff hPending).mp hFinish
  obtain ⟨s, hConfig, hMaxDepth⟩ := exists_of_bind_eq_ok hCompleted
  rw [← Reading.lowering_of_assignVariable hConfig] at hLower
  exact ⟨r, s, t, byVariable, hReads, hConfig, hLower, hMaxDepth, hConclude⟩

theorem fields_of_conclude {r : Reading} {byVariable : Option Bool}
    (h : conclude defaultMaxDepth r byVariable = .ok o) :
    o.config = r.config ∧ o.maxDepth = r.maxDepth.getD defaultMaxDepth := by
  unfold conclude at h
  split at h
  · cases h
  · split at h
    · cases h
    · cases h
      exact ⟨rfl, rfl⟩

end Options

/-! ## The limit -/

/-- The texts that options give for the limit, in order. -/
def limitTexts (is : List Item) : List String :=
  is.filterMap fun
    | .field .maxDepth text _ => some text
    | _ => none

/-- The limit of a command line: that of the last option for it, else that of the variable, else the
default. -/
inductive IsLimit (env : Environment) (defaultMaxDepth : Nat) (args : List String) :
    Nat → Prop where
  | byOption {text : String} {n : Nat}
      (h : (limitTexts (items vocabulary args)).getLast? = some text)
      (hNumeral : Settings.Numeral text n) : IsLimit env defaultMaxDepth args n
  | byVariable {text : String} {n : Nat} (h : limitTexts (items vocabulary args) = [])
      (hVariable : env.get? maxDepthVariable = some text) (hNumeral : Settings.Numeral text n) :
      IsLimit env defaultMaxDepth args n
  | byDefault (h : limitTexts (items vocabulary args) = [])
      (hVariable : env.get? maxDepthVariable = none) :
      IsLimit env defaultMaxDepth args defaultMaxDepth

theorem IsLimit.unique {env : Environment} {defaultMaxDepth : Nat} {args : List String} {n n' : Nat}
    (h : IsLimit env defaultMaxDepth args n) (h' : IsLimit env defaultMaxDepth args n') :
    n = n' := by
  cases h with
  | byOption h hNumeral =>
    cases h' with
    | byOption h' hNumeral' =>
      cases h.symm.trans h'
      exact hNumeral.unique hNumeral'
    | _ h' => simp [h'] at h
  | byVariable h hVariable hNumeral =>
    cases h' with
    | byOption h' => simp [h] at h'
    | byVariable _ hVariable' hNumeral' =>
      cases hVariable.symm.trans hVariable'
      exact hNumeral.unique hNumeral'
    | byDefault _ hVariable' => cases hVariable.symm.trans hVariable'
  | byDefault h hVariable =>
    cases h' with
    | byOption h' => simp [h] at h'
    | byVariable _ hVariable' => cases hVariable.symm.trans hVariable'
    | byDefault => rfl

/-- The last text for the limit is a number, and counts. -/
theorem Reading.ReadsAll.maxDepth_eq {r r' : Reading} {is : List Item} (h : ReadsAll r is r') :
    (limitTexts is = [] ∧ r'.maxDepth = r.maxDepth) ∨
      ∃ text n, (limitTexts is).getLast? = some text ∧ Settings.Numeral text n ∧
        r'.maxDepth = some n := by
  induction h with
  | nil => exact Or.inl ⟨rfl, rfl⟩
  | @cons r s r' i is hHead hRest ih =>
    rcases ih with ⟨hNone, hSame⟩ | ⟨text, n, hLast, hNumeral, hMaxDepth⟩
    · cases hHead with
      | @maxDepth value n _ hValue =>
        refine Or.inr ⟨value, n, ?_, Settings.Setting.natOf?_eq_some_iff.mp hValue, hSame⟩
        change (value :: limitTexts is).getLast? = some value
        rw [hNone]
        rfl
      | _ => exact Or.inl ⟨hNone, hSame⟩
    · refine Or.inr ⟨text, n, ?_, hNumeral, hMaxDepth⟩
      rw [limitTexts, List.filterMap_cons]
      split
      · exact hLast
      · rw [List.getLast?_cons, ← limitTexts, hLast]
        rfl

/-- The limit of an accepted command line. -/
theorem Options.isLimit_of_parse {env : Environment} {defaultMaxDepth : Nat} {o : Options}
    {args : List String} (h : parse env defaultMaxDepth args = .ok o) :
    IsLimit env defaultMaxDepth args o.maxDepth := by
  obtain ⟨r, s, t, byVariable, hReads, hConfig, -, hMaxDepth, hConclude⟩ := exists_of_parse h
  have hFile : s.maxDepth = r.maxDepth := by
    rcases Reading.cases_of_assignVariable hConfig with ⟨rfl, -⟩ | ⟨v, -, -, hRead⟩
    · rfl
    · cases hRead
      rfl
  rw [(fields_of_conclude hConclude).2]
  rcases hReads.maxDepth_eq with ⟨hNone, hStart⟩ | ⟨text, n, hLast, hNumeral, hOption⟩
  · have hUnset : s.maxDepth = none := hFile.trans hStart
    rcases Reading.cases_of_assignVariable hMaxDepth with
      ⟨rfl, hGiven | hVariable⟩ | ⟨text, -, hVariable, hRead⟩
    · rw [hUnset] at hGiven
      cases hGiven
    · rw [hUnset]
      exact .byDefault hNone hVariable
    · cases hRead with
      | maxDepth _ hValue =>
        exact .byVariable hNone hVariable (Settings.Setting.natOf?_eq_some_iff.mp hValue)
  · have hSet : s.maxDepth = some n := hFile.trans hOption
    rcases Reading.cases_of_assignVariable hMaxDepth with ⟨rfl, -⟩ | ⟨_, hGiven, -, -⟩
    · rw [hSet]
      exact .byOption hLast hNumeral
    · rw [hSet] at hGiven
      cases hGiven

end LineSieve.CommandLine
