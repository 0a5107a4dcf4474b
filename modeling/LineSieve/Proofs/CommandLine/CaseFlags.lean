import LineSieve.Proofs.CommandLine.Reading

/-!
# Flags on lower-casing

Flags can ask for lower-casing and refuse it, in any order and any number of times. The last of them
counts, over the variable and over the settings. Otherwise the flags are of no account, but for one
thing: if the last one refuses lower-casing, the variable must not be set, whatever its value.

* `caseFlags`, `otherItems`: what the flags on lower-casing ask for, and the items beside them.
* `Reading.readsAll_otherItems_iff`: the flags change nothing else in what is read.
* `Options.CaseSetting`: what the last flag and the variable come to.
* `Options.parse_eq_ok_iff_otherItems`: the options are those of the other items without the
  variable, completed by this.
* `not_no_lower_beside_variable`: a flag does not always override the variable.
* `last_case_flag_counts`: whether lines are lower-cased, and which command lines are accepted.
-/

namespace LineSieve

/-! ## Environments without a variable -/

namespace Environment

/-- The environment in which a variable is not set. -/
def without (env : Environment) (name : String) : Environment := env.filter fun v => v.1 ≠ name

theorem get?_without (env : Environment) (name other : String) :
    (env.without name).get? other = if other = name then none else env.get? other := by
  induction env with
  | nil => simp [without, get?]
  | cons v env ih =>
    obtain ⟨n, value⟩ := v
    simp only [without, get?] at ih ⊢
    by_cases hName : n = name
    · rw [List.filter_cons_of_neg (by simp [hName]), ih]
      grind
    · rw [List.filter_cons_of_pos (by simp [hName])]
      grind

end Environment

namespace CommandLine

/-! ## Flags among items -/

/-- What a flag on lower-casing asks for. -/
def Item.lowering? : Item → Option Bool
  | .flag .lower => some true
  | .flag .noLower => some false
  | _ => none

/-- What the flags on lower-casing ask for, in order. -/
def caseFlags (is : List Item) : List Bool := is.filterMap Item.lowering?

/-- The items that are no flags on lower-casing. -/
def otherItems (is : List Item) : List Item := is.filter (·.lowering? = none)

namespace Reading

variable {r r' s : Reading} {i : Item} {is : List Item}

/-- What is read, but for the flags on lower-casing. -/
def withoutCase (r : Reading) : Reading := { r with lowering := none }

theorem Reads.lowering_eq (h : Reads r i r') : r'.lowering = i.lowering?.or r.lowering := by
  cases h <;> rfl

theorem ReadsAll.lowering_eq (h : ReadsAll r is r') :
    r'.lowering = (caseFlags is).getLast?.or r.lowering :=
  h.eq_getLast?_or Reads.lowering_eq

/-- Of what is read of other items, nothing depends on the flags before them. -/
theorem Reads.with_lowering (h : Reads r i r') (hOther : i.lowering? = none) (l : Option Bool) :
    Reads { r with lowering := l } i { r' with lowering := l } := by
  cases h with
  | explain h => exact .explain h
  | lower => cases hOther
  | noLower => cases hOther
  | config attached h => exact .config attached h
  | maxDepth attached h => exact .maxDepth attached h
  | expr text h => exact .expr text h
  | file text h => exact .file text h

theorem Reads.withoutCase_eq {b : Bool} (h : Reads r i r') (hFlag : i.lowering? = some b) :
    r'.withoutCase = r.withoutCase := by
  cases h with
  | lower => rfl
  | noLower => rfl
  | _ => cases hFlag

theorem exists_reads_of_lowering {b : Bool} (r : Reading) (hFlag : i.lowering? = some b) :
    ∃ r', Reads r i r' := by
  cases i with
  | flag f =>
    cases f with
    | lower => exact ⟨_, .lower⟩
    | noLower => exact ⟨_, .noLower⟩
    | _ => cases hFlag
  | _ => cases hFlag

/-- The flags on lower-casing can be read anywhere, and change nothing else in what is read. -/
theorem readsAll_otherItems_iff :
    ReadsAll r.withoutCase (otherItems is) s ↔ ∃ r', ReadsAll r is r' ∧ r'.withoutCase = s := by
  induction is generalizing r with
  | nil =>
    constructor
    · intro h
      cases h
      exact ⟨r, .nil r, rfl⟩
    · rintro ⟨r', h, rfl⟩
      cases h
      exact .nil _
  | cons i is ih =>
    cases hLowering : i.lowering? with
    | some b =>
      have hSkip : otherItems (i :: is) = otherItems is :=
        List.filter_cons_of_neg (by simp [hLowering])
      rw [hSkip]
      constructor
      · intro h
        obtain ⟨r₁, hReads⟩ := exists_reads_of_lowering r hLowering
        rw [← hReads.withoutCase_eq hLowering] at h
        obtain ⟨r', hRest, rfl⟩ := ih.mp h
        exact ⟨r', .cons hReads hRest, rfl⟩
      · rintro ⟨r', h, rfl⟩
        cases h with
        | cons hReads hRest =>
          rw [← hReads.withoutCase_eq hLowering]
          exact ih.mpr ⟨r', hRest, rfl⟩
    | none =>
      have hKeep : otherItems (i :: is) = i :: otherItems is :=
        List.filter_cons_of_pos (by simp [hLowering])
      rw [hKeep]
      constructor
      · intro h
        cases h with
        | @cons _ s₁ _ _ _ hReads hRest =>
          -- the flags read before go unchanged through the step
          have hSame : { s₁ with lowering := none } = s₁ := by
            have hLowered : s₁.lowering = none := by
              rw [hReads.lowering_eq, hLowering]
              rfl
            rw [← hLowered]
          rw [← hSame] at hRest
          obtain ⟨r', hRest', rfl⟩ := (ih (r := { s₁ with lowering := r.lowering })).mp hRest
          exact ⟨r', .cons (hReads.with_lowering hLowering r.lowering) hRest', rfl⟩
      · rintro ⟨r', h, rfl⟩
        cases h with
        | cons hReads hRest =>
          exact .cons (hReads.with_lowering hLowering none) (ih.mpr ⟨r', hRest, rfl⟩)

theorem assign_withoutCase (r : Reading) (f : Field) (value : String) :
    r.withoutCase.assign f value = (r.assign f value).map withoutCase := by
  cases f with
  | config =>
    simp only [assign]
    cases value.isEmpty <;> rfl
  | maxDepth =>
    simp only [assign]
    cases Settings.Setting.natOf? value <;> rfl

theorem assignVariable_withoutCase (r : Reading) (f : Field) (given : Bool)
    (value : Option String) :
    r.withoutCase.assignVariable f given value =
      (r.assignVariable f given value).map withoutCase := by
  cases value with
  | none => rfl
  | some v =>
    cases given with
    | true => rfl
    | false => exact assign_withoutCase r f v

theorem completed_withoutCase (env : Environment) (r : Reading) :
    r.withoutCase.completed (env.without lowerVariable) = (r.completed env).map withoutCase := by
  have hConfig : (env.without lowerVariable).get? configVariable = env.get? configVariable :=
    (env.get?_without lowerVariable configVariable).trans (if_neg (by decide))
  have hMaxDepth : (env.without lowerVariable).get? maxDepthVariable = env.get? maxDepthVariable :=
    (env.get?_without lowerVariable maxDepthVariable).trans (if_neg (by decide))
  unfold completed
  rw [hConfig, hMaxDepth, assignVariable_withoutCase]
  have hGiven : r.withoutCase.config = r.config := rfl
  rw [hGiven]
  cases r.assignVariable .config r.config.isSome (env.get? configVariable) with
  | error e => rfl
  | ok s => exact assignVariable_withoutCase s .maxDepth s.maxDepth.isSome _

end Reading

/-! ## The variable -/

namespace Options

variable {env : Environment} {defaultMaxDepth : Nat} {o : Options} {args : List String}
  {last : Option Bool} {lower noLower : Bool}

/-- What the last flag on lower-casing and the value of the variable come to: whether there is a
demand for it, and whether it is refused. -/
inductive CaseSetting : Option Bool → Option String → Bool → Bool → Prop where
  | lower (value : Option String) : CaseSetting (some true) value true false
  | noLower : CaseSetting (some false) none false true
  | unset : CaseSetting none none false false
  | on : CaseSetting none (some "true") true false
  | off : CaseSetting none (some "false") false false

theorem lowerOf_eq_ok_iff {b : Option Bool} :
    lowerOf env = .ok b ↔ (env.get? lowerVariable = none ∧ b = none) ∨
      (env.get? lowerVariable = some "true" ∧ b = some true) ∨
      (env.get? lowerVariable = some "false" ∧ b = some false) := by
  unfold lowerOf
  generalize env.get? lowerVariable = value
  split <;> simp_all [eq_comm]

theorem caseSetting_iff :
    CaseSetting last (env.get? lowerVariable) lower noLower ↔ ∃ byVariable,
      (if last = some true then .ok none else lowerOf env) = .ok byVariable ∧
      ¬ (byVariable.isSome && last.isSome) ∧
      lower = (decide (last = some true) || decide (byVariable = some true)) ∧
      noLower = decide (last = some false) := by
  constructor
  · generalize hValue : env.get? lowerVariable = value
    intro h
    cases h with
    | lower => exact ⟨none, rfl, by decide⟩
    | noLower => exact ⟨none, lowerOf_eq_ok_iff.mpr (.inl ⟨hValue, rfl⟩), by decide⟩
    | unset => exact ⟨none, lowerOf_eq_ok_iff.mpr (.inl ⟨hValue, rfl⟩), by decide⟩
    | on => exact ⟨some true, lowerOf_eq_ok_iff.mpr (.inr (.inl ⟨hValue, rfl⟩)), by decide⟩
    | off => exact ⟨some false, lowerOf_eq_ok_iff.mpr (.inr (.inr ⟨hValue, rfl⟩)), by decide⟩
  · rintro ⟨byVariable, hVariable, hTogether, rfl, rfl⟩
    rcases last with _ | _ | _
    · rcases lowerOf_eq_ok_iff.mp hVariable with ⟨hValue, rfl⟩ | ⟨hValue, rfl⟩ | ⟨hValue, rfl⟩
      · rw [hValue]
        exact .unset
      · rw [hValue]
        exact .on
      · rw [hValue]
        exact .off
    · rcases lowerOf_eq_ok_iff.mp hVariable with ⟨hValue, rfl⟩ | ⟨-, rfl⟩ | ⟨-, rfl⟩
      · rw [hValue]
        exact .noLower
      · exact absurd rfl hTogether
      · exact absurd rfl hTogether
    · cases hVariable
      exact .lower _

theorem conclude_eq_ok_iff {t : Reading} {byVariable : Option Bool} :
    conclude defaultMaxDepth t byVariable = .ok o ↔
      ¬ (byVariable.isSome && t.lowering.isSome) ∧
      ∃ p, conclude defaultMaxDepth t.withoutCase none = .ok p ∧
        o = { p with
          lower := t.lowering = some true || byVariable = some true
          noLower := t.lowering = some false } := by
  unfold conclude
  cases hTogether : byVariable.isSome && t.lowering.isSome with
  | true => simp
  | false =>
    rw [if_neg Bool.false_ne_true, if_neg (by simp)]
    cases hExpr : t.expr <;> simp [Reading.withoutCase, hExpr, eq_comm]

/-- What was read is completed as it would be without flags on lower-casing and without the variable
for it, and then by these. -/
theorem finish_eq_ok_iff_withoutCase {r : Reading} (hPending : r.pending = .none) :
    finish env defaultMaxDepth r = .ok o ↔
      ∃ p, finish (env.without lowerVariable) defaultMaxDepth r.withoutCase = .ok p ∧
        CaseSetting r.lowering (env.get? lowerVariable) o.lower o.noLower ∧
        o = { p with lower := o.lower, noLower := o.noLower } := by
  have hUnset : lowerOf (env.without lowerVariable) = .ok none :=
    lowerOf_eq_ok_iff.mpr (.inl ⟨(env.get?_without lowerVariable _).trans (if_pos rfl), rfl⟩)
  have hPlain : r.withoutCase.pending = .none := hPending
  rw [finish_eq_ok_iff hPending]
  constructor
  · rintro ⟨t, byVariable, hCompleted, hLower, hConclude⟩
    have hKept := Reading.lowering_of_completed hCompleted
    obtain ⟨hTogether, p, hOptions, rfl⟩ := conclude_eq_ok_iff.mp hConclude
    rw [hKept] at hTogether ⊢
    refine ⟨p, (finish_eq_ok_iff hPlain).mpr ⟨t.withoutCase, none, ?_, hUnset, hOptions⟩,
      caseSetting_iff.mpr ⟨byVariable, hLower, hTogether, rfl, rfl⟩, rfl⟩
    rw [Reading.completed_withoutCase, hCompleted]
    rfl
  · rintro ⟨p, hFinish, hCase, hOptions⟩
    obtain ⟨t₀, b₀, hCompleted₀, hLower₀, hConclude₀⟩ := (finish_eq_ok_iff hPlain).mp hFinish
    obtain ⟨byVariable, hLower, hTogether, hLowerCase, hNoLower⟩ := caseSetting_iff.mp hCase
    cases hUnset.symm.trans hLower₀
    rw [Reading.completed_withoutCase] at hCompleted₀
    cases hCompleted : r.completed env with
    | error e =>
      rw [hCompleted] at hCompleted₀
      cases hCompleted₀
    | ok t =>
      rw [hCompleted] at hCompleted₀
      cases hCompleted₀
      rw [← Reading.lowering_of_completed hCompleted] at hTogether hLowerCase hNoLower
      refine ⟨t, byVariable, rfl, hLower, conclude_eq_ok_iff.mpr ⟨hTogether, p, hConclude₀, ?_⟩⟩
      rw [hOptions, hLowerCase, hNoLower]

/-- The options of a command line are those of the other items in an environment without the
variable, with what the last flag on lower-casing and the variable come to. -/
theorem parse_eq_ok_iff_otherItems :
    parse env defaultMaxDepth args = .ok o ↔ ∃ p,
      ofItems (env.without lowerVariable) defaultMaxDepth (otherItems (items vocabulary args)) =
        .ok p ∧
      CaseSetting (caseFlags (items vocabulary args)).getLast? (env.get? lowerVariable) o.lower
        o.noLower ∧
      o = { p with lower := o.lower, noLower := o.noLower } := by
  have hLast {r : Reading} (h : Reading.ReadsAll .start (items vocabulary args) r) :
      r.lowering = (caseFlags (items vocabulary args)).getLast? :=
    h.lowering_eq.trans Option.or_none
  change ofItems env defaultMaxDepth (items vocabulary args) = .ok o ↔ _
  rw [ofItems_eq_ok_iff]
  constructor
  · rintro ⟨r, hReads, hPending, hFinish⟩
    obtain ⟨p, hPlain, hCase, hOptions⟩ := (finish_eq_ok_iff_withoutCase hPending).mp hFinish
    rw [hLast hReads] at hCase
    exact ⟨p, ofItems_eq_ok_iff.mpr ⟨r.withoutCase,
      Reading.readsAll_otherItems_iff.mpr ⟨r, hReads, rfl⟩, hPending, hPlain⟩, hCase, hOptions⟩
  · rintro ⟨p, hOther, hCase, hOptions⟩
    obtain ⟨r₀, hReads₀, hPending, hPlain⟩ := ofItems_eq_ok_iff.mp hOther
    obtain ⟨r, hReads, rfl⟩ :=
      (Reading.readsAll_otherItems_iff (r := Reading.start)).mp hReads₀
    rw [← hLast hReads] at hCase
    exact ⟨r, hReads, hPending,
      (finish_eq_ok_iff_withoutCase (r := r) hPending).mpr ⟨p, hPlain, hCase, hOptions⟩⟩

/-- A flag on lower-casing can be a usage error where the other items are accepted: the variable
counts as a flag that `--no-lower` cannot override. -/
theorem not_no_lower_beside_variable :
    ¬ ∀ (env : Environment) (defaultMaxDepth : Nat) (args : List String),
      (∃ p, ofItems (env.without lowerVariable) defaultMaxDepth
        (otherItems (items vocabulary args)) = .ok p) →
      env.get? lowerVariable ∈ [none, some "true", some "false"] →
      ∃ o, parse env defaultMaxDepth args = .ok o := by
  intro h
  obtain ⟨o, hParse⟩ := h [(lowerVariable, "true")] 20 ["-l", "--no-lower", "x"]
    ⟨⟨none, false, false, false, 20, "x", []⟩, rfl⟩ (by decide)
  have hConflict : parse [(lowerVariable, "true")] 20 ["-l", "--no-lower", "x"] =
      .error .argumentConflict := rfl
  rw [hConflict] at hParse
  cases hParse

theorem lower_iff_of_caseSetting {value : Option String} (byFile : Bool) :
    CaseSetting last value lower noLower →
      ((!noLower && (lower || byFile)) = true ↔
        match last with
        | some asked => asked = true
        | none => value = some "true" ∨ byFile = true) := by
  intro h
  cases h <;> simp

theorem exists_caseSetting_iff {value : Option String} :
    (∃ lower noLower, CaseSetting last value lower noLower) ↔
      match last with
      | some true => True
      | some false => value = none
      | none => value ∈ [none, some "true", some "false"] := by
  constructor
  · rintro ⟨lower, noLower, h⟩
    cases h <;> simp
  · rcases last with _ | _ | _
    · intro h
      simp only [List.mem_cons, List.not_mem_nil, or_false] at h
      rcases h with rfl | rfl | rfl
      · exact ⟨_, _, .unset⟩
      · exact ⟨_, _, .on⟩
      · exact ⟨_, _, .off⟩
    · rintro rfl
      exact ⟨_, _, .noLower⟩
    · intro _
      exact ⟨_, _, .lower value⟩

/-- Whether lines are lower-cased is what the last flag on it says, whatever the environment and the
settings are, and without a flag what the variable or the settings demand. Flags on lower-casing can
be repeated and contradict each other as they like wherever the other items are accepted, but the
variable must not be set beside a last one that refuses it. -/
theorem last_case_flag_counts (env : Environment) (defaultMaxDepth : Nat) (args : List String) :
    (∀ o, parse env defaultMaxDepth args = .ok o → ∀ settings : Settings,
      o.lowerEnabled settings = true ↔
        match (caseFlags (items vocabulary args)).getLast? with
        | some asked => asked = true
        | none => env.get? lowerVariable = some "true" ∨ settings.lower = true) ∧
    ((∃ o, parse env defaultMaxDepth args = .ok o) ↔
      (∃ p, ofItems (env.without lowerVariable) defaultMaxDepth
        (otherItems (items vocabulary args)) = .ok p) ∧
      match (caseFlags (items vocabulary args)).getLast? with
      | some true => True
      | some false => env.get? lowerVariable = none
      | none => env.get? lowerVariable ∈ [none, some "true", some "false"]) := by
  constructor
  · intro o hParse settings
    obtain ⟨p, -, hCase, -⟩ := parse_eq_ok_iff_otherItems.mp hParse
    exact lower_iff_of_caseSetting settings.lower hCase
  · rw [← exists_caseSetting_iff]
    constructor
    · rintro ⟨o, hParse⟩
      obtain ⟨p, hOther, hCase, -⟩ := parse_eq_ok_iff_otherItems.mp hParse
      exact ⟨⟨p, hOther⟩, o.lower, o.noLower, hCase⟩
    · rintro ⟨⟨p, hOther⟩, lower, noLower, hCase⟩
      exact ⟨{ p with lower := lower, noLower := noLower },
        parse_eq_ok_iff_otherItems.mpr ⟨p, hOther, hCase, rfl⟩⟩

/-- The flags `--no-lower -ll` among others, over a variable that is set. -/
theorem last_case_flag_counts_over_variable :
    ∃ o, parse [(lowerVariable, "false")] 20 ["--no-lower", "x", "-ll", "--explain"] = .ok o ∧
      o.lowerEnabled Settings.default = true := by
  obtain ⟨hLower, hAccepted⟩ :=
    last_case_flag_counts [(lowerVariable, "false")] 20 ["--no-lower", "x", "-ll", "--explain"]
  have hLast :
      (caseFlags (items vocabulary ["--no-lower", "x", "-ll", "--explain"])).getLast? =
        some true := rfl
  rw [hLast] at hLower hAccepted
  obtain ⟨o, hParse⟩ := hAccepted.mpr ⟨⟨⟨none, true, false, false, 20, "x", []⟩, rfl⟩, trivial⟩
  exact ⟨o, hParse, (hLower o hParse Settings.default).mpr rfl⟩

end Options

end CommandLine

end LineSieve
