import LineSieve.Proofs.CommandLine.Reading

/-!
# The settings file of a command line

The name of the settings file is read twice: once before the settings are loaded, when it is the
only option that is known, and once among all options. The first reading ends at the first item that
it does not know, so that the two agree only about the options for the settings file at the front.

* `configs`: the files that items name, in order.
* `leadingConfigs`: those that are named before any other item.
* `config_of_parse`: among all options, the last file that is named counts.
* `settingsFile?_of_parse`: in the first reading, the last file that is named at the front counts.
* `not_settings_file_agrees`: a file that is named after a flag is missed in the first reading.
* `settings_file_is_leading`: what the two readings find on accepted command lines.
-/

namespace LineSieve.CommandLine

/-- The file that an item names for the settings. -/
def Item.config? : Item → Option String
  | .field .config value _ => some value
  | _ => none

/-- The files that items name for the settings, in order. -/
def configs (is : List Item) : List String := is.filterMap Item.config?

/-- The files that are named for the settings before there is anything else. -/
def leadingConfigs : List Item → List String
  | [] => []
  | i :: is =>
    match i.config? with
    | some value => value :: leadingConfigs is
    | none => []

/-! ## Among all options -/

/-- Items that a reading can go on after: options have values, and the settings file has a name. -/
structure Item.Complete (i : Item) : Prop where
  not_bare : ∀ f, i ≠ .bare f
  config_ne : ∀ value, i.config? = some value → value ≠ ""

namespace Reading

variable {r r' : Reading} {i : Item} {is : List Item}

theorem Reads.config_eq (h : Reads r i r') : r'.config = i.config?.or r.config := by
  cases h <;> rfl

theorem Reads.complete (h : Reads r i r') : i.Complete where
  not_bare f hBare := by
    subst hBare
    cases h
  config_ne value hValue := by
    cases h with
    | config _ hNe =>
      cases hValue
      exact hNe
    | _ => cases hValue

theorem ReadsAll.config_eq (h : ReadsAll r is r') :
    r'.config = (configs is).getLast?.or r.config :=
  h.eq_getLast?_or Reads.config_eq

theorem ReadsAll.complete (h : ReadsAll r is r') : ∀ i ∈ is, i.Complete := by
  induction h with
  | nil => exact fun _ hNone => nomatch hNone
  | cons hReads _ ih => exact List.forall_mem_cons.mpr ⟨hReads.complete, ih⟩

end Reading

section

variable {env : Environment} {defaultMaxDepth : Nat} {args : List String} {o : Options}

theorem complete_of_parse (h : Options.parse env defaultMaxDepth args = .ok o) :
    ∀ i ∈ items vocabulary args, i.Complete := by
  obtain ⟨r, -, -, -, hReads, -⟩ := Options.exists_of_parse h
  exact hReads.complete

/-- Among all options the last file that is named counts, and the variable if there is none. A
variable without a name in it is no variable. -/
theorem config_of_parse (h : Options.parse env defaultMaxDepth args = .ok o) :
    o.config = (configs (items vocabulary args)).getLast?.or
      ((env.get? configVariable).filter (· ≠ "")) := by
  obtain ⟨r, s, t, byVariable, hReads, hConfig, -, hMaxDepth, hConclude⟩ :=
    Options.exists_of_parse h
  have hItems : r.config = (configs (items vocabulary args)).getLast? := by
    rw [hReads.config_eq]
    exact Option.or_none
  have hLimit : t.config = s.config := by
    rcases Reading.cases_of_assignVariable hMaxDepth with ⟨rfl, -⟩ | ⟨v, -, -, hReadsLimit⟩
    · rfl
    · exact hReadsLimit.config_eq
  rw [(Options.fields_of_conclude hConclude).1, hLimit, ← hItems]
  rcases Reading.cases_of_assignVariable hConfig with ⟨rfl, hGiven⟩ | ⟨v, hGiven, hVariable, hRead⟩
  · rcases hGiven with hGiven | hNone
    · obtain ⟨value, hValue⟩ := Option.isSome_iff_exists.mp hGiven
      rw [hValue]
      rfl
    · rw [hNone]
      exact Option.or_none.symm
  · have hNe : v ≠ "" := hRead.complete.config_ne v rfl
    rw [hRead.config_eq, Option.not_isSome_iff_eq_none.mp (Bool.eq_false_iff.mp hGiven), hVariable]
    simp [Item.config?, Option.filter, hNe]

end

/-! ## At the front -/

/-- The first reading knows one of the names. -/
theorem lookup_settingsVocabulary (name : String) :
    settingsVocabulary.long.lookup name =
      if vocabulary.long.lookup name = some (.inr .config) then some (.inr .config) else none := by
  by_cases hName : name = "config"
  · subst hName
    rfl
  · have hOther : vocabulary.long.lookup name ≠ some (.inr .config) := by
      intro hLookup
      obtain ⟨before, after, hLong, -⟩ := List.lookup_eq_some_iff.mp hLookup
      have hMem : (name, .inr .config) ∈ vocabulary.long := hLong ▸ List.mem_append_cons_self
      simp [vocabulary, hName] at hMem
    have hBeq : (name == "config") = false := beq_false_of_ne hName
    rw [if_neg hOther]
    simp only [settingsVocabulary, List.lookup_cons, hBeq]
    rfl

/-- An item that names a file replaces what was found before it. -/
theorem leadingConfig_config {value : String} (hNe : value ≠ "") (attached : Bool)
    (found : Option (Option String)) (is : List Item) :
    leadingConfig found (.field .config value attached :: is) =
      leadingConfig (some (some value)) is := by
  have hEmpty : ¬ value.isEmpty = true := fun h => hNe (String.isEmpty_iff.mp h)
  rw [leadingConfig, if_neg hEmpty]

theorem getLast?_leadingConfigs_config (value : String) (attached : Bool) (is : List Item)
    (found : Option (Option String)) :
    ((leadingConfigs (.field .config value attached :: is)).getLast?.map some).or found =
      ((leadingConfigs is).getLast?.map some).or (some (some value)) := by
  simp only [leadingConfigs, Item.config?, List.getLast?_cons]
  cases (leadingConfigs is).getLast? <;> rfl

/-- What the first reading finds depends on what the items at the front are among all options. -/
theorem leadingConfig_items {args : List String} {found : Option (Option String)}
    (hComplete : ∀ i ∈ items vocabulary args, i.Complete) :
    leadingConfig found (items settingsVocabulary args) =
      ((leadingConfigs (items vocabulary args)).getLast?.map some).or found := by
  fun_induction items vocabulary args generalizing found with
  | case1 => rfl
  | case2 arg args hForm =>
    rw [items, hForm]
    cases args <;> rfl
  | case3 arg args text hForm ih =>
    rw [items, hForm]
    rfl
  | case4 arg args cs hForm ih =>
    rw [items, hForm]
    cases cs with
    | nil => exact ih hComplete
    | cons c cs =>
      cases hLetter : vocabulary.short.lookup c with
      | none =>
        simp only [letterItems, hLetter]
        rfl
      | some f =>
        simp only [letterItems, hLetter]
        rfl
  | case5 arg args name value hForm hLookup ih
  | case6 arg args name f hLookup hForm ih
  | case7 arg args name f value hLookup hForm ih =>
    rw [items, hForm]
    dsimp only
    rw [lookup_settingsVocabulary, hLookup]
    rfl
  | case8 arg args name f value hLookup hForm ih =>
    obtain ⟨hHead, hTail⟩ := List.forall_mem_cons.mp hComplete
    rw [items, hForm]
    dsimp only
    rw [lookup_settingsVocabulary, hLookup]
    cases f with
    | maxDepth => rfl
    | config =>
      rw [getLast?_leadingConfigs_config, ← ih hTail]
      exact leadingConfig_config (hHead.config_ne value rfl) true found _
  | case9 arg name f hLookup hForm => exact absurd rfl ((hComplete _ List.mem_cons_self).not_bare f)
  | case10 arg name f hLookup next rest value hPlain hForm ih =>
    obtain ⟨hHead, hTail⟩ := List.forall_mem_cons.mp hComplete
    rw [items, hForm]
    dsimp only
    rw [lookup_settingsVocabulary, hLookup]
    cases f with
    | maxDepth => rfl
    | config =>
      rw [getLast?_leadingConfigs_config, ← ih hTail]
      simp only [if_true, hPlain]
      exact leadingConfig_config (hHead.config_ne value rfl) false found _
  | case11 arg name f hLookup next rest hPlain hForm ih =>
    exact absurd rfl ((hComplete _ List.mem_cons_self).not_bare f)

section

variable {env : Environment} {defaultMaxDepth : Nat} {args : List String} {o : Options}

/-- In the first reading the last file that is named at the front counts, and the variable if there
is none. -/
theorem settingsFile?_of_parse (h : Options.parse env defaultMaxDepth args = .ok o) :
    settingsFile? env args = (leadingConfigs (items vocabulary args)).getLast?.or
      ((env.get? configVariable).filter (· ≠ "")) := by
  rw [settingsFile?, leadingConfig_items (complete_of_parse h)]
  cases (leadingConfigs (items vocabulary args)).getLast? <;> rfl

end

/-- The two readings do not agree about every command line that is accepted: the first one ends at
a flag and misses the settings file that is named after it. -/
theorem not_settings_file_agrees :
    ¬ ∀ env defaultMaxDepth args o, Options.parse env defaultMaxDepth args = .ok o →
      settingsFile? env args = o.config := by
  intro hAgrees
  have hFile := hAgrees [] 20 ["-l", "--config", "a", "x"]
    ⟨some "a", false, true, false, 20, "x", []⟩ (by rfl)
  have hMissed : settingsFile? [] ["-l", "--config", "a", "x"] = none := by rfl
  rw [hMissed] at hFile
  cases hFile

/-- The options of an accepted command line hold the last settings file that is named anywhere in
it, but the settings are loaded from the last one that is named before anything else; where none is
named, the variable names it. Hence the two are the same if no settings file is named after anything
else. -/
theorem settings_file_is_leading {env : Environment} {defaultMaxDepth : Nat} {args : List String}
    {o : Options} (h : Options.parse env defaultMaxDepth args = .ok o) :
    o.config = (configs (items vocabulary args)).getLast?.or
      ((env.get? configVariable).filter (· ≠ "")) ∧
    settingsFile? env args = (leadingConfigs (items vocabulary args)).getLast?.or
      ((env.get? configVariable).filter (· ≠ "")) ∧
    (configs (items vocabulary args) = leadingConfigs (items vocabulary args) →
      settingsFile? env args = o.config) := by
  refine ⟨config_of_parse h, settingsFile?_of_parse h, fun hLeading => ?_⟩
  rw [settingsFile?_of_parse h, config_of_parse h, hLeading]

/-- The settings file is named twice at the front, in both spellings, and then once more. -/
theorem settings_file_is_leading_repeated :
    (∃ o, Options.parse [("BMATCH_CONFIG", "c")] 20
      ["--config=a", "--config", "b", "x", "--config", "d"] = .ok o ∧ o.config = some "d") ∧
    settingsFile? [("BMATCH_CONFIG", "c")] ["--config=a", "--config", "b", "x", "--config", "d"] =
      some "b" := by
  have hParse : Options.parse [("BMATCH_CONFIG", "c")] 20
      ["--config=a", "--config", "b", "x", "--config", "d"] =
      .ok ⟨some "d", false, false, false, 20, "x", []⟩ := by rfl
  obtain ⟨hConfig, hFile, -⟩ := settings_file_is_leading hParse
  exact ⟨⟨_, hParse, hConfig.trans (by rfl)⟩, hFile.trans (by rfl)⟩

end LineSieve.CommandLine
