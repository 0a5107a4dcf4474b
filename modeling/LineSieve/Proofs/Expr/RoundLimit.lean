import LineSieve.Proofs.Expr.Progress

/-!
# The limit of rounds

The parser beside one that reduces after each token until no rule applies any more, and counts how
often. They differ exactly where a count comes up to the limit: since the last of the 100 rounds
must find no rule to apply, 99 reductions are the most that may follow a token.

* `parseUnbounded`: the parser without the limit of rounds, with its counts.
* `shift_eq_shiftUnbounded`, `result_shift_of_count`: where all counts stay below the limit the two
  parsers do the same, and elsewhere the limited one gives up.
* `counts_parseUnbounded_nots`: a word after `k` tokens `NOT` takes `k + 1` reductions.
* `not_limit_admits_hundred`: 100 reductions after a token are refused.
* `rounds_limit_exact`: what the limit of rounds amounts to.
-/

namespace LineSieve.Parser

/-! ## The parser without the limit -/

/-- What the parser without the limit of rounds did. -/
structure UnboundedRun extends Run where
  /-- How many reductions came after each of the tokens shifted. -/
  counts : List Nat

namespace UnboundedRun

/-- The run that shifts `token`, reduces `count` times and goes on as `run`. -/
def after (token : Token) (count : Nat) (run : UnboundedRun) : UnboundedRun :=
  ⟨Run.after token run.toRun, count :: run.counts⟩

end UnboundedRun

/-- Shifts `token` as `shift` does, but reduces as long as a rule applies. -/
def shiftUnbounded (supply : TokenSupply) :
    (budget : Nat) → (token : Token) → (i : Nat) → Stack → UnboundedRun
  | 0, _, _, _ => ⟨⟨[], 0, .error .tooManyTokens⟩, []⟩
  | budget + 1, token, i, stack =>
    let next := supply i
    UnboundedRun.after token (reductions next (.token token :: stack)) <|
      match next with
      | none => ⟨⟨[], 0, finish (reduced next (.token token :: stack))⟩, []⟩
      | some t => shiftUnbounded supply budget t (i + 1) (reduced next (.token token :: stack))

/-- Parses as `parse` does, with the same budget of tokens but without the limit of rounds. -/
def parseUnbounded (supply : TokenSupply) : UnboundedRun :=
  match supply 0 with
  | none => ⟨⟨[], 1, .ok Expr.any⟩, []⟩
  | some token =>
    let run := shiftUnbounded supply maxTokens token 1 []
    { run with asked := run.asked + 1 }

variable {supply : TokenSupply} {budget i : Nat} {t t' : Token} {stack : Stack}

theorem shiftUnbounded_of_end (hEnd : supply i = none) :
    shiftUnbounded supply (budget + 1) t i stack =
      ⟨⟨[t], 1, finish (reduced none (.token t :: stack))⟩,
        [reductions none (.token t :: stack)]⟩ := by
  simp only [shiftUnbounded, hEnd]
  rfl

theorem shiftUnbounded_of_next (hNext : supply i = some t') :
    shiftUnbounded supply (budget + 1) t i stack =
      (shiftUnbounded supply budget t' (i + 1) (reduced (some t') (.token t :: stack))).after t
        (reductions (some t') (.token t :: stack)) := by
  simp only [shiftUnbounded, hNext]

theorem result_shiftUnbounded_ne (supply : TokenSupply) (budget : Nat) (t : Token) (i : Nat)
    (stack : Stack) :
    (shiftUnbounded supply budget t i stack).result ≠ .error .tooManyReductions := by
  induction budget generalizing t i stack with
  | zero => exact nofun
  | succ budget ih =>
    cases hNext : supply i with
    | none =>
      rw [shiftUnbounded_of_end hNext]
      exact finish_ne_error (by decide)
    | some t' =>
      rw [shiftUnbounded_of_next hNext]
      exact ih t' (i + 1) _

/-! ## Below the limit and at the limit -/

theorem shift_eq_shiftUnbounded
    (h : ∀ n ∈ (shiftUnbounded supply budget t i stack).counts, n < maxRounds) :
    shift supply budget t i stack = (shiftUnbounded supply budget t i stack).toRun := by
  induction budget generalizing t i stack with
  | zero => rfl
  | succ budget ih =>
    cases hNext : supply i with
    | none =>
      rw [shiftUnbounded_of_end hNext] at h ⊢
      have hSettle := settle_eq_ok_iff.mpr ⟨h _ List.mem_cons_self, rfl⟩
      rw [← hNext] at hSettle
      rw [shift_of_end hSettle hNext, hNext]
    | some t' =>
      rw [shiftUnbounded_of_next hNext] at h ⊢
      obtain ⟨hHere, hAfter⟩ := List.forall_mem_cons.mp h
      have hSettle := settle_eq_ok_iff.mpr ⟨hHere, rfl⟩
      rw [← hNext] at hSettle
      rw [shift_of_next hSettle hNext, hNext, ih hAfter]
      rfl

/-- The first token after which too many reductions are due stops the parser. -/
theorem result_shift_of_count
    (h : ∃ n ∈ (shiftUnbounded supply budget t i stack).counts, maxRounds ≤ n) :
    (shift supply budget t i stack).result = .error .tooManyReductions := by
  induction budget generalizing t i stack with
  | zero =>
    obtain ⟨n, hn, -⟩ := h
    cases hn
  | succ budget ih =>
    -- the count is that of this token, or the parser gets past it
    rcases Nat.lt_or_ge (reductions (supply i) (.token t :: stack)) maxRounds with hHere | hHere
    · have hSettle := settle_eq_ok_iff.mpr ⟨hHere, rfl⟩
      cases hNext : supply i with
      | none =>
        rw [hNext] at hHere
        rw [shiftUnbounded_of_end hNext] at h
        obtain ⟨n, hn, hMany⟩ := h
        rw [List.mem_singleton.mp hn] at hMany
        omega
      | some t' =>
        rw [shift_of_next hSettle hNext]
        rw [hNext] at hHere ⊢
        rw [shiftUnbounded_of_next hNext] at h
        obtain ⟨n, hn, hMany⟩ := h
        rcases List.mem_cons.mp hn with rfl | hn
        · omega
        · exact ih ⟨n, hn, hMany⟩
    · rw [shift_of_overrun (settle_eq_error_iff.mpr ⟨hHere, rfl⟩)]

/-! ## Tokens `NOT` before a word -/

theorem counts_shiftUnbounded {ts : List Token} (hSupply : Supplies supply i ts)
    (hBudget : ts.length < budget) :
    (shiftUnbounded supply budget t i stack).counts = reductionCounts stack (t :: ts) := by
  induction ts generalizing budget t i stack with
  | nil =>
    obtain ⟨budget, rfl⟩ := Nat.exists_eq_succ_of_ne_zero (Nat.ne_zero_of_lt hBudget)
    rw [shiftUnbounded_of_end hSupply]
    rfl
  | cons t' ts ih =>
    obtain ⟨budget, rfl⟩ := Nat.exists_eq_succ_of_ne_zero (Nat.ne_zero_of_lt hBudget)
    rw [shiftUnbounded_of_next hSupply.1]
    exact congrArg _ (ih hSupply.2 (Nat.lt_of_succ_lt_succ hBudget))

theorem counts_parseUnbounded {ts : List Token} (hLength : ts.length ≤ maxTokens) :
    (parseUnbounded (.ofList ts)).counts = reductionCounts [] ts := by
  have hSupply := supplies_ofList ts
  cases ts with
  | nil => rfl
  | cons t ts =>
    simp only [parseUnbounded, hSupply.1]
    exact counts_shiftUnbounded hSupply.2 hLength

theorem reductions_nots (next : Option Token) (e : Expr) (k : Nat) :
    reductions next (.tree e :: .replicate k (.token .not)) = k := by
  induction k generalizing e with
  | zero => exact reductions_of_none rfl
  | succ k ih => rw [List.replicate_succ, reductions_of_reduces (.not _ _), ih]

theorem reductionCounts_nots (text : String) (k m : Nat) :
    reductionCounts (.replicate m (.token .not)) (.replicate k .not ++ [.word text]) =
      .replicate k 0 ++ [m + k + 1] := by
  induction k generalizing m with
  | zero =>
    rw [List.replicate_zero, List.nil_append, reductionCounts,
      reductions_of_reduces (.word _ _), reductions_nots]
    rfl
  | succ k ih =>
    have hRest := ih (m + 1)
    rw [List.replicate_succ, List.cons_append, reductionCounts, reductions_of_none rfl,
      reduced_of_none rfl, ← List.replicate_succ, hRest, List.replicate_succ, List.cons_append]
    simp only [Nat.add_right_comm, Nat.add_assoc]

/-- A word that `k` tokens `NOT` precede takes a reduction of its own and one for each of them. -/
theorem counts_parseUnbounded_nots (text : String) {k : Nat} (h : k < maxTokens) :
    (parseUnbounded (.ofList (.replicate k .not ++ [.word text]))).counts =
      .replicate k 0 ++ [k + 1] := by
  have hLength : (List.replicate k Token.not ++ [Token.word text]).length ≤ maxTokens := by
    rw [List.length_append, List.length_replicate]
    exact h
  rw [counts_parseUnbounded hLength]
  have hCounts := reductionCounts_nots text k 0
  rwa [Nat.zero_add] at hCounts

/-! ## What the limit amounts to -/

theorem parse_eq_parseUnbounded (h : ∀ n ∈ (parseUnbounded supply).counts, n < maxRounds) :
    parse supply = (parseUnbounded supply).toRun := by
  cases hToken : supply 0 with
  | none => simp only [parse, parseUnbounded, hToken]
  | some t =>
    simp only [parseUnbounded, hToken] at h
    simp only [parse, parseUnbounded, hToken, shift_eq_shiftUnbounded h]

theorem result_parse_of_count (h : ∃ n ∈ (parseUnbounded supply).counts, maxRounds ≤ n) :
    (parse supply).result = .error .tooManyReductions := by
  cases hToken : supply 0 with
  | none =>
    simp only [parseUnbounded, hToken] at h
    obtain ⟨n, hn, -⟩ := h
    cases hn
  | some t =>
    simp only [parseUnbounded, hToken] at h
    simp only [parse, hToken]
    exact result_shift_of_count h

theorem result_parseUnbounded_ne (supply : TokenSupply) :
    (parseUnbounded supply).result ≠ .error .tooManyReductions := by
  cases hToken : supply 0 with
  | none =>
    simp only [parseUnbounded, hToken]
    exact nofun
  | some t =>
    simp only [parseUnbounded, hToken]
    exact result_shiftUnbounded_ne _ _ _ _ _

/-- It is not so that up to 100 reductions may follow a token: after 99 tokens `NOT`, 100 reductions
follow a word, and the parser gives up. -/
theorem not_limit_admits_hundred :
    ¬ ∀ supply : TokenSupply,
      ((parse supply).result = .error .tooManyReductions →
        ∃ n ∈ (parseUnbounded supply).counts, 100 < n) ∧
      ((∀ n ∈ (parseUnbounded supply).counts, n ≤ 100) →
        parse supply = (parseUnbounded supply).toRun) := by
  intro h
  have hCounts := counts_parseUnbounded_nots "a" (k := 99) (by decide)
  have hFew : ∀ n ∈ (parseUnbounded (.ofList (.replicate 99 .not ++ [.word "a"]))).counts,
      n ≤ 100 := by
    rw [hCounts]
    decide
  have hGivesUp : (parse (.ofList (.replicate 99 .not ++ [.word "a"]))).result =
      .error .tooManyReductions := by
    refine result_parse_of_count ⟨100, ?_, Nat.le_refl _⟩
    rw [hCounts]
    decide
  obtain ⟨n, hn, hMany⟩ := (h _).1 hGivesUp
  exact Nat.not_lt.mpr (hFew n hn) hMany

/-- The parser runs out of rounds exactly if 100 or more reductions follow one of the tokens within
its budget. If they are fewer after each token, it does what it would do without the limit. -/
theorem rounds_limit_exact (supply : TokenSupply) :
    ((parse supply).result = .error .tooManyReductions ↔
      ∃ n ∈ (parseUnbounded supply).counts, 100 ≤ n) ∧
    ((∀ n ∈ (parseUnbounded supply).counts, n < 100) →
      parse supply = (parseUnbounded supply).toRun) := by
  refine ⟨⟨fun hResult => ?_, result_parse_of_count⟩, parse_eq_parseUnbounded⟩
  refine Classical.byContradiction fun hNone => ?_
  have hFew : ∀ n ∈ (parseUnbounded supply).counts, n < 100 := by
    intro n hn
    exact Nat.lt_of_not_le fun hMany => hNone ⟨n, hn, hMany⟩
  rw [parse_eq_parseUnbounded hFew] at hResult
  exact result_parseUnbounded_ne supply hResult

/-- A word after 98 tokens `NOT` is parsed as without the limit. -/
theorem rounds_limit_exact_nots :
    (∀ n ∈ (parseUnbounded (.ofList (.replicate 98 .not ++ [.word "a"]))).counts, n < 100) ∧
    parse (.ofList (.replicate 98 .not ++ [.word "a"])) =
      (parseUnbounded (.ofList (.replicate 98 .not ++ [.word "a"]))).toRun := by
  have hFew : ∀ n ∈ (parseUnbounded (.ofList (.replicate 98 .not ++ [.word "a"]))).counts,
      n < 100 := by
    rw [counts_parseUnbounded_nots "a" (by decide)]
    decide
  exact ⟨hFew, (rounds_limit_exact _).2 hFew⟩

end LineSieve.Parser
