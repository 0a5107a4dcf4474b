import LineSieve.Proofs.Expr.Operand

/-!
# The parser accepts its grammar

* `proceed_of_derives`: tokens that derive from a level become their tree, on every stack that
  admits the level.
* `stackAfter_eq_iff`: the parser without limits ends with one tree exactly on the tokens that
  derive from `or`, and the tree is that of the derivation. Hence derivations are unambiguous.
* `withinRounds_of_notRunsAtMost`: only a run of more than 96 `NOT` can exhaust the rounds after one
  token.
* `parser_accepts_grammar`: what all this means for the parser with its limits.
-/

namespace LineSieve.Parser

open Grammar

/-! ## What derives is accepted -/

/-- On this stack, tokens of the level that are followed by `next` become one tree. -/
def Admits (next : Option Token) (stack : Stack) : Level → Prop
  | .primary => ∀ n, reduce? n stack = none
  | .unary => ∀ n, reduce? n stack = none
  | .and => (∀ n, reduce? n stack = none) ∧ ∀ e, reduce? (some .and) (.tree e :: stack) = none
  | .or => (∀ n, reduce? n stack = none) ∧ (∀ e, reduce? (some .or) (.tree e :: stack) = none) ∧
      endsOr next = true

theorem proceed_of_derives {level : Level} {us : List Token} {e : Expr}
    (h : Derives level us e) : ∀ (stack : Stack) (rest : List Token),
      Admits rest.head? stack level →
        proceed stack (us ++ rest) = proceed (.tree e :: stack) rest := by
  induction h with
  | word text =>
    intro stack rest hFits
    rw [List.singleton_append, proceed_shift (hFits _)]
    exact proceed_of_reduces (.word _ _)
  | pattern text =>
    intro stack rest hFits
    rw [List.singleton_append, proceed_shift (hFits _)]
    exact proceed_of_reduces (.pattern _ _)
  | @group ts e _ ih =>
    intro stack rest hFits
    rw [List.cons_append, List.append_assoc, proceed_shift (hFits _),
      ih _ _ ⟨fun _ => rfl, fun _ => rfl, rfl⟩, List.singleton_append, proceed_shift rfl]
    exact proceed_of_reduces (.group _ _)
  | ofPrimary _ ih => exact ih
  | not _ ih =>
    intro stack rest hFits
    rw [List.cons_append, proceed_shift (hFits _), ih _ _ (fun _ => rfl)]
    exact proceed_of_reduces (.not _ _)
  | ofUnary _ ih =>
    intro stack rest hFits
    exact ih _ _ hFits.1
  | @and ts us l r _ _ ihl ihr =>
    intro stack rest hFits
    rw [List.append_assoc, ihl _ (.and :: us ++ rest) hFits, List.cons_append,
      proceed_shift (hFits.2 _), ihr _ _ (fun _ => rfl)]
    exact proceed_of_reduces (.and _ _ _)
  | ofAnd _ ih =>
    intro stack rest hFits
    exact ih _ _ ⟨hFits.1, fun e => reduce?_tree_of_settled_or (hFits.2.1 e) _ _⟩
  | @or ts us l r _ _ ihl ihr =>
    intro stack rest hFits
    rw [List.append_assoc, ihl _ _ ⟨hFits.1, hFits.2.1, rfl⟩, List.cons_append,
      proceed_shift (hFits.2.1 _), ihr _ _ ⟨fun _ => rfl, fun _ => rfl⟩]
    exact proceed_of_reduces (.or _ _ _ hFits.2.2)

theorem stackAfter_of_derives {ts : List Token} {e : Expr} (h : Derives .or ts e) :
    stackAfter [] ts = [.tree e] := by
  have hRun := proceed_of_derives h [] [] ⟨fun _ => rfl, fun _ => rfl, rfl⟩
  rw [List.append_nil] at hRun
  rw [stackAfter_nil_eq_proceed, hRun, proceed, reduced_of_none rfl]
  rfl

/-! ## What is accepted derives -/

theorem derives_of_stackAfter {ts : List Token} {e : Expr} (h : stackAfter [] ts = [.tree e]) :
    Derives .or ts e := by
  have hCovers : Covers none (stackAfter [] ts) ([] ++ ts) := covers_stackAfter .nil rfl
  rw [h, List.nil_append] at hCovers
  cases hCovers with
  | tree hc he =>
    cases hc with
    | nil => exact he

theorem stackAfter_eq_iff {ts : List Token} {e : Expr} :
    stackAfter [] ts = [.tree e] ↔ Derives .or ts e :=
  ⟨derives_of_stackAfter, stackAfter_of_derives⟩

theorem derives_unique {ts : List Token} {e e' : Expr} (h : Derives .or ts e)
    (h' : Derives .or ts e') : e = e' := by
  have hEq := (stackAfter_of_derives h).symm.trans (stackAfter_of_derives h')
  cases hEq
  rfl

/-! ## Within the limits -/

/-- Nowhere do more than `k` tokens `NOT` follow one another. -/
def NotRunsAtMost (k : Nat) (ts : List Token) : Prop :=
  ¬ List.replicate (k + 1) Token.not <:+: ts

theorem notRunsAtMost_of_length_le {k : Nat} {ts : List Token} (h : ts.length ≤ k) :
    NotRunsAtMost k ts := by
  intro hInfix
  have hLength := hInfix.length_le
  rw [List.length_replicate] at hLength
  omega

theorem NotRunsAtMost.of_infix {k : Nat} {ts us : List Token} (h : NotRunsAtMost k ts)
    (hInfix : us <:+: ts) : NotRunsAtMost k us :=
  fun hRun => h (hRun.trans hInfix)

theorem NotRunsAtMost.le {k n : Nat} {ts : List Token} (h : NotRunsAtMost k ts)
    (hRun : List.replicate n Token.not <:+: ts) : n ≤ k := by
  refine Nat.le_of_not_lt fun hMany => ?_
  have hEq : n = k + 1 + (n - (k + 1)) := by omega
  rw [hEq, ← List.replicate_append_replicate] at hRun
  exact h ((List.prefix_append _ _).isInfix.trans hRun)

theorem withinRounds_of_notRunsAtMost {stack : Stack} {ts us : List Token}
    (hc : Covers us.head? stack ts) (hSettled : reduce? us.head? stack = none)
    (hNots : NotRunsAtMost 96 (ts ++ us)) : WithinRounds stack us := by
  induction us generalizing stack ts with
  | nil =>
    intro n hn
    cases hn
  | cons t us ih =>
    refine withinRounds_cons.mpr ⟨?_, ?_⟩
    · have hBefore := hNots.of_infix (List.prefix_append ts (t :: us)).isInfix
      have hFew := hBefore.le (replicate_operandNots_isInfix ts t)
      have hCount := reductions_le_operandNots hc us.head?
      simp only [maxRounds]
      omega
    · refine ih (covers_reduced (.token hc hSettled)) (reduce?_reduced _ _) ?_
      rwa [List.append_assoc]

theorem result_parse {supply : TokenSupply} {t : Token} {ts : List Token}
    (h : Supplies supply 0 (t :: ts)) :
    (parse supply).result = (shift supply maxTokens t 1 []).result := by
  simp only [parse, h.1]

theorem result_parseTokens_of_withinRounds {ts : List Token} (hne : ts ≠ [])
    (hLength : ts.length ≤ maxTokens) (hRounds : WithinRounds [] ts) :
    (parseTokens ts).result = finish (stackAfter [] ts) := by
  obtain ⟨t, ts, rfl⟩ := List.exists_cons_of_ne_nil hne
  have hSupply := supplies_ofList (t :: ts)
  rw [parseTokens, result_parse hSupply]
  exact result_shift hSupply.2 hLength hRounds

/-- Short runs of `NOT` and few tokens keep the parser within its limits. -/
theorem result_parseTokens {ts : List Token} (hne : ts ≠ []) (hLength : ts.length ≤ maxTokens)
    (hNots : NotRunsAtMost 96 ts) : (parseTokens ts).result = finish (stackAfter [] ts) :=
  result_parseTokens_of_withinRounds hne hLength (withinRounds_of_notRunsAtMost .nil rfl hNots)

theorem parseTokens_of_derives {ts : List Token} {e : Expr} (h : Derives .or ts e)
    (hLength : ts.length ≤ maxTokens) (hNots : NotRunsAtMost 96 ts) :
    (parseTokens ts).result = .ok e := by
  rw [result_parseTokens h.ne_nil hLength hNots]
  exact finish_eq_ok_iff.mpr (stackAfter_of_derives h)

theorem withinRounds_and_stackAfter_of_parseTokens {ts : List Token} {e : Expr} (hne : ts ≠ [])
    (h : (parseTokens ts).result = .ok e) : WithinRounds [] ts ∧ stackAfter [] ts = [.tree e] := by
  obtain ⟨t, ts, rfl⟩ := List.exists_cons_of_ne_nil hne
  have hSupply := supplies_ofList (t :: ts)
  rw [parseTokens, result_parse hSupply] at h
  exact withinRounds_and_stackAfter_of_ok hSupply.2 h

/-- Whatever the parser answers derives, also beyond what its limits admit. -/
theorem derives_of_parseTokens {ts : List Token} {e : Expr} (hne : ts ≠ [])
    (h : (parseTokens ts).result = .ok e) : Derives .or ts e :=
  derives_of_stackAfter (withinRounds_and_stackAfter_of_parseTokens hne h).2

/-- The parser accepts exactly the tokens that derive from `or`, and its answer is the one tree of
their derivation. That it answers wherever it should needs at most 1000 tokens and no run of more
than 96 tokens `NOT`; that its answers are right needs neither. -/
theorem parser_accepts_grammar :
    (parseTokens []).result = .ok (.word "") ∧
    ∀ ts : List Token, ts ≠ [] →
      (∀ e, (parseTokens ts).result = .ok e → Derives .or ts e) ∧
      (∀ e e', Derives .or ts e → Derives .or ts e' → e = e') ∧
      (ts.length ≤ 1000 → NotRunsAtMost 96 ts →
        (∀ e, Derives .or ts e → (parseTokens ts).result = .ok e) ∧
        ((¬ ∃ e, Derives .or ts e) → (parseTokens ts).result = .error .malformed)) := by
  refine ⟨rfl, fun ts hne => ⟨?_, ?_, fun hLength hNots => ⟨?_, ?_⟩⟩⟩
  · intro e h
    exact derives_of_parseTokens hne h
  · intro e e' h h'
    exact derives_unique h h'
  · intro e h
    exact parseTokens_of_derives h hLength hNots
  · intro hNone
    rw [result_parseTokens hne hLength hNots]
    exact finish_eq_malformed fun e h => hNone ⟨e, derives_of_stackAfter h⟩

/-- `a OR NOT (b AND c) AND d` is accepted as its derivation says. -/
theorem parser_accepts_grammar_mixed :
    Derives .or [.word "a", .or, .not, .openParen, .word "b", .and, .word "c", .closeParen, .and,
      .word "d"] (.apply .or [.word "a",
        .apply .and [.apply .not [.apply .and [.word "b", .word "c"]], .word "d"]]) ∧
    (parseTokens [.word "a", .or, .not, .openParen, .word "b", .and, .word "c", .closeParen, .and,
      .word "d"]).result =
      .ok (.apply .or [.word "a",
        .apply .and [.apply .not [.apply .and [.word "b", .word "c"]], .word "d"]]) := by
  have literal (text : String) (level : Level) : Derives level [.word text] (.word text) :=
    (Derives.word text).weaken (Nat.zero_le _)
  have hGroup := Derives.group (.ofAnd (.and (literal "b" .and) (literal "c" .unary)))
  have hAnd := Derives.and (.ofUnary (.not (.ofPrimary hGroup))) (literal "d" .unary)
  have h := Derives.or (literal "a" .or) hAnd
  exact ⟨h, ((parser_accepts_grammar.2 _ (List.cons_ne_nil _ _)).2.2 (by decide)
    (notRunsAtMost_of_length_le (by decide))).1 _ h⟩

end LineSieve.Parser
