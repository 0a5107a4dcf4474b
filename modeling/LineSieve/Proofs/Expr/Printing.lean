import LineSieve.Expr.Text
import LineSieve.Proofs.Expr.Acceptance
import LineSieve.Proofs.Token.Lexing
import LineSieve.Proofs.Token.Writing

/-!
# Printing expressions

`Expr.print` writes an expression with only the parentheses that it needs: around an operand that
binds less tightly than the place where it stands.

* `Expr.Expressible`: the expressions that have a text.
* `derives_tokens`: the tokens that are printed derive the expression.
* `count_openParen_le`: no tokens that derive it have fewer groups.
* `print_then_parse`: an expressible expression is parsed from its print, and from a text that has
  tokens nothing else is ever parsed.
-/

namespace LineSieve.Expr

open Grammar

/-! ## Printing -/

/-- The level that the operator at the root derives from. -/
def level : Expr → Level
  | .word _ => .primary
  | .pattern _ => .primary
  | .apply .not _ => .unary
  | .apply .and _ => .and
  | .apply .or _ => .or

/-- The tokens of an expression at a place for a level: a group where the place asks for one. -/
def enclose (place : Level) (e : Expr) (ts : List Token) : List Token :=
  if e.level.rank ≤ place.rank then ts else .openParen :: (ts ++ [.closeParen])

/-- The tokens of an expression with the numbers of operands that expressions are parsed with. -/
def tokens : Expr → List Token
  | .word text => [.word text]
  | .pattern text => [.pattern text]
  | .apply .not [e] => .not :: enclose .unary e e.tokens
  | .apply .and [l, r] => enclose .and l l.tokens ++ .and :: enclose .unary r r.tokens
  | .apply .or [l, r] => enclose .or l l.tokens ++ .or :: enclose .and r r.tokens
  | .apply _ _ => []

def print (e : Expr) : String := String.ofList (Token.writeAll e.tokens)

/-- Expressions that a text can stand for: operators have the numbers of operands that the grammar
gives them, and words and patterns can be written. -/
inductive Expressible : Expr → Prop where
  | word {text : String} (h : Token.PlainWord text) : Expressible (.word text)
  | pattern {text : String} (h : Token.PlainPattern text) : Expressible (.pattern text)
  | not {e : Expr} (h : Expressible e) : Expressible (.apply .not [e])
  | and {l r : Expr} (hl : Expressible l) (hr : Expressible r) : Expressible (.apply .and [l, r])
  | or {l r : Expr} (hl : Expressible l) (hr : Expressible r) : Expressible (.apply .or [l, r])

theorem level_le_or (e : Expr) : e.level.rank ≤ Level.or.rank := by cases e.level <;> decide

theorem enclose_of_le {place : Level} {e : Expr} (h : e.level.rank ≤ place.rank)
    (ts : List Token) : enclose place e ts = ts := if_pos h

/-! ## What is printed -/

theorem derives_enclose {place : Level} {e : Expr} {ts : List Token} (h : Derives e.level ts e) :
    Derives place (enclose place e ts) e := by
  unfold enclose
  split
  · rename_i hLevel
    exact h.weaken hLevel
  · have hGroup := Derives.group (h.weaken (level_le_or e))
    exact hGroup.weaken (Nat.zero_le _)

theorem derives_tokens {e : Expr} (h : Expressible e) : Derives e.level e.tokens e := by
  induction h with
  | word => exact .word _
  | pattern => exact .pattern _
  | not _ ih =>
    rw [tokens]
    exact .not (derives_enclose ih)
  | and _ _ ihl ihr =>
    rw [tokens]
    exact .and (derives_enclose ihl) (derives_enclose ihr)
  | or _ _ ihl ihr =>
    rw [tokens]
    exact .or (derives_enclose ihl) (derives_enclose ihr)

theorem derives_or_tokens {e : Expr} (h : Expressible e) : Derives .or e.tokens e :=
  (derives_tokens h).weaken (level_le_or e)

theorem writable_enclose {place : Level} {e : Expr} {ts : List Token}
    (h : ∀ t ∈ ts, t.Writable) : ∀ t ∈ enclose place e ts, t.Writable := by
  unfold enclose
  split
  · exact h
  · refine List.forall_mem_cons.mpr ⟨trivial, List.forall_mem_append.mpr ⟨h, ?_⟩⟩
    exact List.forall_mem_singleton.mpr trivial

theorem writable_tokens {e : Expr} (h : Expressible e) : ∀ t ∈ e.tokens, t.Writable := by
  induction h with
  | word h => exact List.forall_mem_singleton.mpr h
  | pattern h => exact List.forall_mem_singleton.mpr h
  | not _ ih =>
    rw [tokens]
    exact List.forall_mem_cons.mpr ⟨trivial, writable_enclose ih⟩
  | and _ _ ihl ihr | or _ _ ihl ihr =>
    rw [tokens]
    exact List.forall_mem_append.mpr
      ⟨writable_enclose ihl, List.forall_mem_cons.mpr ⟨trivial, writable_enclose ihr⟩⟩

/-! ## Fewest groups -/

theorem count_enclose (place : Level) (e : Expr) (ts : List Token) :
    (enclose place e ts).count .openParen =
      ts.count .openParen + if e.level.rank ≤ place.rank then 0 else 1 := by
  unfold enclose
  split <;> simp

/-- A place for a weaker level asks for no more groups. -/
theorem count_enclose_le (e : Expr) {place place' : Level} (h : place.rank ≤ place'.rank)
    (ts : List Token) :
    (enclose place' e ts).count .openParen ≤ (enclose place e ts).count .openParen := by
  rw [count_enclose, count_enclose]
  refine Nat.add_le_add_left ?_ _
  split
  · exact Nat.zero_le _
  · rename_i hLevel
    exact Nat.le_of_eq (if_neg fun hLe => hLevel (Nat.le_trans hLe h)).symm

/-- What derives an expression has all the groups that are printed. -/
theorem count_openParen_le {place : Level} {us : List Token} {e : Expr} (h : Derives place us e) :
    (enclose place e e.tokens).count .openParen ≤ us.count .openParen := by
  induction h with
  | word | pattern => exact Nat.le_refl _
  | @group us e _ ih =>
    have hGroup : (enclose .primary e e.tokens).count .openParen ≤
        e.tokens.count .openParen + 1 := by
      rw [count_enclose]
      split <;> omega
    rw [enclose_of_le (level_le_or e)] at ih
    simp only [List.count_cons_self, List.count_append]
    omega
  | ofPrimary _ ih | ofUnary _ ih | ofAnd _ ih =>
    exact Nat.le_trans (count_enclose_le _ (by decide) _) ih
  | @not us e _ ih =>
    have hTokens : enclose .unary (.apply .not [e]) (tokens (.apply .not [e])) =
        .not :: enclose .unary e e.tokens := rfl
    rw [hTokens]
    simpa using ih
  | @and us vs l r _ _ ihl ihr =>
    have hTokens : enclose .and (.apply .and [l, r]) (tokens (.apply .and [l, r])) =
        enclose .and l l.tokens ++ .and :: enclose .unary r r.tokens := rfl
    rw [hTokens]
    simp only [List.count_append, List.count_cons]
    omega
  | @or us vs l r _ _ ihl ihr =>
    have hTokens : enclose .or (.apply .or [l, r]) (tokens (.apply .or [l, r])) =
        enclose .or l l.tokens ++ .or :: enclose .and r r.tokens := rfl
    rw [hTokens]
    simp only [List.count_append, List.count_cons]
    omega

/-! ## What is parsed -/

theorem expressible_of_derives {place : Level} {us : List Token} {e : Expr}
    (h : Derives place us e) (hWritable : ∀ t ∈ us, t.Writable) : Expressible e := by
  induction h with
  | word => exact .word (hWritable _ List.mem_cons_self)
  | pattern => exact .pattern (hWritable _ List.mem_cons_self)
  | group _ ih =>
    exact ih (List.forall_mem_append.mp (List.forall_mem_cons.mp hWritable).2).1
  | ofPrimary _ ih | ofUnary _ ih | ofAnd _ ih => exact ih hWritable
  | not _ ih => exact .not (ih (List.forall_mem_cons.mp hWritable).2)
  | and _ _ ihl ihr =>
    obtain ⟨hl, hr⟩ := List.forall_mem_append.mp hWritable
    exact .and (ihl hl) (ihr (List.forall_mem_cons.mp hr).2)
  | or _ _ ihl ihr =>
    obtain ⟨hl, hr⟩ := List.forall_mem_append.mp hWritable
    exact .or (ihl hl) (ihr (List.forall_mem_cons.mp hr).2)

theorem parse_of_tokenize {text : String} {ts : List Token} (h : tokenize text = .ok ts) :
    parse text = (Parser.parseTokens ts).result.mapError .parse := by
  simp only [parse, read, h]

theorem tokenize_print {e : Expr} (h : Expressible e) : tokenize e.print = .ok e.tokens := by
  rw [Lexer.tokenize_eq_ok_iff, print, String.toList_ofList]
  exact Lexer.lexes_writeAll (writable_tokens h)

theorem parse_print {e : Expr} (h : Expressible e) (hLength : e.tokens.length ≤ 1000)
    (hNots : Parser.NotRunsAtMost 96 e.tokens) : parse e.print = .ok e := by
  rw [parse_of_tokenize (tokenize_print h),
    Parser.parseTokens_of_derives (derives_or_tokens h) hLength hNots]
  rfl

theorem expressible_of_parse {text : String} {ts : List Token} {e : Expr}
    (hTokens : tokenize text = .ok ts) (hne : ts ≠ []) (h : parse text = .ok e) :
    Expressible e := by
  rw [parse_of_tokenize hTokens] at h
  cases hRun : (Parser.parseTokens ts).result with
  | error failure =>
    rw [hRun] at h
    cases h
  | ok e' =>
    rw [hRun] at h
    cases h
    have hLexes := Lexer.tokenize_eq_ok_iff.mp hTokens
    exact expressible_of_derives (Parser.derives_of_parseTokens hne hRun)
      (Lexer.writable_of_lexes hLexes)

/-- The print of an expressible expression has the tokens that `tokens` says, in which there are no
more groups than the expression needs, and it is parsed to the expression unless it is too long for
the parser. Every expression that is parsed from some token on is expressible. -/
theorem print_then_parse :
    (∀ e, Expressible e →
      tokenize e.print = .ok e.tokens ∧
      Derives .or e.tokens e ∧
      (∀ us, Derives .or us e → e.tokens.count .openParen ≤ us.count .openParen) ∧
      (e.tokens.length ≤ 1000 → Parser.NotRunsAtMost 96 e.tokens → parse e.print = .ok e)) ∧
    (∀ text ts e, tokenize text = .ok ts → ts ≠ [] → parse text = .ok e → Expressible e) := by
  refine ⟨fun e h => ⟨tokenize_print h, derives_or_tokens h, ?_, parse_print h⟩, ?_⟩
  · intro us hDerives
    have hCount := count_openParen_le hDerives
    rwa [enclose_of_le (level_le_or _)] at hCount
  · intro text ts e hTokens hne h
    exact expressible_of_parse hTokens hne h

/-- An expression that needs its group, as it is printed and parsed. The second part applies to the
same text. -/
theorem print_then_parse_group :
    print (.apply .and [.apply .or [.word "a", .pattern "b/c"], .apply .not [.word "d"]]) =
      "(a OR /b\\/c/) AND NOT d" ∧
    parse "(a OR /b\\/c/) AND NOT d" =
      .ok (.apply .and [.apply .or [.word "a", .pattern "b/c"], .apply .not [.word "d"]]) ∧
    Expressible
      (.apply .and [.apply .or [.word "a", .pattern "b/c"], .apply .not [.word "d"]]) := by
  have hLeft : Expressible (.apply .or [.word "a", .pattern "b/c"]) :=
    .or (.word (by decide)) (.pattern (by decide))
  have hRight : Expressible (.apply .not [.word "d"]) := .not (.word (by decide))
  have hPrint : print (.apply .and [.apply .or [.word "a", .pattern "b/c"],
      .apply .not [.word "d"]]) = "(a OR /b\\/c/) AND NOT d" := by rfl
  obtain ⟨hTokens, -, -, hParse⟩ := print_then_parse.1 _ (.and hLeft hRight)
  have hText := hParse (by decide) (Parser.notRunsAtMost_of_length_le (by decide))
  rw [hPrint] at hTokens hText
  exact ⟨hPrint, hText, print_then_parse.2 _ _ _ hTokens (List.cons_ne_nil _ _) hText⟩

end LineSieve.Expr
