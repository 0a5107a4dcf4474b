import LineSieve.Proofs.Token.LexicalGrammar

/-!
# Tokens as text

`Token.writeAll` writes tokens one after another, with a blank between two tokens unless the first
opens a group or the second closes one. A slash in a pattern is written with a backslash.

* `Token.Writable`: the tokens that stand in some text.
* `lexes_writeAll`: what is written for writable tokens has these tokens.
* `writable_of_lexes`: a text has no other tokens than writable ones.
-/

namespace LineSieve

namespace Token

/-! ## Writing -/

/-- The characters of a pattern between its slashes. -/
def escape (cs : List Char) : List Char :=
  cs.flatMap fun c => if c = '/' then ['\\', '/'] else [c]

def write : Token → List Char
  | .openParen => ['(']
  | .closeParen => [')']
  | .not => "NOT".toList
  | .and => "AND".toList
  | .or => "OR".toList
  | .word text => text.toList
  | .pattern text => '/' :: (escape text.toList ++ ['/'])

/-- What stands between two tokens. -/
def gap : Token → Token → List Char
  | .openParen, _ => []
  | _, .closeParen => []
  | _, _ => [' ']

def writeAll : List Token → List Char
  | [] => []
  | [t] => t.write
  | t :: u :: ts => t.write ++ (gap t u ++ writeAll (u :: ts))

/-! ## What can be written -/

/-- The text of a word token: a word, and not the name of an operator. -/
structure PlainWord (text : String) : Prop where
  ne_empty : text ≠ ""
  chars : ∀ c ∈ text.toList, Lexer.WordChar c
  notOperator : text ≠ "NOT" ∧ text ≠ "AND" ∧ text ≠ "OR"

instance (text : String) : Decidable (PlainWord text) :=
  decidable_of_iff
    (text ≠ "" ∧ (∀ c ∈ text.toList, Lexer.WordChar c) ∧ text ≠ "NOT" ∧ text ≠ "AND" ∧ text ≠ "OR")
    ⟨fun ⟨hne, hChars, hOperator⟩ => ⟨hne, hChars, hOperator⟩,
      fun ⟨hne, hChars, hOperator⟩ => ⟨hne, hChars, hOperator⟩⟩

/-- The text of a pattern token. The syntax has no way to write a backslash. -/
def PlainPattern (text : String) : Prop := '\\' ∉ text.toList

instance (text : String) : Decidable (PlainPattern text) := inferInstanceAs (Decidable (_ ∉ _))

def Writable : Token → Prop
  | .word text => PlainWord text
  | .pattern text => PlainPattern text
  | _ => True

instance : DecidablePred Writable
  | .word text => inferInstanceAs (Decidable (PlainWord text))
  | .pattern text => inferInstanceAs (Decidable (PlainPattern text))
  | .openParen | .closeParen | .not | .and | .or => .isTrue trivial

/-- Words and operators: what another word right after it would change. -/
def IsWord : Token → Prop
  | .not | .and | .or | .word _ => True
  | .openParen | .closeParen | .pattern _ => False

instance : DecidablePred IsWord
  | .not | .and | .or | .word _ => .isTrue trivial
  | .openParen | .closeParen | .pattern _ => .isFalse id

end Token

namespace Lexer

open Token

/-! ## What is written is read -/

theorem body_escape {cs : List Char} (h : '\\' ∉ cs) : Body (escape cs) cs := by
  induction cs with
  | nil => exact .nil
  | cons c cs ih =>
    rw [List.mem_cons, not_or] at h
    have hRest := ih h.2
    by_cases hSlash : c = '/'
    · subst hSlash
      exact .slash hRest
    · have hEscape : escape (c :: cs) = c :: escape cs := by
        rw [escape, List.flatMap_cons, if_neg hSlash]
        rfl
      rw [hEscape]
      exact .plain hSlash (Ne.symm h.1) hRest

theorem lexes_word {text : String} {t : Token} {cs : List Char} {ts : List Token}
    (ht : WordToken text t) (hne : text.toList ≠ []) (hw : ∀ c ∈ text.toList, WordChar c)
    (hEnd : EndsWord cs) (h : Lexes cs ts) : Lexes (text.toList ++ cs) (t :: ts) :=
  .word hne hw hEnd (by rwa [String.ofList_toList]) h

/-- A token is read in front of what is read already. Words need something that ends them. -/
theorem lexes_write {t : Token} {cs : List Char} {ts : List Token} (ht : t.Writable)
    (hEnd : t.IsWord → EndsWord cs) (h : Lexes cs ts) : Lexes (t.write ++ cs) (t :: ts) := by
  cases t with
  | openParen => exact .openParen h
  | closeParen => exact .closeParen h
  | not => exact lexes_word .not (by decide) (by decide) (hEnd trivial) h
  | and => exact lexes_word .and (by decide) (by decide) (hEnd trivial) h
  | or => exact lexes_word .or (by decide) (by decide) (hEnd trivial) h
  | word text =>
    have hne : text.toList ≠ [] := fun hNil => ht.ne_empty (String.toList_eq_nil_iff.mp hNil)
    exact lexes_word (.word ht.notOperator) hne ht.chars (hEnd trivial) h
  | pattern text =>
    have hPattern := Lexes.pattern (body_escape ht) h
    rw [String.ofList_toList] at hPattern
    simpa [write] using hPattern

theorem lexes_gap {t u : Token} {cs : List Char} {ts : List Token} (h : Lexes (u.write ++ cs) ts) :
    Lexes (gap t u ++ (u.write ++ cs)) ts := by
  unfold gap
  split
  · exact h
  · exact h
  · exact .blank h

theorem endsWord_gap {t u : Token} (ht : t.IsWord) (cs : List Char) :
    EndsWord (gap t u ++ (u.write ++ cs)) := by
  unfold gap
  split
  · exact ht.elim
  · exact endsWord_cons (by decide) _
  · exact endsWord_cons (by decide) _

theorem writeAll_cons (t : Token) (ts : List Token) :
    ∃ cs, writeAll (t :: ts) = t.write ++ cs := by
  cases ts with
  | nil => exact ⟨[], (List.append_nil _).symm⟩
  | cons u ts => exact ⟨_, rfl⟩

theorem lexes_writeAll {ts : List Token} (h : ∀ t ∈ ts, t.Writable) : Lexes (writeAll ts) ts := by
  induction ts with
  | nil => exact .nil
  | cons t ts ih =>
    have ht := h t List.mem_cons_self
    have hRest := ih fun u hu => h u (List.mem_cons_of_mem _ hu)
    cases ts with
    | nil =>
      have hLast := lexes_write ht (fun _ => endsWord_nil) Lexes.nil
      rwa [List.append_nil] at hLast
    | cons u ts =>
      rw [writeAll]
      obtain ⟨cs, hWrite⟩ := writeAll_cons u ts
      rw [hWrite] at hRest ⊢
      exact lexes_write ht (fun hWord => endsWord_gap hWord cs) (lexes_gap hRest)

/-! ## What is read can be written -/

theorem Body.backslash_not_mem {s m : List Char} (h : Body s m) : '\\' ∉ m := by
  induction h with
  | nil => exact List.not_mem_nil
  | plain _ hBackslash _ ih =>
    rw [List.mem_cons, not_or]
    exact ⟨Ne.symm hBackslash, ih⟩
  | slash _ ih =>
    rw [List.mem_cons, not_or]
    exact ⟨by decide, ih⟩

theorem WordToken.writable {w : List Char} {t : Token} (h : WordToken (String.ofList w) t)
    (hne : w ≠ []) (hw : ∀ c ∈ w, WordChar c) : t.Writable := by
  generalize hText : String.ofList w = text at h
  cases h with
  | not | and | or => trivial
  | word hPlain =>
    subst hText
    refine ⟨fun hEmpty => hne ?_, ?_, hPlain⟩
    · rw [← String.toList_ofList (l := w), hEmpty]
      rfl
    · rwa [String.toList_ofList]

theorem writable_of_lexes {cs : List Char} {ts : List Token} (h : Lexes cs ts) :
    ∀ t ∈ ts, t.Writable := by
  induction h with
  | nil => exact fun t ht => nomatch ht
  | blank _ ih => exact ih
  | openParen _ ih => exact List.forall_mem_cons.mpr ⟨trivial, ih⟩
  | closeParen _ ih => exact List.forall_mem_cons.mpr ⟨trivial, ih⟩
  | word hne hw _ hToken _ ih => exact List.forall_mem_cons.mpr ⟨hToken.writable hne hw, ih⟩
  | pattern hs _ ih =>
    refine List.forall_mem_cons.mpr ⟨?_, ih⟩
    rw [Writable, PlainPattern, String.toList_ofList]
    exact hs.backslash_not_mem

end Lexer

end LineSieve
