import LineSieve.Matcher

/-!
# Words in texts, by bytes and by characters

A matcher looks for the bytes of a word among the bytes of a text. UTF-8 synchronizes itself, so
that this finds the characters of the word and nothing else:

* no byte but the first of a character can be the first byte of a character, so that a match begins
  where a character begins (`exists_of_append_encodeChars_append`);
* no character's bytes begin another's, so that from there on the match goes character by character
  (`exists_of_encodeChars_append`).

`occursIn_iff_infix` says what a search finds, and `word_found_by_characters` also where.
-/

namespace LineSieve

namespace Utf8

theorem encodeChars_cons (c : Char) (cs : List Char) :
    encodeChars (c :: cs) = String.utf8EncodeChar c ++ encodeChars cs := rfl

theorem encodeChars_append (cs ds : List Char) :
    encodeChars (cs ++ ds) = encodeChars cs ++ encodeChars ds := List.flatMap_append

/-- Where a character's bytes end is determined by the bytes. -/
theorem encodeChar_append_inj {c d : Char} {x y : Bytes}
    (h : String.utf8EncodeChar c ++ x = String.utf8EncodeChar d ++ y) : c = d ∧ x = y := by
  have hBytes := congrArg (fun bs => ByteArray.utf8DecodeChar? (List.toByteArray bs) 0) h
  simp only [List.toByteArray_append, ByteArray.utf8DecodeChar?_utf8EncodeChar_append,
    Option.some.injEq] at hBytes
  subst hBytes
  exact ⟨rfl, List.append_cancel_left h⟩

/-- Where the bytes of characters begin a text, the text begins with these characters, and what
follows are the bytes of its other characters. -/
theorem exists_of_encodeChars_append {ns cs : List Char} {after : Bytes}
    (h : encodeChars cs = encodeChars ns ++ after) :
    ∃ s, cs = ns ++ s ∧ after = encodeChars s := by
  induction ns generalizing cs with
  | nil => exact ⟨cs, rfl, h.symm⟩
  | cons n ns ih =>
    rw [encodeChars_cons, List.append_assoc] at h
    cases cs with
    | nil => exact absurd (List.append_eq_nil_iff.mp h.symm).1 String.utf8EncodeChar_ne_nil
    | cons c cs =>
      rw [encodeChars_cons] at h
      obtain ⟨rfl, hRest⟩ := encodeChar_append_inj h
      obtain ⟨s, rfl, hAfter⟩ := ih hRest
      exact ⟨s, rfl, hAfter⟩

theorem encodeChar_eq_cons (c : Char) :
    ∃ first tail, String.utf8EncodeChar c = first :: tail ∧ first.IsUTF8FirstByte := by
  obtain ⟨first, tail, h⟩ := List.exists_cons_of_ne_nil (@String.utf8EncodeChar_ne_nil c)
  refine ⟨first, tail, h, ?_⟩
  have hFirst := @UInt8.isUTF8FirstByte_getElem_zero_utf8EncodeChar c
  simpa only [h, List.getElem_cons_zero] using hFirst

/-- Only the first byte of a character can begin one. -/
theorem eq_nil_of_isUTF8FirstByte {c : Char} {a tail : Bytes} {b : UInt8}
    (h : String.utf8EncodeChar c = a ++ b :: tail) (hb : b.IsUTF8FirstByte) : a = [] := by
  have hGet := List.getElem_of_append h rfl
  rw [← hGet, UInt8.isUTF8FirstByte_getElem_utf8EncodeChar] at hb
  exact List.eq_nil_of_length_eq_zero hb

/-- Where the bytes of characters stand among those of a text, these characters stand in the text,
and what is before and behind them are the bytes of its other characters. -/
theorem exists_of_append_encodeChars_append {ns cs : List Char} {before after : Bytes}
    (hne : ns ≠ []) (h : encodeChars cs = before ++ (encodeChars ns ++ after)) :
    ∃ p s, cs = p ++ (ns ++ s) ∧ before = encodeChars p ∧ after = encodeChars s := by
  induction cs generalizing before with
  | nil =>
    obtain ⟨n, ns, rfl⟩ := List.exists_cons_of_ne_nil hne
    have hNil := (List.append_eq_nil_iff.mp (List.append_eq_nil_iff.mp h.symm).2).1
    rw [encodeChars_cons] at hNil
    exact absurd (List.append_eq_nil_iff.mp hNil).1 String.utf8EncodeChar_ne_nil
  | cons c cs ih =>
    by_cases hBefore : before = []
    · subst hBefore
      obtain ⟨s, hText, hAfter⟩ := exists_of_encodeChars_append h
      exact ⟨[], s, hText, rfl, hAfter⟩
    · rw [encodeChars_cons] at h
      rcases List.append_eq_append_iff.mp h with ⟨x, rfl, hx⟩ | ⟨x, hc, hx⟩
      · obtain ⟨p, s, rfl, rfl, hAfter⟩ := ih hx
        exact ⟨c :: p, s, rfl, rfl, hAfter⟩
      · cases x with
        | nil =>
          obtain ⟨s, rfl, hAfter⟩ := exists_of_encodeChars_append hx.symm
          have hChar : before = encodeChars [c] := by
            rw [encodeChars_cons, hc, List.append_nil]
            exact (List.append_nil before).symm
          exact ⟨[c], s, rfl, hChar, hAfter⟩
        | cons first x =>
          -- the match begins within the bytes of `c`, hence with its first byte
          obtain ⟨n, ns, rfl⟩ := List.exists_cons_of_ne_nil hne
          obtain ⟨first', tail, hn, hFirst⟩ := encodeChar_eq_cons n
          have hHead : first' = first := by
            rw [encodeChars_cons, hn] at hx
            exact (List.cons.inj hx).1
          exact absurd (eq_nil_of_isUTF8FirstByte hc (hHead ▸ hFirst)) hBefore

end Utf8

namespace Substring

theorem inBytes_iff_infix (needle bs : Bytes) : inBytes needle bs = true ↔ needle <:+: bs := by
  induction bs with
  | nil => simp [inBytes]
  | cons b bs ih =>
    rw [inBytes, Bool.or_eq_true, ih, List.isPrefixOf_iff_prefix, List.infix_cons_iff]

/-- A word is found in a text exactly where its characters follow one another in it. -/
theorem occursIn_iff_infix (word text : String) :
    occursIn word text = true ↔ word.toList <:+: text.toList := by
  rw [occursIn, inBytes_iff_infix]
  constructor
  · rintro ⟨before, after, h⟩
    by_cases hne : word.toList = []
    · rw [hne]
      exact List.nil_infix
    · rw [List.append_assoc] at h
      obtain ⟨p, s, hText, -, -⟩ := Utf8.exists_of_append_encodeChars_append hne h.symm
      rw [← List.append_assoc] at hText
      exact ⟨p, s, hText.symm⟩
  · rintro ⟨a, b, h⟩
    exact ⟨Utf8.encodeChars a, Utf8.encodeChars b, by
      rw [Utf8.encode, Utf8.encode, ← h, Utf8.encodeChars_append, Utf8.encodeChars_append]⟩

/-- A matcher that looks for a word holds of the texts that contain its characters. Its bytes stand
nowhere else in a text than where a character ends or begins; the empty word is found at the front
of every text. -/
theorem word_found_by_characters {P : Type} (engine : Engine P) (word text : String) :
    ((Matcher.substring word).isMatch engine text = true ↔
      ∃ p s, text.toList = p ++ word.toList ++ s) ∧
    (∀ before after, Utf8.encode text = before ++ Utf8.encode word ++ after →
      (word = "" → before = []) →
      ∃ p s, text.toList = p ++ word.toList ++ s ∧
        before = Utf8.encodeChars p ∧ after = Utf8.encodeChars s) ∧
    (Matcher.substring "").isMatch engine text = true := by
  refine ⟨?_, ?_, ?_⟩
  · have hInfix : (Matcher.substring word).isMatch engine text = true ↔
        word.toList <:+: text.toList := occursIn_iff_infix word text
    rw [hInfix]
    exact exists₂_congr fun _ _ => eq_comm
  · intro before after h hFront
    rw [List.append_assoc] at h
    by_cases hWord : word = ""
    · obtain rfl := hFront hWord
      obtain ⟨s, hText, hAfter⟩ := Utf8.exists_of_encodeChars_append h
      exact ⟨[], s, hText, rfl, hAfter⟩
    · have hne : word.toList ≠ [] := fun hNil => hWord (String.toList_eq_nil_iff.mp hNil)
      obtain ⟨p, s, hText, hBefore, hAfter⟩ := Utf8.exists_of_append_encodeChars_append hne h
      exact ⟨p, s, hText.trans (List.append_assoc _ _ _).symm, hBefore, hAfter⟩
  · have hEmpty := occursIn_iff_infix "" text
    exact hEmpty.mpr List.nil_infix

/-- The last byte of both characters is the same, so that only the second of them is the word. -/
theorem word_found_by_characters_last_byte :
    Utf8.encode "\u00e9\u00a9" = [0xc3, 0xa9] ++ Utf8.encode "\u00a9" ++ [] ∧
    ∃ p s, "\u00e9\u00a9".toList = p ++ "\u00a9".toList ++ s ∧
      [0xc3, 0xa9] = Utf8.encodeChars p ∧ [] = Utf8.encodeChars s := by
  have hBytes : Utf8.encode "\u00e9\u00a9" = [0xc3, 0xa9] ++ Utf8.encode "\u00a9" ++ [] := by
    decide
  exact ⟨hBytes, (word_found_by_characters (⟨.ok, Substring.occursIn⟩ : Engine String) "\u00a9"
    "\u00e9\u00a9").2.1 [0xc3, 0xa9] [] hBytes (by decide)⟩

end Substring

end LineSieve
