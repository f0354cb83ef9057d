import NplLifecycle.Text.Utf8

/-!
# Bytes of a text

The bytes of a text are those of its characters, one after the other.  An ASCII character is one
byte, and every byte of any other character is outside ASCII; so wherever an ASCII byte stands among
the bytes of a text, its character stands in the text, and the text can be cut there.
-/

namespace NplLifecycle.Text

theorem encode_append (text more : String) :
    encode (text ++ more) = encode text ++ encode more := by
  simp only [encode, String.toByteArray_append, ByteArray.data_append, Array.toList_append]

/-- The bytes of the text that was read are those that it was read from. -/
theorem encode_of_decode? {bytes : List UInt8} {text : String} (h : decode? bytes = some text) :
    encode text = bytes := by
  rw [decode?, String.fromUTF8?] at h
  split at h
  · rw [← Option.some.inj h]
    rfl
  · exact absurd h (by simp)

/-- Different texts have different bytes. -/
theorem encode_inj {text more : String} : encode text = encode more ↔ text = more := by
  refine ⟨fun h => ?_, congrArg encode⟩
  have hread := congrArg decode? h
  rwa [decode?_encode, decode?_encode, Option.some_inj] at hread

theorem decodeLossy_of_decode? {bytes : List UInt8} {text : String}
    (h : decode? bytes = some text) : decodeLossy bytes = text := by
  rw [decodeLossy, h, Option.getD_some]

theorem encode_ofList (chars : List Char) :
    encode (String.ofList chars) = chars.flatMap String.utf8EncodeChar := by
  rw [encode, String.toByteArray_ofList, List.utf8Encode, List.data_toByteArray]

theorem encode_ofList_cons (c : Char) (chars : List Char) :
    encode (String.ofList (c :: chars)) =
      String.utf8EncodeChar c ++ encode (String.ofList chars) := by
  rw [encode_ofList, encode_ofList, List.flatMap_cons]

theorem encode_ofList_append (front back : List Char) :
    encode (String.ofList (front ++ back)) =
      encode (String.ofList front) ++ encode (String.ofList back) := by
  rw [String.ofList_append, encode_append]

/-- An ASCII character is one byte. -/
theorem utf8EncodeChar_of_ascii {c : Char} (hascii : c.toNat < 128) :
    String.utf8EncodeChar c = [UInt8.ofNat c.toNat] := by
  rw [String.utf8EncodeChar.eq_def]
  exact if_pos (Nat.le_of_lt_succ hascii)

/-- The bytes of a character outside ASCII are outside ASCII. -/
theorem le_of_mem_utf8EncodeChar {c : Char} (hwide : 128 ≤ c.toNat) :
    ∀ b ∈ String.utf8EncodeChar c, 128 ≤ b.toNat := by
  have hnot : ¬c.val.toNat ≤ 127 := Nat.not_le.mpr hwide
  rw [String.utf8EncodeChar.eq_def]
  simp only [if_neg hnot]
  split
  · simp only [List.forall_mem_cons, UInt8.toNat_ofNat', List.not_mem_nil,
      false_implies, implies_true, and_true]
    omega
  · split
    all_goals
      simp only [List.forall_mem_cons, UInt8.toNat_ofNat', List.not_mem_nil,
        false_implies, implies_true, and_true]
      omega

/-- A character that has an ASCII byte is the character of that byte alone. -/
theorem eq_of_mem_utf8EncodeChar {c : Char} {b : UInt8} (hascii : b.toNat < 128)
    (hb : b ∈ String.utf8EncodeChar c) :
    c = Char.ofNat b.toNat ∧ String.utf8EncodeChar c = [b] := by
  have hnarrow : c.toNat < 128 := by
    apply Decidable.byContradiction
    intro hwide
    have hbyte := le_of_mem_utf8EncodeChar (Nat.le_of_not_lt hwide) b hb
    omega
  rw [utf8EncodeChar_of_ascii hnarrow] at hb ⊢
  obtain rfl := List.mem_singleton.mp hb
  have hbyte : (UInt8.ofNat c.toNat).toNat = c.toNat := by
    rw [UInt8.toNat_ofNat', Nat.mod_eq_of_lt (by omega)]
  rw [hbyte, Char.ofNat_toNat]
  exact ⟨rfl, rfl⟩

/-- A text can be cut where an ASCII byte stands among its bytes. -/
theorem exists_of_encode_eq_append_cons {chars : List Char} {front back : List UInt8} {b : UInt8}
    (hascii : b.toNat < 128) (h : encode (String.ofList chars) = front ++ b :: back) :
    ∃ before after, chars = before ++ Char.ofNat b.toNat :: after ∧
      encode (String.ofList before) = front ∧ encode (String.ofList after) = back := by
  induction chars generalizing front with
  | nil => exact absurd h.symm (List.append_ne_nil_of_right_ne_nil _ (List.cons_ne_nil _ _))
  | cons c chars ih =>
      rw [encode_ofList_cons, List.append_eq_append_iff] at h
      cases h with
      | inl hbehind =>
          obtain ⟨more, rfl, hmore⟩ := hbehind
          obtain ⟨before, after, rfl, rfl, rfl⟩ := ih hmore
          exact ⟨c :: before, after, rfl, encode_ofList_cons c before, rfl⟩
      | inr hwithin =>
          obtain ⟨inner, hchar, hinner⟩ := hwithin
          cases inner with
          | nil =>
              rw [List.append_nil] at hchar
              have hrest : encode (String.ofList chars) = [] ++ b :: back := hinner.symm
              obtain ⟨before, after, rfl, hbefore, rfl⟩ := ih hrest
              refine ⟨c :: before, after, rfl, ?_, rfl⟩
              rw [encode_ofList_cons, hbefore, hchar, List.append_nil]
          | cons d inner =>
              obtain ⟨rfl, hback⟩ := List.cons.inj hinner
              obtain ⟨rfl, hone⟩ := eq_of_mem_utf8EncodeChar (c := c) hascii (by rw [hchar]; simp)
              rw [hone] at hchar
              have hlength := congrArg List.length hchar
              simp only [List.length_append, List.length_cons, List.length_nil] at hlength
              obtain rfl : front = [] := List.eq_nil_of_length_eq_zero (by omega)
              obtain rfl : inner = [] := List.eq_nil_of_length_eq_zero (by omega)
              exact ⟨[], chars, rfl, rfl, hback.symm⟩

/-- A text whose first byte is an ASCII byte begins with its character. -/
theorem exists_of_encode_eq_cons {chars : List Char} {back : List UInt8} {b : UInt8}
    (hascii : b.toNat < 128) (h : encode (String.ofList chars) = b :: back) :
    ∃ after, chars = Char.ofNat b.toNat :: after ∧ encode (String.ofList after) = back := by
  have hfront : encode (String.ofList chars) = [] ++ b :: back := h
  obtain ⟨before, after, rfl, hbefore, hafter⟩ := exists_of_encode_eq_append_cons hascii hfront
  cases before with
  | nil => exact ⟨after, rfl, hafter⟩
  | cons c before =>
      rw [encode_ofList_cons] at hbefore
      exact absurd (List.append_eq_nil_iff.mp hbefore).1 String.utf8EncodeChar_ne_nil

/-- A text whose first byte is outside ASCII begins with a character outside ASCII. -/
theorem exists_wide_of_encode_eq_cons {text : String} {back : List UInt8} {b : UInt8}
    (hwide : 128 ≤ b.toNat) (h : encode text = b :: back) :
    ∃ c after, text.toList = c :: after ∧ 128 ≤ c.toNat := by
  rw [← String.ofList_toList (s := text)] at h
  cases hchars : text.toList with
  | nil =>
      rw [hchars] at h
      exact absurd h.symm (List.cons_ne_nil _ _)
  | cons c after =>
      refine ⟨c, after, rfl, Nat.le_of_not_lt fun hnarrow => ?_⟩
      rw [hchars, encode_ofList_cons, utf8EncodeChar_of_ascii hnarrow, List.singleton_append] at h
      rw [← (List.cons.inj h).1, UInt8.toNat_ofNat', Nat.mod_eq_of_lt (by omega)] at hwide
      omega

end NplLifecycle.Text
