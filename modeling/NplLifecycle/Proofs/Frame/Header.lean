import NplLifecycle.Frame.Basic

/-!
# Where headers end and what they announce

A frame is taken off at the first terminator of a buffer, whatever follows there, so the header of a
frame is decided as soon as its terminator has arrived.  A header either announces a length that
can be used, or it has one of four faults; both are said here in terms of its lines.
-/

namespace NplLifecycle.Frame

def terminator : List UInt8 := [13, 10, 13, 10]

/-- The terminator that is put behind a header is the first one there. -/
def Closed (header : List UInt8) : Prop :=
  ∀ front back, header ++ terminator = front ++ terminator ++ back → back = []

section Ending

variable {buffer header rest : List UInt8}

theorem closed_nil : Closed [] := by
  intro front back h
  have hlength := congrArg List.length h
  simp only [List.length_append, List.length_nil] at hlength
  apply List.eq_nil_of_length_eq_zero
  omega

theorem Closed.tail {b : UInt8} (hclosed : Closed (b :: header)) : Closed header := by
  intro front back h
  apply hclosed (b :: front) back
  rw [List.cons_append, h]
  rfl

/-- Only the empty header begins with a terminator. -/
theorem Closed.eq_nil {body : List UInt8} (hclosed : Closed header)
    (h : header ++ terminator ++ rest = terminator ++ body) : header = [] := by
  have htake := congrArg (List.take 4) h
  rw [List.take_append_of_le_length (by simp [terminator])] at htake
  have hfront : header ++ terminator = [] ++ terminator ++ (header ++ terminator).drop 4 := by
    calc header ++ terminator
        = (header ++ terminator).take 4 ++ (header ++ terminator).drop 4 :=
          (List.take_append_drop 4 _).symm
      _ = [] ++ terminator ++ (header ++ terminator).drop 4 := by rw [htake]; rfl
  have hback := congrArg List.length (hclosed _ _ hfront)
  apply List.eq_nil_of_length_eq_zero
  simpa [terminator] using hback

theorem Closed.splitHeader? (hclosed : Closed header) (rest : List UInt8) :
    Frame.splitHeader? (header ++ terminator ++ rest) = some (header, rest) := by
  induction header with
  | nil => rfl
  | cons b header ih =>
      rw [List.cons_append, List.cons_append, Frame.splitHeader?, ih hclosed.tail]
      · rfl
      · intro body hfirst hbody
        have hsame : b :: header ++ terminator ++ rest = terminator ++ body := by
          rw [List.cons_append, List.cons_append, hfirst, hbody]
          rfl
        exact absurd (hclosed.eq_nil hsame) (List.cons_ne_nil _ _)

theorem closed_of_splitHeader? (h : splitHeader? buffer = some (header, rest)) :
    Closed header := by
  fun_induction Frame.splitHeader? buffer generalizing header rest with
  | case1 => exact absurd h (by simp)
  | case2 body =>
      rw [← (Prod.mk.inj (Option.some.inj h)).1]
      exact closed_nil
  | case3 b body hfirst ih =>
      obtain ⟨⟨inner, after⟩, hinner, heq⟩ := Option.map_eq_some_iff.mp h
      rw [← (Prod.mk.inj heq).1]
      intro front back hsplit
      cases front with
      | nil =>
          -- a terminator right in front would have been the one that was taken
          have hbody := splitHeader?_eq_some hinner
          simp only [terminator, List.cons_append, List.nil_append, List.cons.injEq] at hsplit
          refine absurd ?_ (hfirst (back ++ after) hsplit.1)
          rw [hbody, ← List.cons_append, ← List.cons_append, ← List.cons_append, ← hsplit.2]
          simp
      | cons c front =>
          exact ih hinner front back (List.cons.inj hsplit).2

/-- A buffer is split at its first terminator. -/
theorem splitHeader?_eq_some_iff : splitHeader? buffer = some (header, rest) ↔
    buffer = header ++ terminator ++ rest ∧ Closed header := by
  constructor
  · intro h
    refine ⟨?_, closed_of_splitHeader? h⟩
    rw [splitHeader?_eq_some h, terminator]
    simp
  · rintro ⟨rfl, hclosed⟩
    exact hclosed.splitHeader? rest

theorem length_append_terminator (header : List UInt8) :
    (header ++ terminator).length = header.length + 4 :=
  List.length_append

theorem length_of_split (hsplit : splitHeader? buffer = some (header, rest)) :
    buffer.length = header.length + 4 + rest.length := by
  obtain ⟨rfl, -⟩ := splitHeader?_eq_some_iff.mp hsplit
  rw [List.length_append, length_append_terminator]

theorem drop_of_split (hsplit : splitHeader? buffer = some (header, rest)) (count : Nat) :
    buffer.drop (header.length + 4 + count) = rest.drop count := by
  obtain ⟨rfl, -⟩ := splitHeader?_eq_some_iff.mp hsplit
  rw [← length_append_terminator, List.drop_length_add_append]

/-- What arrives later does not move the first terminator. -/
theorem splitHeader?_append (h : splitHeader? buffer = some (header, rest))
    (more : List UInt8) : splitHeader? (buffer ++ more) = some (header, rest ++ more) := by
  rw [splitHeader?_eq_some_iff] at h ⊢
  rw [h.1, List.append_assoc]
  exact ⟨rfl, h.2⟩

/-- A buffer that cannot be split has no terminator. -/
theorem ne_of_splitHeader?_eq_none (h : splitHeader? buffer = none) (front back : List UInt8) :
    buffer ≠ front ++ terminator ++ back := by
  fun_induction Frame.splitHeader? buffer generalizing front with
  | case1 => simp [terminator]
  | case2 body => exact absurd h (by simp)
  | case3 b body hfirst ih =>
      intro hbuffer
      cases front with
      | nil => exact hfirst back (List.cons.inj hbuffer).1 (List.cons.inj hbuffer).2
      | cons c front =>
          exact ih (Option.map_eq_none_iff.mp h) front (List.cons.inj hbuffer).2

/-- Behind a text without a terminator and some bytes that belong to no line ending, the terminator
that is put there is the first one. -/
theorem closed_append {text bytes : List UInt8} (htext : splitHeader? text = none)
    (hsome : bytes ≠ []) (hbytes : ∀ b ∈ terminator, b ∉ bytes) : Closed (text ++ bytes) := by
  intro front back h
  have hlength := congrArg List.length h
  have hpos := List.length_pos_iff.mpr hsome
  simp only [List.length_append, terminator, List.length_cons, List.length_nil] at hlength
  have houtside : ∀ i < 4, front.length + i < text.length ∨
      text.length + bytes.length ≤ front.length + i := by
    intro i hi
    apply Decidable.byContradiction
    intro hinside
    rw [not_or, Nat.not_lt, Nat.not_le] at hinside
    have hi : i < terminator.length := hi
    have hbyte := congrArg (fun s : List UInt8 => s[front.length + i]?) h
    simp only [List.append_assoc] at hbyte
    rw [List.getElem?_append_right hinside.1, List.getElem?_append_left (by omega),
      List.getElem?_append_right (Nat.le_add_right _ _), Nat.add_sub_cancel_left,
      List.getElem?_append_left hi, List.getElem?_eq_getElem hi] at hbyte
    exact hbytes _ (List.getElem_mem hi) (List.mem_of_getElem? hbyte)
  have hbeside : front.length + 4 ≤ text.length ∨ text.length + bytes.length ≤ front.length := by
    have hfirst := houtside 0 (by omega)
    have hsecond := houtside 1 (by omega)
    have hthird := houtside 2 (by omega)
    have hfourth := houtside 3 (by omega)
    omega
  cases hbeside with
  | inl hwithin =>
      have hfront : (front ++ terminator).take (front.length + 4) = front ++ terminator :=
        List.take_of_length_le (by simp [terminator])
      have htake : text.take (front.length + 4) = front ++ terminator := by
        calc text.take (front.length + 4)
            = (text ++ bytes ++ terminator).take (front.length + 4) := by
              rw [List.append_assoc, List.take_append_of_le_length hwithin]
          _ = (front ++ terminator).take (front.length + 4) := by
              rw [h, List.take_append_of_le_length (by simp [terminator])]
          _ = front ++ terminator := hfront
      refine absurd ?_ (ne_of_splitHeader?_eq_none htext front (text.drop (front.length + 4)))
      rw [← htake, List.take_append_drop]
  | inr hbehind =>
      apply List.eq_nil_of_length_eq_zero
      omega

end Ending

/-- The first line of a text that has a length field gives this value. -/
def FirstField (text : String) (value : List Char) : Prop :=
  ∃ before line after, Text.lines text.toList = before ++ line :: after ∧
    (∀ other ∈ before, lengthField? other = none) ∧ lengthField? line = some value

/-- A header announces a length that can be used: it is text, and its first length field holds a
number that is not too large. -/
inductive Announces (header : List UInt8) (length : Nat) : Prop
  | intro {text : String} {value : List Char} (htext : Text.decode? header = some text)
      (hfield : FirstField text value)
      (hnumber : Number.readUnsigned? lengthBound value = some length)
      (hfits : length ≤ maxBody)

/-- A header announces no length that can be used, for one of four reasons. -/
inductive Unusable (header : List UInt8) : Fault → Prop
  | notText (htext : Text.decode? header = none) : Unusable header .headerNotText
  | missing {text : String} (htext : Text.decode? header = some text)
      (hnone : ∀ line ∈ Text.lines text.toList, lengthField? line = none) :
      Unusable header .lengthMissing
  | notNumber {text : String} {value : List Char} (htext : Text.decode? header = some text)
      (hfield : FirstField text value)
      (hnumber : Number.readUnsigned? lengthBound value = none) : Unusable header .lengthInvalid
  | tooLarge {text : String} {value : List Char} {length : Nat}
      (htext : Text.decode? header = some text) (hfield : FirstField text value)
      (hnumber : Number.readUnsigned? lengthBound value = some length)
      (hlarge : maxBody < length) : Unusable header (.lengthTooLarge length)

section Announcing

variable {header : List UInt8} {length : Nat} {fault : Fault} {text : String}
  {value : List Char}

theorem firstField_iff :
    FirstField text value ↔ (Text.lines text.toList).findSome? lengthField? = some value := by
  rw [List.findSome?_eq_some_iff]
  constructor
  · rintro ⟨before, line, after, hlines, hnone, hfield⟩
    exact ⟨before, line, after, hlines, hfield, hnone⟩
  · rintro ⟨before, line, after, hlines, hfield, hnone⟩
    exact ⟨before, line, after, hlines, hnone, hfield⟩

theorem announcedLength_eq_ok_iff : announcedLength header = .ok length ↔
    Announces header length := by
  constructor
  · intro h
    unfold announcedLength at h
    split at h
    · exact absurd h (by simp)
    · rename_i text htext
      split at h
      · exact absurd h (by simp)
      · rename_i value hfield
        split at h
        · exact absurd h (by simp)
        · rename_i found hnumber
          split at h
          · exact absurd h (by simp)
          · rename_i hfits
            obtain rfl := Except.ok.inj h
            exact .intro htext (firstField_iff.mpr hfield) hnumber (Nat.le_of_not_lt hfits)
  · rintro ⟨htext, hfield, hnumber, hfits⟩
    simp only [announcedLength, htext, firstField_iff.mp hfield, hnumber]
    exact if_neg (Nat.not_lt.mpr hfits)

theorem announcedLength_eq_error_iff : announcedLength header = .error fault ↔
    Unusable header fault := by
  constructor
  · intro h
    unfold announcedLength at h
    split at h
    · rename_i htext
      obtain rfl := Except.error.inj h
      exact .notText htext
    · rename_i text htext
      split at h
      · rename_i hnone
        obtain rfl := Except.error.inj h
        exact .missing htext (List.findSome?_eq_none_iff.mp hnone)
      · rename_i value hfield
        split at h
        · rename_i hnumber
          obtain rfl := Except.error.inj h
          exact .notNumber htext (firstField_iff.mpr hfield) hnumber
        · rename_i found hnumber
          split at h
          · rename_i hlarge
            obtain rfl := Except.error.inj h
            exact .tooLarge htext (firstField_iff.mpr hfield) hnumber hlarge
          · exact absurd h (by simp)
  · intro h
    cases h with
    | notText htext => simp only [announcedLength, htext]
    | missing htext hnone =>
        simp only [announcedLength, htext, List.findSome?_eq_none_iff.mpr hnone]
    | notNumber htext hfield hnumber =>
        simp only [announcedLength, htext, firstField_iff.mp hfield, hnumber]
    | tooLarge htext hfield hnumber hlarge =>
        simp only [announcedLength, htext, firstField_iff.mp hfield, hnumber]
        exact if_pos hlarge

end Announcing

section Taking

variable {header body : List UInt8} {fault : Fault} {text : String}

/-- A header that announces no length is taken off alone. -/
theorem next?_of_unusable (hclosed : Closed header) (h : Unusable header fault)
    (rest : List UInt8) : next? (header ++ terminator ++ rest) = some (.error fault, rest) := by
  simp only [next?, hclosed.splitHeader? rest, announcedLength_eq_error_iff.mpr h]

/-- A header that announces a length is taken off with as many bytes. -/
theorem next?_of_announces (hclosed : Closed header) (h : Announces header body.length)
    (rest : List UInt8) : next? (header ++ terminator ++ (body ++ rest)) =
      some ((Text.decode? body).elim (.error .bodyNotText) .ok, rest) := by
  have hwhole : ¬(body ++ rest).length < body.length := by
    rw [List.length_append]
    omega
  simp only [next?, hclosed.splitHeader? (body ++ rest), announcedLength_eq_ok_iff.mpr h,
    if_neg hwhole, List.take_left, List.drop_left]
  cases Text.decode? body with
  | none => rfl
  | some text => rfl

end Taking

end NplLifecycle.Frame
