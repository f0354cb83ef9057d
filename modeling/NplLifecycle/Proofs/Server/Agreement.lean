import NplLifecycle.Proofs.Server.Front

/-!
# Two readers of one stream

A client and the practice server read frames each in its own way: the client stops at the first line
that gives a length and reports what is wrong with it, the server goes on to a line that it can use.
Wherever the client reports nothing they find the same, and what the server finds where the client
reports something stands behind a length that is no number or too large.
-/

namespace NplLifecycle.Practice

open NplLifecycle.Frame (Announces Fault Unusable maxBody next? splitHeader? terminator)

/-- A client takes a message of this body off a buffer, and so many bytes. -/
def Takes (buffer : List UInt8) (body : String) (consumed : Nat) : Prop :=
  consumed ≤ buffer.length ∧ next? buffer = some (.ok body, buffer.drop consumed)

/-- The practice server takes a frame of this body off a buffer, and so many bytes. -/
def Extracts (buffer : List UInt8) (body : String) (consumed : Nat) : Prop :=
  consumed ≤ buffer.length ∧ front buffer = .frame body (buffer.drop consumed)

/-- The first line of a header that gives the length gives this value, and behind it a line gives
the usable length. -/
def Precedes (header : List UInt8) (value : List Char) (length : Nat) : Prop :=
  ∃ text before line after, Text.decode? header = some text ∧
    Text.lines text.toList = before ++ line :: after ∧ Silent before ∧
    Frame.lengthField? line = some value ∧ after.findSome? usable? = some length

/-- Why a client finds fault with the length where the practice server finds one that it can use. -/
inductive Rejects (header : List UInt8) (length : Nat) : Fault → Prop
  /-- An earlier line gives something that is not a number. -/
  | notNumber {value : List Char} (hvalue : Precedes header value length)
      (hnumber : Number.number? value = none) : Rejects header length .lengthInvalid
  /-- An earlier line gives a number that is too large for any length. -/
  | beyond {value : List Char} {number : Nat} (hvalue : Precedes header value length)
      (hnumber : Number.number? value = some number)
      (hlarge : maxBody < number) : Rejects header length .lengthInvalid
  /-- The length is too large for a client. -/
  | tooLarge (hlarge : maxBody < length) : Rejects header length (.lengthTooLarge length)

/-- What does not fit 64 bits is no number, or a number that is too large for any length. -/
theorem notNumber_or_beyond {value : List Char}
    (h : Number.readUnsigned? Frame.lengthBound value = none) :
    Number.number? value = none ∨
      ∃ number, Number.number? value = some number ∧ maxBody < number := by
  cases hnumber : Number.number? value with
  | none => exact Or.inl rfl
  | some number =>
      rw [Number.readUnsigned?_eq_filter, hnumber, Option.filter_eq_none_iff] at h
      have hgreat : Frame.lengthBound ≤ number := by simpa using h number rfl
      have hbody : maxBody < Frame.lengthBound := by decide
      exact Or.inr ⟨number, rfl, Nat.lt_of_lt_of_le hbody hgreat⟩

section Agreeing

variable {buffer header behind rest : List UInt8} {body : String} {length consumed : Nat}
  {fault : Fault}

/-- A client that finds fault with the length of a header where the practice server finds a usable
one has a reason. -/
theorem rejects_of_unusable (hfault : Unusable header fault)
    (hlength : announcedLength? header = some length) : Rejects header length fault := by
  cases hfault with
  | notText htext =>
      rw [announcedLength?, htext] at hlength
      exact absurd hlength (by simp)
  | missing htext hsilent =>
      rw [announcedLength?_eq htext, findSome?_of_silent hsilent] at hlength
      exact absurd hlength (by simp)
  | notNumber htext hfield hnumber =>
      obtain ⟨before, line, after, hlines, hsilent, hline⟩ := hfield
      rw [announcedLength?_eq htext, hlines, findSome?_usable?_append hsilent,
        usable?_of_some hline, hnumber, Option.none_or] at hlength
      have hvalue : Precedes header _ length :=
        ⟨_, before, line, after, htext, hlines, hsilent, hline, hlength⟩
      cases notNumber_or_beyond hnumber with
      | inl hnot => exact .notNumber hvalue hnot
      | inr hgreat =>
          obtain ⟨number, hread, hlarge⟩ := hgreat
          exact .beyond hvalue hread hlarge
  | tooLarge htext hfield hnumber hlarge =>
      obtain ⟨before, line, after, hlines, hsilent, hline⟩ := hfield
      rw [announcedLength?_eq htext, hlines, findSome?_usable?_append hsilent,
        usable?_of_some hline, hnumber, Option.some_or] at hlength
      rw [Option.some.inj hlength] at hlarge ⊢
      exact .tooLarge hlarge

/-- Where a client can use the length, the practice server finds what the client takes. -/
theorem front_of_announces (hsplit : splitHeader? buffer = some (header, behind))
    (h : Announces header length) (hreach : header.length + 4 + length < Nat.pow 2 64) :
    front buffer = match next? buffer with
      | some (.ok body, rest) => .frame body rest
      | _ => .waiting := by
  rw [front_of_announced hsplit (announcedLength?_of_announces h) hreach]
  simp only [next?, hsplit, Frame.announcedLength_eq_ok_iff.mpr h]
  split
  · rfl
  · cases Text.decode? (behind.take length) <;> rfl

/-- In a buffer that fits into the memory of a machine with addresses of 64 bits, no length that a
client can use is out of reach. -/
theorem reach_of_announces (haddress : buffer.length < Nat.pow 2 63)
    (hsplit : splitHeader? buffer = some (header, behind)) (h : Announces header length) :
    header.length + 4 + length < Nat.pow 2 64 := by
  have hlength := Frame.length_of_split hsplit
  obtain ⟨-, -, -, hfits⟩ := h
  have haddress : buffer.length < 9223372036854775808 := haddress
  have hfits : length ≤ 67108864 := hfits
  change header.length + 4 + length < 18446744073709551616
  omega

/-- What is left behind a message is the buffer without its first bytes. -/
theorem exists_takes (h : next? buffer = some (.ok body, rest))
    (hfront : front buffer = .frame body rest) :
    ∃ consumed, Extracts buffer body consumed ∧ Takes buffer body consumed := by
  obtain ⟨consumed, hconsumed, rfl⟩ := exists_drop_of_front hfront
  exact ⟨consumed, ⟨hconsumed, hfront⟩, hconsumed, h⟩

/-- Where a client finds no fault, the practice server finds what the client takes. -/
theorem front_of_faultless (haddress : buffer.length < Nat.pow 2 63)
    (hsound : ∀ fault rest, next? buffer ≠ some (.error fault, rest)) :
    front buffer = match next? buffer with
      | some (.ok body, rest) => .frame body rest
      | _ => .waiting := by
  cases hsplit : splitHeader? buffer with
  | none =>
      rw [front_of_none hsplit, next?, hsplit]
  | some pair =>
      obtain ⟨header, behind⟩ := pair
      cases hlength : Frame.announcedLength header with
      | error fault =>
          refine absurd ?_ (hsound fault behind)
          simp only [next?, hsplit, hlength]
      | ok length =>
          have hannounces := Frame.announcedLength_eq_ok_iff.mp hlength
          exact front_of_announces hsplit hannounces
            (reach_of_announces haddress hsplit hannounces)

/-- What the practice server takes, the client takes too, or it finds fault with the length. -/
theorem takes_or_rejects (haddress : buffer.length < Nat.pow 2 63)
    (hextracts : Extracts buffer body consumed) : Takes buffer body consumed ∨
      ∃ header behind length fault, splitHeader? buffer = some (header, behind) ∧
        consumed = header.length + 4 + length ∧ next? buffer = some (.error fault, behind) ∧
        Rejects header length fault := by
  obtain ⟨hconsumed, hfront⟩ := hextracts
  obtain ⟨header, behind, length, hsplit, hannounced, -, hwhole, -, hrest⟩ := exists_of_front hfront
  cases hlength : Frame.announcedLength header with
  | error fault =>
      have hnext : next? buffer = some (.error fault, behind) := by
        simp only [next?, hsplit, hlength]
      refine Or.inr ⟨header, behind, length, fault, hsplit, ?_, hnext,
        rejects_of_unusable (Frame.announcedLength_eq_error_iff.mp hlength) hannounced⟩
      have hdropped := congrArg List.length hrest
      have hbuffer := Frame.length_of_split hsplit
      rw [List.length_drop, List.length_drop] at hdropped
      omega
  | ok found =>
      have hannounces := Frame.announcedLength_eq_ok_iff.mp hlength
      rw [front_of_announces hsplit hannounces
        (reach_of_announces haddress hsplit hannounces)] at hfront
      split at hfront
      · rename_i text rest hnext
        obtain ⟨rfl, rfl⟩ := Front.frame.inj hfront
        exact Or.inl ⟨hconsumed, hnext⟩
      · exact absurd hfront (by simp)

/-- In every buffer in which a client finds no fault the practice server finds nothing exactly where
the client does, and otherwise both take the same body and as many bytes.  Whatever frame the
practice server takes, the client takes too, or it takes the header alone and reports its length:
that of an earlier line, which is not a number or too large, or that of the frame, which is too
large. -/
theorem parsers_agree (buffer : List UInt8) (haddress : buffer.length < Nat.pow 2 63) :
    ((∀ fault rest, next? buffer ≠ some (.error fault, rest)) →
      (front buffer = .waiting ↔ next? buffer = none) ∧
      (next? buffer ≠ none →
        ∃ body consumed, Extracts buffer body consumed ∧ Takes buffer body consumed)) ∧
    ∀ body consumed, Extracts buffer body consumed → Takes buffer body consumed ∨
      ∃ header behind length fault, splitHeader? buffer = some (header, behind) ∧
        consumed = header.length + 4 + length ∧ next? buffer = some (.error fault, behind) ∧
        Rejects header length fault := by
  constructor
  · intro hsound
    have hfront := front_of_faultless haddress hsound
    cases hnext : next? buffer with
    | none =>
        rw [hnext] at hfront
        exact ⟨iff_of_true hfront rfl, fun h => absurd rfl h⟩
    | some taken =>
        obtain ⟨outcome, rest⟩ := taken
        cases outcome with
        | error fault => exact absurd hnext (hsound fault rest)
        | ok body =>
            rw [hnext] at hfront
            refine ⟨iff_of_false (by simp [hfront]) (by simp), fun _ => ?_⟩
            obtain ⟨consumed, hboth⟩ := exists_takes hnext hfront
            exact ⟨body, consumed, hboth⟩
  · intro body consumed hextracts
    exact takes_or_rejects haddress hextracts

end Agreeing

/-- A frame with two lines that give the length, this one first. -/
def practiceLengths (first : String) : List UInt8 :=
  Text.encode ("Content-Length: " ++ first ++ "\r\nContent-Length: 2\r\n\r\n\x7b\x7d")

/-- Where the first line gives the length both take the body.  Where it does not, the client reports
it and the practice server goes on to the second. -/
theorem parsers_agree_of_practiceLengths :
    (∃ body consumed, Extracts (practiceLengths "2") body consumed ∧
      Takes (practiceLengths "2") body consumed) ∧
    ∃ header behind length fault,
      splitHeader? (practiceLengths "nine") = some (header, behind) ∧
        45 = header.length + 4 + length ∧
        next? (practiceLengths "nine") = some (.error fault, behind) ∧
        Rejects header length fault := by
  constructor
  · have htaken : next? (practiceLengths "2") = some (.ok "\x7b\x7d", []) := by decide
    apply ((parsers_agree (practiceLengths "2") (by decide)).1 ?_).2 (by simp [htaken])
    intro fault rest
    simp [htaken]
  · have hextracts : Extracts (practiceLengths "nine") "\x7b\x7d" 45 := ⟨by decide, by decide⟩
    apply ((parsers_agree (practiceLengths "nine") (by decide)).2 _ _ hextracts).resolve_left
    exact fun htakes => absurd htakes.2 (by decide)

end NplLifecycle.Practice
