import NplLifecycle.Proofs.Frame.Length
import NplLifecycle.Server.Practice

/-!
# The front of a practice server's buffer

The practice server takes the length of a frame from the first header line that gives a usable one
and passes over the others.  A header that a client can use means the same to it, and a frame that
it finds is not changed by what arrives behind it.
-/

namespace NplLifecycle.Practice

open NplLifecycle.Frame (Announces)

def usable? (line : List Char) : Option Nat :=
  (Frame.lengthField? line).bind (Number.readUnsigned? Frame.lengthBound)

/-- No line of a header gives the length. -/
def Silent (lines : List (List Char)) : Prop :=
  ∀ line ∈ lines, Frame.lengthField? line = none

section Lengths

variable {header : List UInt8} {text : String} {line value : List Char}
  {before after : List (List Char)} {length : Nat}

theorem announcedLength?_eq (htext : Text.decode? header = some text) :
    announcedLength? header = (Text.lines text.toList).findSome? usable? := by
  rw [announcedLength?, htext, Option.bind_some]
  rfl

theorem usable?_of_none (hline : Frame.lengthField? line = none) : usable? line = none := by
  rw [usable?, hline, Option.bind_none]

theorem usable?_of_some (hline : Frame.lengthField? line = some value) :
    usable? line = Number.readUnsigned? Frame.lengthBound value := by
  rw [usable?, hline, Option.bind_some]

theorem findSome?_of_silent (hsilent : Silent before) : before.findSome? usable? = none := by
  rw [List.findSome?_eq_none_iff]
  intro line hline
  exact usable?_of_none (hsilent line hline)

/-- Behind lines that do not give the length, the first one that does decides if it is usable. -/
theorem findSome?_usable?_append (hsilent : Silent before) :
    (before ++ line :: after).findSome? usable? =
      (usable? line).or (after.findSome? usable?) := by
  rw [List.findSome?_append, findSome?_of_silent hsilent, Option.none_or, List.findSome?_cons]
  cases usable? line <;> rfl

/-- A length that a client can use is the one that the practice server finds. -/
theorem announcedLength?_of_announces (h : Announces header length) :
    announcedLength? header = some length := by
  obtain ⟨htext, hfield, hnumber, -⟩ := h
  obtain ⟨before, line, after, hlines, hsilent, hline⟩ := hfield
  rw [announcedLength?_eq htext, hlines, findSome?_usable?_append hsilent, usable?_of_some hline,
    hnumber, Option.some_or]

end Lengths

section Fronts

variable {buffer header rest : List UInt8} {body : String} {length : Nat}

theorem front_of_none (h : Frame.splitHeader? buffer = none) : front buffer = .waiting := by
  rw [front, h]

/-- What stands behind a header of a usable length, as far as it has arrived. -/
theorem front_of_announced (hsplit : Frame.splitHeader? buffer = some (header, rest))
    (h : announcedLength? header = some length)
    (hreach : header.length + 4 + length < Nat.pow 2 64) :
    front buffer = if rest.length < length then .waiting
      else (Text.decode? (rest.take length)).elim .waiting (.frame · (rest.drop length)) := by
  simp only [front, hsplit, h, if_neg (Nat.not_le.mpr hreach)]
  split
  · rfl
  · cases Text.decode? (rest.take length) <;> rfl

/-- A frame that is found has a header of a usable length, and its body is text of that length. -/
theorem exists_of_front (h : front buffer = .frame body rest) :
    ∃ header behind length, Frame.splitHeader? buffer = some (header, behind) ∧
      announcedLength? header = some length ∧ header.length + 4 + length < Nat.pow 2 64 ∧
      length ≤ behind.length ∧ Text.decode? (behind.take length) = some body ∧
      rest = behind.drop length := by
  unfold front at h
  split at h
  · exact absurd h (by simp)
  · rename_i header behind hsplit
    split at h
    · exact absurd h (by simp)
    · rename_i length hlength
      split at h
      · exact absurd h (by simp)
      · rename_i hreach
        split at h
        · exact absurd h (by simp)
        · rename_i hwhole
          split at h
          · exact absurd h (by simp)
          · rename_i text htext
            obtain ⟨rfl, rfl⟩ := Front.frame.inj h
            exact ⟨header, behind, length, hsplit, hlength, Nat.lt_of_not_le hreach,
              Nat.le_of_not_lt hwhole, htext, rfl⟩

/-- Bytes behind a whole frame leave it as it is. -/
theorem front_append (h : front buffer = .frame body rest) (more : List UInt8) :
    front (buffer ++ more) = .frame body (rest ++ more) := by
  obtain ⟨header, behind, length, hsplit, hlength, hreach, hwhole, hbody, rfl⟩ :=
    exists_of_front h
  have hstill : ¬(behind ++ more).length < length := by
    rw [List.length_append]
    omega
  rw [front_of_announced (Frame.splitHeader?_append hsplit more) hlength hreach, if_neg hstill,
    List.take_append_of_le_length hwhole, hbody, List.drop_append_of_le_length hwhole]
  rfl

/-- A length that no address can reach is found out as soon as the header is there. -/
theorem front_append_of_overflow (h : front buffer = .overflow) (more : List UInt8) :
    front (buffer ++ more) = .overflow := by
  unfold front at h
  split at h
  · exact absurd h (by simp)
  · rename_i header behind hsplit
    split at h
    · exact absurd h (by simp)
    · rename_i length hlength
      split at h
      · rename_i hreach
        simp only [front, Frame.splitHeader?_append hsplit more, hlength, if_pos hreach]
      · split at h
        · exact absurd h (by simp)
        · split at h
          · exact absurd h (by simp)
          · exact absurd h (by simp)

/-- What is left behind a frame is the buffer without its first bytes. -/
theorem exists_drop_of_front (h : front buffer = .frame body rest) :
    ∃ consumed ≤ buffer.length, rest = buffer.drop consumed := by
  obtain ⟨header, behind, length, hsplit, -, -, hwhole, -, rfl⟩ := exists_of_front h
  have hsum := Frame.length_of_split hsplit
  exact ⟨header.length + 4 + length, by omega, (Frame.drop_of_split hsplit length).symm⟩

end Fronts

end NplLifecycle.Practice
