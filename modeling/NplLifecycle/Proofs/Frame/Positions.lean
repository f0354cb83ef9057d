import NplLifecycle.Proofs.Frame.Stream

/-!
# Frames by position

A reader that works on a buffer looks for the terminator, reckons with positions where the header
and the body end, and cuts the buffer there.  Such a step is a breach where a sum would not fit a
machine word, where a difference would be below zero, or where bytes are wanted that the buffer does
not have.  Whatever bytes the buffer holds and whatever length its header gives, no step is a breach
on a machine whose words hold the buffer's length, and the frame is the one that is found without
positions.  Each frame takes at least its terminator, so a buffer holds at most a quarter as
many as it has bytes.
-/

namespace NplLifecycle.Frame

inductive Breach where
  /-- The sum is too great for a machine word. -/
  | sum
  /-- The difference is below zero. -/
  | difference
  /-- The bytes are not there. -/
  | range
  deriving DecidableEq, Repr

/-- A position further on; the words of the machine go up to the greatest. -/
def advance (greatest position count : Nat) : Except Breach Nat :=
  if position + count ≤ greatest then .ok (position + count) else .error .sum

/-- How far one position is behind another. -/
def distance (start stop : Nat) : Except Breach Nat :=
  if start ≤ stop then .ok (stop - start) else .error .difference

def slice (buffer : List UInt8) (start stop : Nat) : Except Breach (List UInt8) :=
  if start ≤ stop ∧ stop ≤ buffer.length then .ok ((buffer.take stop).drop start)
  else .error .range

def cut (buffer : List UInt8) (position : Nat) : Except Breach (List UInt8 × List UInt8) :=
  if position ≤ buffer.length then .ok (buffer.take position, buffer.drop position)
  else .error .range

def terminatorAt? (buffer : List UInt8) : Option Nat :=
  (List.range (buffer.length - 3)).find? fun position =>
    (buffer.drop position).take 4 = terminator

/-- Takes the first frame off a buffer by positions, with words up to the greatest; gives what it
yields, if there is a whole one, and the bytes that are left. -/
def takeFrame (greatest : Nat) (buffer : List UInt8) :
    Except Breach (Option Outcome × List UInt8) :=
  match terminatorAt? buffer with
  | none => .ok (none, buffer)
  | some headerEnd => do
    let bodyStart ← advance greatest headerEnd 4
    let header ← slice buffer 0 headerEnd
    match announcedLength header with
    | .error fault =>
      let parts ← cut buffer bodyStart
      return (some (.error fault), parts.2)
    | .ok length =>
      let arrived ← distance bodyStart buffer.length
      if arrived < length then return (none, buffer)
      else
        let parts ← cut buffer bodyStart
        let frame ← cut parts.2 length
        return (some ((Text.decode? frame.1).elim (.error .bodyNotText) .ok), frame.2)

section Positions

variable {buffer header rest : List UInt8} {greatest position : Nat} {outcome : Outcome}

theorem distance_add (start count : Nat) : distance start (start + count) = .ok count := by
  rw [distance, if_pos (Nat.le_add_right start count), Nat.add_sub_cancel_left]

theorem slice_front (first second : List UInt8) :
    slice (first ++ second) 0 first.length = .ok first := by
  have hwithin : 0 ≤ first.length ∧ first.length ≤ (first ++ second).length := by simp
  rw [slice, if_pos hwithin, List.take_left, List.drop_zero]

theorem slice_behind {count : Nat} (first : List UInt8) {second : List UInt8}
    (harrived : count ≤ second.length) :
    slice (first ++ second) first.length (first.length + count) = .ok (second.take count) := by
  have hwithin : first.length ≤ first.length + count ∧
      first.length + count ≤ (first ++ second).length := by
    rw [List.length_append]
    omega
  rw [slice, if_pos hwithin, List.take_length_add_append, List.drop_left]

theorem cut_append (first second : List UInt8) :
    cut (first ++ second) first.length = .ok (first, second) := by
  have hwithin : first.length ≤ (first ++ second).length := by simp
  rw [cut, if_pos hwithin, List.take_left, List.drop_left]

theorem cut_of_le (hwithin : position ≤ buffer.length) :
    cut buffer position = .ok (buffer.take position, buffer.drop position) :=
  if_pos hwithin

theorem eq_of_window (hwindow : (buffer.drop position).take 4 = terminator) :
    buffer = buffer.take position ++ terminator ++ buffer.drop (position + 4) := by
  calc buffer
      = buffer.take position ++ buffer.drop position := (List.take_append_drop position _).symm
    _ = buffer.take position ++
          ((buffer.drop position).take 4 ++ (buffer.drop position).drop 4) := by
        rw [List.take_append_drop 4]
    _ = buffer.take position ++ terminator ++ buffer.drop (position + 4) := by
        rw [hwindow, List.drop_drop, List.append_assoc]

/-- No terminator stands in front of the one that ends a header, also none that overlaps it. -/
theorem Closed.ne_of_window (hclosed : Closed header) (hearly : position < header.length) :
    ((header ++ terminator ++ rest).drop position).take 4 ≠ terminator := by
  have hlength := length_append_terminator header
  rw [List.drop_append_of_le_length (by omega),
    List.take_append_of_le_length (by rw [List.length_drop]; omega)]
  intro hwindow
  have hback := congrArg List.length (hclosed _ _ (eq_of_window hwindow))
  rw [List.length_drop, List.length_nil] at hback
  omega

/-- The position of the first terminator is where a buffer is split. -/
theorem terminatorAt?_of_some (hsplit : splitHeader? buffer = some (header, rest)) :
    terminatorAt? buffer = some header.length := by
  have hlength := length_of_split hsplit
  obtain ⟨rfl, hclosed⟩ := splitHeader?_eq_some_iff.mp hsplit
  rw [terminatorAt?, List.find?_range_eq_some, List.mem_range, decide_eq_true_eq]
  refine ⟨?_, by omega, ?_⟩
  · rw [List.append_assoc, List.drop_left]
    rfl
  · intro position hearly
    simpa using hclosed.ne_of_window hearly

theorem terminatorAt?_of_none (hsplit : splitHeader? buffer = none) :
    terminatorAt? buffer = none := by
  rw [terminatorAt?, List.find?_eq_none]
  intro position _ hwindow
  exact ne_of_splitHeader?_eq_none hsplit _ _ (eq_of_window (of_decide_eq_true hwindow))

theorem slice_header (hsplit : splitHeader? buffer = some (header, rest)) :
    slice buffer 0 header.length = .ok header := by
  obtain ⟨rfl, -⟩ := splitHeader?_eq_some_iff.mp hsplit
  rw [List.append_assoc]
  exact slice_front header _

theorem cut_header (hsplit : splitHeader? buffer = some (header, rest)) :
    cut buffer (header.length + 4) = .ok (header ++ terminator, rest) := by
  obtain ⟨rfl, -⟩ := splitHeader?_eq_some_iff.mp hsplit
  rw [← length_append_terminator]
  exact cut_append _ rest

theorem slice_body {count : Nat} (hsplit : splitHeader? buffer = some (header, rest))
    (harrived : count ≤ rest.length) :
    slice buffer (header.length + 4) (header.length + 4 + count) = .ok (rest.take count) := by
  obtain ⟨rfl, -⟩ := splitHeader?_eq_some_iff.mp hsplit
  rw [← length_append_terminator]
  exact slice_behind _ harrived

theorem distance_body (hsplit : splitHeader? buffer = some (header, rest)) :
    distance (header.length + 4) buffer.length = .ok rest.length := by
  rw [length_of_split hsplit]
  exact distance_add _ _

/-- The body of a header that is in the buffer begins at a position of it. -/
theorem advance_header (hfits : buffer.length ≤ greatest)
    (hsplit : splitHeader? buffer = some (header, rest)) :
    advance greatest header.length 4 = .ok (header.length + 4) := by
  have hlength := length_of_split hsplit
  exact if_pos (by omega)

/-- No step is a breach, and the frame is the one that is found without positions. -/
theorem takeFrame_eq (hfits : buffer.length ≤ greatest) : takeFrame greatest buffer =
    .ok ((next? buffer).elim (none, buffer) fun found => (some found.1, found.2)) := by
  cases hsplit : splitHeader? buffer with
  | none =>
      rw [takeFrame, terminatorAt?_of_none hsplit, next?, hsplit]
      rfl
  | some parts =>
      obtain ⟨header, rest⟩ := parts
      simp only [takeFrame, terminatorAt?_of_some hsplit, advance_header hfits hsplit,
        slice_header hsplit, cut_header hsplit, distance_body hsplit, next?, hsplit, bind,
        Except.bind, pure, Except.pure]
      cases hlength : announcedLength header with
      | error fault => rfl
      | ok length =>
          dsimp only
          by_cases hwaits : rest.length < length
          · rw [if_pos hwaits, if_pos hwaits]
            rfl
          · rw [if_neg hwaits, if_neg hwaits, cut_of_le (Nat.le_of_not_lt hwaits)]
            dsimp only
            cases Text.decode? (rest.take length) <;> rfl

/-- The terminator that is found is in the buffer. -/
theorem le_of_terminatorAt? (hat : terminatorAt? buffer = some position) :
    position + 4 ≤ buffer.length := by
  cases hsplit : splitHeader? buffer with
  | none => exact absurd ((terminatorAt?_of_none hsplit).symm.trans hat) (by simp)
  | some parts =>
      obtain ⟨header, rest⟩ := parts
      have hposition := Option.some.inj ((terminatorAt?_of_some hsplit).symm.trans hat)
      rw [length_of_split hsplit, hposition]
      exact Nat.le_add_right _ _

/-- What is left behind a frame is what stands behind its header, less the body if its length can be
used. -/
theorem exists_of_next? (hnext : next? buffer = some (outcome, rest)) :
    ∃ header behind length, splitHeader? buffer = some (header, behind) ∧
      rest = behind.drop length := by
  unfold next? at hnext
  split at hnext
  · exact absurd hnext (by simp)
  · rename_i header behind hsplit
    split at hnext
    · obtain ⟨-, rfl⟩ := Prod.mk.inj (Option.some.inj hnext)
      exact ⟨header, behind, 0, hsplit, rfl⟩
    · rename_i length hlength
      split at hnext
      · exact absurd hnext (by simp)
      · split at hnext
        all_goals
          obtain ⟨-, rfl⟩ := Prod.mk.inj (Option.some.inj hnext)
          exact ⟨header, behind, length, hsplit, rfl⟩

/-- A frame is a front of the buffer, and its terminator belongs to it. -/
theorem exists_front_of_next? (hnext : next? buffer = some (outcome, rest)) :
    ∃ front, buffer = front ++ rest ∧ 4 ≤ front.length := by
  obtain ⟨header, behind, length, hsplit, rfl⟩ := exists_of_next? hnext
  obtain ⟨hbuffer, -⟩ := splitHeader?_eq_some_iff.mp hsplit
  refine ⟨header ++ terminator ++ behind.take length, ?_, ?_⟩
  · rw [List.append_assoc, List.take_append_drop, hbuffer]
  · rw [List.length_append, length_append_terminator]
    omega

/-- Taking a frame off never fails: there is none, and the buffer stays as it is, or there is one,
and a front of the buffer goes with it. -/
theorem exists_takeFrame (hfits : buffer.length ≤ greatest) : ∃ found left,
    takeFrame greatest buffer = .ok (found, left) ∧
      next? buffer = found.map (fun outcome => (outcome, left)) ∧
      (found = none → left = buffer) ∧
      (found ≠ none → ∃ front, buffer = front ++ left ∧ 4 ≤ front.length) := by
  cases hnext : next? buffer with
  | none =>
      have htaken : takeFrame greatest buffer = .ok (none, buffer) := by
        rw [takeFrame_eq hfits, hnext]
        rfl
      exact ⟨none, buffer, htaken, rfl, fun _ => rfl, fun hfound => absurd rfl hfound⟩
  | some taken =>
      obtain ⟨outcome, rest⟩ := taken
      have htaken : takeFrame greatest buffer = .ok (some outcome, rest) := by
        rw [takeFrame_eq hfits, hnext]
        rfl
      exact ⟨some outcome, rest, htaken, rfl, fun hnone => absurd hnone (by simp),
        fun _ => exists_front_of_next? hnext⟩

/-- Each frame that is taken off makes a buffer shorter by four bytes or more. -/
theorem length_drain (buffer : List UInt8) :
    4 * (drain buffer).1.length + (drain buffer).2.length ≤ buffer.length := by
  fun_induction drain buffer with
  | case1 buffer hnone => simp
  | case2 buffer outcome rest hsome outcomes left hrest ih =>
      rw [hrest] at ih
      have hrest : 4 * outcomes.length + left.length ≤ rest.length := ih
      have hshorter := next?_length hsome
      change 4 * (outcomes.length + 1) + left.length ≤ buffer.length
      omega

end Positions

end NplLifecycle.Frame
