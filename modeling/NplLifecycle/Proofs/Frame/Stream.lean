import NplLifecycle.Proofs.Frame.Header

/-!
# Streams in chunks

A frame is decided as soon as it is whole: bytes that come behind it change neither what it yields
nor where it ends, and a buffer without a whole frame is left as it is.  Draining can therefore be
interrupted anywhere, and what a stream yields does not depend on how it is cut.
-/

namespace NplLifecycle.Frame

variable {buffer rest : List UInt8} {outcome : Outcome}

/-- Bytes behind a whole frame leave it as it is. -/
theorem next?_append (h : next? buffer = some (outcome, rest)) (more : List UInt8) :
    next? (buffer ++ more) = some (outcome, rest ++ more) := by
  unfold next? at h ⊢
  split at h
  · exact absurd h (by simp)
  · rename_i header body hsplit
    simp only [splitHeader?_append hsplit more]
    split at h
    · obtain ⟨rfl, rfl⟩ := Prod.mk.inj (Option.some.inj h)
      rfl
    · rename_i length hlength
      split at h
      · exact absurd h (by simp)
      · rename_i hwhole
        have hwithin : length ≤ body.length := Nat.le_of_not_lt hwhole
        have hstill : ¬(body ++ more).length < length := by
          rw [List.length_append]
          omega
        simp only [if_neg hstill, List.take_append_of_le_length hwithin,
          List.drop_append_of_le_length hwithin]
        split at h
        all_goals
          obtain ⟨rfl, rfl⟩ := Prod.mk.inj (Option.some.inj h)
          rfl

theorem drain_of_none (h : next? buffer = none) : drain buffer = ([], buffer) := by
  rw [drain]
  split
  · rfl
  · rename_i hsome
    exact absurd (h.symm.trans hsome) (by simp)

theorem drain_of_some (h : next? buffer = some (outcome, rest)) :
    drain buffer = (outcome :: (drain rest).1, (drain rest).2) := by
  rw [drain]
  split
  · rename_i hnone
    exact absurd (hnone.symm.trans h) (by simp)
  · rename_i first after hsome
    obtain ⟨rfl, rfl⟩ := Prod.mk.inj (Option.some.inj (hsome.symm.trans h))
    rfl

/-- Draining goes on until there is no whole frame. -/
theorem next?_drain (buffer : List UInt8) : next? (drain buffer).2 = none := by
  fun_induction drain buffer with
  | case1 buffer hnone => exact hnone
  | case2 buffer outcome rest hsome outcomes left hrest ih =>
      rw [hrest] at ih
      exact ih

/-- Draining can be interrupted: the bytes left over go in front of those that follow. -/
theorem drain_append (buffer more : List UInt8) : drain (buffer ++ more) =
    ((drain buffer).1 ++ (drain ((drain buffer).2 ++ more)).1,
      (drain ((drain buffer).2 ++ more)).2) := by
  fun_induction drain buffer with
  | case1 buffer hnone => rfl
  | case2 buffer outcome rest hsome outcomes left hrest ih =>
      rw [hrest] at ih
      rw [drain_of_some (next?_append hsome more), ih]
      rfl

/-- Behind bytes without a whole frame, chunks yield what they yield in one piece. -/
theorem feed_of_none (h : next? buffer = none) (chunks : List (List UInt8)) :
    feed buffer chunks = drain (buffer ++ chunks.flatten) := by
  induction chunks generalizing buffer with
  | nil =>
      rw [List.flatten_nil, List.append_nil, drain_of_none h]
      rfl
  | cons chunk chunks ih =>
      calc feed buffer (chunk :: chunks)
          = ((drain (buffer ++ chunk)).1 ++ (feed (drain (buffer ++ chunk)).2 chunks).1,
              (feed (drain (buffer ++ chunk)).2 chunks).2) := rfl
        _ = drain (buffer ++ chunk ++ chunks.flatten) := by
            rw [ih (next?_drain _), ← drain_append]
        _ = drain (buffer ++ (chunk :: chunks).flatten) := by
            rw [List.flatten_cons, List.append_assoc]

/-- What a stream yields, and which bytes of it are left unread, does not depend on how it is cut
into chunks. -/
theorem feed_eq_drain_flatten (chunks : List (List UInt8)) :
    feed [] chunks = drain chunks.flatten :=
  feed_of_none rfl chunks

end NplLifecycle.Frame
