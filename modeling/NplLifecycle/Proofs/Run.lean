/-!
# Runs

A system that moves by itself or is moved from outside is a function which, for a state and a
move, gives the next state and what happened, or nothing where the move cannot be made.  A run
makes moves one after the other.  What every run keeps follows from what one move keeps.
-/

namespace NplLifecycle.Run

variable {State Move Effect : Type}

/-- Makes moves one after the other; nothing if one of them cannot be made. -/
def follow (next? : State → Move → Option (State × List Effect)) :
    State → List Move → Option (State × List Effect)
  | state, [] => some (state, [])
  | state, move :: rest =>
    (next? state move).bind fun (state, effects) =>
      (follow next? state rest).map fun (state, more) => (state, effects ++ more)

variable {next? : State → Move → Option (State × List Effect)}

theorem follow_cons_eq_some {state last : State} {move : Move} {rest : List Move}
    {trace : List Effect} :
    follow next? state (move :: rest) = some (last, trace) ↔
      ∃ middle effects more, next? state move = some (middle, effects) ∧
        follow next? middle rest = some (last, more) ∧ trace = effects ++ more := by
  simp only [follow, Option.bind_eq_some_iff, Option.map_eq_some_iff, Prod.exists,
    Prod.mk.injEq]
  constructor
  · rintro ⟨middle, effects, hmove, after, more, hrest, rfl, rfl⟩
    exact ⟨middle, effects, more, hmove, hrest, rfl⟩
  · rintro ⟨middle, effects, more, hmove, hrest, rfl⟩
    exact ⟨middle, effects, hmove, last, more, hrest, rfl, rfl⟩

theorem follow_append_eq_some {state last : State} {first second : List Move}
    {trace : List Effect} :
    follow next? state (first ++ second) = some (last, trace) ↔
      ∃ middle effects more, follow next? state first = some (middle, effects) ∧
        follow next? middle second = some (last, more) ∧ trace = effects ++ more := by
  induction first generalizing state trace with
  | nil =>
      constructor
      · intro h
        exact ⟨state, [], trace, rfl, h, rfl⟩
      · rintro ⟨middle, effects, more, hfirst, hsecond, rfl⟩
        simp only [follow, Option.some.injEq, Prod.mk.injEq] at hfirst
        obtain ⟨rfl, rfl⟩ := hfirst
        exact hsecond
  | cons move first ih =>
      rw [List.cons_append, follow_cons_eq_some]
      constructor
      · rintro ⟨next, effects, more, hmove, hrest, rfl⟩
        obtain ⟨middle, early, late, hfirst, hsecond, rfl⟩ := ih.mp hrest
        refine ⟨middle, effects ++ early, late, ?_, hsecond, (List.append_assoc ..).symm⟩
        exact follow_cons_eq_some.mpr ⟨next, effects, early, hmove, hfirst, rfl⟩
      · rintro ⟨middle, effects, more, hfirst, hsecond, rfl⟩
        obtain ⟨next, here, early, hmove, hrest, rfl⟩ := follow_cons_eq_some.mp hfirst
        exact ⟨next, here, early ++ more, hmove,
          ih.mpr ⟨middle, early, more, hrest, hsecond, rfl⟩, List.append_assoc ..⟩

theorem follow_singleton {state last : State} {move : Move} {effects : List Effect}
    (hmove : next? state move = some (last, effects)) :
    follow next? state [move] = some (last, effects) := by
  rw [follow_cons_eq_some]
  exact ⟨last, effects, [], hmove, rfl, (List.append_nil effects).symm⟩

/-- What holds at the beginning and is kept by each move that is made holds at the end.  The
property may speak of the moves made so far and of what has happened. -/
theorem follow_history_induction (Holds : List Move → State → List Effect → Prop)
    {state last : State} {moves : List Move} {trace : List Effect} (hstart : Holds [] state [])
    (hstep : ∀ done before past move after effects, move ∈ moves → Holds done before past →
      next? before move = some (after, effects) → Holds (done ++ [move]) after (past ++ effects))
    (hrun : follow next? state moves = some (last, trace)) : Holds moves last trace := by
  suffices hgeneral : ∀ done past, Holds done state past →
      Holds (done ++ moves) last (past ++ trace) by
    simpa using hgeneral [] [] hstart
  clear hstart
  induction moves generalizing state trace with
  | nil =>
      intro done past hpast
      simp only [follow, Option.some.injEq, Prod.mk.injEq] at hrun
      obtain ⟨rfl, rfl⟩ := hrun
      simpa using hpast
  | cons move rest ih =>
      intro done past hpast
      obtain ⟨middle, effects, more, hmove, hrest, rfl⟩ := follow_cons_eq_some.mp hrun
      have hmiddle := hstep done state past move middle effects (by simp) hpast hmove
      rw [← List.append_assoc, show done ++ move :: rest = done ++ [move] ++ rest by simp]
      exact ih (fun done before past move after effects hmem =>
        hstep done before past move after effects (List.mem_cons_of_mem _ hmem)) hrest _ _ hmiddle

/-- The same for a property that does not speak of the moves. -/
theorem follow_induction (Holds : State → List Effect → Prop) {state last : State}
    {moves : List Move} {trace : List Effect} (hstart : Holds state [])
    (hstep : ∀ before past move after effects, move ∈ moves → Holds before past →
      next? before move = some (after, effects) → Holds after (past ++ effects))
    (hrun : follow next? state moves = some (last, trace)) : Holds last trace :=
  follow_history_induction (fun _ => Holds) hstart (fun _ => hstep) hrun

/-- How many of a run's moves are of a kind, each judged in the state that it is made in. -/
def tally (next? : State → Move → Option (State × List Effect)) (counts : State → Move → Bool) :
    State → List Move → Nat
  | _, [] => 0
  | state, move :: rest =>
    (if counts state move then 1 else 0) +
      (next? state move).elim 0 fun (state, _) => tally next? counts state rest

variable {counts : State → Move → Bool}

theorem tally_cons {state middle : State} {move : Move} {rest : List Move}
    {effects : List Effect} (hmove : next? state move = some (middle, effects)) :
    tally next? counts state (move :: rest) =
      (if counts state move then 1 else 0) + tally next? counts middle rest := by
  simp [tally, hmove]

theorem tally_append {state middle : State} {first second : List Move} {effects : List Effect}
    (hfirst : follow next? state first = some (middle, effects)) :
    tally next? counts state (first ++ second) =
      tally next? counts state first + tally next? counts middle second := by
  induction first generalizing state effects with
  | nil =>
      simp only [follow, Option.some.injEq, Prod.mk.injEq] at hfirst
      rw [hfirst.1]
      simp [tally]
  | cons move rest ih =>
      obtain ⟨next, here, more, hmove, hrest, rfl⟩ := follow_cons_eq_some.mp hfirst
      rw [List.cons_append, tally_cons hmove, tally_cons hmove, ih hrest, Nat.add_assoc]

/-- What is noted of a run's moves, each of them in the state that it is made in. -/
def notes {Note : Type} (next? : State → Move → Option (State × List Effect))
    (note : State → Move → List Note) : State → List Move → List Note
  | _, [] => []
  | state, move :: rest =>
    note state move ++ (next? state move).elim [] fun (state, _) => notes next? note state rest

variable {Note : Type} {note : State → Move → List Note}

theorem notes_cons {state middle : State} {move : Move} {rest : List Move}
    {effects : List Effect} (hmove : next? state move = some (middle, effects)) :
    notes next? note state (move :: rest) = note state move ++ notes next? note middle rest := by
  simp [notes, hmove]

theorem notes_append {state middle : State} {first second : List Move} {effects : List Effect}
    (hfirst : follow next? state first = some (middle, effects)) :
    notes next? note state (first ++ second) =
      notes next? note state first ++ notes next? note middle second := by
  induction first generalizing state effects with
  | nil =>
      simp only [follow, Option.some.injEq, Prod.mk.injEq] at hfirst
      rw [hfirst.1]
      rfl
  | cons move rest ih =>
      obtain ⟨next, here, more, hmove, hrest, rfl⟩ := follow_cons_eq_some.mp hfirst
      rw [List.cons_append, notes_cons hmove, notes_cons hmove, ih hrest, List.append_assoc]

theorem notes_concat {state middle last : State} {moves : List Move} {move : Move}
    {trace effects : List Effect} (hrun : follow next? state moves = some (middle, trace))
    (hmove : next? middle move = some (last, effects)) :
    notes next? note state (moves ++ [move]) =
      notes next? note state moves ++ note middle move := by
  rw [notes_append hrun, notes_cons hmove]
  exact congrArg (notes next? note state moves ++ ·) (List.append_nil _)

/-- What holds at the beginning, of nothing noted, and is kept by each move with what is noted of
it, holds at the end of all that was noted; the moves of a kind may be left out if none of the run's
moves is of that kind. -/
theorem follow_tally_induction (Holds : State → List Effect → List Note → Prop)
    {state last : State} {moves : List Move} {trace : List Effect} (hstart : Holds state [] [])
    (hstep : ∀ before past noted move after effects, move ∈ moves → counts before move = false →
      Holds before past noted → next? before move = some (after, effects) →
        Holds after (past ++ effects) (noted ++ note before move))
    (hrun : follow next? state moves = some (last, trace))
    (hnone : tally next? counts state moves = 0) :
    Holds last trace (notes next? note state moves) := by
  suffices hgeneral : ∀ past noted, Holds state past noted →
      Holds last (past ++ trace) (noted ++ notes next? note state moves) by
    simpa using hgeneral [] [] hstart
  clear hstart
  induction moves generalizing state trace with
  | nil =>
      intro past noted hpast
      simp only [follow, Option.some.injEq, Prod.mk.injEq] at hrun
      obtain ⟨rfl, rfl⟩ := hrun
      simpa [notes] using hpast
  | cons move rest ih =>
      intro past noted hpast
      obtain ⟨middle, effects, more, hmove, hrest, rfl⟩ := follow_cons_eq_some.mp hrun
      rw [tally_cons hmove, Nat.add_eq_zero_iff] at hnone
      have hother : counts state move = false := by
        cases hcounts : counts state move with
        | false => rfl
        | true => simp [hcounts] at hnone
      have hmiddle := hstep state past noted move middle effects (by simp) hother hpast hmove
      rw [notes_cons hmove, ← List.append_assoc, ← List.append_assoc]
      exact ih (fun before past noted move after effects hmem =>
        hstep before past noted move after effects (List.mem_cons_of_mem _ hmem)) hrest hnone.2 _ _
          hmiddle

theorem tally_false (state : State) (moves : List Move) :
    tally next? (fun _ _ => false) state moves = 0 := by
  induction moves generalizing state with
  | nil => rfl
  | cons move rest ih =>
      cases hmove : next? state move with
      | none => simp [tally, hmove]
      | some made => simp [tally, hmove, ih]

/-- The same for all moves. -/
theorem follow_notes_induction (Holds : State → List Effect → List Note → Prop)
    {state last : State} {moves : List Move} {trace : List Effect} (hstart : Holds state [] [])
    (hstep : ∀ before past noted move after effects, move ∈ moves → Holds before past noted →
      next? before move = some (after, effects) →
        Holds after (past ++ effects) (noted ++ note before move))
    (hrun : follow next? state moves = some (last, trace)) :
    Holds last trace (notes next? note state moves) :=
  follow_tally_induction Holds hstart
    (fun before past noted move after effects hmem _ =>
      hstep before past noted move after effects hmem) hrun (tally_false state moves)

/-- The same for a property that does not speak of what is noted, for the moves that are not left
out. -/
theorem follow_without_induction (Holds : State → List Effect → Prop) {state last : State}
    {moves : List Move} {trace : List Effect} (hstart : Holds state [])
    (hstep : ∀ before past move after effects, move ∈ moves → counts before move = false →
      Holds before past → next? before move = some (after, effects) →
        Holds after (past ++ effects))
    (hrun : follow next? state moves = some (last, trace))
    (hnone : tally next? counts state moves = 0) : Holds last trace :=
  @follow_tally_induction _ _ _ next? counts Unit (fun _ _ => [])
    (fun state past _ => Holds state past) _ _ _ _ hstart
    (fun before past _ => hstep before past) hrun hnone

end NplLifecycle.Run
