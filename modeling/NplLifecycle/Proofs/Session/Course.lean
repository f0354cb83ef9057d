import NplLifecycle.Proofs.Session.Guidance

/-!
# The course of a client that is started once

Where a client is started once, its only steward is the first one, and there is one from the moment
that the start gets its connection until the steward ends for good.
-/

namespace NplLifecycle.Session

/-- What is true of a client that was started once, from the start on. -/
structure Course (session : Session) : Prop where
  single : ∀ steward ∈ session.stewards, session.stewards = [steward]
  numbered : ∀ steward ∈ session.stewards, steward.id = 0 ∧ session.steward = some 0
  awaited : session.call = .connecting →
    session.stewards = [] ∧ session.ready = [] ∧ session.nextSteward = 0
  starting : ∀ id, session.call = .starting id → id = 0
  ready : ∀ id failure, (id, .error failure) ∈ session.ready → session.stewards = []
  distinct : (session.readers.map Reader.connection).Nodup
  upkeep : session.Upkeep session.stage?

section Steps

variable {session after : Session} {around : Surroundings} {steward : Steward}
  {id : StewardId} {outcome : Session × List Effect}

theorem Course.guided (hcourse : session.Course) : session.Guided where
  single := hcourse.single
  sole := by
    refine ⟨?_, fun hconnecting => (hcourse.awaited hconnecting).1⟩
    intro steward hmem
    obtain ⟨hzero, hlast⟩ := hcourse.numbered steward hmem
    rw [hlast, hzero]
  distinct := hcourse.distinct
  upkeep := hcourse.upkeep

/-- Without a steward a session is offline. -/
theorem Course.offline_of_none (hcourse : session.Course) (hnone : session.stewards = []) :
    session.Offline :=
  hcourse.guided.offline_of_none hnone

theorem Course.steward?_zero (hcourse : session.Course) (hsingle : session.stewards = [steward]) :
    session.steward? 0 = some steward := by
  have hzero := (hcourse.numbered steward (hsingle ▸ List.mem_singleton_self steward)).1
  simp [steward?, hsingle, hzero]

theorem next?_of_serving {connection : ConnectionId} {exit : ReaderExit}
    (hsteward : session.steward? 0 = some steward)
    (hstage : steward.stage = .serving connection) (hexit : session.exit? connection = some exit)
    (around : Surroundings) :
    session.next? (.task around (.steward 0)) = some (session.concludeServing steward exit) := by
  show (session.steward? 0).bind _ = _
  rw [hsteward, Option.bind_some, hstage]
  exact congrArg (Option.map _) hexit

/-- The steward that a start waits for is the only one that there can be. -/
theorem Course.leaderless_of_gone (hcourse : session.Course) (hcall : session.call = .starting id)
    (hgone : session.steward? id = none) : session.stewards = [] := by
  refine List.eq_nil_iff_forall_not_mem.mpr ?_
  intro steward hmem
  have hzero := (hcourse.numbered steward hmem).1
  have hfound : (session.steward? 0).isSome :=
    List.find?_isSome.mpr ⟨steward, hmem, by simpa using hzero⟩
  rw [← hcourse.starting id hcall, hgone] at hfound
  exact absurd hfound (by simp)

theorem Course.parting (hcourse : session.Course) : session.Parting := by
  intro id hcall hlost
  rcases hlost with ⟨failure, hfailed⟩ | hgone
  · exact hcourse.ready id failure hfailed
  · exact hcourse.leaderless_of_gone hcall hgone

/-- Whatever leaves the session with the steward that it had, or with none, keeps the course. -/
theorem Course.of_proceeds (hcourse : session.Course) (hproceeds : Proceeds session after) :
    after.Course where
  single := hproceeds.guided.single
  numbered := by
    intro steward hmem
    obtain ⟨old, hold, hid⟩ := hproceeds.stewards steward hmem
    obtain ⟨hzero, hlast⟩ := hcourse.numbered old hold
    exact ⟨hid ▸ hzero, (hproceeds.steward (List.ne_nil_of_mem hmem)).trans hlast⟩
  awaited := by
    intro hconnecting
    have hbefore := hproceeds.call.resolve_right fun hother => hother.1 hconnecting
    obtain ⟨hnone, hempty, hzero⟩ := hcourse.awaited (hbefore.symm.trans hconnecting)
    refine ⟨hproceeds.stewards_eq_nil hnone, ?_, hproceeds.nextSteward.trans hzero⟩
    refine List.eq_nil_iff_forall_not_mem.mpr fun entry hmem => ?_
    rcases hproceeds.ready entry hmem with hold | ⟨⟨old, hold, -⟩, -⟩
    · rw [hempty] at hold
      exact absurd hold List.not_mem_nil
    · rw [hnone] at hold
      exact absurd hold List.not_mem_nil
  starting := by
    intro id hstarting
    have hbefore := hproceeds.call.resolve_right fun hother => hother.2 id hstarting
    exact hcourse.starting id (hbefore.symm.trans hstarting)
  ready := by
    intro id failure hmem
    rcases hproceeds.ready _ hmem with hold | ⟨-, hgone⟩
    · exact hproceeds.stewards_eq_nil (hcourse.ready id failure hold)
    · exact hgone failure rfl
  distinct := hproceeds.guided.distinct
  upkeep := hproceeds.guided.upkeep

/-- Every move but another start keeps the course. -/
theorem Passage.course {move : Move} (hpassage : Passage session move outcome)
    (hcourse : session.Course) (hother : move ≠ .start) : outcome.1.Course := by
  by_cases hstarts : move.Starts
  · cases hpassage with
    | start => exact absurd rfl hother
    | @supplyStart connection hcall hnew =>
        obtain ⟨hnone, hready, hnext⟩ := hcourse.awaited hcall
        have hguided := hcourse.guided.supplyStart hcall hnew
        have hstewards : (session.supplyStart (.ok connection)).1.stewards =
            [⟨0, .connected connection, 0, false⟩] := by
          show session.stewards ++ [⟨session.nextSteward, .connected connection, 0, false⟩] = _
          rw [hnone, hnext]
          rfl
        have hcalled : (session.supplyStart (.ok connection)).1.call = .starting 0 :=
          congrArg Call.starting hnext
        refine ⟨hguided.single, ?_, by simp [hcalled], by simp [hcalled], ?_, hguided.distinct,
          hguided.upkeep⟩
        · intro steward hmem
          rw [hstewards, List.mem_singleton] at hmem
          rw [hmem]
          exact ⟨rfl, congrArg some hnext⟩
        · intro id failure hfailed
          have hmem : (id, Except.error failure) ∈ session.ready := hfailed
          rw [hready] at hmem
          exact absurd hmem List.not_mem_nil
    | _ => exact hstarts.elim
  · exact hcourse.of_proceeds (hpassage.proceeds hcourse.guided hcourse.parting hstarts)

end Steps

section Runs

variable {profile : ClientProfile} {moves : List Move} {last : Session} {trace : List Effect}

/-- A client that has just been told to start. -/
theorem course_beginStart (profile : ClientProfile) : (fresh profile).beginStart.1.Course := by
  have hnone : (fresh profile).beginStart.1.stewards = [] := rfl
  have hguided : (fresh profile).beginStart.1.Guided :=
    guided_of_none hnone List.nodup_nil ⟨rfl, rfl, rfl, by simp [beginStart, fresh]⟩
  exact ⟨hguided.single, by simp [hnone], fun _ => ⟨rfl, rfl, rfl⟩, by simp [beginStart],
    fun _ _ _ => hnone, hguided.distinct, hguided.upkeep⟩

/-- A run that begins with a start goes on from there. -/
theorem follow_start
    (hrun : Run.follow next? (fresh profile) (.start :: moves) = some (last, trace)) :
    ∃ more, Run.follow next? (fresh profile).beginStart.1 moves = some (last, more) ∧
      trace = .connect .start :: more := by
  obtain ⟨middle, effects, more, hstart, hrest, rfl⟩ := Run.follow_cons_eq_some.mp hrun
  have hbegin : (fresh profile).next? .start = some (fresh profile).beginStart := rfl
  rw [hbegin, Option.some.injEq] at hstart
  obtain ⟨rfl, rfl⟩ := Prod.mk.inj hstart
  exact ⟨more, hrest, rfl⟩

end Runs

end NplLifecycle.Session
