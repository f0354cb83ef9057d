import NplLifecycle.Proofs.Session.Guidance

/-!
# Clients that are started again

A client may be started again after a stop, after a start that failed, or when it has given up.  As
long as no start begins while a steward still leads the session, the stewards follow each other, and
each of them is guided like the first one.
-/

namespace NplLifecycle.Session

/-- Does a move begin a start while a steward still leads the session? -/
def overlaps (session : Session) : Move → Bool
  | .start => ! session.stewards.isEmpty
  | _ => false

/-- What is true of a client whose starts do not overlap: the steward that leads the session has a
number of its own, a start that waits for a welcome waits for that steward, and none is there that
has told of a failure. -/
structure Tenure (session : Session) : Prop extends Guided session where
  numbered : ∀ steward ∈ session.stewards, steward.id < session.nextSteward
  starting : ∀ id, session.call = .starting id → ∀ steward ∈ session.stewards, steward.id = id
  ready : ∀ id failure, (id, .error failure) ∈ session.ready →
    id < session.nextSteward ∧ ∀ steward ∈ session.stewards, steward.id ≠ id

section Steps

variable {session after : Session} {outcome : Session × List Effect}

theorem Tenure.parting (htenure : session.Tenure) : session.Parting := by
  intro id hcall hlost
  refine List.eq_nil_iff_forall_not_mem.mpr fun steward hmem => ?_
  have hid := htenure.starting id hcall steward hmem
  rcases hlost with ⟨failure, hfailed⟩ | hgone
  · exact (htenure.ready id failure hfailed).2 steward hmem hid
  · have hfound : (session.steward? id).isSome :=
      List.find?_isSome.mpr ⟨steward, hmem, by simpa using hid⟩
    rw [hgone] at hfound
    exact absurd hfound (by simp)

theorem Tenure.of_proceeds (htenure : session.Tenure) (hproceeds : Proceeds session after) :
    after.Tenure where
  toGuided := hproceeds.guided
  numbered := by
    intro steward hmem
    obtain ⟨old, hold, hid⟩ := hproceeds.stewards steward hmem
    rw [hproceeds.nextSteward, ← hid]
    exact htenure.numbered old hold
  starting := by
    intro id hstarting steward hmem
    obtain ⟨old, hold, hid⟩ := hproceeds.stewards steward hmem
    have hbefore := hproceeds.call.resolve_right fun hother => hother.2 id hstarting
    exact hid.symm.trans (htenure.starting id (hbefore.symm.trans hstarting) old hold)
  ready := by
    intro id failure hmem
    rcases hproceeds.ready _ hmem with hearlier | ⟨⟨teller, hteller, rfl⟩, hgone⟩
    · obtain ⟨hbelow, hother⟩ := htenure.ready id failure hearlier
      refine ⟨hproceeds.nextSteward ▸ hbelow, ?_⟩
      intro steward hsteward hsame
      obtain ⟨old, hold, hid⟩ := hproceeds.stewards steward hsteward
      exact hother old hold (hid.trans hsame)
    · refine ⟨hproceeds.nextSteward ▸ htenure.numbered teller hteller, ?_⟩
      intro steward hsteward
      rw [hgone failure rfl] at hsteward
      exact absurd hsteward List.not_mem_nil

theorem Tenure.start (htenure : session.Tenure) (hnone : session.stewards = []) :
    session.beginStart.1.Tenure where
  single := htenure.single
  sole := ⟨htenure.sole.1, fun _ => hnone⟩
  distinct := htenure.distinct
  upkeep := htenure.upkeep.keep (keeps_of_eq rfl rfl rfl rfl rfl)
  numbered := htenure.numbered
  starting := by simp [beginStart]
  ready := htenure.ready

theorem Tenure.supplyStart (htenure : session.Tenure) {connection : ConnectionId}
    (hcall : session.call = .connecting) (hnew : session.IsNew connection) :
    (session.supplyStart (.ok connection)).1.Tenure := by
  have hnone := htenure.sole.2 hcall
  have hstewards : (session.supplyStart (.ok connection)).1.stewards =
      [⟨session.nextSteward, .connected connection, 0, false⟩] := by
    show session.stewards ++ [⟨session.nextSteward, .connected connection, 0, false⟩] = _
    rw [hnone]
    rfl
  refine ⟨htenure.toGuided.supplyStart hcall hnew, ?_, ?_, ?_⟩
  · intro steward hmem
    rw [hstewards, List.mem_singleton] at hmem
    rw [hmem]
    exact Nat.lt_succ_self session.nextSteward
  · intro id hstarting steward hmem
    rw [hstewards, List.mem_singleton] at hmem
    rw [hmem]
    exact Call.starting.inj hstarting
  · intro id failure hfailed
    obtain ⟨hbelow, -⟩ := htenure.ready id failure hfailed
    refine ⟨Nat.lt_succ_of_lt hbelow, ?_⟩
    intro steward hmem
    rw [hstewards, List.mem_singleton] at hmem
    rw [hmem]
    exact (Nat.ne_of_lt hbelow).symm

/-- Every move but a start beside a steward keeps the tenure. -/
theorem Passage.tenure {move : Move} (hpassage : Passage session move outcome)
    (htenure : session.Tenure) (hseparate : session.overlaps move = false) :
    outcome.1.Tenure := by
  by_cases hstarts : move.Starts
  · cases hpassage with
    | start =>
        have hnone : session.stewards = [] := by simpa [overlaps] using hseparate
        exact htenure.start hnone
    | supplyStart hcall hnew => exact htenure.supplyStart hcall hnew
    | _ => exact hstarts.elim
  · exact htenure.of_proceeds (hpassage.proceeds htenure.toGuided htenure.parting hstarts)

theorem tenure_fresh (profile : ClientProfile) : (fresh profile).Tenure := by
  have hnone : (fresh profile).stewards = [] := rfl
  exact ⟨guided_of_none hnone List.nodup_nil ⟨rfl, rfl, rfl, by simp [fresh]⟩,
    by simp [hnone], by simp [hnone], by simp [fresh]⟩

end Steps

end NplLifecycle.Session
