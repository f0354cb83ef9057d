import NplLifecycle.Proofs.Session.Course
import NplLifecycle.Proofs.Session.Effects

/-!
# How often a client asks for a connection

A client that is started once asks for its first connection then, and for each further one when its
steward restarts.  So the steward's count of restarts tells how many connections were asked for, and
its limit bounds them.
-/

namespace NplLifecycle.Session

def Effect.asker? : Effect → Option Asker
  | .connect asker => some asker
  | _ => none

def askersIn (effects : List Effect) : List Asker :=
  effects.filterMap Effect.asker?

/-- No steward restarted, and no start began to wait for a connection. -/
structure Spares (before after : Session) : Prop where
  profile : after.profile = before.profile
  call : after.call = .connecting → before.call = .connecting
  restarts : ∀ steward ∈ after.stewards, ∃ old ∈ before.stewards, steward.restarts = old.restarts

/-- What a move does to the number of connections. -/
inductive Spending (session : Session) (move : Move) (outcome : Session × List Effect) : Prop
  /-- Nobody asks for a connection. -/
  | spare (hnone : askersIn outcome.2 = []) (hspares : Spares session outcome.1)
  /-- The first connection comes. -/
  | first (hnone : askersIn outcome.2 = []) (hprofile : outcome.1.profile = session.profile)
      (hawaited : session.call = .connecting) (hcall : outcome.1.call ≠ .connecting)
      (hrestarts : ∀ steward ∈ outcome.1.stewards, steward ∈ session.stewards ∨
        steward.restarts = 0)
  /-- The steward asks for the next one. -/
  | renew {around : Surroundings} {steward : Steward} {line : LogLine}
      (hmove : move = .task around (.steward steward.id)) (hmem : steward ∈ session.stewards)
      (hstopping : session.stopping = false) (hdecision : around.decide .closed = .proceed)
      (hlimit : steward.restarts < session.configuration.maxRestarts)
      (houtcome : outcome = (session.setSteward { steward with
          stage := .reconnecting, restarts := steward.restarts + 1 },
        [.consult .closed .proceed, .log line, .connect (.steward steward.id)]))

section Spending

variable {session before middle after : Session} {around : Surroundings} {steward : Steward}
  {id : StewardId} {effects early late : List Effect} {outcome : Session × List Effect}
  {move : Move}

theorem askersIn_append : askersIn (early ++ late) = askersIn early ++ askersIn late :=
  List.filterMap_append

theorem askersIn_eq_nil (hquiet : ∀ effect ∈ effects, effect.IsQuiet) : askersIn effects = [] := by
  rw [askersIn, List.filterMap_eq_nil_iff]
  intro effect hmem
  have hplain := hquiet effect hmem
  cases effect with
  | connect asker => exact hplain.elim
  | _ => rfl

theorem askersIn_of_routine (hroutine : Routine effects) : askersIn effects = [] :=
  askersIn_eq_nil fun effect hmem => (hroutine effect hmem).isQuiet

theorem askersIn_of_send {message : Message} {effect : Effect}
    (hsend : session.send around message = .ok effect) : askersIn [effect] = [] := by
  obtain ⟨connection, -, rfl⟩ := send_eq_ok hsend
  rfl

theorem spares_of_subset (hprofile : after.profile = before.profile)
    (hcall : after.call = .connecting → before.call = .connecting)
    (hsubset : ∀ other ∈ after.stewards, other ∈ before.stewards) : Spares before after :=
  ⟨hprofile, hcall, fun other hother => ⟨other, hsubset other hother, rfl⟩⟩

theorem spares_of_eq (hprofile : after.profile = before.profile) (hcall : after.call = before.call)
    (hstewards : after.stewards = before.stewards) : Spares before after :=
  spares_of_subset hprofile (fun hconnecting => hcall ▸ hconnecting)
    (fun _ hother => hstewards ▸ hother)

theorem Spares.trans (hearly : Spares before middle) (hlate : Spares middle after) :
    Spares before after where
  profile := hlate.profile.trans hearly.profile
  call hconnecting := hearly.call (hlate.call hconnecting)
  restarts other hother := by
    obtain ⟨later, hlater, hsame⟩ := hlate.restarts other hother
    obtain ⟨old, hold, hequal⟩ := hearly.restarts later hlater
    exact ⟨old, hold, hsame.trans hequal⟩

theorem Spares.of_same (hspares : Spares middle after) (hprofile : middle.profile = before.profile)
    (hcall : middle.call = before.call) (hstewards : middle.stewards = before.stewards) :
    Spares before after :=
  (spares_of_eq hprofile hcall hstewards).trans hspares

theorem spares_setSteward {changed : Steward} (hmem : steward ∈ session.stewards)
    (hsame : changed.restarts = steward.restarts) :
    Spares session (session.setSteward changed) where
  profile := rfl
  call hconnecting := hconnecting
  restarts other hother := by
    obtain ⟨old, hold, rfl⟩ := List.mem_map.mp hother
    by_cases hid : old.id = changed.id
    · exact ⟨steward, hmem, by simpa [hid] using hsame⟩
    · exact ⟨old, hold, by simp [hid]⟩

theorem spares_dropSteward (id : StewardId) : Spares session (session.dropSteward id) :=
  spares_of_subset rfl (fun hconnecting => hconnecting)
    (fun _ hother => (List.mem_filter.mp hother).1)

theorem spares_failGreeting (connection : ConnectionId) (failure : ClientError) :
    Spares session (session.failGreeting steward connection failure).1 := by
  rw [failGreeting_eq]
  exact spares_of_subset rfl (fun hconnecting => hconnecting)
    (fun _ hother => (List.mem_filter.mp hother).1)

theorem spares_abandonTasks : Spares session session.abandonTasks := by
  rw [abandonTasks_eq]
  exact spares_of_subset rfl (fun hconnecting => hconnecting)
    (fun _ hother => (List.mem_filter.mp hother).1)

theorem spares_concludeStop (result : Except ClientError Unit) :
    Spares session (session.concludeStop result).1 :=
  spares_abandonTasks.trans
    (spares_of_subset rfl (fun hconnecting => absurd hconnecting (by simp [concludeStop]))
      (fun _ hother => hother))

theorem spares_failStart (failure : ClientError) :
    Spares session (session.abandonTasks.failStart failure).1 :=
  spares_abandonTasks.trans
    (spares_of_subset rfl (fun hconnecting => absurd hconnecting (by simp [failStart]))
      (fun _ hother => hother))

theorem spares_poll {next : Session} {method : String} {request : RequestId}
    {deadline timeout : Nat} {answer : Except ClientError Response}
    (hpoll : session.poll around method request deadline timeout = some (next, answer)) :
    Spares session next := by
  obtain ⟨pending, settled, rfl, -⟩ := poll_eq hpoll
  exact spares_of_eq rfl rfl rfl

theorem StewardTurn.spending (hturn : StewardTurn around session steward outcome)
    (hmem : steward ∈ session.stewards) :
    Spending session (.task around (.steward steward.id)) outcome := by
  have hchanged {stage : Stage} {announced : Bool} : Spares session
      (session.setSteward ⟨steward.id, stage, steward.restarts, announced⟩) :=
    spares_setSteward hmem rfl
  cases hturn with
  | attach =>
      exact .spare (askersIn_of_routine (routine_hangUps _))
        (hchanged.trans (spares_of_eq rfl rfl rfl))
  | listen =>
      refine .spare rfl ?_
      rw [listen_eq]
      exact hchanged.trans (spares_of_eq rfl rfl rfl)
  | unfit =>
      exact .spare (askersIn_of_routine (routine_failGreeting _ _ _)) (spares_failGreeting _ _)
  | unsent =>
      exact .spare (askersIn_of_routine (routine_failGreeting _ _ _))
        ((spares_failGreeting _ _).of_same rfl rfl rfl)
  | greet hstage hprofile hsend =>
      exact .spare (askersIn_of_send hsend) (hchanged.trans (spares_of_eq rfl rfl rfl))
  | refused hstage hpoll =>
      exact .spare (askersIn_of_routine (routine_failGreeting _ _ _))
        ((spares_poll hpoll).trans (spares_failGreeting _ _))
  | @welcomed connection request deadline next answer welcome effect lines hstage hpoll hconfirm =>
      obtain ⟨-, hnotify⟩ := confirm_eq_ok hconfirm
      obtain ⟨sent, -, rfl⟩ := send_eq_ok hnotify
      have hlines : askersIn (lines.map Effect.log) = [] := askersIn_of_routine (routine_logs lines)
      obtain ⟨pending, settled, rfl, -⟩ := poll_eq hpoll
      exact .spare hlines (hchanged.trans (spares_of_eq rfl rfl rfl))
  | lose =>
      exact .spare (askersIn_of_routine (routine_hangUps _))
        (hchanged.trans (spares_of_eq rfl rfl rfl))
  | retire => exact .spare (askersIn_of_routine (routine_logs _)) (spares_dropSteward _)
  | resign | exhaust => exact .spare rfl (spares_dropSteward _)
  | reconnect hstage hstopping hdecision hlimit =>
      exact .renew rfl hmem hstopping hdecision hlimit rfl

theorem CallTurn.spares (hturn : CallTurn around session outcome) : Spares session outcome.1 := by
  cases hturn with
  | started hcall hready =>
      exact spares_of_subset rfl (fun hconnecting => absurd hconnecting (by simp))
        (fun _ hother => hother)
  | failed => exact (spares_failStart _).of_same rfl rfl rfl
  | orphaned => exact spares_failStart _
  | refused hcall hpoll => exact (spares_poll hpoll).trans (spares_concludeStop _)
  | agreed hcall hpoll => exact (spares_poll hpoll).trans (spares_concludeStop (.ok ()))

/-- Every move but another start is one of the cases. -/
theorem Passage.spending (hpassage : Passage session move outcome) (hother : move ≠ .start) :
    Spending session move outcome := by
  cases hpassage with
  | start => exact absurd rfl hother
  | stopDead | stopUnsent =>
      exact .spare (askersIn_of_routine (routine_concludeStop _))
        ((spares_concludeStop _).of_same rfl rfl rfl)
  | stop hidle halive hsend =>
      exact .spare (askersIn_of_send hsend)
        (spares_of_subset rfl (fun hconnecting => absurd hconnecting (by simp))
          (fun _ hother => hother))
  | abandon =>
      exact .spare (askersIn_of_routine (routine_hangUps _))
        (spares_abandonTasks.trans (spares_of_eq rfl rfl rfl))
  | openDocument heffects =>
      exact .spare (askersIn_of_routine (routine_openDocument heffects)) (spares_of_eq rfl rfl rfl)
  | steward hsteward hturn =>
      obtain ⟨hmem, rfl⟩ := steward?_eq_some hsteward
      exact hturn.spending hmem
  | reader hreader hexit hconnection hturn =>
      obtain ⟨pending, settled, hafter, -⟩ := hturn.frame hexit
      refine .spare (askersIn_of_routine hturn.routine) ?_
      rw [hafter]
      exact spares_of_eq rfl rfl rfl
  | call hturn => exact .spare (askersIn_of_routine hturn.routine) hturn.spares
  | supplyStart hcall hnew =>
      refine .first rfl rfl hcall (by simp [Session.supplyStart]) ?_
      intro steward hmem
      rcases List.mem_append.mp hmem with hold | hadded
      · exact .inl hold
      · rw [List.mem_singleton.mp hadded]
        exact .inr rfl
  | refuseStart =>
      exact .spare rfl (spares_of_subset rfl (fun hconnecting => absurd hconnecting (by simp))
        (fun _ hother => hother))
  | resupply hsteward hstage hnew =>
      exact .spare rfl (spares_setSteward (steward?_eq_some hsteward).1 rfl)
  | refuse => exact .spare rfl (spares_dropSteward _)

end Spending

section Budgets

/-- How many connections a client has asked for agrees with the restarts of its steward, which stay
below their limit. -/
structure Budget (profile : ClientProfile) (session : Session) (asked : Nat) : Prop where
  kept : session.profile = profile
  bounded : asked ≤ 1 + profile.configuration.maxRestarts
  counted : ∀ steward ∈ session.stewards, asked = 1 + steward.restarts
  first : session.call = .connecting → asked = 1

variable {profile : ClientProfile} {session : Session} {outcome : Session × List Effect}
  {move : Move} {asked : Nat}

theorem Budget.spend (hbudget : Budget profile session asked) (hcourse : session.Course)
    (hspending : Spending session move outcome) :
    Budget profile outcome.1 (asked + (askersIn outcome.2).length) := by
  cases hspending with
  | spare hnone hspares =>
      rw [hnone]
      refine ⟨hspares.profile.trans hbudget.kept, hbudget.bounded, ?_,
        fun hconnecting => hbudget.first (hspares.call hconnecting)⟩
      intro steward hmem
      obtain ⟨old, hold, hsame⟩ := hspares.restarts steward hmem
      rw [hsame]
      exact hbudget.counted old hold
  | first hnone hprofile hawaited hcall hrestarts =>
      rw [hnone]
      refine ⟨hprofile.trans hbudget.kept, hbudget.bounded, ?_,
        fun hconnecting => absurd hconnecting hcall⟩
      intro steward hmem
      rcases hrestarts steward hmem with hold | hzero
      · exact hbudget.counted steward hold
      · rw [hzero]
        exact hbudget.first hawaited
  | @renew around steward line hmove hmem hstopping hdecision hlimit houtcome =>
      have hcount := hbudget.counted steward hmem
      have hlimit : steward.restarts < profile.configuration.maxRestarts := hbudget.kept ▸ hlimit
      have hsingle := hcourse.single steward hmem
      rw [houtcome]
      refine ⟨hbudget.kept, ?_, ?_, fun hconnecting =>
        absurd hconnecting (hcourse.guided.not_connecting hsingle)⟩
      · calc
          asked + 1 = 1 + (steward.restarts + 1) := by rw [hcount, Nat.add_assoc]
          _ ≤ 1 + profile.configuration.maxRestarts := Nat.add_le_add_left hlimit 1
      · intro other hother
        have hnext : (session.setSteward { steward with
            stage := .reconnecting, restarts := steward.restarts + 1 }).stewards =
            [{ steward with stage := .reconnecting, restarts := steward.restarts + 1 }] :=
          stewards_setSteward hsingle rfl
        rw [hnext, List.mem_singleton] at hother
        rw [hother, hcount]
        rfl

end Budgets

end NplLifecycle.Session
