import NplLifecycle.Proofs.Session.Guidance

/-!
# Stewards and readers at places of their own

Even where stewards lead a session side by side, each has a number of its own and is at a connection
of its own, each connection has one reader, and nobody reads yet from a connection that a steward
has not listened on.
-/

namespace NplLifecycle.Session

/-- Is a steward at a connection that it has not listened on yet? -/
def Stage.Precedes (connection : ConnectionId) : Stage → Prop
  | .connected own | .attached own => own = connection
  | _ => False

/-- Stewards and readers do not get in each other's way. -/
structure Apart (session : Session) : Prop where
  distinct : (session.readers.map Reader.connection).Nodup
  numbered : ∀ steward ∈ session.stewards, steward.id < session.nextSteward
  same : ∀ steward ∈ session.stewards, ∀ other ∈ session.stewards,
    steward.id = other.id → steward = other
  placed : ∀ steward ∈ session.stewards, ∀ other ∈ session.stewards, ∀ connection,
    steward.stage.connection? = some connection → other.stage.connection? = some connection →
      steward = other
  unread : ∀ steward ∈ session.stewards, ∀ connection, steward.stage.Precedes connection →
    session.Unread connection

/-- A steward is where an earlier one of its number was, or nowhere. -/
structure Succeeds (steward old : Steward) : Prop where
  id : old.id = steward.id
  placed : ∀ connection, steward.stage.connection? = some connection →
    old.stage.connection? = some connection
  precedes : ∀ connection, steward.stage.Precedes connection → old.stage.Precedes connection

section Places

variable {session after : Session} {around : Surroundings} {steward changed old : Steward}
  {id : StewardId} {connection : ConnectionId} {outcome : Session × List Effect}

theorem Stage.Precedes.connection? {stage : Stage} (hprecedes : stage.Precedes connection) :
    stage.connection? = some connection := by
  cases stage with
  | connected own | attached own => exact congrArg some hprecedes
  | _ => exact hprecedes.elim

theorem succeeds_refl (steward : Steward) : Succeeds steward steward :=
  ⟨rfl, fun _ hplaced => hplaced, fun _ hprecedes => hprecedes⟩

/-- Stewards go on where they are, and a connection that got a reader is one that none of them has
yet to listen on. -/
theorem Apart.of_succeeds (hapart : session.Apart)
    (hsteward : ∀ steward ∈ after.stewards, ∃ old ∈ session.stewards, Succeeds steward old)
    (hsame : ∀ steward ∈ after.stewards, ∀ other ∈ after.stewards,
      steward.id = other.id → steward = other)
    (hnext : after.nextSteward = session.nextSteward)
    (hdistinct : (after.readers.map Reader.connection).Nodup)
    (hread : ∀ connection ∈ after.readers.map Reader.connection,
      connection ∈ session.readers.map Reader.connection ∨
        ∀ steward ∈ after.stewards, ¬steward.stage.Precedes connection) : after.Apart where
  distinct := hdistinct
  numbered := by
    intro steward hmem
    obtain ⟨old, hold, hsucceeds⟩ := hsteward steward hmem
    rw [hnext, ← hsucceeds.id]
    exact hapart.numbered old hold
  same := hsame
  placed := by
    intro steward hmem other hother connection hplace hplace'
    obtain ⟨old, hold, hsucceeds⟩ := hsteward steward hmem
    obtain ⟨old', hold', hsucceeds'⟩ := hsteward other hother
    have hequal := hapart.placed old hold old' hold' connection
      (hsucceeds.placed connection hplace) (hsucceeds'.placed connection hplace')
    refine hsame steward hmem other hother ?_
    rw [← hsucceeds.id, ← hsucceeds'.id, hequal]
  unread := by
    intro steward hmem connection hprecedes hreads
    obtain ⟨old, hold, hsucceeds⟩ := hsteward steward hmem
    rcases hread connection hreads with hearlier | hlate
    · exact hapart.unread old hold connection (hsucceeds.precedes connection hprecedes) hearlier
    · exact hlate steward hmem hprecedes

theorem mem_setSteward (hmem : steward ∈ (session.setSteward changed).stewards) :
    (steward = changed ∧ ∃ old ∈ session.stewards, old.id = changed.id) ∨
      steward ∈ session.stewards ∧ steward.id ≠ changed.id := by
  obtain ⟨old, hold, heq⟩ := List.mem_map.mp hmem
  split at heq
  · rename_i hid
    exact .inl ⟨heq.symm, old, hold, hid⟩
  · rename_i hne
    exact .inr ⟨heq ▸ hold, heq ▸ hne⟩

/-- Some of the stewards are left. -/
theorem Apart.of_subset (hapart : session.Apart)
    (hstewards : ∀ steward ∈ after.stewards, steward ∈ session.stewards)
    (hnext : after.nextSteward = session.nextSteward)
    (hreaders : after.readers.map Reader.connection = session.readers.map Reader.connection) :
    after.Apart := by
  refine hapart.of_succeeds ?_ ?_ hnext (hreaders ▸ hapart.distinct) ?_
  · exact fun steward hmem => ⟨steward, hstewards steward hmem, succeeds_refl steward⟩
  · exact fun steward hmem other hother =>
      hapart.same steward (hstewards steward hmem) other (hstewards other hother)
  · exact fun connection hmem => .inl (hreaders ▸ hmem)

theorem same_setSteward (hapart : session.Apart) (steward : Steward)
    (hmem : steward ∈ (session.setSteward changed).stewards) (other : Steward)
    (hother : other ∈ (session.setSteward changed).stewards) (hid : steward.id = other.id) :
    steward = other := by
  rcases mem_setSteward hmem with ⟨rfl, -⟩ | ⟨hold, hne⟩
  · rcases mem_setSteward hother with ⟨rfl, -⟩ | ⟨-, hne⟩
    · rfl
    · exact absurd hid.symm hne
  · rcases mem_setSteward hother with ⟨rfl, -⟩ | ⟨hold', -⟩
    · exact absurd hid hne
    · exact hapart.same steward hold other hold' hid

theorem succeeds_setSteward (hold : old ∈ session.stewards) (hsucceeds : Succeeds changed old)
    (hmem : steward ∈ (session.setSteward changed).stewards) :
    ∃ older ∈ session.stewards, Succeeds steward older := by
  rcases mem_setSteward hmem with ⟨rfl, -⟩ | ⟨hkept, -⟩
  · exact ⟨old, hold, hsucceeds⟩
  · exact ⟨steward, hkept, succeeds_refl steward⟩

/-- A steward goes on where it is. -/
theorem Apart.setSteward (hapart : session.Apart) (hold : old ∈ session.stewards)
    (hsucceeds : Succeeds changed old)
    (hstewards : after.stewards = (session.setSteward changed).stewards)
    (hnext : after.nextSteward = session.nextSteward)
    (hreaders : after.readers.map Reader.connection = session.readers.map Reader.connection) :
    after.Apart := by
  refine hapart.of_succeeds ?_ ?_ hnext (hreaders ▸ hapart.distinct) ?_
  · rw [hstewards]
    exact fun steward hmem => succeeds_setSteward hold hsucceeds hmem
  · rw [hstewards]
    exact same_setSteward hapart
  · exact fun connection hmem => .inl (hreaders ▸ hmem)

/-- A steward that has ended is left out. -/
theorem Apart.dropSteward (hapart : session.Apart)
    (hstewards : after.stewards = (session.dropSteward id).stewards)
    (hnext : after.nextSteward = session.nextSteward)
    (hreaders : after.readers.map Reader.connection = session.readers.map Reader.connection) :
    after.Apart :=
  hapart.of_subset (fun _ hmem => (List.mem_filter.mp (hstewards ▸ hmem)).1) hnext hreaders

theorem apart_of_eq (hapart : session.Apart) (hstewards : after.stewards = session.stewards)
    (hnext : after.nextSteward = session.nextSteward)
    (hreaders : after.readers.map Reader.connection = session.readers.map Reader.connection) :
    after.Apart :=
  hapart.of_subset (fun _ hmem => hstewards ▸ hmem) hnext hreaders

theorem connections_listen (steward : Steward) (connection : ConnectionId) :
    (session.listen steward connection).1.readers.map Reader.connection =
      session.readers.map Reader.connection ++ [connection] := by
  rw [listen_eq]
  show List.map Reader.connection (_ ++ [_]) = _
  rw [List.map_append]
  cases session.reader with
  | none => rfl
  | some previous => exact congrArg (· ++ [connection]) (connections_cancelReader previous)

theorem Apart.listen (hapart : session.Apart) (hmem : steward ∈ session.stewards)
    (hstage : steward.stage = .attached connection) :
    (session.listen steward connection).1.Apart := by
  have hplace : steward.stage.connection? = some connection := by rw [hstage]; rfl
  have hunread : session.Unread connection := hapart.unread steward hmem connection (by
    rw [hstage]
    exact rfl)
  have hstewards : (session.listen steward connection).1.stewards =
      (session.setSteward { steward with stage := .listening connection }).stewards := by
    rw [listen_eq]
  have hsucceeds : Succeeds { steward with stage := .listening connection } steward :=
    ⟨rfl, fun other hother => hplace.trans hother, fun _ hprecedes => hprecedes.elim⟩
  refine hapart.of_succeeds ?_ ?_ (by rw [listen_eq]; rfl) ?_ ?_
  · rw [hstewards]
    exact fun other hother => succeeds_setSteward hmem hsucceeds hother
  · rw [hstewards]
    exact same_setSteward hapart
  · rw [connections_listen, List.nodup_append]
    refine ⟨hapart.distinct, List.nodup_singleton _, ?_⟩
    intro other hother last hlast hequal
    rw [hequal, List.mem_singleton.mp hlast] at hother
    exact hunread hother
  · rw [hstewards, connections_listen]
    intro other hother
    refine (List.mem_append.mp hother).imp_right fun hnew => ?_
    obtain rfl := List.mem_singleton.mp hnew
    intro waiter hwaiter hprecedes
    rcases mem_setSteward hwaiter with ⟨rfl, -⟩ | ⟨hold, hne⟩
    · exact hprecedes
    · have hequal := hapart.placed waiter hold steward hmem other hprecedes.connection? hplace
      have hid : waiter.id = steward.id := congrArg Steward.id hequal
      exact hne hid

theorem apart_failGreeting (hapart : session.Apart) (failure : ClientError) :
    (session.failGreeting steward connection failure).1.Apart := by
  rw [failGreeting_eq]
  exact hapart.dropSteward rfl rfl (connections_cancelReader connection)

theorem StewardTurn.apart (hturn : StewardTurn around session steward outcome)
    (hmem : steward ∈ session.stewards) (hapart : session.Apart) : outcome.1.Apart := by
  have hleaves {stage : Stage} (hnone : stage.connection? = none) (restarts : Nat) :
      Succeeds { steward with stage := stage, restarts := restarts } steward := by
    refine ⟨rfl, fun connection hplace => ?_, fun connection hprecedes => ?_⟩
    · exact absurd (hnone.symm.trans hplace) (by simp)
    · exact absurd (hnone.symm.trans hprecedes.connection?) (by simp)
  cases hturn with
  | @attach connection hstage =>
      have hsucceeds : Succeeds { steward with stage := .attached connection } steward := by
        refine ⟨rfl, fun other hplace => ?_, fun other hprecedes => ?_⟩
        · rw [hstage]
          exact hplace
        · rw [hstage]
          exact hprecedes
      exact hapart.setSteward hmem hsucceeds rfl rfl rfl
  | listen hstage => exact hapart.listen hmem hstage
  | unfit => exact apart_failGreeting hapart _
  | unsent =>
      have hcounted : session.counted.Apart := apart_of_eq hapart rfl rfl rfl
      exact apart_failGreeting hcounted _
  | @greet connection params effect hstage =>
      have hsucceeds : Succeeds { steward with
          stage := .greeting connection (.number session.nextRequest)
            (around.now + greetingTimeout) } steward := by
        refine ⟨rfl, fun other hplace => ?_, fun _ hprecedes => hprecedes.elim⟩
        rw [hstage]
        exact hplace
      exact hapart.setSteward hmem hsucceeds rfl rfl rfl
  | refused hstage hpoll =>
      obtain ⟨pending, settled, rfl, -⟩ := poll_eq hpoll
      have hpolled : Apart { session with pending := pending, settled := settled } :=
        apart_of_eq hapart rfl rfl rfl
      exact apart_failGreeting hpolled _
  | @welcomed connection request deadline next answer welcome effect lines hstage hpoll =>
      obtain ⟨pending, settled, rfl, -⟩ := poll_eq hpoll
      have hsucceeds : Succeeds
          { steward with stage := .serving connection, announced := true } steward := by
        refine ⟨rfl, fun other hplace => ?_, fun _ hprecedes => hprecedes.elim⟩
        rw [hstage]
        exact hplace
      exact hapart.setSteward hmem hsucceeds rfl rfl rfl
  | lose => exact hapart.setSteward hmem (hleaves rfl steward.restarts) rfl rfl rfl
  | retire | resign | exhaust => exact hapart.dropSteward rfl rfl rfl
  | reconnect => exact hapart.setSteward hmem (hleaves rfl (steward.restarts + 1)) rfl rfl rfl

theorem apart_abandonTasks (hapart : session.Apart)
    (hstewards : after.stewards = session.abandonTasks.stewards)
    (hnext : after.nextSteward = session.abandonTasks.nextSteward)
    (hreaders : after.readers = session.abandonTasks.readers) : after.Apart := by
  refine hapart.of_subset ?_ ?_ ?_
  · rw [hstewards, abandonTasks_eq]
    exact fun steward hmem => (List.mem_filter.mp hmem).1
  · rw [hnext, abandonTasks_eq]
  · rw [hreaders]
    exact connections_abandonTasks

theorem CallTurn.apart (hturn : CallTurn around session outcome) (hapart : session.Apart) :
    outcome.1.Apart := by
  cases hturn with
  | started => exact apart_of_eq hapart rfl rfl rfl
  | @failed id failure =>
      have hheard : Apart { session with ready := session.ready.filter (·.1 ≠ id) } :=
        apart_of_eq hapart rfl rfl rfl
      exact apart_abandonTasks hheard rfl rfl rfl
  | orphaned => exact apart_abandonTasks hapart rfl rfl rfl
  | refused hcall hpoll | agreed hcall hpoll =>
      obtain ⟨pending, settled, rfl, -⟩ := poll_eq hpoll
      have hpolled : Apart { session with pending := pending, settled := settled } :=
        apart_of_eq hapart rfl rfl rfl
      exact apart_abandonTasks hpolled rfl rfl rfl

/-- A steward gets a connection that nobody has had to do with. -/
theorem Apart.place (hapart : session.Apart) (hnew : session.IsNew connection)
    (hmem : old ∈ after.stewards) (hplace : old.stage.connection? = some connection)
    (hothers : ∀ steward ∈ after.stewards, steward = old ∨ steward ∈ session.stewards)
    (hsame : ∀ steward ∈ after.stewards, ∀ other ∈ after.stewards,
      steward.id = other.id → steward = other)
    (hnumbered : ∀ steward ∈ after.stewards, steward.id < after.nextSteward)
    (hreaders : after.readers = session.readers) : after.Apart where
  distinct := hreaders ▸ hapart.distinct
  numbered := hnumbered
  same := hsame
  placed := by
    have hvacant {steward : Steward} (hsteward : steward ∈ session.stewards) :
        steward.stage.connection? ≠ some connection := hnew.2 steward hsteward
    intro steward hsteward other hother found hfound hfound'
    rcases hothers steward hsteward with rfl | hold
    · rcases hothers other hother with rfl | hold'
      · rfl
      · exact absurd (hfound'.trans (hfound.symm.trans hplace)) (hvacant hold')
    · rcases hothers other hother with rfl | hold'
      · exact absurd (hfound.trans (hfound'.symm.trans hplace)) (hvacant hold)
      · exact hapart.placed steward hold other hold' found hfound hfound'
  unread := by
    intro steward hsteward found hprecedes
    rw [Unread, hreaders]
    rcases hothers steward hsteward with rfl | hold
    · obtain rfl := Option.some.inj (hprecedes.connection?.symm.trans hplace)
      exact unread_of_isNew hnew
    · exact hapart.unread steward hold found hprecedes

/-- Every move keeps stewards and readers apart. -/
theorem Passage.apart {move : Move} (hpassage : Passage session move outcome)
    (hapart : session.Apart) : outcome.1.Apart := by
  have hhalting : session.halting.Apart := apart_of_eq hapart rfl rfl rfl
  cases hpassage with
  | stopDead => exact apart_abandonTasks hhalting rfl rfl rfl
  | stopUnsent =>
      have hcounted : session.halting.counted.Apart := apart_of_eq hapart rfl rfl rfl
      exact apart_abandonTasks hcounted rfl rfl rfl
  | abandon => exact apart_abandonTasks hapart rfl rfl rfl
  | steward hsteward hturn => exact hturn.apart (steward?_eq_some hsteward).1 hapart
  | reader hreader hexit hconnection hturn =>
      have hkeeps := hturn.keeps hreader hexit
      obtain ⟨pending, settled, hafter, -⟩ := hturn.frame hexit
      refine apart_of_eq hapart ?_ ?_ hkeeps.connections <;> rw [hafter] <;> rfl
  | call hturn => exact hturn.apart hapart
  | @supplyStart connection hcall hnew =>
      have hmem (steward : Steward)
          (hsteward : steward ∈ (session.supplyStart (.ok connection)).1.stewards) :
          steward ∈ session.stewards ∨
            steward = ⟨session.nextSteward, .connected connection, 0, false⟩ :=
        (List.mem_append.mp hsteward).imp_right List.mem_singleton.mp
      refine hapart.place hnew (List.mem_append_right _ (List.mem_singleton_self _)) rfl
        (fun steward hsteward => (hmem steward hsteward).symm) ?_ ?_ rfl
      · intro steward hsteward other hother hid
        rcases hmem steward hsteward with hold | rfl
        · rcases hmem other hother with hold' | rfl
          · exact hapart.same steward hold other hold' hid
          · exact absurd hid (Nat.ne_of_lt (hapart.numbered steward hold))
        · rcases hmem other hother with hold' | rfl
          · exact absurd hid.symm (Nat.ne_of_lt (hapart.numbered other hold'))
          · rfl
      · intro steward hsteward
        rcases hmem steward hsteward with hold | rfl
        · exact Nat.lt_succ_of_lt (hapart.numbered steward hold)
        · exact Nat.lt_succ_self session.nextSteward
  | @resupply id steward connection hsteward hstage hnew =>
      obtain ⟨hold, rfl⟩ := steward?_eq_some hsteward
      refine hapart.place hnew (List.mem_map.mpr ⟨steward, hold, if_pos rfl⟩) rfl ?_
        (same_setSteward hapart) ?_ rfl
      · exact fun other hother => (mem_setSteward hother).imp And.left And.left
      · intro other hother
        rcases mem_setSteward hother with ⟨rfl, -⟩ | ⟨hkept, -⟩
        · exact hapart.numbered steward hold
        · exact hapart.numbered other hkept
  | refuse => exact hapart.dropSteward rfl rfl rfl
  | _ => exact apart_of_eq hapart rfl rfl rfl

theorem apart_fresh (profile : ClientProfile) : (fresh profile).Apart :=
  ⟨List.nodup_nil, by simp [fresh], by simp [fresh], by simp [fresh], by simp [fresh]⟩

end Places

end NplLifecycle.Session
