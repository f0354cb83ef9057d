import NplLifecycle.Proofs.Controller.Turn

/-!
# Steps are turns

Every step of a controller is one of the turns.  A turn goes through stretches in which nothing
runs; an errand's way is put together from what such a stretch may be followed by.
-/

namespace NplLifecycle.Controller

/-- In the middle of a turn, after some actions, nothing runs, and the controller is idle. -/
structure Midway (before : Controller) (job : Job) (past : List Action)
    (context : Option ActivationContext) (generation : Nat) : Prop where
  isOpen : before.Open job.id
  still : before.Still
  outward : outward past = []
  leads : before.state.Leads (entries past) .idle
  generation_le : before.generation ≤ generation
  touches_of_lt : before.generation < generation → Touches (entries past)
  lt_of_touches : Touches (entries past) →
    before.generation < generation ∨ job.stage.isBusy = true
  unstarted : .starting ∉ entries past
  context : before.context.isSome → context.isSome

section Arrivals

variable {situation : Situation} {before : Controller} {job : Job} {past : List Action}
variable {context : Option ActivationContext} {generation : Nat}

theorem hold_of_holder (hholder : before.holder = some job.id) : before.hold job.id = before := by
  cases before
  simp only [hold] at hholder ⊢
  rw [hholder]

theorem hold_eq_vacate {state : LifecycleState} (hvacant : before.Vacant state) :
    before.hold job.id =
      (before.hold job.id).vacate state before.context before.generation := by
  obtain ⟨hstate, hclient, hsubscription⟩ := hvacant
  cases before
  simp only [hold, vacate] at hstate hclient hsubscription ⊢
  rw [hstate, hclient, hsubscription]

/-- The job that has the lock enters another state. -/
theorem enter_eq_vacate {state next : LifecycleState} (hholder : before.holder = some job.id)
    (hvacant : before.Vacant state) :
    { before with state := next } =
      (before.hold job.id).vacate next before.context before.generation := by
  rw [hold_of_holder hholder]
  obtain ⟨hstate, hclient, hsubscription⟩ := hvacant
  cases before
  simp only [vacate] at hclient hsubscription ⊢
  rw [hclient, hsubscription]

theorem midway_of_vacant (hopen : before.Open job.id) (hvacant : before.Vacant .idle) :
    Midway before job [] before.context before.generation where
  isOpen := hopen
  still := Or.inl hvacant
  outward := rfl
  leads := hvacant.1
  generation_le := Nat.le_refl _
  touches_of_lt := fun h => absurd h (Nat.lt_irrefl _)
  lt_of_touches := fun h => absurd h not_touches_nil
  unstarted := List.not_mem_nil
  context := id

/-- A turn that enters no state, and keeps the state and the generation. -/
theorem course_of_silent {after : Controller} {actions : List Action}
    (hentries : entries actions = []) (hstate : after.state = before.state)
    (hgeneration : after.generation = before.generation) (hcontext : after.context = before.context)
    (hnext : after.nextJob = before.nextJob) : Course before job actions after where
  leads := by
    rw [hentries, hstate]
    rfl
  generation_le := Nat.le_of_eq hgeneration.symm
  touches_of_lt := fun h => absurd hgeneration.symm (Nat.ne_of_lt h)
  lt_of_touches := by
    rw [hentries]
    exact fun h => absurd h not_touches_nil
  starting := by
    rw [hentries]
    exact fun h => absurd h List.not_mem_nil
  context := by
    rw [hcontext]
    exact id
  nextJob := hnext

/-- Lines for the log and messages to the user change nothing. -/
theorem Midway.say (hmid : Midway before job past context generation) {more : List Action}
    (hentries : entries more = []) (houtward : Controller.outward more = []) :
    Midway before job (past ++ more) context generation where
  isOpen := hmid.isOpen
  still := hmid.still
  outward := by rw [outward_append, hmid.outward, houtward]; rfl
  leads := by rw [entries_append, hentries, List.append_nil]; exact hmid.leads
  generation_le := hmid.generation_le
  touches_of_lt := by rw [entries_append, hentries, List.append_nil]; exact hmid.touches_of_lt
  lt_of_touches := by rw [entries_append, hentries, List.append_nil]; exact hmid.lt_of_touches
  unstarted := by rw [entries_append, hentries, List.append_nil]; exact hmid.unstarted
  context := hmid.context

/-- A turn that goes on silently from where nothing runs. -/
theorem Midway.course (hmid : Midway before job past context generation) {rest : List Action}
    {after : Controller} (hentries : entries rest = []) (hstate : after.state = .idle)
    (hgeneration : after.generation = generation)
    (hcontext : before.context.isSome → after.context.isSome)
    (hnext : after.nextJob = before.nextJob) : Course before job (past ++ rest) after := by
  have hsame : entries (past ++ rest) = entries past := by
    rw [entries_append, hentries, List.append_nil]
  constructor
  · rw [hsame, hstate]
    exact hmid.leads
  · rw [hgeneration]
    exact hmid.generation_le
  · rw [hsame, hgeneration]
    exact hmid.touches_of_lt
  · rw [hsame, hgeneration]
    exact hmid.lt_of_touches
  · rw [hsame]
    exact fun hstarting => absurd hstarting hmid.unstarted
  · exact hcontext
  · exact hnext

/-- A turn that goes on with a start from where nothing runs. -/
theorem Midway.course_of_start {first : Nat} (hmid : Midway before job past context first)
    {rest : List Action} (later : List LifecycleState) {after : Controller}
    (hentries : entries rest = .starting :: later)
    (hleads : LifecycleState.starting.Leads later after.state)
    (hle : before.generation ≤ after.generation)
    (hlt : before.generation < after.generation ∨ job.stage.isBusy = true)
    (hcause : job.stage.isBusy = true ∨ job.errand.opens ∨
      job.stage.recorded? = some before.generation)
    (hcontext : after.context.isSome) (hnext : after.nextJob = before.nextJob) :
    Course before job (past ++ rest) after where
  leads := by
    rw [entries_append, hentries]
    exact hmid.leads.append ⟨.start, hleads⟩
  generation_le := hle
  touches_of_lt := by
    rw [entries_append, hentries]
    simp [Touches]
  lt_of_touches := fun _ => hlt
  starting := fun _ => hcause
  context := fun _ => hcontext
  nextJob := hnext

theorem Midway.fall (hmid : Midway before job past context generation) {rest : List Action}
    {outcome : Outcome}
    (hcause : job.stage.isBusy = true ∨ job.errand.isExplicit = true ∨
      job.stage.recorded? = some before.generation)
    (hentries : entries rest = []) (houtward : Controller.outward rest = [])
    (hfinish : .finish job.id outcome ∈ rest)
    (hstop : job.errand = .stop → before.generation < generation ∨ job.stage.isBusy = true) :
    Arrives situation before job
      (((before.hold job.id).vacate .idle context generation).retire job.id, past ++ rest) := by
  constructor
  · exact hmid.course hentries rfl rfl hmid.context rfl
  · refine .fall hmid.isOpen hmid.generation_le hcause hmid.context (Or.inl ⟨hmid.still, ?_⟩)
      (List.mem_append_right _ hfinish) hstop
    rw [outward_append, hmid.outward, houtward, List.append_nil]

/-- A start whose settings cannot be read ends, and nothing runs. -/
theorem Midway.failStart {first : Nat} (hmid : Midway before job past context first)
    {found : Option ActivationContext} (hcontext : found.isSome) (hle : first ≤ generation)
    (hlt : before.generation < generation ∨ job.stage.isBusy = true)
    (hcause : job.stage.isBusy = true ∨ job.errand.opens ∨
      job.stage.recorded? = some before.generation) (result : Except ClientError Unit) :
    Arrives situation before job
      (((before.hold job.id).vacate .idle found generation).retire job.id,
        past ++ ([.enter .starting] ++ [.enter .idle] ++
          (((before.hold job.id).vacate .idle found generation).finishStart job result).2)) := by
  have hbefore : before.generation ≤ generation := Nat.le_trans hmid.generation_le hle
  constructor
  · refine hmid.course_of_start [.idle] ?_ ⟨.startFailed, rfl⟩ hbefore hlt hcause hcontext rfl
    simp only [entries_cons, Action.entered?, entries_finishStart, Option.toList_some,
      List.append_nil, List.cons_append, List.nil_append]
  · refine .fall hmid.isOpen hbefore (hcause.imp_right (Or.imp_left Errand.isExplicit_of_opens))
      (fun _ => hcontext) (Or.inl ⟨hmid.still, ?_⟩)
      (List.mem_append_right _ (List.mem_append_right _ (finish_mem_finishStart ..)))
      fun _ => hlt
    simp [hmid.outward]

variable (situation) in
/-- A start goes on when nothing runs any more.  The generation may have been counted up by the
start itself since the last action. -/
theorem Midway.continueStart {first : Nat} (hmid : Midway before job past context first)
    {found : Option ActivationContext} (asker : ActivationContext) {scope : Path}
    {roots : List Root} (hcontext : found.isSome) (hle : first ≤ generation)
    (hlt : before.generation < generation ∨ job.stage.isBusy = true)
    (hcause : job.stage.isBusy = true ∨ job.errand.opens ∨
      job.stage.recorded? = some before.generation)
    (hfits : job.errand.opens ∨ job.errand = .settle)
    (hfound : Found situation job scope roots) :
    let result := ((before.hold job.id).vacate .idle found generation).continueStart
      situation job asker scope roots
    Arrives situation before job (result.1, past ++ result.2) := by
  intro result
  have hbefore : before.generation ≤ generation := Nat.le_trans hmid.generation_le hle
  cases hfolder : situation.settings (some scope) with
  | error cause =>
      simp only [result, Controller.continueStart, hfolder]
      exact hmid.failStart hcontext hle hlt hcause (.error (.settings cause))
  | ok folder =>
      cases hworkspace : situation.settings none with
      | error cause =>
          simp only [result, Controller.continueStart, hfolder, hworkspace]
          exact hmid.failStart hcontext hle hlt hcause (.error (.settings cause))
      | ok workspace =>
          simp only [result, Controller.continueStart, hfolder, hworkspace, enter]
          constructor
          · refine hmid.course_of_start [] ?_ rfl hbefore hlt hcause hcontext rfl
            simp only [entries_append, entries_cons, entries_nil, Action.entered?,
              entries_map_log, Option.toList_some, Option.toList_none, List.append_nil,
              List.cons_append, List.nil_append]
          · refine .launch asker hmid.isOpen hmid.still hcontext hbefore hlt
              hcause hfits hfound hfolder ?_
            simp only [outward_append, outward_cons, outward_nil, outward_map_log,
              Action.isOutward, hmid.outward, Bool.false_eq_true, if_false, if_true,
              List.nil_append, List.append_nil, List.cons_append]
            rfl

variable (situation) in
theorem Midway.runStart (hmid : Midway before job past context generation)
    (asker : ActivationContext)
    (hcause : job.stage.isBusy = true ∨ job.errand.opens ∨
      job.stage.recorded? = some before.generation)
    (hfits : job.errand.opens ∨ job.errand = .settle) :
    let result := ((before.hold job.id).vacate .idle context generation).runStart
      situation job asker
    Arrives situation before job (result.1, past ++ result.2) := by
  intro result
  cases hroots : situation.roots.head? with
  | none =>
      simp only [result, Controller.runStart, hroots, finishStart_fst]
      exact hmid.fall (hcause.imp_right (Or.imp_left Errand.isExplicit_of_opens))
        (entries_finishStart ..) (outward_finishStart ..) (finish_mem_finishStart ..) fun hstop =>
          absurd hfits (by simp [hstop, Errand.opens])
  | some first =>
      simp only [result, Controller.runStart, hroots, vacate]
      exact hmid.continueStart situation asker rfl (Nat.le_succ generation)
        (Or.inl (Nat.lt_succ_of_le hmid.generation_le)) hcause hfits
        (Or.inl ⟨rfl, by rw [hroots]; rfl⟩)

/-- A turn in which a client that runs begins to stop. -/
theorem course_of_closing {after : Controller} {actions : List Action}
    (hrunning : before.state = .running) (hentries : entries actions = [.stopping])
    (hstate : after.state = .stopping) (hlt : before.generation < after.generation)
    (hcontext : before.context.isSome → after.context.isSome)
    (hnext : after.nextJob = before.nextJob) : Course before job actions after where
  leads := by
    rw [hentries, hrunning, hstate]
    exact ⟨.stopRunning, rfl⟩
  generation_le := Nat.le_of_lt hlt
  touches_of_lt := by
    rw [hentries]
    simp [Touches]
  lt_of_touches := fun _ => Or.inl hlt
  starting := by
    rw [hentries]
    simp
  context := hcontext
  nextJob := hnext

/-- A start that has the lock, whether something runs or not. -/
theorem runStart_arrives (hopen : before.Open job.id) (hrested : before.Rested)
    (hidle : job.stage.isBusy = false) {asker : ActivationContext}
    (hcause : job.errand.opens ∨ job.stage.recorded? = some before.generation)
    (hfits : job.errand.opens ∨ job.errand = .settle) :
    Arrives situation before job ((before.hold job.id).runStart situation job asker) := by
  rcases hrested with ⟨client, hstate, hclient, hsubscription⟩ | hvacant
  · cases hroots : situation.roots.head? with
    | none =>
        simp only [Controller.runStart, hroots]
        constructor
        · exact course_of_silent (entries_finishStart ..) rfl rfl rfl rfl
        · refine .leave hopen hidle ?_ ?_ (outward_finishStart ..) (finish_mem_finishStart ..)
          · intro herrand
            rw [herrand] at hcause
            rw [hcause.resolve_left (by simp [Errand.opens])]
            rfl
          · intro hstop
            rw [hstop] at hfits
            exact absurd hfits (by simp [Errand.opens])
    | some first =>
        have hlt : before.generation < before.generation + 1 + 1 := by omega
        simp only [Controller.runStart, hroots, hold, hclient, enterStop, enter, unsubscribe]
        constructor
        · exact course_of_closing hstate (by simp [hsubscription]) rfl hlt (fun _ => rfl) rfl
        · refine .close hopen hclient hlt (Or.inr (hcause.imp_left Errand.isExplicit_of_opens))
            (fun _ => rfl) hfits ?_ ?_
          · intro context scope roots hsame
            simp only [Aftermath.replace.injEq] at hsame
            exact Or.inl ⟨hsame.2.2.symm, by rw [hroots, ← hsame.2.1]; rfl⟩
          · simp [hsubscription]
  · rw [hold_eq_vacate hvacant]
    exact (midway_of_vacant hopen hvacant).runStart situation asker (Or.inr hcause) hfits

/-- A client has been stopped, and so is the server. -/
theorem midway_of_stopping (hopen : before.Open job.id) (hvacant : before.Vacant .stopping)
    (hbusy : job.stage.isBusy = true) :
    Midway before job [.stopServer, .enter .idle] before.context before.generation where
  isOpen := hopen
  still := Or.inr hvacant
  outward := rfl
  leads := by
    rw [hvacant.1]
    exact ⟨.stopped, rfl⟩
  generation_le := Nat.le_refl _
  touches_of_lt := fun h => absurd h (Nat.lt_irrefl _)
  lt_of_touches := fun _ => Or.inr hbusy
  unstarted := by simp
  context := id

/-- The server has been stopped where there was no client. -/
theorem midway_of_stop (hopen : before.Open job.id) (hvacant : before.Vacant .idle) :
    Midway before job [.enter .stopping, .stopServer, .enter .idle] before.context
      (before.generation + 1) where
  isOpen := hopen
  still := Or.inl hvacant
  outward := rfl
  leads := by
    rw [hvacant.1]
    exact ⟨.stopIdle, .stopped, rfl⟩
  generation_le := Nat.le_succ _
  touches_of_lt := fun _ => Or.inl (List.mem_cons_self ..)
  lt_of_touches := fun _ => Or.inl (Nat.lt_succ_self _)
  unstarted := by simp
  context := id

variable (situation) in
/-- What follows a stop.  A start that replaces a client has found its roots before. -/
theorem Midway.afterStop (hmid : Midway before job past before.context generation)
    (result : Except ClientError Unit) {aftermath : Aftermath} (client : ClientId)
    (hlt : before.generation < generation ∨ job.stage.isBusy = true)
    (hfits : Job.Fits ⟨job.id, job.errand, .closing client aftermath⟩)
    (hrecorded : job.stage.recorded? = none) (hserver : .stopServer ∈ past)
    (hclean : ∀ failure, result = .error failure → job.stage.isBusy = true)
    (hreplace : ∀ asker scope roots, aftermath = .replace asker scope roots →
      job.stage.isBusy = true ∧ before.context.isSome ∧ Found situation job scope roots) :
    let outcome := ((before.hold job.id).vacate .idle before.context generation).afterStop
      situation job result aftermath
    Arrives situation before job (outcome.1, past ++ outcome.2) := by
  intro outcome
  cases aftermath with
  | finish =>
      have hexplicit : job.errand.isExplicit = true := by
        rw [show job.errand = .stop from hfits]
        rfl
      exact hmid.fall (Or.inr (Or.inl hexplicit)) rfl rfl (List.mem_singleton_self _) fun _ => hlt
  | start asker =>
      have hopens : job.errand.opens = true := by
        rw [show job.errand = .restart asker from hfits]
        rfl
      have hwarned := (hmid.say (entries_warnUnclean uncleanClient result)
        (outward_warnUnclean ..)).runStart situation asker
        (Or.inr (Or.inl hopens)) (Or.inl hopens)
      simp only [List.append_assoc] at hwarned
      exact hwarned
  | replace asker scope roots =>
      obtain ⟨hbusy, hcontext, hfound⟩ := hreplace asker scope roots rfl
      have hwarned := (hmid.say (entries_warnUnclean uncleanPrevious result)
        (outward_warnUnclean ..)).continueStart situation asker
        hcontext (Nat.le_refl generation) hlt (Or.inl hbusy) hfits hfound
      simp only [List.append_assoc] at hwarned
      exact hwarned
  | settle =>
      cases result with
      | error failure =>
          exact hmid.fall (Or.inl (hclean failure rfl)) rfl rfl
            (List.mem_cons_of_mem _ (List.mem_singleton_self _))
            fun _ => Or.inr (hclean failure rfl)
      | ok _ =>
          constructor
          · exact hmid.course rfl rfl rfl hmid.context rfl
          · refine .pause hmid.isOpen hmid.still hmid.generation_le hlt hfits hrecorded
              (List.mem_append_left _ hserver) ?_
            rw [outward_append, hmid.outward]
            rfl

theorem runStop_arrives (hopen : before.Open job.id) (hrested : before.Rested)
    {aftermath : Aftermath}
    (hfits : ∀ client, Job.Fits ⟨job.id, job.errand, .closing client aftermath⟩)
    (hreplace : ∀ asker scope roots, aftermath ≠ .replace asker scope roots)
    (hrecorded : job.stage.recorded? = none) :
    Arrives situation before job ((before.hold job.id).runStop situation job aftermath) := by
  rcases hrested with ⟨client, hstate, hclient, hsubscription⟩ | hvacant
  · have hlt : before.generation < before.generation + 1 := Nat.lt_succ_self _
    simp only [Controller.runStop, hold, hclient, enterStop, enter, unsubscribe]
    constructor
    · exact course_of_closing hstate (by simp [hsubscription]) rfl hlt id rfl
    · refine .close hopen hclient hlt (Or.inl hrecorded) id (hfits client.id) ?_ ?_
      · intro asker scope roots hsame
        exact absurd hsame (hreplace asker scope roots)
      · simp [hsubscription]
  · have harrives := (midway_of_stop hopen hvacant).afterStop situation (.ok ()) 0
      (Or.inl (Nat.lt_succ_self _)) (hfits 0) hrecorded
      (by simp) (by simp) (fun asker scope roots hsame => absurd hsame (hreplace asker scope roots))
    have hnobody : (before.hold job.id).client = none := hvacant.2.1
    have hdeaf : (before.hold job.id).subscription = none := hvacant.2.2
    simp only [Controller.runStop, hnobody, enterStop, enter, unsubscribe, hdeaf, concludeStop]
    exact harrives

variable (situation) in
/-- A job that got the lock for the first time. -/
theorem run_arrives (hopen : before.Open job.id) (hrested : before.Rested)
    (hidle : job.stage.isBusy = false) (hrecorded : job.stage.recorded? = none) :
    Arrives situation before job ((before.hold job.id).run situation job) := by
  cases herrand : job.errand with
  | start context =>
      have hopens : job.errand.opens = true := by rw [herrand]; rfl
      simp only [Controller.run, herrand]
      exact runStart_arrives hopen hrested hidle (Or.inl hopens) (Or.inl hopens)
  | stop =>
      simp only [Controller.run, herrand]
      exact runStop_arrives hopen hrested (fun _ => herrand) (by simp) hrecorded
  | restart context =>
      simp only [Controller.run, herrand]
      exact runStop_arrives hopen hrested (fun _ => herrand) (by simp) hrecorded
  | settle =>
      simp only [Controller.run, herrand]
      exact runStop_arrives hopen hrested (fun _ => herrand) (by simp) hrecorded
  | inspect =>
      simp only [Controller.run, herrand]
      constructor
      · exact course_of_silent rfl rfl rfl rfl rfl
      · exact .leave hopen hidle (by simp [herrand]) (by simp [herrand]) rfl
          (List.mem_singleton_self _)

variable (situation) in
/-- A job that got the lock after its pause. -/
theorem resumeSettling_arrives (hopen : before.Open job.id) (hrested : before.Rested)
    (hidle : job.stage.isBusy = false) (herrand : job.errand = .settle)
    (hcontext : before.context.isSome) {recorded : Nat}
    (hrecorded : job.stage.recorded? = some recorded) :
    Arrives situation before job
      ((before.hold job.id).resumeSettling situation job recorded) := by
  by_cases hsame : before.generation = recorded
  · obtain ⟨context, hcontext⟩ := Option.isSome_iff_exists.mp hcontext
    have hresume : (before.hold job.id).resumeSettling situation job recorded =
        (before.hold job.id).runStart situation job context := by
      simp only [Controller.resumeSettling, hold, hsame, ne_eq, not_true_eq_false, if_false,
        hcontext]
    rw [hresume]
    exact runStart_arrives hopen hrested hidle (Or.inr (by rw [hrecorded, hsame])) (Or.inr herrand)
  · have hresume : (before.hold job.id).resumeSettling situation job recorded =
        (before.hold job.id).finish job.id .superseded := by
      simp only [Controller.resumeSettling, hold, ne_eq, hsame, not_false_eq_true, if_true]
    rw [hresume]
    constructor
    · exact course_of_silent rfl rfl rfl rfl rfl
    · exact .leave hopen hidle (fun _ => by rw [hrecorded]; rfl) (by simp [herrand]) rfl
        (List.mem_singleton_self _)

/-- A job whose client has been stopped. -/
theorem concludeStop_arrives (hholder : before.holder = some job.id)
    (hvacant : before.Vacant .stopping) {client : ClientId} {aftermath : Aftermath}
    (hstage : job.stage = .closing client aftermath) (hfits : job.Fits)
    (hcontext : before.context.isSome) {result : Except ClientError Unit} :
    Arrives situation before job (before.concludeStop situation job result aftermath) := by
  have hbusy : job.stage.isBusy = true := by rw [hstage]; rfl
  have hopen : before.Open job.id := Or.inr hholder
  have harrives := (midway_of_stopping hopen hvacant hbusy).afterStop situation
    result client (Or.inr hbusy)
    (by rw [← hstage]; exact hfits) (by rw [hstage]; rfl) (by simp) (fun _ _ => hbusy)
    (by
      rintro asker scope roots rfl
      exact ⟨hbusy, hcontext, Or.inr ⟨client, asker, hstage⟩⟩)
  rw [← enter_eq_vacate hholder hvacant] at harrives
  exact harrives

/-- A turn in which a start ends, with a client or without. -/
theorem course_of_opened {after : Controller} {actions : List Action} {next : LifecycleState}
    (hstarting : before.state = .starting) (hbusy : job.stage.isBusy = true)
    (hfollows : LifecycleState.Follows .starting next) (hentries : entries actions = [next])
    (hstate : after.state = next) (hgeneration : after.generation = before.generation)
    (hcontext : after.context = before.context) (hnext : after.nextJob = before.nextJob) :
    Course before job actions after where
  leads := by
    rw [hentries, hstarting, hstate]
    exact ⟨hfollows, rfl⟩
  generation_le := Nat.le_of_eq hgeneration.symm
  touches_of_lt := fun hlt => absurd hgeneration.symm (Nat.ne_of_lt hlt)
  lt_of_touches := fun _ => Or.inr hbusy
  starting := fun _ => Or.inl hbusy
  context := by
    rw [hcontext]
    exact id
  nextJob := hnext

/-- A job whose client has been started, or could not be. -/
theorem opened_arrives (hholder : before.holder = some job.id)
    (hvacant : before.Vacant .starting) {client : Client}
    (hstage : job.stage = .opening client) (hjob : before.job? job.id = some job)
    {result : Except ClientError Unit} {after : Controller × List Action}
    (hafter : before.clientStarted job.id result = some after) :
    Arrives situation before job after := by
  have hopen : before.Open job.id := Or.inr hholder
  have hbusy : job.stage.isBusy = true := by rw [hstage]; rfl
  cases result with
  | ok _ =>
      simp only [Controller.clientStarted, hjob, Option.bind_some, hstage, enter,
        Option.some.injEq] at hafter
      rw [← hafter]
      constructor
      · exact course_of_opened hvacant.1 hbusy .started (by simp) rfl rfl rfl rfl
      · have hlocked := hold_of_holder hholder
        rw [finishStart_fst, show before = before.hold job.id from hlocked.symm]
        refine .rise ?_ hstage ?_
          (List.mem_append_right _ (List.mem_cons_of_mem _ (finish_mem_finishStart ..)))
        · rw [hlocked]
          exact hopen
        · simp
  | error failure =>
      simp only [Controller.clientStarted, hjob, Option.bind_some, hstage, enter,
        Option.some.injEq] at hafter
      rw [← hafter]
      constructor
      · exact course_of_opened hvacant.1 hbusy .startFailed (by simp) rfl rfl rfl rfl
      · rw [finishStart_fst, enter_eq_vacate hholder hvacant]
        refine .fall hopen (Nat.le_refl _) (Or.inl hbusy) id (Or.inr ⟨client, hstage, ?_⟩)
          (List.mem_append_right _ (List.mem_cons_of_mem _ (finish_mem_finishStart ..)))
          fun _ => Or.inr hbusy
        simp

theorem mem_of_job? {controller : Controller} {id : JobId} {job : Job}
    (hjob : controller.job? id = some job) : job ∈ controller.jobs ∧ job.id = id := by
  refine ⟨List.mem_of_find?_eq_some hjob, ?_⟩
  simpa using List.find?_some hjob

theorem wait_arrives {stage : Stage} (hheld : before.holder.isSome)
    (hstage : (job.stage = .arriving ∧ stage = .inLine) ∨
      ∃ generation wake, job.stage = .settling generation wake ∧ stage = .returning generation) :
    Arrives situation before job
      ({ before with line := before.line ++ [job.id] }.moveJob job.id stage, []) where
  left := course_of_silent rfl rfl rfl rfl rfl
  right := .wait hheld hstage

/-- A job begins its errand if the lock is free, and gets in line otherwise. -/
theorem arriving_arrives {after : Controller × List Action}
    (hjob : before.job? job.id = some job) (hstage : job.stage = .arriving)
    (hrested : before.Open job.id → before.Rested)
    (hafter : before.step situation job.id = some after) : Arrives situation before job after := by
  have hidle : job.stage.isBusy = false := by rw [hstage]; rfl
  simp only [step, hjob, Option.bind_some, hstage, acquire] at hafter
  cases hholder : before.holder with
  | none =>
      simp only [hholder, Option.some.injEq] at hafter
      rw [← hafter]
      have hopen : before.Open job.id := Or.inl hholder
      exact run_arrives situation hopen (hrested hopen) hidle (by rw [hstage]; rfl)
  | some other =>
      simp only [hholder, Option.some.injEq] at hafter
      rw [← hafter, ← hholder]
      exact wait_arrives (by rw [hholder]; rfl) (Or.inl ⟨hstage, rfl⟩)

/-- A restart whose pause is over goes on if the lock is free, and gets in line otherwise. -/
theorem settling_arrives {generation wake : Nat} {after : Controller × List Action}
    (hjob : before.job? job.id = some job) (hstage : job.stage = .settling generation wake)
    (hrested : before.Open job.id → before.Rested) (herrand : job.errand = .settle)
    (hcontext : before.context.isSome)
    (hafter : before.step situation job.id = some after) : Arrives situation before job after := by
  have hidle : job.stage.isBusy = false := by rw [hstage]; rfl
  have hrecorded : job.stage.recorded? = some generation := by rw [hstage]; rfl
  simp only [step, hjob, Option.bind_some, hstage, acquire, Option.ite_none_left_eq_some] at hafter
  obtain ⟨-, hafter⟩ := hafter
  cases hholder : before.holder with
  | none =>
      simp only [hholder, Option.some.injEq] at hafter
      rw [← hafter]
      have hopen : before.Open job.id := Or.inl hholder
      exact resumeSettling_arrives situation hopen (hrested hopen) hidle herrand hcontext hrecorded
  | some other =>
      simp only [hholder, Option.some.injEq] at hafter
      rw [← hafter, ← hholder]
      exact wait_arrives (by rw [hholder]; rfl) (Or.inr ⟨generation, wake, hstage, rfl⟩)

/-- A step of a job that does not wait for a client is a turn. -/
theorem step_arrives {id : JobId} {after : Controller × List Action}
    (hrested : ∀ job, before.Open id → before.job? id = some job → job.stage.isBusy = false →
      before.Rested)
    (hsettle : ∀ job, before.job? id = some job → job.stage.recorded?.isSome →
      job.errand = .settle ∧ before.context.isSome)
    (hafter : before.step situation id = some after) :
    ∃ job, before.job? id = some job ∧ Arrives situation before job after := by
  obtain ⟨job, hjob, hcases⟩ := Option.bind_eq_some_iff.mp hafter
  obtain ⟨-, rfl⟩ := mem_of_job? hjob
  refine ⟨job, hjob, ?_⟩
  cases hstage : job.stage with
  | arriving =>
      have hidle : job.stage.isBusy = false := by rw [hstage]; rfl
      exact arriving_arrives hjob hstage (fun hopen => hrested job hopen hjob hidle) hafter
  | inLine =>
      have hidle : job.stage.isBusy = false := by rw [hstage]; rfl
      simp only [hstage, Option.ite_none_right_eq_some, Option.some.injEq] at hcases
      obtain ⟨hholder, hcases⟩ := hcases
      have hopen : before.Open job.id := Or.inr hholder
      have harrives := run_arrives situation hopen
        (hrested job hopen hjob hidle) hidle (by rw [hstage]; rfl)
      rw [hold_of_holder hholder, hcases] at harrives
      exact harrives
  | settling generation wake =>
      have hidle : job.stage.isBusy = false := by rw [hstage]; rfl
      obtain ⟨herrand, hcontext⟩ := hsettle job hjob (by rw [hstage]; rfl)
      exact settling_arrives hjob hstage (fun hopen => hrested job hopen hjob hidle) herrand
        hcontext hafter
  | returning generation =>
      have hidle : job.stage.isBusy = false := by rw [hstage]; rfl
      have hrecorded : job.stage.recorded? = some generation := by rw [hstage]; rfl
      obtain ⟨herrand, hcontext⟩ := hsettle job hjob (by rw [hrecorded]; rfl)
      simp only [hstage, Option.ite_none_right_eq_some, Option.some.injEq] at hcases
      obtain ⟨hholder, hcases⟩ := hcases
      have hopen : before.Open job.id := Or.inr hholder
      have harrives := resumeSettling_arrives situation hopen
        (hrested job hopen hjob hidle) hidle herrand hcontext hrecorded
      rw [hold_of_holder hholder, hcases] at harrives
      exact harrives
  | closing client aftermath => simp [hstage] at hcases
  | opening client => simp [hstage] at hcases

/-- A step of a job whose client has been stopped is a turn. -/
theorem clientStopped_arrives {id : JobId} {result : Except ClientError Unit}
    {after : Controller × List Action}
    (hstopping : ∀ job client aftermath, before.job? id = some job →
      job.stage = .closing client aftermath →
      before.holder = some id ∧ before.Vacant .stopping ∧ job.Fits ∧ before.context.isSome)
    (hafter : before.clientStopped situation id result = some after) :
    ∃ job, before.job? id = some job ∧ Arrives situation before job after := by
  obtain ⟨job, hjob, hfound⟩ := Option.bind_eq_some_iff.mp hafter
  refine ⟨job, hjob, ?_⟩
  cases hstage : job.stage with
  | closing client aftermath =>
      obtain ⟨hholder, hvacant, hfits, hcontext⟩ := hstopping job client aftermath hjob hstage
      obtain ⟨-, rfl⟩ := mem_of_job? hjob
      simp only [hstage, Option.some.injEq] at hfound
      rw [← hfound]
      exact concludeStop_arrives hholder hvacant hstage hfits hcontext
  | arriving => simp [hstage] at hfound
  | inLine => simp [hstage] at hfound
  | opening client => simp [hstage] at hfound
  | settling generation wake => simp [hstage] at hfound
  | returning generation => simp [hstage] at hfound

/-- A step of a job whose client's start is over is a turn. -/
theorem clientStarted_arrives {id : JobId} {result : Except ClientError Unit}
    {after : Controller × List Action}
    (hstarting : ∀ job client, before.job? id = some job → job.stage = .opening client →
      before.holder = some id ∧ before.Vacant .starting)
    (hafter : before.clientStarted id result = some after) :
    ∃ job, before.job? id = some job ∧ Arrives situation before job after := by
  obtain ⟨job, hjob, hfound⟩ := Option.bind_eq_some_iff.mp hafter
  refine ⟨job, hjob, ?_⟩
  cases hstage : job.stage with
  | opening client =>
      obtain ⟨hholder, hvacant⟩ := hstarting job client hjob hstage
      obtain ⟨-, rfl⟩ := mem_of_job? hjob
      exact opened_arrives hholder hvacant hstage hjob hafter
  | arriving => simp [hstage] at hfound
  | inLine => simp [hstage] at hfound
  | closing client aftermath => simp [hstage] at hfound
  | settling generation wake => simp [hstage] at hfound
  | returning generation => simp [hstage] at hfound

end Arrivals

end NplLifecycle.Controller
