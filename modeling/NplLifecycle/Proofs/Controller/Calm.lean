import NplLifecycle.Proofs.Controller.Waiting

/-!
# Calm controllers

When nothing runs and nobody is to start anything, only restarts after changes could still bring a
client back.  Such a restart is spent if its generation is past, or if a stop that is in line
already will count the generation up before the restart compares it.  As long as nobody asks for
a start, a controller whose restarts are all spent never starts anything again.
-/

namespace NplLifecycle.Controller

def StopWaits (controller : Controller) : Prop :=
  ∃ stop ∈ controller.jobs, stop.errand = .stop ∧ stop.id ∈ controller.queue

/-- An explicit stop is in line behind a job. -/
def StopFollows (controller : Controller) (id : JobId) : Prop :=
  ∃ stop ∈ controller.jobs, stop.errand = .stop ∧ [id, stop.id].Sublist controller.queue

/-- An explicit stop is in line before a job. -/
def StopPrecedes (controller : Controller) (id : JobId) : Prop :=
  ∃ stop ∈ controller.jobs, stop.errand = .stop ∧ [stop.id, id].Sublist controller.queue

/-- A restart after a change that cannot go on with a start. -/
inductive Spent (controller : Controller) (job : Job) : Prop
  /-- It will stop the client before a stop does, and compare the generation after that. -/
  | inLine (hstage : job.stage = .inLine) (hstop : controller.StopFollows job.id)
  | past {recorded : Nat} (hrecorded : job.stage.recorded? = some recorded)
      (hlt : recorded < controller.generation)
  | settling {generation wake : Nat} (hstage : job.stage = .settling generation wake)
      (hstop : controller.StopWaits)
  | returning {generation : Nat} (hstage : job.stage = .returning generation)
      (hstop : controller.StopPrecedes job.id)

/-- There is no client, and no job waits for one. -/
structure Deserted (controller : Controller) : Prop where
  vacant : controller.Vacant .idle
  idle : ∀ job ∈ controller.jobs, job.stage.isBusy = false

/-- Nothing runs, and nobody will start anything. -/
structure Calm (controller : Controller) : Prop extends Deserted controller where
  unopened : ∀ job ∈ controller.jobs, job.errand.opens = false
  spent : ∀ job ∈ controller.jobs, job.errand = .settle → controller.Spent job

section Queues

variable {controller : Controller} {job : Job} {first second : JobId}

/-- Who is in line behind somebody else stays so when the job with the lock gives it back. -/
theorem Orderly.sublist_line (h : controller.Orderly) (hopen : controller.Open job.id)
    (hsublist : [first, second].Sublist controller.queue) (hne : first ≠ job.id) :
    [first, second].Sublist controller.line := by
  rcases (h.queue_of_open hopen).2 with hqueue | ⟨hqueue, -⟩
  · rw [hqueue] at hsublist
    cases hsublist with
    | cons _ hrest => exact hrest
    | cons_cons _ hrest => exact absurd rfl hne
  · rw [hqueue] at hsublist
    exact absurd (List.eq_nil_of_sublist_nil hsublist) (by simp)

theorem Orderly.mem_line_of_ne (h : controller.Orderly) (hopen : controller.Open job.id)
    (hmem : first ∈ controller.queue) (hne : first ≠ job.id) : first ∈ controller.line := by
  rcases (h.queue_of_open hopen).2 with hqueue | ⟨hqueue, -⟩
  · rw [hqueue] at hmem
    exact (List.mem_cons.mp hmem).resolve_left hne
  · rw [hqueue] at hmem
    exact absurd hmem List.not_mem_nil

/-- Nobody is in line before the job that has the lock. -/
theorem Orderly.not_sublist_of_open (h : controller.Orderly) (hopen : controller.Open job.id) :
    ¬ [first, job.id].Sublist controller.queue := by
  intro hsublist
  apply h.not_mem_line hopen
  by_cases hne : first = job.id
  · have hnodup := h.queue_nodup.sublist hsublist
    rw [hne] at hnodup
    exact absurd hnodup (by simp)
  · exact (h.sublist_line hopen hsublist hne).subset (by simp)

end Queues

section Calming

variable {situation : Situation} {before after controller : Controller} {job other : Job}
  {actions : List Action}

/-- A job that has the lock does not have the present generation, if it is spent. -/
theorem Spent.not_current (hspent : controller.Spent job) (h : controller.Orderly)
    (hmem : job ∈ controller.jobs) (hopen : controller.Open job.id) :
    job.stage.recorded? ≠ some controller.generation := by
  intro hcurrent
  cases hspent with
  | inLine hstage hstop =>
      rw [hstage] at hcurrent
      exact absurd hcurrent (by simp [Stage.recorded?])
  | past hrecorded hlt =>
      rw [Option.some.inj (hrecorded.symm.trans hcurrent)] at hlt
      exact Nat.lt_irrefl _ hlt
  | settling hstage hstop =>
      obtain ⟨stop, -, -, hqueue⟩ := hstop
      rcases (h.queue_of_open hopen).2 with hfull | ⟨hempty, -⟩
      · obtain ⟨found, hfound, hid, hqueued⟩ :=
          (h.mem_queue job.id).mp (by rw [hfull]; exact List.mem_cons_self)
        rw [h.eq_of_id hmem hfound hid, hstage] at hqueued
        exact absurd hqueued (by simp [Stage.isQueued])
      · rw [hempty] at hqueue
        exact absurd hqueue List.not_mem_nil
  | returning hstage hstop =>
      obtain ⟨stop, -, -, hsublist⟩ := hstop
      exact h.not_sublist_of_open hopen hsublist

/-- When a job gives the lock back, the others stay spent: a stop that goes has counted the
generation up. -/
theorem Spent.advance (hspent : before.Spent other) (hsound : before.Sound)
    (hmem : job ∈ before.jobs) (hopen : before.Open job.id) (hother : other ∈ before.jobs)
    (hne : other.id ≠ job.id)
    (hkept : ∀ kept ∈ before.jobs, kept.id ≠ job.id → kept ∈ after.jobs)
    (hqueue : after.queue = before.line) (hle : before.generation ≤ after.generation)
    (hstops : job.errand = .stop → before.generation < after.generation) :
    after.Spent other := by
  have horderly := hsound.orderly
  have hgone : ∀ recorded, other.stage.recorded? = some recorded → job.errand = .stop →
      after.Spent other := fun recorded hrecorded herrand =>
    .past hrecorded (Nat.lt_of_le_of_lt (hsound.counted.le other hother recorded hrecorded)
      (hstops herrand))
  cases hspent with
  | inLine hstage hstop =>
      obtain ⟨stop, hstop_mem, herrand, hsublist⟩ := hstop
      have hline := horderly.sublist_line hopen hsublist hne
      have hstop_ne : stop.id ≠ job.id := by
        intro hid
        rw [hid] at hline
        exact horderly.not_mem_line hopen (hline.subset (by simp))
      exact .inLine hstage ⟨stop, hkept stop hstop_mem hstop_ne, herrand, hqueue ▸ hline⟩
  | past hrecorded hlt => exact .past hrecorded (Nat.lt_of_lt_of_le hlt hle)
  | settling hstage hstop =>
      obtain ⟨stop, hstop_mem, herrand, hqueued⟩ := hstop
      by_cases hid : stop.id = job.id
      · rw [horderly.eq_of_id hmem hstop_mem hid] at herrand
        exact hgone _ (by rw [hstage]; rfl) herrand
      · exact .settling hstage ⟨stop, hkept stop hstop_mem hid, herrand,
          hqueue ▸ horderly.mem_line_of_ne hopen hqueued hid⟩
  | returning hstage hstop =>
      obtain ⟨stop, hstop_mem, herrand, hsublist⟩ := hstop
      by_cases hid : stop.id = job.id
      · rw [horderly.eq_of_id hmem hstop_mem hid] at herrand
        exact hgone _ (by rw [hstage]; rfl) herrand
      · exact .returning hstage ⟨stop, hkept stop hstop_mem hid, herrand,
          hqueue ▸ horderly.sublist_line hopen hsublist hid⟩

/-- When a job gets in line, the others stay spent, and so does the job itself. -/
theorem Spent.wait (hspent : before.Spent other)
    (hkept : ∀ stop ∈ before.jobs, ∃ kept ∈ after.jobs,
      kept.id = stop.id ∧ kept.errand = stop.errand)
    (hqueue : after.queue = before.queue ++ [job.id])
    (hgeneration : after.generation = before.generation)
    {waiting : Job} (hid : waiting.id = other.id)
    (hstage : waiting.stage = other.stage ∨ (other.id = job.id ∧ ∃ generation wake,
      other.stage = .settling generation wake ∧ waiting.stage = .returning generation)) :
    after.Spent waiting := by
  have hsublist : before.queue.Sublist after.queue := by
    rw [hqueue]
    exact List.sublist_append_left ..
  cases hspent with
  | inLine hold hstop =>
      obtain ⟨stop, hmem, herrand, hbehind⟩ := hstop
      obtain ⟨kept, hkept_mem, hkept_id, hkept_errand⟩ := hkept stop hmem
      have hsame := hstage.resolve_right (by simp [hold])
      exact .inLine (hsame.trans hold) ⟨kept, hkept_mem, hkept_errand.trans herrand, by
        rw [hid, hkept_id]
        exact hbehind.trans hsublist⟩
  | past hrecorded hlt =>
      rw [← hgeneration] at hlt
      rcases hstage with hsame | ⟨-, generation, wake, hold, hnew⟩
      · exact .past (by rw [hsame, hrecorded]) hlt
      · rw [hold] at hrecorded
        exact .past (by rw [hnew, ← hrecorded]; rfl) hlt
  | settling hold hstop =>
      obtain ⟨stop, hmem, herrand, hqueued⟩ := hstop
      obtain ⟨kept, hkept_mem, hkept_id, hkept_errand⟩ := hkept stop hmem
      rcases hstage with hsame | ⟨hself, generation, wake, -, hnew⟩
      · exact .settling (hsame.trans hold) ⟨kept, hkept_mem, hkept_errand.trans herrand,
          hkept_id ▸ hsublist.subset hqueued⟩
      · refine .returning hnew ⟨kept, hkept_mem, hkept_errand.trans herrand, ?_⟩
        rw [hqueue, hkept_id, hid, hself]
        exact (List.singleton_sublist.mpr hqueued).append (List.Sublist.refl _)
  | returning hold hstop =>
      obtain ⟨stop, hmem, herrand, hbefore⟩ := hstop
      obtain ⟨kept, hkept_mem, hkept_id, hkept_errand⟩ := hkept stop hmem
      have hsame := hstage.resolve_right (by simp [hold])
      exact .returning (hsame.trans hold) ⟨kept, hkept_mem, hkept_errand.trans herrand, by
        rw [hid, hkept_id]
        exact hbefore.trans hsublist⟩

/-- A job that has the lock of a calm controller has no cause to start a client. -/
theorem Calm.no_cause (hcalm : before.Calm) (hsound : before.Sound) (hmem : job ∈ before.jobs)
    (hopen : before.Open job.id) : ¬ (job.stage.isBusy = true ∨ job.errand.opens = true ∨
      job.stage.recorded? = some before.generation) := by
  rintro (hbusy | hopens | hcurrent)
  · rw [hcalm.idle job hmem] at hbusy
    exact absurd hbusy (by simp)
  · rw [hcalm.unopened job hmem] at hopens
    exact absurd hopens (by simp)
  · have herrand := errand_of_recorded (hsound.fits job hmem) hcurrent
    exact (hcalm.spent job hmem herrand).not_current hsound.orderly hmem hopen hcurrent

/-- A job that gets in line leaves a controller calm. -/
theorem Calm.wait (hcalm : before.Calm) (horderly : before.Orderly) (hmem : job ∈ before.jobs)
    {stage : Stage} (hstage : (job.stage = .arriving ∧ stage = .inLine) ∨
      ∃ generation wake, job.stage = .settling generation wake ∧ stage = .returning generation) :
    ({ before with line := before.line ++ [job.id] }.moveJob job.id stage).Calm := by
  have hstops : ∀ stop ∈ before.jobs,
      ∃ kept ∈ ({ before with line := before.line ++ [job.id] }.moveJob job.id stage).jobs,
        kept.id = stop.id ∧ kept.errand = stop.errand := by
    intro stop hstop
    by_cases hid : stop.id = job.id
    · rw [horderly.eq_of_id hmem hstop hid]
      exact ⟨_, mem_moveJob_self hmem, rfl, rfl⟩
    · exact ⟨stop, mem_moveJob_of_ne hstop hid, rfl, rfl⟩
  have hqueue : ({ before with line := before.line ++ [job.id] }.moveJob job.id stage).queue =
      before.queue ++ [job.id] := (List.append_assoc ..).symm
  refine ⟨⟨hcalm.vacant, ?_⟩, ?_, ?_⟩
  · intro other hother
    rcases (horderly.mem_moveJob_iff hmem).mp hother with ⟨hold, -⟩ | rfl
    · exact hcalm.idle other hold
    · rcases hstage with ⟨-, rfl⟩ | ⟨generation, wake, -, rfl⟩ <;> rfl
  · intro other hother
    rcases (horderly.mem_moveJob_iff hmem).mp hother with ⟨hold, -⟩ | rfl
    · exact hcalm.unopened other hold
    · exact hcalm.unopened job hmem
  · intro other hother herrand
    rcases (horderly.mem_moveJob_iff hmem).mp hother with ⟨hold, -⟩ | rfl
    · exact (hcalm.spent other hold herrand).wait hstops hqueue rfl rfl (Or.inl rfl)
    · have hspent := hcalm.spent job hmem herrand
      rcases hstage with ⟨harriving, -⟩ | ⟨generation, wake, hsettling, rfl⟩
      · cases hspent with
        | inLine hsame => simp [harriving] at hsame
        | past hrecorded => simp [harriving, Stage.recorded?] at hrecorded
        | settling hsame => simp [harriving] at hsame
        | returning hsame => simp [harriving] at hsame
      · exact hspent.wait hstops hqueue rfl rfl (Or.inr ⟨rfl, generation, wake, hsettling, rfl⟩)

/-- A job that ends where nothing runs leaves a controller calm, if a stop has counted the
generation up. -/
theorem Calm.ended (hcalm : before.Calm) (hsound : before.Sound) (hmem : job ∈ before.jobs)
    (hopen : before.Open job.id) (hvacant : after.Vacant .idle)
    (hjobs : ∀ other, other ∈ after.jobs ↔ other ∈ before.jobs ∧ other.id ≠ job.id)
    (hqueue : after.queue = before.line) (hle : before.generation ≤ after.generation)
    (hstops : job.errand = .stop → before.generation < after.generation) : after.Calm where
  vacant := hvacant
  idle := fun other hother => hcalm.idle other ((hjobs other).mp hother).1
  unopened := fun other hother => hcalm.unopened other ((hjobs other).mp hother).1
  spent := by
    intro other hother herrand
    obtain ⟨hold, hne⟩ := (hjobs other).mp hother
    exact (hcalm.spent other hold herrand).advance hsound hmem hopen hold hne
      (fun kept hkept hdistinct => (hjobs kept).mpr ⟨hkept, hdistinct⟩) hqueue hle hstops

/-- A restart that begins its pause leaves a controller calm: it was in line with a stop behind it,
which is in line still. -/
theorem Calm.pause (hcalm : before.Calm) (hsound : before.Sound) (hmem : job ∈ before.jobs)
    (hopen : before.Open job.id) {context : Option ActivationContext} {generation wake : Nat}
    (hle : before.generation ≤ generation) (herrand : job.errand = .settle)
    (hunrecorded : job.stage.recorded? = none) :
    (((before.hold job.id).vacate .idle context generation).release.moveJob job.id
      (.settling generation wake)).Calm := by
  have horderly := hsound.orderly
  refine ⟨⟨⟨rfl, rfl, rfl⟩, ?_⟩, ?_, ?_⟩
  · intro other hother
    rcases (horderly.mem_moveJob_iff hmem).mp hother with ⟨hold, -⟩ | rfl
    · exact hcalm.idle other hold
    · rfl
  · intro other hother
    rcases (horderly.mem_moveJob_iff hmem).mp hother with ⟨hold, -⟩ | rfl
    · exact hcalm.unopened other hold
    · exact hcalm.unopened job hmem
  · intro other hother hsettle
    rcases (horderly.mem_moveJob_iff hmem).mp hother with ⟨hold, hne⟩ | rfl
    · exact (hcalm.spent other hold hsettle).advance hsound hmem hopen hold hne
        (fun kept hkept hdistinct => mem_moveJob_of_ne hkept hdistinct) (queue_release _) hle
        fun hsame => by simp [herrand] at hsame
    · cases hcalm.spent job hmem herrand with
      | inLine _ hstop =>
          obtain ⟨stop, hstop_mem, hstop_errand, hbehind⟩ := hstop
          have hne : stop.id ≠ job.id := by
            intro hid
            rw [horderly.eq_of_id hmem hstop_mem hid, herrand] at hstop_errand
            exact absurd hstop_errand (by simp)
          refine .settling rfl ⟨stop, mem_moveJob_of_ne hstop_mem hne, hstop_errand, ?_⟩
          exact (queue_release _).symm ▸
            horderly.mem_line_of_ne hopen (hbehind.subset (by simp)) hne
      | past hrecorded => simp [hunrecorded] at hrecorded
      | settling hsame => simp [hsame, Stage.recorded?] at hunrecorded
      | returning hsame => simp [hsame, Stage.recorded?] at hunrecorded

/-- In a calm controller a turn only makes a job wait, or ends it, or ends its stop: the controller
stays calm, touches no session and enters no start. -/
theorem Calm.turn (hcalm : before.Calm) (hsound : before.Sound)
    (hjob : before.job? job.id = some job)
    (harrives : Arrives situation before job (after, actions)) :
    after.Calm ∧ outward actions = [] ∧ .starting ∉ entries actions := by
  obtain ⟨hcourse, hturn⟩ := harrives
  have hmem := (mem_of_job? hjob).1
  have hidle := hcalm.idle job hmem
  have hstarts : before.Open job.id → .starting ∉ entries actions := fun hopen hstarting =>
    hcalm.no_cause hsound hmem hopen (hcourse.starting hstarting)
  cases hturn with
  | wait hheld hstage =>
      exact ⟨hcalm.wait hsound.orderly hmem hstage, rfl, List.not_mem_nil⟩
  | leave hopen hunbusy hserved hstop houtward hfinish =>
      refine ⟨?_, houtward, hstarts hopen⟩
      exact hcalm.ended hsound hmem hopen hcalm.vacant (fun _ => mem_retire) (queue_release _)
        (Nat.le_refl _) fun hsame => absurd hsame hstop
  | close hopen hclient hlt hcause hcontext hfits hfound houtward =>
      rw [hcalm.vacant.2.1] at hclient
      exact absurd hclient (by simp)
  | launch asker hopen hstill hcontext hle hlt hcause hfits hfound hfolder houtward =>
      exact absurd hcause (hcalm.no_cause hsound hmem hopen)
  | pause hopen hstill hle hlt herrand hunrecorded hserver houtward =>
      exact ⟨hcalm.pause hsound hmem hopen hle herrand hunrecorded, houtward, hstarts hopen⟩
  | fall hopen hle hcause hcontext houtward hfinish hstop =>
      refine ⟨?_, ?_, hstarts hopen⟩
      · exact hcalm.ended hsound hmem hopen ⟨rfl, rfl, rfl⟩ (fun _ => mem_retire)
          (queue_release _) hle fun hsame => (hstop hsame).resolve_right (by simp [hidle])
      · rcases houtward with ⟨-, hnone⟩ | ⟨client, hstage, -⟩
        · exact hnone
        · rw [hstage] at hidle
          exact absurd hidle (by simp [Stage.isBusy])
  | rise hopen hstage houtward hfinish =>
      rw [hstage] at hidle
      exact absurd hidle (by simp [Stage.isBusy])

theorem Deserted.begin (hdeserted : controller.Deserted) {errand : Errand} :
    (controller.begin errand).1.Deserted where
  vacant := hdeserted.vacant
  idle := by
    intro other hother
    rcases mem_begin.mp hother with hold | rfl
    · exact hdeserted.idle other hold
    · rfl

/-- A new job that is for nothing but a stop or a look leaves a controller calm. -/
theorem Calm.begin (hcalm : controller.Calm) {errand : Errand} (hopens : errand.opens = false)
    (hsettle : errand ≠ .settle) : (controller.begin errand).1.Calm where
  toDeserted := hcalm.toDeserted.begin
  unopened := by
    intro other hother
    rcases mem_begin.mp hother with hold | rfl
    · exact hcalm.unopened other hold
    · exact hopens
  spent := by
    intro other hother herrand
    have hkept : ∀ stop ∈ controller.jobs, stop ∈ (controller.begin errand).1.jobs :=
      fun stop hstop => mem_begin.mpr (Or.inl hstop)
    rcases mem_begin.mp hother with hold | rfl
    · cases hcalm.spent other hold herrand with
      | inLine hstage hstop =>
          obtain ⟨stop, hmem, hstop⟩ := hstop
          exact .inLine hstage ⟨stop, hkept stop hmem, hstop⟩
      | past hrecorded hlt => exact .past hrecorded hlt
      | settling hstage hstop =>
          obtain ⟨stop, hmem, hstop⟩ := hstop
          exact .settling hstage ⟨stop, hkept stop hmem, hstop⟩
      | returning hstage hstop =>
          obtain ⟨stop, hmem, hstop⟩ := hstop
          exact .returning hstage ⟨stop, hkept stop hmem, hstop⟩
    · exact absurd herrand hsettle

end Calming

end NplLifecycle.Controller
