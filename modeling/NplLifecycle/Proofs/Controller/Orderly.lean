import Mathlib.Data.List.Nodup
import NplLifecycle.Proofs.Controller.Arrival

/-!
# Orderly controllers

The jobs, the lock and the line fit together in every controller: whoever waits for a client has
the lock, and whoever is at a stage in line is in line.  Every turn lets its job get in line, keep
the lock or leave it, and touches no other job.
-/

namespace NplLifecycle.Controller

/-- The job that holds the lock and the jobs in line behind it. -/
def queue (controller : Controller) : List JobId :=
  controller.holder.toList ++ controller.line

structure Orderly (controller : Controller) : Prop where
  nodup : (controller.jobs.map Job.id).Nodup
  lt_nextJob : ∀ job ∈ controller.jobs, job.id < controller.nextJob
  queue_nodup : controller.queue.Nodup
  mem_queue : ∀ id, id ∈ controller.queue ↔
    ∃ job ∈ controller.jobs, job.id = id ∧ job.stage.isQueued = true
  holder_of_busy : ∀ job ∈ controller.jobs, job.stage.isBusy = true →
    controller.holder = some job.id
  line_eq_nil : controller.holder = none → controller.line = []

theorem queue_release (controller : Controller) : controller.release.queue = controller.line := by
  cases hline : controller.line <;> simp [queue, release, hline]

theorem mem_moveJob {controller : Controller} {id : JobId} {stage : Stage} {job : Job}
    (hmem : job ∈ (controller.moveJob id stage).jobs) :
    (job ∈ controller.jobs ∧ job.id ≠ id) ∨
      ∃ old ∈ controller.jobs, old.id = id ∧ job = { old with stage := stage } := by
  obtain ⟨old, hold, rfl⟩ := List.mem_map.mp hmem
  by_cases hid : old.id = id
  · rw [if_pos hid]
    exact Or.inr ⟨old, hold, hid, rfl⟩
  · rw [if_neg hid]
    exact Or.inl ⟨hold, hid⟩

theorem mem_moveJob_of_ne {controller : Controller} {id : JobId} {stage : Stage} {job : Job}
    (hmem : job ∈ controller.jobs) (hne : job.id ≠ id) :
    job ∈ (controller.moveJob id stage).jobs :=
  List.mem_map.mpr ⟨job, hmem, if_neg hne⟩

theorem mem_moveJob_self {controller : Controller} {stage : Stage} {job : Job}
    (hmem : job ∈ controller.jobs) :
    { job with stage := stage } ∈ (controller.moveJob job.id stage).jobs :=
  List.mem_map.mpr ⟨job, hmem, if_pos rfl⟩

theorem map_id_moveJob (controller : Controller) (id : JobId) (stage : Stage) :
    (controller.moveJob id stage).jobs.map Job.id = controller.jobs.map Job.id := by
  simp only [moveJob, List.map_map]
  apply List.map_congr_left
  intro job _
  simp only [Function.comp_apply]
  split <;> rfl

theorem mem_retire {controller : Controller} {id : JobId} {job : Job} :
    job ∈ (controller.retire id).jobs ↔ job ∈ controller.jobs ∧ job.id ≠ id := by
  simp [retire, release]

namespace Orderly

variable {controller after : Controller} {job other : Job} {stage : Stage}

theorem eq_of_id (h : controller.Orderly) (hjob : job ∈ controller.jobs)
    (hother : other ∈ controller.jobs) (hid : other.id = job.id) : other = job :=
  List.inj_on_of_nodup_map h.nodup hother hjob hid

theorem job?_of_mem (h : controller.Orderly) (hjob : job ∈ controller.jobs) :
    controller.job? job.id = some job := by
  cases hfound : controller.job? job.id with
  | none =>
      have hnone := List.find?_eq_none.mp hfound job hjob
      simp at hnone
  | some found =>
      obtain ⟨hmem, hid⟩ := mem_of_job? hfound
      rw [h.eq_of_id hjob hmem hid]

/-- While a job has the lock, no other waits for a client. -/
theorem other_idle (h : controller.Orderly) (hopen : controller.Open job.id)
    (hother : other ∈ controller.jobs) (hne : other.id ≠ job.id) :
    other.stage.isBusy = false := by
  by_contra hbusy
  have hholder := h.holder_of_busy other hother (by simpa using hbusy)
  cases hopen with
  | inl hfree =>
      rw [hfree] at hholder
      exact absurd hholder (by simp)
  | inr hmine =>
      rw [hmine] at hholder
      exact hne (Option.some.inj hholder).symm

theorem mem_moveJob_iff (h : controller.Orderly) (hjob : job ∈ controller.jobs) :
    other ∈ (controller.moveJob job.id stage).jobs ↔
      (other ∈ controller.jobs ∧ other.id ≠ job.id) ∨ other = { job with stage := stage } := by
  constructor
  · intro hmem
    rcases mem_moveJob hmem with hold | ⟨old, hold, hid, rfl⟩
    · exact Or.inl hold
    · rw [h.eq_of_id hjob hold hid]
      exact Or.inr rfl
  · rintro (⟨hmem, hne⟩ | rfl)
    · exact mem_moveJob_of_ne hmem hne
    · exact mem_moveJob_self hjob

/-- The line of a job that has the lock: the queue without it. -/
theorem queue_of_open (h : controller.Orderly) (hopen : controller.Open job.id) :
    (controller.hold job.id).queue = job.id :: controller.line ∧
      (controller.queue = job.id :: controller.line ∨
        (controller.queue = [] ∧ controller.line = [])) := by
  refine ⟨rfl, ?_⟩
  cases hopen with
  | inl hfree =>
      have hline := h.line_eq_nil hfree
      exact Or.inr ⟨by rw [queue, hfree, hline]; rfl, hline⟩
  | inr hmine =>
      exact Or.inl (by rw [queue, hmine]; rfl)

theorem line_nodup (h : controller.Orderly) : controller.line.Nodup :=
  h.queue_nodup.sublist (List.sublist_append_right ..)

theorem not_mem_line (h : controller.Orderly) (hopen : controller.Open job.id) :
    job.id ∉ controller.line := by
  rcases (h.queue_of_open hopen).2 with hqueue | ⟨-, hline⟩
  · have hnodup := h.queue_nodup
    rw [hqueue] at hnodup
    exact (List.nodup_cons.mp hnodup).1
  · rw [hline]
    exact List.not_mem_nil

theorem mem_line (h : controller.Orderly) (hopen : controller.Open job.id) {id : JobId} :
    id ∈ controller.line ↔
      ∃ other ∈ controller.jobs, other.id = id ∧ id ≠ job.id ∧ other.stage.isQueued = true := by
  constructor
  · intro hmem
    obtain ⟨other, hother, rfl, hqueued⟩ :=
      (h.mem_queue id).mp (List.mem_append_right _ hmem)
    exact ⟨other, hother, rfl, fun hid => h.not_mem_line hopen (hid ▸ hmem), hqueued⟩
  · rintro ⟨other, hother, rfl, hne, hqueued⟩
    have hmem := (h.mem_queue other.id).mpr ⟨other, hother, rfl, hqueued⟩
    rcases (h.queue_of_open hopen).2 with hqueue | ⟨hqueue, -⟩
    · rw [hqueue] at hmem
      exact (List.mem_cons.mp hmem).resolve_left hne
    · rw [hqueue] at hmem
      exact absurd hmem List.not_mem_nil

/-- A job gets in line. -/
theorem wait (h : controller.Orderly) (hjob : job ∈ controller.jobs)
    (hheld : controller.holder.isSome) (hnew : job.stage.isQueued = false)
    (hidle : stage.isBusy = false) (hqueued : stage.isQueued = true)
    (hjobs : after.jobs = (controller.moveJob job.id stage).jobs)
    (hholder : after.holder = controller.holder)
    (hline : after.line = controller.line ++ [job.id])
    (hnext : after.nextJob = controller.nextJob) : after.Orderly := by
  have hqueue : after.queue = controller.queue ++ [job.id] := by
    rw [queue, hholder, hline, queue, List.append_assoc]
  have hfresh : job.id ∉ controller.queue := by
    intro hmem
    obtain ⟨other, hother, hid, hother_queued⟩ := (h.mem_queue _).mp hmem
    rw [h.eq_of_id hjob hother hid, hnew] at hother_queued
    exact absurd hother_queued (by simp)
  constructor
  · rw [hjobs, map_id_moveJob]
    exact h.nodup
  · intro other hother
    rw [hjobs, h.mem_moveJob_iff hjob] at hother
    rw [hnext]
    rcases hother with ⟨hmem, -⟩ | rfl
    · exact h.lt_nextJob other hmem
    · exact h.lt_nextJob job hjob
  · rw [hqueue]
    exact List.nodup_append.mpr ⟨h.queue_nodup, List.nodup_singleton _, by
      intro id hmem other hother hsame
      rw [List.mem_singleton] at hother
      exact hfresh (hother ▸ hsame ▸ hmem)⟩
  · intro id
    rw [hqueue, List.mem_append, List.mem_singleton, h.mem_queue, hjobs]
    constructor
    · rintro (⟨other, hother, rfl, hother_queued⟩ | rfl)
      · have hne : other.id ≠ job.id := by
          intro hid
          rw [h.eq_of_id hjob hother hid, hnew] at hother_queued
          exact absurd hother_queued (by simp)
        exact ⟨other, mem_moveJob_of_ne hother hne, rfl, hother_queued⟩
      · exact ⟨_, mem_moveJob_self hjob, rfl, hqueued⟩
    · rintro ⟨other, hother, rfl, hother_queued⟩
      rcases (h.mem_moveJob_iff hjob).mp hother with ⟨hmem, -⟩ | rfl
      · exact Or.inl ⟨other, hmem, rfl, hother_queued⟩
      · exact Or.inr rfl
  · intro other hother hbusy
    rw [hjobs] at hother
    rw [hholder]
    rcases (h.mem_moveJob_iff hjob).mp hother with ⟨hmem, -⟩ | rfl
    · exact h.holder_of_busy other hmem hbusy
    · exact absurd hbusy (by simp [hidle])
  · intro hnone
    rw [hholder] at hnone
    rw [hnone] at hheld
    exact absurd hheld (by simp)

/-- A job with the lock begins to wait for a client. -/
theorem engage (h : controller.Orderly) (hjob : job ∈ controller.jobs)
    (hopen : controller.Open job.id) (hqueued : stage.isQueued = true)
    (hjobs : after.jobs = (controller.moveJob job.id stage).jobs)
    (hholder : after.holder = some job.id) (hline : after.line = controller.line)
    (hnext : after.nextJob = controller.nextJob) : after.Orderly := by
  have hqueue : after.queue = job.id :: controller.line := by
    rw [queue, hholder, hline]
    rfl
  constructor
  · rw [hjobs, map_id_moveJob]
    exact h.nodup
  · intro other hother
    rw [hjobs, h.mem_moveJob_iff hjob] at hother
    rw [hnext]
    rcases hother with ⟨hmem, -⟩ | rfl
    · exact h.lt_nextJob other hmem
    · exact h.lt_nextJob job hjob
  · rw [hqueue]
    exact List.nodup_cons.mpr ⟨h.not_mem_line hopen, h.line_nodup⟩
  · intro id
    rw [hqueue, List.mem_cons, h.mem_line hopen, hjobs]
    constructor
    · rintro (rfl | ⟨other, hother, rfl, hne, hother_queued⟩)
      · exact ⟨_, mem_moveJob_self hjob, rfl, hqueued⟩
      · exact ⟨other, mem_moveJob_of_ne hother hne, rfl, hother_queued⟩
    · rintro ⟨other, hother, rfl, hother_queued⟩
      rcases (h.mem_moveJob_iff hjob).mp hother with ⟨hmem, hne⟩ | rfl
      · exact Or.inr ⟨other, hmem, rfl, hne, hother_queued⟩
      · exact Or.inl rfl
  · intro other hother hbusy
    rw [hjobs] at hother
    rcases (h.mem_moveJob_iff hjob).mp hother with ⟨hmem, hne⟩ | rfl
    · rw [h.other_idle hopen hmem hne] at hbusy
      exact absurd hbusy (by simp)
    · exact hholder
  · intro hnone
    rw [hholder] at hnone
    exact absurd hnone (by simp)

/-- A job gives the lock back, and is gone or waits without it. -/
theorem leave (h : controller.Orderly) (hopen : controller.Open job.id)
    (hmem : ∀ other, other ∈ after.jobs → (other ∈ controller.jobs ∧ other.id ≠ job.id) ∨
      (other.id = job.id ∧ other.stage.isQueued = false ∧ other.stage.isBusy = false))
    (hkept : ∀ other ∈ controller.jobs, other.id ≠ job.id → other ∈ after.jobs)
    (hjob : job ∈ controller.jobs) (hnodup : (after.jobs.map Job.id).Nodup)
    (hholder : after.holder = controller.line.head?) (hline : after.line = controller.line.tail)
    (hnext : after.nextJob = controller.nextJob) : after.Orderly := by
  have hqueue : after.queue = controller.line := by
    rw [← queue_release controller, queue, hholder, hline]
    rfl
  constructor
  · exact hnodup
  · intro other hother
    rw [hnext]
    rcases hmem other hother with ⟨hold, -⟩ | ⟨hid, -⟩
    · exact h.lt_nextJob other hold
    · rw [hid]
      exact h.lt_nextJob job hjob
  · rw [hqueue]
    exact h.line_nodup
  · intro id
    rw [hqueue, h.mem_line hopen]
    constructor
    · rintro ⟨other, hother, rfl, hne, hother_queued⟩
      exact ⟨other, hkept other hother hne, rfl, hother_queued⟩
    · rintro ⟨other, hother, rfl, hother_queued⟩
      rcases hmem other hother with ⟨hold, hne⟩ | ⟨-, hnew, -⟩
      · exact ⟨other, hold, rfl, hne, hother_queued⟩
      · rw [hnew] at hother_queued
        exact absurd hother_queued (by simp)
  · intro other hother hbusy
    rcases hmem other hother with ⟨hold, hne⟩ | ⟨-, -, hidle⟩
    · rw [h.other_idle hopen hold hne] at hbusy
      exact absurd hbusy (by simp)
    · rw [hidle] at hbusy
      exact absurd hbusy (by simp)
  · intro hnone
    rw [hholder, List.head?_eq_none_iff] at hnone
    rw [hline, hnone]
    rfl

/-- Who has the lock, or finds it free. -/
theorem holder_of_open (h : controller.Orderly) (hmem : job ∈ controller.jobs)
    (hopen : controller.Open job.id) :
    controller.holder = if job.stage.isQueued then some job.id else none := by
  split
  · rename_i hqueued
    have hqueue := (h.mem_queue job.id).mpr ⟨job, hmem, rfl, hqueued⟩
    cases hopen with
    | inl hfree =>
        rw [queue, hfree, h.line_eq_nil hfree] at hqueue
        exact absurd hqueue List.not_mem_nil
    | inr hmine =>
        exact hmine
  · rename_i hqueued
    cases hopen with
    | inl hfree =>
        exact hfree
    | inr hmine =>
        have hqueue : job.id ∈ controller.queue := by
          rw [queue, hmine]
          exact List.mem_cons_self
        obtain ⟨other, hother, hid, hother_queued⟩ := (h.mem_queue job.id).mp hqueue
        rw [h.eq_of_id hmem hother hid] at hother_queued
        exact absurd hother_queued hqueued

theorem isQueued_of_holder (h : controller.Orderly) (hmem : job ∈ controller.jobs)
    (hholder : controller.holder = some job.id) : job.stage.isQueued = true := by
  have hfound := h.holder_of_open hmem (Or.inr hholder)
  rw [hholder] at hfound
  by_contra hqueued
  exact absurd hfound (by simp [hqueued])

/-- Where somebody is in line, somebody has the lock. -/
theorem head (h : controller.Orderly) (hqueue : controller.queue ≠ []) :
    ∃ job ∈ controller.jobs, controller.holder = some job.id := by
  cases hholder : controller.holder with
  | none =>
      rw [queue, hholder, h.line_eq_nil hholder] at hqueue
      exact absurd rfl hqueue
  | some id =>
      have hmem : id ∈ controller.queue := by
        rw [queue, hholder]
        exact List.mem_cons_self
      obtain ⟨job, hjob, rfl, -⟩ := (h.mem_queue id).mp hmem
      exact ⟨job, hjob, rfl⟩

end Orderly

section Preservation

variable {situation : Situation} {before after : Controller} {job : Job} {actions : List Action}

/-- After a turn there are the other jobs, unchanged, and perhaps the job itself, at another
stage. -/
theorem Turn.mem_jobs (hturn : Turn situation before job after actions)
    (h : before.Orderly) (hjob : job ∈ before.jobs) {other : Job} (hother : other ∈ after.jobs) :
    (other ∈ before.jobs ∧ other.id ≠ job.id) ∨
      ∃ stage, other = { job with stage := stage } := by
  have hmoved : ∀ stage, other ∈ (before.moveJob job.id stage).jobs →
      (other ∈ before.jobs ∧ other.id ≠ job.id) ∨
        ∃ stage, other = { job with stage := stage } := by
    intro stage hmem
    cases (h.mem_moveJob_iff hjob).mp hmem with
    | inl hold =>
        exact Or.inl hold
    | inr hself =>
        exact Or.inr ⟨stage, hself⟩
  cases hturn with
  | wait hheld hstage => exact hmoved _ hother
  | leave hopen hidle hserved hstop houtward hfinish => exact Or.inl (mem_retire.mp hother)
  | close hopen hclient hlt hcause hcontext hfits hfound houtward => exact hmoved _ hother
  | launch asker hopen hstill hcontext hle hlt hcause hfits hfound hfolder houtward =>
      exact hmoved _ hother
  | pause hopen hstill hle hlt herrand hstage hserver houtward => exact hmoved _ hother
  | fall hopen hle hcause hcontext houtward hfinish => exact Or.inl (mem_retire.mp hother)
  | rise hopen hstage houtward hfinish => exact Or.inl (mem_retire.mp hother)

theorem Turn.other_mem_jobs (hturn : Turn situation before job after actions) {other : Job}
    (hother : other ∈ before.jobs) (hne : other.id ≠ job.id) : other ∈ after.jobs := by
  cases hturn with
  | wait hheld hstage => exact mem_moveJob_of_ne hother hne
  | leave hopen hidle hserved hstop houtward hfinish => exact mem_retire.mpr ⟨hother, hne⟩
  | close hopen hclient hlt hcause hcontext hfits hfound houtward =>
      exact mem_moveJob_of_ne hother hne
  | launch asker hopen hstill hcontext hle hlt hcause hfits hfound hfolder houtward =>
      exact mem_moveJob_of_ne hother hne
  | pause hopen hstill hle hlt herrand hstage hserver houtward => exact mem_moveJob_of_ne hother hne
  | fall hopen hle hcause hcontext houtward hfinish => exact mem_retire.mpr ⟨hother, hne⟩
  | rise hopen hstage houtward hfinish => exact mem_retire.mpr ⟨hother, hne⟩

/-- The job itself is still there after its turn, or the turn says how it ended. -/
theorem Turn.stays_or_ends (hturn : Turn situation before job after actions)
    (hmem : job ∈ before.jobs) : (∃ stage, { job with stage := stage } ∈ after.jobs) ∨
      ∃ outcome, .finish job.id outcome ∈ actions := by
  cases hturn with
  | wait hheld hstage => exact Or.inl ⟨_, mem_moveJob_self hmem⟩
  | leave hopen hidle hserved hstop houtward hfinish => exact Or.inr ⟨_, hfinish⟩
  | close hopen hclient hlt hcause hcontext hfits hfound houtward =>
      exact Or.inl ⟨_, mem_moveJob_self hmem⟩
  | launch asker hopen hstill hcontext hle hlt hcause hfits hfound hfolder houtward =>
      exact Or.inl ⟨_, mem_moveJob_self hmem⟩
  | pause hopen hstill hle hlt herrand hstage hserver houtward =>
      exact Or.inl ⟨_, mem_moveJob_self hmem⟩
  | fall hopen hle hcause hcontext houtward hfinish => exact Or.inr ⟨_, hfinish⟩
  | rise hopen hstage houtward hfinish => exact Or.inr ⟨_, hfinish⟩

theorem nodup_retire (h : before.Orderly) (id : JobId) :
    ((before.retire id).jobs.map Job.id).Nodup :=
  h.nodup.sublist (List.filter_sublist.map _)

theorem Turn.orderly (hturn : Turn situation before job after actions) (h : before.Orderly)
    (hjob : job ∈ before.jobs) : after.Orderly := by
  cases hturn with
  | wait hheld hstage =>
      rcases hstage with ⟨hold, rfl⟩ | ⟨generation, wake, hold, rfl⟩
      · exact h.wait hjob hheld (by rw [hold]; rfl) rfl rfl rfl rfl rfl rfl
      · exact h.wait hjob hheld (by rw [hold]; rfl) rfl rfl rfl rfl rfl rfl
  | leave hopen hidle hserved hstop houtward hfinish =>
      exact h.leave hopen (fun _ hmem => Or.inl (mem_retire.mp hmem))
        (fun _ hmem hne => mem_retire.mpr ⟨hmem, hne⟩) hjob (nodup_retire h _) rfl rfl rfl
  | close hopen hclient hlt hcause hcontext hfits hfound houtward =>
      exact h.engage hjob hopen rfl rfl rfl rfl rfl
  | launch asker hopen hstill hcontext hle hlt hcause hfits hfound hfolder houtward =>
      exact h.engage hjob hopen rfl rfl rfl rfl rfl
  | @pause _ generation hopen hstill hle hlt herrand hstage hserver houtward =>
      have hmem : ∀ other, other ∈ (before.moveJob job.id
          (.settling generation (situation.now + before.options.settleMs))).jobs ↔ _ :=
        fun _ => h.mem_moveJob_iff hjob
      refine h.leave hopen (fun other hother => ?_)
        (fun other hother hne => (hmem other).mpr (Or.inl ⟨hother, hne⟩)) hjob ?_ rfl rfl rfl
      · rcases (hmem other).mp hother with hold | rfl
        · exact Or.inl hold
        · exact Or.inr ⟨rfl, rfl, rfl⟩
      · rw [map_id_moveJob]
        exact h.nodup
  | fall hopen hle hcause hcontext houtward hfinish =>
      exact h.leave hopen (fun _ hmem => Or.inl (mem_retire.mp hmem))
        (fun _ hmem hne => mem_retire.mpr ⟨hmem, hne⟩) hjob (nodup_retire h _) rfl rfl rfl
  | rise hopen hstage houtward hfinish =>
      exact h.leave hopen (fun _ hmem => Or.inl (mem_retire.mp hmem))
        (fun _ hmem hne => mem_retire.mpr ⟨hmem, hne⟩) hjob (nodup_retire h _) rfl rfl rfl

end Preservation

section Beginning

variable {controller : Controller} {errand : Errand}

/-- Where nobody is in line, the lock is free. -/
theorem open_of_queue_eq_nil (hqueue : controller.queue = []) (id : JobId) :
    controller.Open id := by
  left
  by_contra hholder
  obtain ⟨holder, hsome⟩ := Option.ne_none_iff_exists'.mp hholder
  rw [queue, hsome] at hqueue
  exact absurd hqueue (by simp)

theorem mem_begin {job : Job} : job ∈ (controller.begin errand).1.jobs ↔
    job ∈ controller.jobs ∨ job = ⟨controller.nextJob, errand, .arriving⟩ := by
  simp [Controller.begin]

/-- Whoever got somewhere was there before. -/
theorem mem_of_begin {job : Job} (hmem : job ∈ (controller.begin errand).1.jobs)
    (hstage : job.stage ≠ .arriving) : job ∈ controller.jobs := by
  rcases mem_begin.mp hmem with hold | rfl
  · exact hold
  · exact absurd rfl hstage

theorem Orderly.begin (h : controller.Orderly) : (controller.begin errand).1.Orderly where
  nodup := by
    simp only [Controller.begin, List.map_append, List.map_cons, List.map_nil]
    refine List.nodup_append.mpr ⟨h.nodup, List.nodup_singleton _, ?_⟩
    intro id hid other hother hsame
    obtain ⟨job, hjob, rfl⟩ := List.mem_map.mp hid
    rw [List.mem_singleton] at hother
    have hlt := h.lt_nextJob job hjob
    rw [hsame, hother] at hlt
    exact Nat.lt_irrefl _ hlt
  lt_nextJob := by
    intro job hjob
    rcases mem_begin.mp hjob with hold | rfl
    · exact Nat.lt_succ_of_lt (h.lt_nextJob job hold)
    · exact Nat.lt_succ_self _
  queue_nodup := h.queue_nodup
  mem_queue := by
    intro id
    refine (h.mem_queue id).trans ⟨?_, ?_⟩
    · rintro ⟨job, hjob, hqueued⟩
      exact ⟨job, mem_begin.mpr (Or.inl hjob), hqueued⟩
    · rintro ⟨job, hjob, hid, hqueued⟩
      exact ⟨job, mem_of_begin hjob (by rintro hnew; simp [hnew, Stage.isQueued] at hqueued),
        hid, hqueued⟩
  holder_of_busy := by
    intro job hjob hbusy
    refine h.holder_of_busy job (mem_of_begin hjob ?_) hbusy
    intro hnew
    simp [hnew, Stage.isBusy] at hbusy
  line_eq_nil := h.line_eq_nil

/-- New jobs are not in line. -/
theorem Orderly.mem_of_queue (h : controller.Orderly) {errand : Errand} {stop : Job}
    (hmem : stop ∈ (controller.begin errand).1.jobs) (hqueue : stop.id ∈ controller.queue) :
    stop ∈ controller.jobs := by
  rcases mem_begin.mp hmem with hold | rfl
  · exact hold
  · obtain ⟨other, hother, hid, -⟩ := (h.mem_queue _).mp hqueue
    have hlt := h.lt_nextJob other hother
    rw [hid] at hlt
    exact absurd hlt (Nat.lt_irrefl _)

end Beginning

end NplLifecycle.Controller
