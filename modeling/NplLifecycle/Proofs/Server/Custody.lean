import Mathlib.Data.List.Induction
import Mathlib.Data.List.Nodup
import NplLifecycle.Server.Launcher

/-!
# One process at a time

A launcher may be asked for connections and told to stop in any order, and what it spawns may fail
or be out of reach.  Whatever happens, the processes that it has spawned are those that it has
killed and behind them the one that it holds, so at no time is there more than one.  It holds the
process of the last call if that call gave a connection, and none otherwise; where it is stopped or
given up none is left.
-/

namespace NplLifecycle.Launcher

inductive Call where
  /-- A connection is asked for, and the system does this with the command line. -/
  | connect (spawn : Spawn)
  | stop
  deriving DecidableEq, Repr

inductive Answer where
  | connection (process : ProcessId)
  | refusal (error : ConnectError)
  | stopped
  deriving DecidableEq, Repr

/-- A launcher with all that it has done and answered. -/
structure Service where
  launcher : Launcher
  effects : List Effect
  answers : List Answer

def Service.begin (program : String) (arguments : List String) : Service :=
  ⟨create program arguments, [], []⟩

def answerOf : Except ConnectError ProcessId → Answer
  | .ok process => .connection process
  | .error error => .refusal error

def Service.call (service : Service) : Call → Service
  | .connect spawn =>
    let (launcher, effects, result) := service.launcher.connect spawn
    ⟨launcher, service.effects ++ effects, service.answers ++ [answerOf result]⟩
  | .stop =>
    let (launcher, effects) := service.launcher.stop
    ⟨launcher, service.effects ++ effects, service.answers ++ [.stopped]⟩

/-- Makes calls one after the other on a new launcher. -/
def serve (program : String) (arguments : List String) (calls : List Call) : Service :=
  calls.foldl Service.call (.begin program arguments)

def Effect.spawned? : Effect → Option ProcessId
  | .spawn process => some process
  | .log _ | .kill _ => none

def Effect.killed? : Effect → Option ProcessId
  | .kill process => some process
  | .log _ | .spawn _ => none

def spawned (effects : List Effect) : List ProcessId :=
  effects.filterMap Effect.spawned?

def killed (effects : List Effect) : List ProcessId :=
  effects.filterMap Effect.killed?

/-- In these effects a new process was spawned only where there was none, and a process was killed
only where it was there; at the end there is this one, if any. -/
inductive Custody : List Effect → Option ProcessId → Prop where
  | begin : Custody [] none
  | log {effects : List Effect} {held : Option ProcessId} (line : LogLine)
    (hbefore : Custody effects held) : Custody (effects ++ [.log line]) held
  | spawn {effects : List Effect} {process : ProcessId} (hnew : process ∉ spawned effects)
    (hbefore : Custody effects none) : Custody (effects ++ [.spawn process]) (some process)
  | kill {effects : List Effect} {process : ProcessId}
    (hbefore : Custody effects (some process)) : Custody (effects ++ [.kill process]) none

section Custodies

variable {effects early : List Effect} {held : Option ProcessId} {process : ProcessId}

theorem spawned_append (effects more : List Effect) :
    spawned (effects ++ more) = spawned effects ++ spawned more :=
  List.filterMap_append

theorem killed_append (effects more : List Effect) :
    killed (effects ++ more) = killed effects ++ killed more :=
  List.filterMap_append

@[simp]
theorem spawned_log (line : LogLine) : spawned (effects ++ [.log line]) = spawned effects := by
  rw [spawned_append]
  exact List.append_nil _

@[simp]
theorem spawned_spawn : spawned (effects ++ [.spawn process]) = spawned effects ++ [process] :=
  spawned_append effects _

@[simp]
theorem spawned_kill : spawned (effects ++ [.kill process]) = spawned effects := by
  rw [spawned_append]
  exact List.append_nil _

@[simp]
theorem killed_log (line : LogLine) : killed (effects ++ [.log line]) = killed effects := by
  rw [killed_append]
  exact List.append_nil _

@[simp]
theorem killed_spawn : killed (effects ++ [.spawn process]) = killed effects := by
  rw [killed_append]
  exact List.append_nil _

@[simp]
theorem killed_kill : killed (effects ++ [.kill process]) = killed effects ++ [process] :=
  killed_append effects _

/-- What was spawned is what was killed, and behind it what is held. -/
theorem Custody.spawned_eq (hcustody : Custody effects held) :
    spawned effects = killed effects ++ held.toList := by
  induction hcustody with
  | begin => rfl
  | log line hbefore ih => rw [spawned_log, killed_log, ih]
  | spawn hnew hbefore ih =>
      rw [spawned_spawn, killed_spawn, ih]
      simp
  | kill hbefore ih =>
      rw [spawned_kill, killed_kill, ih]
      simp

/-- No process is spawned twice. -/
theorem Custody.nodup (hcustody : Custody effects held) : (spawned effects).Nodup := by
  induction hcustody with
  | begin => exact List.nodup_nil
  | log line hbefore ih => rwa [spawned_log]
  | spawn hnew hbefore ih =>
      rw [spawned_spawn]
      exact List.nodup_append_comm.mp (ih.cons hnew)
  | kill hbefore ih => rwa [spawned_kill]

/-- A moment at the end or before the last effect. -/
theorem Custody.of_prefix_concat {effect : Effect} (hcustody : Custody (effects ++ [effect]) held)
    (hbefore : early <+: effects → ∃ held, Custody early held)
    (hearly : early <+: effects ++ [effect]) : ∃ held, Custody early held := by
  rcases List.prefix_concat_iff.mp hearly with rfl | hwithin
  · exact ⟨held, hcustody⟩
  · exact hbefore hwithin

/-- At every moment there was one such process or none. -/
theorem Custody.of_prefix (hcustody : Custody effects held) (hearly : early <+: effects) :
    ∃ held, Custody early held := by
  induction hcustody with
  | begin =>
      rw [List.prefix_nil.mp hearly]
      exact ⟨none, .begin⟩
  | log line hbefore ih => exact (Custody.log line hbefore).of_prefix_concat ih hearly
  | spawn hnew hbefore ih => exact (Custody.spawn hnew hbefore).of_prefix_concat ih hearly
  | kill hbefore ih => exact hbefore.kill.of_prefix_concat ih hearly

/-- What was spawned and not killed is what is held. -/
theorem Custody.alive_iff (hcustody : Custody effects held) (process : ProcessId) :
    process ∈ spawned effects ∧ process ∉ killed effects ↔ held = some process := by
  have hnodup := hcustody.nodup
  rw [hcustody.spawned_eq, List.nodup_append'] at hnodup
  obtain ⟨-, -, hapart⟩ := hnodup
  rw [hcustody.spawned_eq, List.mem_append, Option.mem_toList]
  constructor
  · rintro ⟨hspawned, halive⟩
    exact hspawned.resolve_left halive
  · intro hheld
    apply And.intro (Or.inr hheld)
    intro hkilled
    exact hapart hkilled (Option.mem_toList.mpr hheld)

/-- Where nothing is held everything was killed. -/
theorem Custody.killed_of_none (hcustody : Custody effects none) :
    ∀ process ∈ spawned effects, process ∈ killed effects := by
  intro process hspawned
  rw [hcustody.spawned_eq] at hspawned
  simpa using hspawned

/-- Once what is held is killed, nothing is. -/
theorem Custody.release (hcustody : Custody effects held) :
    Custody (effects ++ (held.map Effect.kill).toList) none := by
  cases held with
  | none => simpa using hcustody
  | some process => exact hcustody.kill

@[simp]
theorem spawned_release (effects : List Effect) (held : Option ProcessId) :
    spawned (effects ++ (held.map Effect.kill).toList) = spawned effects := by
  cases held with
  | none => rw [Option.map_none, Option.toList_none, List.append_nil]
  | some process => exact spawned_kill

end Custodies

section Serving

variable {service : Service} {program : String} {arguments : List String} {calls : List Call}

/-- What is known of a launcher after every call. -/
structure Service.Sound (service : Service) : Prop where
  custody : Custody service.effects service.launcher.child
  /-- The next process gets a number of its own. -/
  numbered : ∀ process ∈ spawned service.effects, process < service.launcher.nextProcess
  /-- What is held is what the last call gave a connection to. -/
  latest : ∀ process, service.launcher.child = some process ↔
    service.answers.getLast? = some (.connection process)

theorem sound_begin (program : String) (arguments : List String) :
    (Service.begin program arguments).Sound where
  custody := .begin
  numbered := by simp [Service.begin, spawned]
  latest := by simp [Service.begin, create]

theorem Service.Sound.stop (hsound : service.Sound) : (service.call .stop).Sound where
  custody := hsound.custody.release
  numbered := by
    intro process hspawned
    apply hsound.numbered
    rwa [← spawned_release service.effects service.launcher.child]
  latest := by simp [Service.call, Launcher.stop]

/-- The effects up to the moment at which a launcher turns to the system for a new process. -/
def Service.vacated (service : Service) : List Effect :=
  service.effects ++ (service.launcher.child.map Effect.kill).toList ++
    [.log service.launcher.spawnLine]

theorem Service.Sound.vacated (hsound : service.Sound) : Custody service.vacated none :=
  hsound.custody.release.log _

theorem spawned_vacated : spawned service.vacated = spawned service.effects := by
  rw [Service.vacated, spawned_log, spawned_release]

theorem Service.Sound.isNew (hsound : service.Sound) :
    service.launcher.nextProcess ∉ spawned service.vacated := by
  rw [spawned_vacated]
  intro hspawned
  exact Nat.lt_irrefl _ (hsound.numbered _ hspawned)

/-- One more process keeps the numbering. -/
theorem Service.Sound.numbered_concat (hsound : service.Sound) :
    ∀ process ∈ spawned service.effects ++ [service.launcher.nextProcess],
      process < service.launcher.nextProcess + 1 := by
  intro process hspawned
  cases List.mem_append.mp hspawned with
  | inl hold => exact Nat.lt_succ_of_lt (hsound.numbered process hold)
  | inr hlast =>
      rw [List.mem_singleton.mp hlast]
      exact Nat.lt_succ_self _

theorem effects_failed : (service.call (.connect .failed)).effects = service.vacated := by
  simp [Service.call, connect, Launcher.stop, Service.vacated, spawnLine]

theorem effects_unreachable (missing : Pipe) :
    (service.call (.connect (.unreachable missing))).effects = service.vacated ++
      [.spawn service.launcher.nextProcess] ++ [.kill service.launcher.nextProcess] := by
  simp [Service.call, connect, Launcher.stop, Service.vacated, spawnLine]

theorem effects_running : (service.call (.connect .running)).effects =
    service.vacated ++ [.spawn service.launcher.nextProcess] := by
  simp [Service.call, connect, Launcher.stop, Service.vacated, spawnLine]

/-- Where a request for a connection fails nothing is held: the old process was killed first, and a
process that cannot be used is killed at once. -/
theorem Service.Sound.connect (hsound : service.Sound) (spawn : Spawn) :
    (service.call (.connect spawn)).Sound := by
  have hnew := Custody.spawn hsound.isNew hsound.vacated
  cases spawn with
  | failed =>
      constructor
      · rw [effects_failed]
        exact hsound.vacated
      · rw [effects_failed, spawned_vacated]
        exact hsound.numbered
      · simp [Service.call, Launcher.connect, Launcher.stop, answerOf]
  | unreachable missing =>
      constructor
      · rw [effects_unreachable]
        exact hnew.kill
      · rw [effects_unreachable, spawned_kill, spawned_spawn, spawned_vacated]
        exact hsound.numbered_concat
      · simp [Service.call, Launcher.connect, Launcher.stop, answerOf]
  | running =>
      constructor
      · rw [effects_running]
        exact hnew
      · rw [effects_running, spawned_spawn, spawned_vacated]
        exact hsound.numbered_concat
      · simp [Service.call, Launcher.connect, Launcher.stop, answerOf]

theorem Service.Sound.call (hsound : service.Sound) (call : Call) : (service.call call).Sound := by
  cases call with
  | connect spawn => exact hsound.connect spawn
  | stop => exact hsound.stop

theorem sound_serve (program : String) (arguments : List String) (calls : List Call) :
    (serve program arguments calls).Sound := by
  induction calls using List.reverseRecOn with
  | nil => exact sound_begin program arguments
  | append_singleton calls call ih =>
      have hlast : serve program arguments (calls ++ [call]) =
          (serve program arguments calls).call call := List.foldl_concat ..
      rw [hlast]
      exact ih.call call

/-- After any calls on a launcher, whatever became of its spawns: no process was spawned twice, and
what was spawned and not killed is what the launcher holds; that is the process of the last call if
this call gave a connection, and there is none otherwise.  At every moment all processes but the
last were killed, and once the launcher is stopped or given up all are. -/
theorem one_process (program : String) (arguments : List String) (calls : List Call) :
    let service := serve program arguments calls
    (spawned service.effects).Nodup ∧
      (∀ process, process ∈ spawned service.effects ∧ process ∉ killed service.effects ↔
        service.launcher.child = some process) ∧
      (∀ process, service.launcher.child = some process ↔
        service.answers.getLast? = some (.connection process)) ∧
      (∀ early, early <+: service.effects →
        ∃ held : Option ProcessId, spawned early = killed early ++ held.toList) ∧
      (∀ process ∈ spawned (service.call .stop).effects,
        process ∈ killed (service.call .stop).effects) ∧
      ∀ process ∈ spawned (service.effects ++ service.launcher.drop),
        process ∈ killed (service.effects ++ service.launcher.drop) := by
  intro service
  have hsound : service.Sound := sound_serve program arguments calls
  refine ⟨hsound.custody.nodup, hsound.custody.alive_iff, hsound.latest, ?_, ?_, ?_⟩
  · intro early hearly
    obtain ⟨held, hcustody⟩ := hsound.custody.of_prefix hearly
    exact ⟨held, hcustody.spawned_eq⟩
  · exact hsound.stop.custody.killed_of_none
  · exact hsound.custody.release.killed_of_none

end Serving

section Practice

/-- Calls on a launcher whose spawns fail in each of the three ways. -/
def practiceCalls : List Call :=
  [.connect .running, .connect (.unreachable .output), .connect .running, .connect .failed,
    .connect .running, .stop, .connect (.unreachable .input), .connect .running,
    .connect .running]

theorem one_process_of_practiceCalls :
    let service := serve "server" ["--stdio"] practiceCalls
    (6 ∈ spawned service.effects ∧ 6 ∉ killed service.effects) ∧
      service.answers.getLast? = some (.connection 6) ∧
      5 ∈ killed (service.effects ++ service.launcher.drop) ∧
      6 ∈ killed (service.effects ++ service.launcher.drop) := by
  obtain ⟨-, halive, hlatest, -, -, hdropped⟩ :=
    one_process "server" ["--stdio"] practiceCalls
  have hheld : (serve "server" ["--stdio"] practiceCalls).launcher.child = some 6 := by decide
  refine ⟨(halive 6).mpr hheld, (hlatest 6).mp hheld, ?_, ?_⟩
  · apply hdropped
    decide
  · apply hdropped
    decide

end Practice

end NplLifecycle.Launcher
