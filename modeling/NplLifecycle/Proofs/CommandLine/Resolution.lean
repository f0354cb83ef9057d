import NplLifecycle.CommandLine.Run
import NplLifecycle.Proofs.Client.Folders
import NplLifecycle.Proofs.Json.Members
import NplLifecycle.Proofs.Lifecycle.Prospect
import NplLifecycle.Proofs.Settings.Persistence
import NplLifecycle.Proofs.Text.Utf8

/-!
# What `resolve` foretells

`resolve` configures a client without starting one.  It reads the settings that a start reads, in
the same order, so it fails over them where a start would, and over the same; and what it prints is
what the server is told, about the roots that the client serves.
-/

namespace NplLifecycle.CommandLine

open Lifecycle (Effect Finds Move SpeaksFor)

/-- What `resolve` gives for a host. -/
def resolve (around : Surroundings) (host : LocalHost) : Except String String :=
  (hostConfiguration around host).bind fun configuration =>
    (resolution around configuration).map fun value => value.pretty ++ "\n"

/-- `resolve` fails over the settings: there is a root, but no configuration. -/
def FailsOnSettings (around : Surroundings) (host : LocalHost) (cause : String) : Prop :=
  host.roots ≠ [] ∧ hostConfiguration around host = .error cause

def situation (around : Surroundings) (host : LocalHost) : Controller.Situation where
  now := 0
  workingDirectory := around.store.workingDirectory
  roots := host.roots
  settings := fun scope =>
    (Rehearsal.Host.onDisk host).settings around.store around.environment scope

def describedRoot? (item : Json) : Option Root :=
  match item.get? "path", item.get? "name", item.get? "index" with
  | some (.str path), some (.str name), some (.int index) =>
    some ⟨.ofString path, name, index.toNat⟩
  | _, _, _ => none

def Shows (text : String) (initial : Json) (roots : List Root) : Prop :=
  ∃ (value : Json) (items : List Json), text = value.pretty ++ "\n" ∧
    value.get? "initializationOptions" = some initial ∧
    value.get? "workspaceFolders" = some (.arr items) ∧
    items.mapM describedRoot? = some roots

section Resolving

variable {around : Surroundings} {host : LocalHost} {options : Controller.Options}
  {configuration : ClientConfiguration} {cause : String}

/-- A start configures its client as `resolve` does, but for how often it may reconnect. -/
theorem prospect_situation (around : Surroundings) (host : LocalHost)
    (options : Controller.Options) : (situation around host).prospect options =
      if host.roots = [] then .error .noWorkspace
      else ((hostConfiguration around host).mapError ClientError.settings).map
        fun configuration => { configuration with maxRestarts := options.maxRestarts } := by
  cases hroots : host.roots with
  | nil => simp only [Controller.Situation.prospect, situation, hroots, List.head?_nil, if_true]
  | cons first rest =>
      simp only [Controller.Situation.prospect, situation, hostConfiguration, hroots,
        List.head?_cons, reduceCtorEq, if_false, Rehearsal.Host.settings]
      cases hfolder : host.settings around.store around.environment (some first.path) with
      | error fault => rfl
      | ok folder =>
          cases hworkspace : host.settings around.store around.environment none with
          | error fault => rfl
          | ok workspace => rfl

/-- The host lets no client be over its settings exactly where `resolve` fails over them. -/
theorem prospect_eq_settings_iff :
    (situation around host).prospect options = .error (.settings cause) ↔
      FailsOnSettings around host cause := by
  rw [prospect_situation]
  by_cases hroots : host.roots = []
  · simp [FailsOnSettings, hroots]
  · rw [if_neg hroots]
    cases hhost : hostConfiguration around host with
    | error fault => simp [FailsOnSettings, hroots, hhost, Except.mapError, Except.map]
    | ok configuration => simp [FailsOnSettings, hhost, Except.mapError, Except.map]

/-- Where `resolve` configures a client, a start makes the client that it configures. -/
theorem prospect_of_hostConfiguration (hhost : hostConfiguration around host = .ok configuration) :
    (situation around host).prospect options =
      .ok { configuration with maxRestarts := options.maxRestarts } := by
  have hroots : host.roots ≠ [] := by
    intro hnone
    simp [hostConfiguration, hnone] at hhost
  rw [prospect_situation, if_neg hroots, hhost]
  rfl

/-- Every greeting of such a client says the options that the configuration gives. -/
theorem get?_of_speaksFor (hhost : hostConfiguration around host = .ok configuration)
    {initial params : Json}
    (hinitial : configuration.initializationOptions around.store.workingDirectory = .ok initial)
    {profile : ClientProfile} (hspeaks : SpeaksFor (situation around host) options profile)
    (hhandshake : profile.handshake = .ok params) :
    params.get? "initializationOptions" = some initial := by
  obtain ⟨-, sent, -, hsent, -, hparams⟩ := ClientConfiguration.exists_handshake hhandshake
  have hsame : profile.configuration = { configuration with maxRestarts := options.maxRestarts } :=
    Except.ok.inj (hspeaks.configuration.symm.trans (prospect_of_hostConfiguration hhost))
  rw [hsame, hspeaks.workingDirectory] at hsent
  rw [hparams, Except.ok.inj (hsent.symm.trans hinitial)]

/-- What `resolve` prints, it prints of a configuration. -/
theorem resolve_eq_ok {text : String} (htext : resolve around host = .ok text) :
    ∃ configuration value, hostConfiguration around host = .ok configuration ∧
      resolution around configuration = .ok value ∧ text = value.pretty ++ "\n" := by
  cases hhost : hostConfiguration around host with
  | error cause => simp [resolve, hhost, Except.bind] at htext
  | ok configuration =>
      cases hvalue : resolution around configuration with
      | error cause => simp [resolve, hhost, hvalue, Except.bind, Except.map] at htext
      | ok value =>
          simp only [resolve, hhost, hvalue, Except.bind, Except.map, Except.ok.injEq] at htext
          exact ⟨configuration, value, rfl, hvalue, htext.symm⟩

end Resolving

section Printing

variable {around : Surroundings} {configuration : ClientConfiguration} {value : Json}

theorem text?_eq_some {path : Path} {text : String} (htext : path.text? = some text) :
    Path.ofString text = path := by
  cases path
  exact congrArg Path.mk (Text.encode_of_decode? htext)

/-- A printed root describes the root. -/
theorem describedRoot?_ofMembers {root : Root} {path : String}
    (htext : root.path.text? = some path) :
    describedRoot? (.ofMembers [("path", .str path), ("name", .str root.name),
      ("index", .int root.index)]) = some root := by
  simp [describedRoot?, Json.ofMembers, Json.get?, Json.lookup_insertMember, text?_eq_some htext]

/-- Roots that are printed with their members in order are described by what is printed. -/
theorem mapM_describedRoot? {roots : List Root} {found : List Json} {arrange : Json → Json}
    (harrange : ∀ members, arrange (.obj members) = .ofMembers members)
    (hfound : roots.mapM Root.toJson? = some found) :
    (found.map arrange).mapM describedRoot? = some roots := by
  induction roots generalizing found with
  | nil =>
      rw [← Option.some.inj hfound]
      rfl
  | cons root rest ih =>
      rw [List.mapM_cons] at hfound
      obtain ⟨first, hfirst, hfound⟩ := Option.bind_eq_some_iff.mp hfound
      obtain ⟨others, hothers, hfound⟩ := Option.bind_eq_some_iff.mp hfound
      obtain ⟨path, htext, rfl⟩ := Option.map_eq_some_iff.mp hfirst
      rw [← Option.some.inj hfound, List.map_cons, List.mapM_cons, harrange,
        describedRoot?_ofMembers htext, ih hothers]
      rfl

/-- What is printed are the options that go to the server and the roots of the configuration. -/
theorem shows_of_resolution (hprinted : resolution around configuration = .ok value) :
    ∃ initial,
      configuration.initializationOptions around.store.workingDirectory = .ok initial ∧
        Shows (value.pretty ++ "\n") initial configuration.roots := by
  cases hinitial : configuration.initializationOptions around.store.workingDirectory with
  | error fault =>
      rw [resolution, hinitial] at hprinted
      exact absurd hprinted (by simp [Except.mapError, Except.bind])
  | ok initial =>
      rw [resolution, hinitial] at hprinted
      cases hfound : configuration.roots.mapM Root.toJson? with
      | none =>
          simp only [hfound] at hprinted
          exact absurd hprinted (by simp [Except.mapError, Except.bind])
      | some found =>
          simp only [hfound] at hprinted
          have hmembers (folders : Json) :
              (Json.ofMembers [("initializationOptions", initial),
                ("workspaceFolders", folders)]).get? "initializationOptions" = some initial ∧
              (Json.ofMembers [("initializationOptions", initial),
                ("workspaceFolders", folders)]).get? "workspaceFolders" = some folders := by
            simp [Json.ofMembers, Json.get?, Json.lookup_insertMember]
          rw [← Except.ok.inj hprinted]
          exact ⟨initial, rfl, _, _, rfl, (hmembers _).1, (hmembers _).2,
            mapM_describedRoot? (fun members => rfl) hfound⟩

end Printing

/-- `resolve` foretells what becomes of a start.  Take any host, and any run of a controller that
finds it: starts, stops, restarts, any server and any order of things.  `resolve` fails over the
settings exactly where a start that is there fails over them, as soon as it goes on, and both name
the same cause.  And if `resolve` prints something, the options in it are those of every greeting,
and the roots in it are those of the client that the controller has or is starting. -/
theorem resolve_foretells_start (around : Surroundings) (host : LocalHost)
    (options : Controller.Options) {moves : List Move} {now : Lifecycle} {past : List Effect}
    (hfinds : ∀ move ∈ moves, Finds (situation around host) move)
    (hrun : Run.follow Lifecycle.next? (Lifecycle.idle options) moves = some (now, past)) :
    (∀ invocation lines, localHost around invocation = .ok (host, lines) →
      runResolve around invocation = resolve around host) ∧
    (∀ cause, FailsOnSettings around host cause → resolve around host = .error cause) ∧
    (∀ job ∈ now.controller.jobs, ∀ context, job.errand = .start context →
      ∀ seen, Finds (situation around host) (.task seen (.job job.id)) →
        ∀ cause, FailsOnSettings around host cause ↔
          ∃ after effects, now.next? (.task seen (.job job.id)) = some (after, effects) ∧
            .control (.finish job.id (.done (.error (.settings cause)))) ∈ effects) ∧
    ∀ text, resolve around host = .ok text → ∃ initial roots, Shows text initial roots ∧
      (∀ client connection request,
        .session client (.write connection (.request request)) ∈ past →
          request.method = Session.greetingMethod →
            request.params.get? "initializationOptions" = some initial) ∧
      ∀ client, now.controller.Keeps client → client.configuration.roots = roots := by
  obtain ⟨hlodged, hgreets⟩ := Lifecycle.lodged_of_run hfinds hrun
  refine ⟨?_, ?_, ?_, ?_⟩
  · intro invocation lines hhost
    simp only [runResolve, hhost, Except.bind, resolve]
  · intro cause hfails
    simp only [resolve, hfails.2, Except.bind]
  · intro job hmem context herrand seen hseen cause
    rw [← @prospect_eq_settings_iff around host options]
    exact (Lifecycle.fails_iff_of_run hfinds hrun hmem herrand hseen rfl).symm
  · intro text htext
    obtain ⟨configuration, value, hhost, hvalue, rfl⟩ := resolve_eq_ok htext
    obtain ⟨initial, hinitial, hshows⟩ := shows_of_resolution hvalue
    refine ⟨initial, configuration.roots, hshows, ?_, ?_⟩
    · intro client connection request hmem hmethod
      obtain ⟨profile, hspeaks, hhandshake⟩ := hgreets client connection request hmem hmethod
      exact get?_of_speaksFor hhost hinitial hspeaks hhandshake
    · intro client hkeeps
      have hsame := (hlodged.owes.kept client hkeeps).symm.trans
        (prospect_of_hostConfiguration hhost)
      rw [Except.ok.inj hsame]

section Practice

open Settings (practiceFile practiceFolder)

def practiceInvocation : Invocation where
  task := .resolve
  userFile := none
  roots := [practiceFolder]
  storage := none
  server := none
  settleMs := defaultSettleMs

def practiceAround (own : String) : Surroundings :=
  ⟨practiceFile own, [], "practice"⟩

/-- The host that finds the practice folder's file when it is made. -/
def practiceHost (own : String) : LocalHost :=
  (LocalHost.create (practiceFile own) [] [practiceFolder] none).1

def practiceOwn : String := "\x7b\"sources\":\"/f/src\"\x7d"

theorem localHost_practiceInvocation (own : String)
    (hroots : canonicalRoots (practiceFile own) [practiceFolder] = .ok [practiceFolder]) :
    ∃ lines, localHost (practiceAround own) practiceInvocation = .ok (practiceHost own, lines) := by
  refine ⟨(LocalHost.create (practiceFile own) [] [practiceFolder] none).2, ?_⟩
  have hfound : canonicalRoots (practiceAround own).store practiceInvocation.roots =
      .ok [practiceFolder] := hroots
  rw [localHost, hfound]
  rfl

def practiceCall : Move :=
  .call (.start ⟨.ofString "/s", "npl", "1"⟩)

def practiceCalled : Lifecycle :=
  { Lifecycle.idle ⟨500, 3⟩ with
    controller := ((Controller.idle ⟨500, 3⟩).begin (.start ⟨.ofString "/s", "npl", "1"⟩)).1 }

/-- What a step finds that finds the host of the practice folder. -/
def practiceSeen (own : String) : Lifecycle.Surroundings :=
  { Lifecycle.practiceSurroundings {} 0 none with
    situation := situation (practiceAround own) (practiceHost own) }

/-- A move that finds the host of the practice folder instead of another. -/
def practiceMove (own : String) : Move → Move
  | .task seen task => .task { seen with situation :=
      { situation (practiceAround own) (practiceHost own) with now := seen.situation.now } } task
  | move => move

theorem finds_practiceMove (own : String) (move : Move) :
    Finds (situation (practiceAround own) (practiceHost own)) (practiceMove own move) := by
  cases move with
  | task seen task => rfl
  | _ => trivial

def isGreeting : Effect → Bool
  | .session 0 (.write _ (.request request)) => request.method = Session.greetingMethod
  | _ => false

theorem exists_of_isGreeting {effect : Effect} (hgreeting : isGreeting effect = true) :
    ∃ connection request, effect = .session 0 (.write connection (.request request)) ∧
      request.method = Session.greetingMethod := by
  unfold isGreeting at hgreeting
  split at hgreeting
  · exact ⟨_, _, rfl, of_decide_eq_true hgreeting⟩
  · exact absurd hgreeting (by simp)

set_option maxRecDepth 100000 in
theorem practiceStart_greets : (Run.follow Lifecycle.next? (Lifecycle.idle ⟨500, 3⟩)
    (Lifecycle.practiceStart.map (practiceMove practiceOwn))).map (fun result =>
      (result.1.controller.client.isSome, result.2.any isGreeting)) = some (true, true) := by
  decide +kernel

theorem resolve_practiceOwn :
    ∃ text, resolve (practiceAround practiceOwn) (practiceHost practiceOwn) = .ok text := by
  have hprinted : (resolve (practiceAround practiceOwn)
      (practiceHost practiceOwn)).toOption.isSome = true := by decide +kernel
  cases htext : resolve (practiceAround practiceOwn) (practiceHost practiceOwn) with
  | error cause =>
      rw [htext] at hprinted
      exact absurd hprinted (by simp [Except.toOption])
  | ok text => exact ⟨text, rfl⟩

/-- The practice folder gives the sources: what `resolve` prints of it is what the server is told
and what the client serves.  Its file is torn: `resolve` and the start fail over it. -/
theorem foretells_of_practiceFolder :
    (∃ now past text initial client,
      Run.follow Lifecycle.next? (Lifecycle.idle ⟨500, 3⟩)
        (Lifecycle.practiceStart.map (practiceMove practiceOwn)) = some (now, past) ∧
      runResolve (practiceAround practiceOwn) practiceInvocation = .ok text ∧
      now.controller.client = some client ∧ Shows text initial client.configuration.roots ∧
      ∃ connection request, .session 0 (.write connection (.request request)) ∈ past ∧
        request.params.get? "initializationOptions" = some initial) ∧
    ∃ after effects,
      runResolve (practiceAround "\x7b") practiceInvocation =
        .error "Failed to build NPL settings" ∧
      practiceCalled.next? (.task (practiceSeen "\x7b") (.job 0)) = some (after, effects) ∧
      .control (.finish 0 (.done (.error (.settings "Failed to build NPL settings")))) ∈
        effects := by
  constructor
  · obtain ⟨⟨now, past⟩, hrun, hstate⟩ := Option.map_eq_some_iff.mp practiceStart_greets
    obtain ⟨hclient, hgreeting⟩ := Prod.mk.inj hstate
    obtain ⟨client, hclient⟩ := Option.isSome_iff_exists.mp hclient
    obtain ⟨effect, hmem, hgreeting⟩ := List.any_eq_true.mp hgreeting
    obtain ⟨connection, request, rfl, hmethod⟩ := exists_of_isGreeting hgreeting
    obtain ⟨lines, hhost⟩ := localHost_practiceInvocation practiceOwn (by decide +kernel)
    obtain ⟨text, htext⟩ := resolve_practiceOwn
    obtain ⟨hresolve, -, -, hprints⟩ := resolve_foretells_start (practiceAround practiceOwn)
      (practiceHost practiceOwn) ⟨500, 3⟩ (List.forall_mem_map.mpr fun move _ =>
        finds_practiceMove practiceOwn move) hrun
    obtain ⟨initial, roots, hshows, hgreets, hroots⟩ := hprints text htext
    rw [← hroots client (Or.inl hclient)] at hshows
    exact ⟨now, past, text, initial, client, hrun,
      (hresolve practiceInvocation lines hhost).trans htext, hclient, hshows,
      connection, request, hmem, hgreets 0 connection request hmem hmethod⟩
  · obtain ⟨lines, hhost⟩ := localHost_practiceInvocation "\x7b" (by decide +kernel)
    have hfails : FailsOnSettings (practiceAround "\x7b") (practiceHost "\x7b")
        "Failed to build NPL settings" := ⟨by decide +kernel, by decide +kernel⟩
    have hrun : Run.follow Lifecycle.next? (Lifecycle.idle ⟨500, 3⟩) [practiceCall] =
      some (practiceCalled, []) := rfl
    obtain ⟨hresolve, hreason, hstart, -⟩ := resolve_foretells_start (practiceAround "\x7b")
      (practiceHost "\x7b") ⟨500, 3⟩ (by simp [practiceCall, Finds]) hrun
    obtain ⟨after, effects, hmove, hfinish⟩ := (hstart _ (List.mem_singleton_self _) _ rfl
      (practiceSeen "\x7b") rfl _).mp hfails
    exact ⟨after, effects, (hresolve practiceInvocation lines hhost).trans (hreason _ hfails),
      hmove, hfinish⟩

end Practice

end NplLifecycle.CommandLine
