import NplLifecycle.Proofs.Lifecycle.Cycle

/-!
# Fresh configurations

A client is built from the settings of its first root, which may change while it starts, runs or
stops.  A host that announces its changes loses none: whenever the client that is kept was built
from other settings, its listener has something left to read that restarts it, or a restart has
begun that has not worked yet.
-/

namespace NplLifecycle

namespace Inbox

/-- Will a listener begin a restart when it reads on? -/
def isHot (inbox : Inbox) : Bool :=
  0 < inbox.missed || inbox.unread.any Controller.isRelevant

def Reading.isRelevant : Reading → Bool
  | .change announced => Controller.isRelevant announced
  | .missed _ => true

variable {inbox rest : Inbox} {capacity : Nat} {change : SettingsChange} {reading : Reading}

theorem isHot_deliver_of_relevant (hrelevant : Controller.isRelevant change = true) :
    (inbox.deliver capacity change).isHot = true := by
  unfold deliver
  split
  · simp [isHot, hrelevant]
  · simp [isHot]

theorem isHot_deliver (hhot : inbox.isHot = true) :
    (inbox.deliver capacity change).isHot = true := by
  unfold deliver
  split
  · simp only [isHot, Bool.or_eq_true, decide_eq_true_eq, List.any_append] at hhot ⊢
    exact hhot.imp_right Or.inl
  · simp [isHot]

theorem next?_ne_none_of_isHot (hhot : inbox.isHot = true) : inbox.next? ≠ none := by
  unfold next?
  split
  · simp
  · rename_i hmissed
    simp only [isHot, hmissed, decide_false, Bool.false_or] at hhot
    cases hunread : inbox.unread with
    | nil => simp [hunread] at hhot
    | cons change rest => simp

/-- A reading takes nothing away that does not begin a restart at once. -/
theorem isHot_rest (hnext : inbox.next? = some (reading, rest)) (hhot : inbox.isHot = true) :
    reading.isRelevant = true ∨ rest.isHot = true := by
  unfold next? at hnext
  split at hnext
  · simp only [Option.some.injEq, Prod.mk.injEq] at hnext
    rw [← hnext.1]
    exact Or.inl rfl
  · rename_i hmissed
    simp only [isHot, hmissed, decide_false, Bool.false_or] at hhot
    cases hunread : inbox.unread with
    | nil => simp [hunread] at hhot
    | cons change later =>
        simp only [hunread, Option.some.injEq, Prod.mk.injEq] at hnext
        obtain ⟨rfl, rfl⟩ := hnext
        rw [hunread, List.any_cons, Bool.or_eq_true] at hhot
        exact hhot.imp_right fun hlater => by simp [isHot, hlater]

end Inbox

namespace Lifecycle

/-- A reading that matters begins a restart. -/
theorem react_of_isRelevant (lifecycle : Lifecycle) {reading : Inbox.Reading}
    (hrelevant : reading.isRelevant = true) :
    (lifecycle.react reading).1 =
      { lifecycle with controller := (lifecycle.controller.begin .settle).1 } := by
  cases reading with
  | change change =>
      have hchange : Controller.isRelevant change = true := hrelevant
      simp only [react, hchange, if_true]
  | missed count =>
      have hlost : Controller.isRelevant (SettingsChange.ofSettings Controller.restartKeys) =
          true := by decide
      simp only [react, hlost, if_true]

theorem alarmed_begin {controller : Controller} {errand : Controller.Errand}
    (halarmed : controller.Alarmed ∨ errand = .settle) :
    (controller.begin errand).1.Alarmed := by
  rcases halarmed with ⟨job, hmem, herrand, hnew⟩ | rfl
  · exact ⟨job, Controller.mem_begin.mpr (Or.inl hmem), herrand, hnew⟩
  · exact ⟨_, Controller.mem_begin.mpr (Or.inr rfl), rfl, rfl⟩

end Lifecycle

/-- Have two settings the same values where a change rebuilds the client? -/
def Settings.agreesForRestart (before after : Settings) : Bool :=
  Controller.restartKeys.all fun key => before.value key = after.value key

/-- Does a change name every setting whose value differs, where that rebuilds the client? -/
def Settings.announces (before after : Settings) (change : SettingsChange) : Bool :=
  Controller.restartKeys.all fun key => before.value key = after.value key || change.affects key

/-- What a client is built from is the same where the values are. -/
theorem Settings.eq_of_agreesForRestart {before after : Settings}
    (hagrees : before.agreesForRestart after = true) :
    before.sources = after.sources ∧ before.testSources = after.testSources ∧
      before.contribLibraries = after.contribLibraries := by
  simp only [agreesForRestart, Controller.restartKeys, List.all_cons, List.all_nil,
    Bool.and_true, Bool.and_eq_true, decide_eq_true_eq] at hagrees
  obtain ⟨hsources, htests, hlibraries⟩ := hagrees
  simp only [value] at hsources htests hlibraries
  have htext : ∀ first second : Option String,
      Json.ofOption (first.map .str) = Json.ofOption (second.map .str) → first = second := by
    intro first second hsame
    cases first <;> cases second <;> simp_all [Json.ofOption]
  refine ⟨htext _ _ hsources, htext _ _ htests, ?_⟩
  have hinjective : Function.Injective (List.map Json.str) :=
    List.map_injective_iff.mpr fun _ _ => Json.str.inj
  cases hfirst : before.contribLibraries with
  | none => cases hsecond : after.contribLibraries <;> simp_all [Json.ofOption, Json.ofStrings]
  | some first =>
      cases hsecond : after.contribLibraries with
      | none => simp_all [Json.ofOption, Json.ofStrings]
      | some second =>
          rw [hfirst, hsecond] at hlibraries
          exact congrArg some (hinjective (Json.arr.inj hlibraries))

/-- A change that names what differs concerns the client, unless nothing differs. -/
theorem Settings.isRelevant_of_announces {before after : Settings} {change : SettingsChange}
    (hannounces : before.announces after change = true) :
    before.agreesForRestart after = true ∨ Controller.isRelevant change = true := by
  by_cases hagrees : before.agreesForRestart after = true
  · exact Or.inl hagrees
  · refine Or.inr ?_
    simp only [agreesForRestart, List.all_eq_true, not_forall] at hagrees
    obtain ⟨key, hkey, hdiffers⟩ := hagrees
    simp only [announces, List.all_eq_true, Bool.or_eq_true] at hannounces
    exact List.any_eq_true.mpr ⟨key, hkey, (hannounces key hkey).resolve_left hdiffers⟩

/-- A lifecycle with what it reads of its host: the roots, which stay the same, the settings of the
first root, and whether changes can still be announced. -/
structure Hosted where
  lifecycle : Lifecycle
  workingDirectory : Path
  roots : List Root
  folder : Settings
  channelIsOpen : Bool

namespace Hosted

open Lifecycle (Surroundings Effect Attended)

inductive Move where
  /-- The settings change, and in the same moment the change is announced. -/
  | change (folder : Settings) (capacity : Nat) (change : SettingsChange)
  /-- Settings change that do not rebuild the client. -/
  | drift (folder : Settings)
  | closeChannel
  | lifecycle (move : Lifecycle.Move)

/-- Is it the host that a step finds?  To read the settings may fail. -/
def isHonest (hosted : Hosted) (around : Surroundings) : Bool :=
  around.situation.workingDirectory = hosted.workingDirectory &&
    around.situation.roots = hosted.roots && around.channelIsOpen = hosted.channelIsOpen &&
    hosted.roots.head?.all fun first =>
      match around.situation.settings (some first.path) with
      | .ok folder => folder = hosted.folder
      | .error _ => true

def permits (hosted : Hosted) : Lifecycle.Move → Bool
  | .task around _ => hosted.isHonest around
  | _ => true

def next? (hosted : Hosted) : Move → Option (Hosted × List Effect)
  | .change folder capacity change =>
    if hosted.channelIsOpen && hosted.folder.announces folder change then
      some ({ hosted with
        lifecycle := hosted.lifecycle.announce capacity change
        folder := folder }, [])
    else none
  | .drift folder =>
    if hosted.folder.agreesForRestart folder then some ({ hosted with folder := folder }, [])
    else none
  | .closeChannel => some ({ hosted with channelIsOpen := false }, [])
  | .lifecycle move =>
    if hosted.permits move then
      (hosted.lifecycle.next? move).map fun (lifecycle, effects) =>
        ({ hosted with lifecycle := lifecycle }, effects)
    else none

def idle (options : Controller.Options) (workingDirectory : Path) (roots : List Root)
    (folder : Settings) : Hosted :=
  ⟨.idle options, workingDirectory, roots, folder, true⟩

/-- Was a client built from the settings that the host has? -/
def IsFresh (hosted : Hosted) (client : Controller.Client) : Prop :=
  client.configuration.roots = Workspace.resolve hosted.workingDirectory hosted.folder.sources
      hosted.folder.testSources hosted.roots ∧
    client.configuration.contribLibraries = hosted.folder.contribLibraries

/-- Has the host the roots, and does the first of them stand for the settings? -/
def Has (hosted : Hosted) (scope : Path) (roots : List Root) : Prop :=
  roots = hosted.roots ∧ hosted.roots.head?.map Root.path = some scope

/-- What holds between any two moves: a client that is kept is listened for, and where it is not
fresh, something is left that restarts it. -/
structure Served (hosted : Hosted) : Prop where
  sound : hosted.lifecycle.Sound
  found : ∀ job ∈ hosted.lifecycle.controller.jobs, ∀ client context scope roots,
    job.stage = .closing client (.replace context scope roots) → hosted.Has scope roots
  heard : hosted.channelIsOpen = true → ∀ client, hosted.lifecycle.controller.Keeps client →
    ∃ inbox, hosted.lifecycle.listeners.lookup client.id = some inbox
  fresh : ∀ client, hosted.lifecycle.controller.Keeps client →
    hosted.IsFresh client ∨ hosted.lifecycle.controller.Alarmed ∨
      ∃ inbox, hosted.lifecycle.listeners.lookup client.id = some inbox ∧ inbox.isHot = true

section Serving

variable {hosted after : Hosted} {around : Surroundings} {effects : List Effect}

theorem situation_of_isHonest (hhonest : hosted.isHonest around = true) :
    around.situation.workingDirectory = hosted.workingDirectory ∧
      around.situation.roots = hosted.roots ∧
      around.channelIsOpen = hosted.channelIsOpen ∧
      ∀ scope folder, hosted.roots.head?.map Root.path = some scope →
        around.situation.settings (some scope) = .ok folder → folder = hosted.folder := by
  simp only [isHonest, Bool.and_eq_true, decide_eq_true_eq] at hhonest
  obtain ⟨⟨⟨hdirectory, hroots⟩, hchannel⟩, hsettings⟩ := hhonest
  refine ⟨hdirectory, hroots, hchannel, ?_⟩
  intro scope folder hscope hread
  obtain ⟨first, hfirst, rfl⟩ := Option.map_eq_some_iff.mp hscope
  rw [hfirst, Option.all_some, hread, decide_eq_true_eq] at hsettings
  exact hsettings

theorem has_of_found {job : Controller.Job} {scope : Path}
    {roots : List Root} (hhonest : hosted.isHonest around = true)
    (hfound : Controller.Found around.situation job scope roots)
    (hbefore : ∀ client context scope roots,
      job.stage = .closing client (.replace context scope roots) → hosted.Has scope roots) :
    hosted.Has scope roots := by
  obtain ⟨-, hroots, -, -⟩ := situation_of_isHonest hhonest
  rcases hfound with ⟨hsame, hscope⟩ | ⟨client, context, hstage⟩
  · rw [hroots] at hsame hscope
    exact ⟨hsame, hscope⟩
  · exact hbefore client context scope roots hstage

/-- A job that replaces a client has found its roots in this turn or before. -/
theorem found_of_turn {situation : Controller.Situation} {before after : Controller}
    {job other : Controller.Job} {actions : List Controller.Action}
    (hturn : Controller.Turn situation before job after actions) (h : before.Orderly)
    (hmem : job ∈ before.jobs) (hother : other ∈ after.jobs) {client : ClientId}
    {context : ActivationContext} {scope : Path} {roots : List Root}
    (hstage : other.stage = .closing client (.replace context scope roots)) :
    other ∈ before.jobs ∨ Controller.Found situation job scope roots := by
  have hmoved : ∀ stage, other ∈ (before.moveJob job.id stage).jobs →
      other ∈ before.jobs ∨ stage = .closing client (.replace context scope roots) := by
    intro stage hmoved
    rcases (h.mem_moveJob_iff hmem).mp hmoved with ⟨hold, -⟩ | rfl
    · exact Or.inl hold
    · exact Or.inr hstage
  cases hturn with
  | wait hheld hnew =>
      refine (hmoved _ hother).imp_right fun hclosing => ?_
      rcases hnew with ⟨-, rfl⟩ | ⟨generation, wake, -, rfl⟩
      · exact absurd hclosing (by simp)
      · exact absurd hclosing (by simp)
  | leave hopen hidle hserved hstop houtward hfinish =>
      exact Or.inl (Controller.mem_retire.mp hother).1
  | close hopen hclient hlt hcause hcontext hfits hfound houtward =>
      refine (hmoved _ hother).imp_right fun hclosing => ?_
      exact hfound context scope roots (Controller.Stage.closing.inj hclosing).2
  | launch asker hopen hstill hcontext hle hlt hcause hfits hfound hfolder houtward =>
      exact (hmoved _ hother).imp_right fun hclosing => absurd hclosing (by simp)
  | pause hopen hstill hle hlt herrand hnone hserver houtward =>
      exact (hmoved _ hother).imp_right fun hclosing => absurd hclosing (by simp)
  | fall hopen hle hcause hcontext houtward hfinish =>
      exact Or.inl (Controller.mem_retire.mp hother).1
  | rise hopen hstage' houtward hfinish => exact Or.inl (Controller.mem_retire.mp hother).1

theorem lookup_announce (lifecycle : Lifecycle) (capacity : Nat) (change : SettingsChange)
    (client : ClientId) :
    (lifecycle.announce capacity change).listeners.lookup client =
      (lifecycle.listeners.lookup client).map (·.deliver capacity change) := by
  simp only [Lifecycle.announce]
  induction lifecycle.listeners with
  | nil => rfl
  | cons entry rest ih =>
      obtain ⟨key, inbox⟩ := entry
      rw [List.map_cons, List.lookup_cons, List.lookup_cons, ih]
      cases client == key <;> rfl

/-- An announcement cools no inbox down, and one that matters heats all. -/
theorem Served.announce (hserved : hosted.Served) {capacity : Nat} {change : SettingsChange}
    (folder : Settings)
    (hfresh : ∀ client, hosted.lifecycle.controller.Keeps client → hosted.IsFresh client →
      { hosted with folder := folder }.IsFresh client ∨
        (hosted.channelIsOpen = true ∧ Controller.isRelevant change = true)) :
    { hosted with
      lifecycle := hosted.lifecycle.announce capacity change
      folder := folder }.Served := by
  obtain ⟨hsound, hfound, hheard, hold⟩ := hserved
  have hnext : hosted.lifecycle.next? (.announce capacity change) =
      some (hosted.lifecycle.announce capacity change, []) := rfl
  refine ⟨hsound.step hnext, hfound, ?_, ?_⟩
  · intro hchannel client hkeeps
    obtain ⟨inbox, hinbox⟩ := hheard hchannel client hkeeps
    exact ⟨_, by rw [lookup_announce, hinbox]; rfl⟩
  · intro client hkeeps
    rcases hold client hkeeps with hisFresh | halarmed | ⟨inbox, hinbox, hhot⟩
    · rcases hfresh client hkeeps hisFresh with hstill | ⟨hchannel, hrelevant⟩
      · exact Or.inl hstill
      · obtain ⟨inbox, hinbox⟩ := hheard hchannel client hkeeps
        exact Or.inr (Or.inr ⟨_, by rw [lookup_announce, hinbox]; rfl,
          Inbox.isHot_deliver_of_relevant hrelevant⟩)
    · exact Or.inr (Or.inl halarmed)
    · exact Or.inr (Or.inr ⟨_, by rw [lookup_announce, hinbox]; rfl, Inbox.isHot_deliver hhot⟩)

/-- A client is still fresh where nothing has changed that it was built from. -/
theorem isFresh_of_agrees {folder : Settings} {client : Controller.Client}
    (hagrees : hosted.folder.agreesForRestart folder = true) (hfresh : hosted.IsFresh client) :
    { hosted with folder := folder }.IsFresh client := by
  obtain ⟨hsources, htests, hlibraries⟩ := Settings.eq_of_agreesForRestart hagrees
  simp only [IsFresh] at hfresh ⊢
  rw [← hsources, ← htests, ← hlibraries]
  exact hfresh

theorem Served.drift (hserved : hosted.Served) {folder : Settings}
    (hagrees : hosted.folder.agreesForRestart folder = true) :
    { hosted with folder := folder }.Served :=
  ⟨hserved.sound, hserved.found, hserved.heard, fun client hkeeps =>
    (hserved.fresh client hkeeps).imp_left (isFresh_of_agrees hagrees)⟩

theorem Served.closeChannel (hserved : hosted.Served) :
    { hosted with channelIsOpen := false }.Served :=
  ⟨hserved.sound, hserved.found, fun hopen => absurd hopen (by simp), hserved.fresh⟩

/-- The turn of a job leaves a client that is listened for, and built from other settings only if
something restarts it. -/
theorem Served.turn (hserved : hosted.Served) {job : Controller.Job} {next : Lifecycle}
    (hhonest : hosted.isHonest around = true) (hnext : next.Sound)
    (hjob : hosted.lifecycle.controller.job? job.id = some job)
    (harrives : Controller.Arrives around.situation hosted.lifecycle.controller job
      (next.controller, Lifecycle.controls effects))
    (hlisteners : next.listeners = (Controller.outward (Lifecycle.controls effects)).foldl
      Lifecycle.attend hosted.lifecycle.listeners) :
    { hosted with lifecycle := next }.Served := by
  obtain ⟨hsound, hfound, hheard, hold⟩ := hserved
  have hmem := (Controller.mem_of_job? hjob).1
  have hhas : ∀ {scope roots}, Controller.Found around.situation job scope roots →
      hosted.Has scope roots := fun hthen => has_of_found hhonest hthen (hfound job hmem)
  have hhandover := Lifecycle.handover_of_turn hsound.controller hsound.attended hjob harrives.2
  rw [← hlisteners] at hhandover
  refine ⟨hnext, ?_, ?_, ?_⟩
  · intro other hother client context scope roots hstage
    rcases found_of_turn harrives.2 hsound.controller.orderly hmem hother hstage with
      hbefore | hthen
    · exact hfound other hbefore client context scope roots hstage
    · exact hhas hthen
  · intro hopen client hkeeps
    generalize hrest : next.listeners = rest at hhandover
    cases hhandover with
    | keep hkept halarmed =>
        exact hheard hopen client ((hkept client).mp hkeeps)
    | drop hkept => exact absurd hkeeps (hkept client)
    | renew workspace hkept hthen hfolder =>
        rw [(hkept client).mp hkeeps]
        refine ⟨.empty, ?_⟩
        simp only [List.lookup_cons, beq_self_eq_true]
  · intro client hkeeps
    generalize hrest : next.listeners = rest at hhandover
    cases hhandover with
    | keep hkept halarmed =>
        exact (hold client ((hkept client).mp hkeeps)).imp_right (Or.imp_left halarmed)
    | drop hkept => exact absurd hkeeps (hkept client)
    | renew workspace hkept hthen hfolder =>
        rw [(hkept client).mp hkeeps]
        obtain ⟨hdirectory, -, -, hsettings⟩ := situation_of_isHonest hhonest
        obtain ⟨hroots, hscope⟩ := hhas hthen
        rw [hsettings _ _ hscope hfolder, hroots]
        left
        constructor
        · simp only [Controller.configure, hdirectory]
        · rfl

/-- A listener that reads what matters begins a restart; otherwise all that matters is left. -/
theorem Served.read (hserved : hosted.Served) {client : ClientId} {inbox rest : Inbox}
    {reading : Inbox.Reading}
    (hinbox : hosted.lifecycle.listeners.lookup client = some inbox)
    (hnext : inbox.next? = some (reading, rest)) {next : Lifecycle} (hsound : next.Sound)
    (hresult : next = ({ hosted.lifecycle with
      listeners := Lifecycle.assign client rest hosted.lifecycle.listeners }.react reading).1) :
    { hosted with lifecycle := next }.Served := by
  have hkept : ∀ other, hosted.lifecycle.controller.Keeps other → other.id = client := by
    intro other hkeeps
    obtain ⟨kept, hkept, hid⟩ := hserved.sound.attended _ (Lifecycle.mem_of_lookup hinbox)
    rw [hserved.sound.controller.keeps_unique hkept hkeeps]
    exact hid
  have hself := Lifecycle.lookup_assign_self client rest hosted.lifecycle.listeners
  rcases Lifecycle.react_eq { hosted.lifecycle with
      listeners := Lifecycle.assign client rest hosted.lifecycle.listeners } reading with
    hsame | hbegun
  · rw [hsame] at hresult
    subst hresult
    refine ⟨hsound, hserved.found, ?_, ?_⟩
    · intro hopen other hkeeps
      exact ⟨rest, by rw [hkept other hkeeps]; exact hself⟩
    · intro other hkeeps
      rcases hserved.fresh other hkeeps with hfresh | halarmed | ⟨found, hfound, hhot⟩
      · exact Or.inl hfresh
      · exact Or.inr (Or.inl halarmed)
      · rw [hkept other hkeeps, hinbox] at hfound
        rw [← Option.some.inj hfound] at hhot
        cases Inbox.isHot_rest hnext hhot with
        | inl hrelevant =>
            have hbegun := Lifecycle.react_of_isRelevant { hosted.lifecycle with
              listeners := Lifecycle.assign client rest hosted.lifecycle.listeners } hrelevant
            rw [hsame] at hbegun
            have hjobs := congrArg (fun lifecycle => lifecycle.controller.nextJob) hbegun
            exact absurd hjobs (Nat.ne_of_lt (Nat.lt_succ_self _))
        | inr hrest =>
            exact Or.inr (Or.inr ⟨rest, by rw [hkept other hkeeps]; exact hself, hrest⟩)
  · rw [hbegun] at hresult
    subst hresult
    refine ⟨hsound, ?_, ?_, ?_⟩
    · intro job hmem closed context scope roots hstage
      exact hserved.found job (Controller.mem_of_begin hmem (by simp [hstage])) closed context
        scope roots hstage
    · intro hopen other hkeeps
      exact ⟨rest, by rw [hkept other (Lifecycle.keeps_begin.mp hkeeps)]; exact hself⟩
    · intro other hkeeps
      exact Or.inr (Or.inl (Lifecycle.alarmed_begin (Or.inr rfl)))

theorem Served.lifecycle (hserved : hosted.Served) {move : Lifecycle.Move} {next : Lifecycle}
    (hpermits : hosted.permits move = true)
    (hmove : hosted.lifecycle.next? move = some (next, effects)) :
    { hosted with lifecycle := next }.Served := by
  have hnext := hserved.sound.step hmove
  cases Lifecycle.advance_of_next? hserved.sound.controller hmove with
  | rest hawaits hcontroller hlisteners hcontrols =>
      obtain ⟨hsound, hfound, hheard, hfresh⟩ := hserved
      rw [← hcontroller] at hfound hheard hfresh
      rw [← hlisteners] at hheard hfresh
      exact ⟨hnext, hfound, hheard, hfresh⟩
  | call herrand =>
      refine ⟨hnext, ?_, ?_, ?_⟩
      · intro job hmem closed context scope roots hstage
        exact hserved.found job (Controller.mem_of_begin hmem (by simp [hstage])) closed context
          scope roots hstage
      · intro hopen client hkeeps
        exact hserved.heard hopen client (Lifecycle.keeps_begin.mp hkeeps)
      · intro client hkeeps
        refine (hserved.fresh client (Lifecycle.keeps_begin.mp hkeeps)).imp_right
          (Or.imp_left fun halarmed => ?_)
        exact Lifecycle.alarmed_begin (Or.inl halarmed)
  | announce =>
      exact hserved.announce hosted.folder fun client hkeeps hfresh => Or.inl hfresh
  | @turn around id job _ _ hjob harrives hlisteners =>
      obtain ⟨-, rfl⟩ := Controller.mem_of_job? hjob
      exact hserved.turn hpermits hnext hjob harrives hlisteners
  | read hinbox hread => exact hserved.read hinbox hread hnext rfl
  | @hush around client inbox hclosed hinbox hempty =>
      obtain ⟨-, -, hchannel, -⟩ := situation_of_isHonest hpermits
      refine ⟨hnext, hserved.found, ?_, ?_⟩
      · intro hopen
        rw [hchannel] at hclosed
        exact absurd (hclosed.symm.trans hopen) (by simp)
      · intro other hkeeps
        refine (hserved.fresh other hkeeps).imp_right (Or.imp_right ?_)
        rintro ⟨found, hfound, hhot⟩
        obtain ⟨kept, hkept, hid⟩ := hserved.sound.attended _ (Lifecycle.mem_of_lookup hinbox)
        rw [hserved.sound.controller.keeps_unique hkept hkeeps, hid, hinbox] at hfound
        rw [← Option.some.inj hfound] at hhot
        exact absurd hempty (Inbox.next?_ne_none_of_isHot hhot)

theorem Served.step (hserved : hosted.Served) {move : Move}
    (hmove : hosted.next? move = some (after, effects)) : after.Served := by
  cases move with
  | change folder capacity change =>
      simp only [next?, Option.ite_none_right_eq_some, Bool.and_eq_true, Option.some.injEq,
        Prod.mk.injEq] at hmove
      obtain ⟨⟨hopen, hannounces⟩, rfl, -⟩ := hmove
      refine hserved.announce folder fun client hkeeps hfresh => ?_
      cases Settings.isRelevant_of_announces hannounces with
      | inl hagrees =>
          exact Or.inl (isFresh_of_agrees hagrees hfresh)
      | inr hrelevant =>
          exact Or.inr ⟨hopen, hrelevant⟩
  | drift folder =>
      simp only [next?, Option.ite_none_right_eq_some, Option.some.injEq, Prod.mk.injEq] at hmove
      obtain ⟨hagrees, rfl, -⟩ := hmove
      exact hserved.drift hagrees
  | closeChannel =>
      simp only [next?, Option.some.injEq, Prod.mk.injEq] at hmove
      obtain ⟨rfl, -⟩ := hmove
      exact hserved.closeChannel
  | lifecycle move =>
      simp only [next?, Option.ite_none_right_eq_some, Option.map_eq_some_iff, Prod.mk.injEq]
        at hmove
      obtain ⟨hpermits, ⟨next, made⟩, hnext, rfl, -⟩ := hmove
      exact hserved.lifecycle hpermits hnext

theorem served_idle (options : Controller.Options) (workingDirectory : Path)
    (roots : List Root) (folder : Settings) :
    (idle options workingDirectory roots folder).Served where
  sound := Lifecycle.sound_idle options
  found := fun _ hmem => absurd hmem List.not_mem_nil
  heard := by
    rintro - client (hclient | ⟨job, hmem, -⟩)
    · exact absurd hclient (by simp [idle, Lifecycle.idle, Controller.idle])
    · exact absurd hmem List.not_mem_nil
  fresh := by
    rintro client (hclient | ⟨job, hmem, -⟩)
    · exact absurd hclient (by simp [idle, Lifecycle.idle, Controller.idle])
    · exact absurd hmem List.not_mem_nil

/-- The directory and the roots stay the same. -/
theorem constant_of_next? {move : Move} (hmove : hosted.next? move = some (after, effects)) :
    after.workingDirectory = hosted.workingDirectory ∧ after.roots = hosted.roots := by
  cases move with
  | change folder capacity change =>
      simp only [next?, Option.ite_none_right_eq_some, Option.some.injEq, Prod.mk.injEq] at hmove
      obtain ⟨-, rfl, -⟩ := hmove
      exact ⟨rfl, rfl⟩
  | drift folder =>
      simp only [next?, Option.ite_none_right_eq_some, Option.some.injEq, Prod.mk.injEq] at hmove
      obtain ⟨-, rfl, -⟩ := hmove
      exact ⟨rfl, rfl⟩
  | closeChannel =>
      simp only [next?, Option.some.injEq, Prod.mk.injEq] at hmove
      obtain ⟨rfl, -⟩ := hmove
      exact ⟨rfl, rfl⟩
  | lifecycle move =>
      simp only [next?, Option.ite_none_right_eq_some, Option.map_eq_some_iff, Prod.mk.injEq]
        at hmove
      obtain ⟨-, _, -, rfl, -⟩ := hmove
      exact ⟨rfl, rfl⟩

theorem served_of_run {options : Controller.Options} {workingDirectory : Path}
    {roots : List Root} {folder : Settings} {moves : List Move}
    (hrun : Run.follow next? (idle options workingDirectory roots folder) moves =
      some (after, effects)) :
    after.Served ∧ after.workingDirectory = workingDirectory ∧ after.roots = roots := by
  refine Run.follow_induction
    (fun hosted _ => hosted.Served ∧ hosted.workingDirectory = workingDirectory ∧
      hosted.roots = roots)
    ⟨served_idle options workingDirectory roots folder, rfl, rfl⟩ ?_ hrun
  rintro before past move next more - ⟨hserved, hdirectory, hroots⟩ hmove
  obtain ⟨hsame_directory, hsame_roots⟩ := constant_of_next? hmove
  exact ⟨hserved.step hmove, hsame_directory.trans hdirectory, hsame_roots.trans hroots⟩

/-- No change of the settings is lost.  Where the lock is free, no restart is under way and
nothing is left to be read, a client that runs was built from the settings that the host has. -/
theorem configuration_of_run (options : Controller.Options) (workingDirectory : Path)
    (roots : List Root) (folder : Settings) {moves : List Move}
    (hrun : Run.follow next? (idle options workingDirectory roots folder) moves =
      some (after, effects))
    (hfree : after.lifecycle.controller.holder = none)
    (hsettled : ∀ job ∈ after.lifecycle.controller.jobs, job.errand ≠ .settle)
    (hread : ∀ entry ∈ after.lifecycle.listeners, entry.2.next? = none)
    (hrunning : after.lifecycle.controller.state = .running) :
    ∃ client, after.lifecycle.controller.client = some client ∧
      client.configuration.roots = Workspace.resolve workingDirectory after.folder.sources
        after.folder.testSources roots ∧
      client.configuration.contribLibraries = after.folder.contribLibraries := by
  obtain ⟨hserved, hdirectory, hroots⟩ := served_of_run hrun
  obtain ⟨client, -, hclient, -⟩ :=
    (hserved.sound.controller.rested_of_isFree (Or.inl hfree)).resolve_right
      fun hvacant => absurd (hvacant.1.symm.trans hrunning) (by simp)
  have hfresh : after.IsFresh client := by
    rcases hserved.fresh client (Or.inl hclient) with hfresh | ⟨job, hmem, herrand, -⟩ |
      ⟨inbox, hinbox, hhot⟩
    · exact hfresh
    · exact absurd herrand (hsettled job hmem)
    · exact absurd (hread _ (Lifecycle.mem_of_lookup hinbox))
        (Inbox.next?_ne_none_of_isHot hhot)
  refine ⟨client, hclient, ?_, hfresh.2⟩
  rw [← hdirectory, ← hroots]
  exact hfresh.1

/-- While a client runs, the folder of the sources is set; the client is restarted with it. -/
def practiceChange : List Move :=
  let folder : Settings := { sources := some "/w/src" }
  let quiet := Lifecycle.practiceSurroundings folder 0 none
  let agreed := Lifecycle.practiceSurroundings folder 0 (some (.bytes (Frame.encode
    "\x7b\"jsonrpc\":\"2.0\",\"id\":2,\"result\":null\x7d")))
  let late := Lifecycle.practiceSurroundings folder 500 none
  let restart : List Lifecycle.Move :=
    [.task quiet (.listener 0), .task quiet (.job 1), .task agreed (.session 0 (.reader 1)),
      .task quiet (.session 0 (.reader 1)), .task quiet (.job 1), .task quiet (.job 1),
      .task late (.job 1)] ++ Lifecycle.practiceGreeting folder 1 ++
      [.task late (.job 1), .task late (.job 1)]
  Lifecycle.practiceStart.map .lifecycle ++ [.change folder 16 ⟨["NPL"]⟩] ++
    restart.map .lifecycle

set_option maxRecDepth 100000 in
theorem practiceChange_state :
    (Run.follow next? (idle ⟨500, 3⟩ (.ofString "/") [⟨.ofString "/w", "w", 0⟩] {})
      practiceChange).map (fun (last, _) =>
        (last.lifecycle.controller.holder, last.lifecycle.controller.jobs,
          last.lifecycle.listeners.map Prod.snd, last.lifecycle.controller.state,
          last.folder.sources)) =
      some (none, [], [.empty], .running, some "/w/src") := by
  decide +kernel

theorem configuration_of_practiceChange : ∃ last effects client,
    Run.follow next? (idle ⟨500, 3⟩ (.ofString "/") [⟨.ofString "/w", "w", 0⟩] {})
      practiceChange = some (last, effects) ∧
    last.lifecycle.controller.client = some client ∧
    client.configuration.roots = Workspace.resolve (.ofString "/") (some "/w/src")
      last.folder.testSources [⟨.ofString "/w", "w", 0⟩] := by
  obtain ⟨⟨last, effects⟩, hrun, hstate⟩ := Option.map_eq_some_iff.mp practiceChange_state
  simp only [Prod.mk.injEq] at hstate
  obtain ⟨hfree, hjobs, hlisteners, hrunning, hsources⟩ := hstate
  obtain ⟨client, hclient, hroots, -⟩ := configuration_of_run ⟨500, 3⟩ (.ofString "/")
    [⟨.ofString "/w", "w", 0⟩] {} hrun hfree
    (by
      rw [hjobs]
      exact fun job hmem => absurd hmem List.not_mem_nil)
    (by
      intro entry hentry
      have hinbox : entry.2 ∈ last.lifecycle.listeners.map Prod.snd :=
        List.mem_map_of_mem hentry
      rw [hlisteners, List.mem_singleton] at hinbox
      rw [hinbox]
      rfl)
    hrunning
  rw [hsources] at hroots
  exact ⟨last, effects, client, hrun, hclient, hroots⟩

end Serving

end Hosted

end NplLifecycle
