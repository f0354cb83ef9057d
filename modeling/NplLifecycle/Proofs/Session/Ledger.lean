import Mathlib.Data.List.Basic
import NplLifecycle.Client.Error
import NplLifecycle.Message.Basic

/-!
# The ledger of requests

Who makes requests, who hears responses and who closes the session are different tasks, and they
meet in three things only: the number of the next request, the requests that wait, and what became
of those that nobody has asked after yet.  That is the ledger.  Whatever happens to it is an entry
of a journal, and what is true of the requests can be read off the journal: the numbers of all
requests are different, and a request is answered by the first response with its number that was
heard before the session was closed and before its maker gave it up.
-/

namespace NplLifecycle.Session

inductive Entry where
  /-- A request is made. -/
  | asked (id : RequestId)
  /-- A response arrives. -/
  | heard (response : Response)
  /-- The session is closed, with all requests that have no response. -/
  | closed
  /-- The maker of a request learns how it went, or gives it up. -/
  | returned (id : RequestId) (result : Except ClientError Response)

namespace Entry

def asked? : Entry → Option RequestId
  | .asked id => some id
  | _ => none

def returned? : Entry → Option RequestId
  | .returned id _ => some id
  | _ => none

/-- Does an entry have to do with a request? -/
def Concerns (id : RequestId) : Entry → Prop
  | .asked other => other = id
  | .heard response => response.id = some id
  | .closed => True
  | .returned other _ => other = id

end Entry

def askedIn (journal : List Entry) : List RequestId :=
  journal.filterMap Entry.asked?

def returnedIn (journal : List Entry) : List RequestId :=
  journal.filterMap Entry.returned?

/-- A request was made, and nothing has had to do with it since. -/
def Open (id : RequestId) (journal : List Entry) : Prop :=
  ∃ early late, journal = early ++ .asked id :: late ∧ ∀ entry ∈ late, ¬entry.Concerns id

/-- A response was the first thing to have to do with the request of its number. -/
def Answered (id : RequestId) (response : Response) (journal : List Entry) : Prop :=
  response.id = some id ∧
    ∃ early late, journal = early ++ .heard response :: late ∧ Open id early

/-- The session was closed before anything else had to do with a request. -/
def Dropped (id : RequestId) (journal : List Entry) : Prop :=
  ∃ early late, journal = early ++ .closed :: late ∧ Open id early

/-- How a request may end, after what the journal says. -/
inductive Resolved (journal : List Entry) (id : RequestId) : Except ClientError Response → Prop
  | answered {response : Response} (hanswered : Answered id response journal) :
      Resolved journal id (.ok response)
  | dropped (hdropped : Dropped id journal) : Resolved journal id (.error .connectionClosed)
  /-- It could not be sent, or its time was up. -/
  | failed {failure : ClientError} (hopen : Open id journal) :
      Resolved journal id (.error failure)

/-- Where the tasks of a session meet. -/
structure Ledger where
  next : Nat
  pending : List RequestId
  settled : List (RequestId × Option Response)

namespace Ledger

def ask (ledger : Ledger) : Ledger :=
  { ledger with
    next := ledger.next + 1
    pending := ledger.pending ++ [.number ledger.next] }

def close (ledger : Ledger) : Ledger :=
  { ledger with
    pending := []
    settled := ledger.settled ++ ledger.pending.map fun id => (id, none) }

/-- A response settles the request of its number, if that waits. -/
def hear (ledger : Ledger) (response : Response) : Ledger :=
  match response.id with
  | none => ledger
  | some id =>
    if ledger.pending.contains id then
      { ledger with
        pending := ledger.pending.filter (· ≠ id)
        settled := ledger.settled ++ [(id, some response)] }
    else ledger

/-- What an entry of the journal does to the ledger, and when it can be made. -/
inductive Step (ledger : Ledger) : Entry → Ledger → Prop
  | asked : Step ledger (.asked (.number ledger.next)) ledger.ask
  | heard (response : Response) : Step ledger (.heard response) (ledger.hear response)
  | closed : Step ledger .closed ledger.close
  | answered {id : RequestId} {response : Response}
      (hsettled : ledger.settled.lookup id = some (some response)) :
      Step ledger (.returned id (.ok response))
        { ledger with settled := ledger.settled.filter (·.1 ≠ id) }
  | dropped {id : RequestId} (hsettled : ledger.settled.lookup id = some none) :
      Step ledger (.returned id (.error .connectionClosed))
        { ledger with settled := ledger.settled.filter (·.1 ≠ id) }
  | failed {id : RequestId} (failure : ClientError) (hpending : id ∈ ledger.pending) :
      Step ledger (.returned id (.error failure))
        { ledger with pending := ledger.pending.filter (· ≠ id) }

/-- What the entries of a journal do to the ledger, one after the other. -/
inductive Steps : Ledger → List Entry → Ledger → Prop
  | nil (ledger : Ledger) : Steps ledger [] ledger
  | cons {ledger middle after : Ledger} {entry : Entry} {rest : List Entry}
      (hstep : ledger.Step entry middle) (hrest : Steps middle rest after) :
      Steps ledger (entry :: rest) after

/-- The ledger knows of a request: it waits, or it is settled. -/
def Knows (ledger : Ledger) (id : RequestId) : Prop :=
  id ∈ ledger.pending ∨ id ∈ ledger.settled.map Prod.fst

end Ledger

section Journals

variable {id : RequestId} {journal more : List Entry} {entry : Entry} {response : Response}
  {result : Except ClientError Response}

@[simp]
theorem askedIn_append : askedIn (journal ++ more) = askedIn journal ++ askedIn more :=
  List.filterMap_append

@[simp]
theorem returnedIn_append :
    returnedIn (journal ++ more) = returnedIn journal ++ returnedIn more :=
  List.filterMap_append

@[simp]
theorem askedIn_singleton : askedIn [entry] = entry.asked?.toList := by
  cases entry <;> rfl

@[simp]
theorem returnedIn_singleton : returnedIn [entry] = entry.returned?.toList := by
  cases entry <;> rfl

theorem Open.mem_askedIn (hopen : Open id journal) : id ∈ askedIn journal := by
  obtain ⟨early, late, rfl, -⟩ := hopen
  exact List.mem_filterMap.mpr ⟨.asked id, by simp, rfl⟩

theorem open_asked (journal : List Entry) (id : RequestId) : Open id (journal ++ [.asked id]) :=
  ⟨journal, [], rfl, fun _ hmem => absurd hmem List.not_mem_nil⟩

theorem Open.snoc (hopen : Open id journal) (hother : ¬entry.Concerns id) :
    Open id (journal ++ [entry]) := by
  obtain ⟨early, late, rfl, hlate⟩ := hopen
  refine ⟨early, late ++ [entry], by simp, ?_⟩
  intro other hmem
  rcases List.mem_append.mp hmem with hmem | hmem
  · exact hlate other hmem
  · rw [List.mem_singleton.mp hmem]
    exact hother

theorem Answered.append (hanswered : Answered id response journal) (more : List Entry) :
    Answered id response (journal ++ more) := by
  obtain ⟨hid, early, late, rfl, hopen⟩ := hanswered
  exact ⟨hid, early, late ++ more, by simp, hopen⟩

theorem Dropped.append (hdropped : Dropped id journal) (more : List Entry) :
    Dropped id (journal ++ more) := by
  obtain ⟨early, late, rfl, hopen⟩ := hdropped
  exact ⟨early, late ++ more, by simp, hopen⟩

theorem Answered.mem_askedIn (hanswered : Answered id response journal) :
    id ∈ askedIn journal := by
  obtain ⟨-, early, late, rfl, hopen⟩ := hanswered
  simp [hopen.mem_askedIn]

theorem Dropped.mem_askedIn (hdropped : Dropped id journal) : id ∈ askedIn journal := by
  obtain ⟨early, late, rfl, hopen⟩ := hdropped
  simp [hopen.mem_askedIn]

end Journals

namespace Ledger

/-- What became of a request, as the journal says it. -/
def Settled (journal : List Entry) (id : RequestId) : Option Response → Prop
  | some response => Answered id response journal
  | none => Dropped id journal

/-- The journal and the ledger agree, and the journal is in order. -/
structure Sound (journal : List Entry) (ledger : Ledger) : Prop where
  asked : ∀ id ∈ askedIn journal, ∃ n < ledger.next, id = .number n
  distinct : (askedIn journal).Nodup
  pending : ∀ id ∈ ledger.pending, Open id journal
  settled : ∀ entry ∈ ledger.settled, Settled journal entry.1 entry.2
  apart : ∀ id ∈ ledger.pending, id ∉ ledger.settled.map Prod.fst
  once : (returnedIn journal).Nodup
  returned : ∀ id ∈ returnedIn journal,
    id ∈ askedIn journal ∧ id ∉ ledger.pending ∧ id ∉ ledger.settled.map Prod.fst
  resolved : ∀ early late id result, journal = early ++ .returned id result :: late →
    Resolved early id result

section Steps

variable {journal more : List Entry} {ledger after : Ledger} {entry : Entry} {id : RequestId}
  {answer : Option Response} {result : Except ClientError Response}

theorem mem_of_lookup {Key Value : Type} [BEq Key] [LawfulBEq Key] {key : Key} {value : Value}
    {entries : List (Key × Value)} (hlookup : entries.lookup key = some value) :
    (key, value) ∈ entries := by
  obtain ⟨early, late, rfl, -⟩ := List.lookup_eq_some_iff.mp hlookup
  simp

theorem Settled.append (hsettled : Settled journal id answer) :
    Settled (journal ++ more) id answer := by
  cases answer with
  | none => exact Dropped.append hsettled more
  | some response => exact Answered.append hsettled more

theorem Settled.mem_askedIn (hsettled : Settled journal id answer) : id ∈ askedIn journal := by
  cases answer with
  | none => exact Dropped.mem_askedIn hsettled
  | some response => exact Answered.mem_askedIn hsettled

/-- Every return in a journal that is one entry longer is the last entry, or was there before. -/
theorem resolved_snoc
    (hresolved : ∀ early late id result, journal = early ++ .returned id result :: late →
      Resolved early id result)
    (hlast : ∀ id result, entry = .returned id result → Resolved journal id result) :
    ∀ early late id result, journal ++ [entry] = early ++ .returned id result :: late →
      Resolved early id result := by
  intro early late id result hsplit
  rcases List.eq_nil_or_concat late with rfl | ⟨front, last, rfl⟩
  · obtain ⟨rfl, rfl⟩ := List.append_singleton_inj.mp hsplit
    exact hlast id result rfl
  · rw [List.concat_eq_append, ← List.cons_append, ← List.append_assoc,
      List.append_singleton_inj] at hsplit
    exact hresolved early front id result hsplit.1

/-- The request that is made next is none of those before. -/
theorem Sound.fresh (hsound : Sound journal ledger) :
    .number ledger.next ∉ askedIn journal := by
  intro hmem
  obtain ⟨n, hn, hid⟩ := hsound.asked _ hmem
  have hsame : n = ledger.next := by
    have := RequestId.number.inj hid
    omega
  omega

/-- Every request in the books was made. -/
theorem Sound.asked_of_knows (hsound : Sound journal ledger) (hknows : ledger.Knows id) :
    id ∈ askedIn journal := by
  rcases hknows with hwaits | hkeys
  · exact (hsound.pending id hwaits).mem_askedIn
  · obtain ⟨settled, hmem, rfl⟩ := List.mem_map.mp hkeys
    exact (hsound.settled settled hmem).mem_askedIn

/-- A request in the books is none that is made next. -/
theorem Sound.ne_next (hsound : Sound journal ledger) (hknows : ledger.Knows id) :
    id ≠ .number ledger.next := by
  rintro rfl
  exact hsound.fresh (hsound.asked_of_knows hknows)

theorem Sound.nil : Sound [] ⟨1, [], []⟩ where
  asked := by simp [askedIn]
  distinct := List.nodup_nil
  pending := by simp
  settled := by simp
  apart := by simp
  once := List.nodup_nil
  returned := by simp [returnedIn]
  resolved := by simp

theorem Sound.asked_snoc (hsound : Sound journal ledger) :
    Sound (journal ++ [.asked (.number ledger.next)]) ledger.ask where
  asked := by
    intro id hmem
    rw [askedIn_append, List.mem_append] at hmem
    rcases hmem with hmem | hmem
    · obtain ⟨n, hn, hid⟩ := hsound.asked id hmem
      exact ⟨n, Nat.lt_succ_of_lt hn, hid⟩
    · exact ⟨ledger.next, Nat.lt_succ_self _, by simpa [Entry.asked?] using hmem⟩
  distinct := by
    rw [askedIn_append, List.nodup_append]
    refine ⟨hsound.distinct, by simp [Entry.asked?], ?_⟩
    intro id hmem other hother hsame
    have hnext : other = .number ledger.next := by simpa [Entry.asked?] using hother
    rw [hsame, hnext] at hmem
    exact hsound.fresh hmem
  pending := by
    intro id hmem
    rcases List.mem_append.mp hmem with hmem | hmem
    · refine (hsound.pending id hmem).snoc ?_
      exact fun hsame => hsound.ne_next (.inl hmem) hsame.symm
    · rw [List.mem_singleton.mp hmem]
      exact open_asked journal _
  settled entry hmem := (hsound.settled entry hmem).append
  apart := by
    intro id hmem
    rcases List.mem_append.mp hmem with hmem | hmem
    · exact hsound.apart id hmem
    · exact fun hsettled => hsound.ne_next (.inr hsettled) (List.mem_singleton.mp hmem)
  once := by simpa [Entry.returned?] using hsound.once
  returned := by
    intro id hmem
    obtain ⟨hasked, hpending, hsettled⟩ :=
      hsound.returned id (by simpa [Entry.returned?] using hmem)
    refine ⟨by simp [hasked], ?_, hsettled⟩
    intro hnow
    rcases List.mem_append.mp hnow with hnow | hnow
    · exact hpending hnow
    · rw [List.mem_singleton.mp hnow] at hasked
      exact hsound.fresh hasked
  resolved := resolved_snoc hsound.resolved (by simp)

/-- Where neither a request is made nor one is over, it is enough to follow those that wait and
those that are settled. -/
theorem Sound.snoc_of_silent (hsound : Sound journal ledger) (hasked : entry.asked? = none)
    (hreturned : entry.returned? = none) (hnext : after.next = ledger.next)
    (hpending : ∀ id ∈ after.pending, id ∈ ledger.pending ∧ ¬entry.Concerns id ∧
      id ∉ after.settled.map Prod.fst)
    (hsettled : ∀ settled ∈ after.settled, settled ∈ ledger.settled ∨
      settled.1 ∈ ledger.pending ∧ Settled (journal ++ [entry]) settled.1 settled.2) :
    Sound (journal ++ [entry]) after where
  asked := by simpa [hasked, hnext] using hsound.asked
  distinct := by simpa [hasked] using hsound.distinct
  pending id hmem :=
    (hsound.pending id (hpending id hmem).1).snoc (hpending id hmem).2.1
  settled settled hmem := by
    rcases hsettled settled hmem with hold | ⟨-, hnew⟩
    · exact (hsound.settled settled hold).append
    · exact hnew
  apart id hmem := (hpending id hmem).2.2
  once := by simpa [hreturned] using hsound.once
  returned := by
    intro id hmem
    obtain ⟨hmade, hwaits, hkeys⟩ := hsound.returned id (by simpa [hreturned] using hmem)
    refine ⟨by simp [hmade], fun hnow => hwaits (hpending id hnow).1, ?_⟩
    intro hnow
    obtain ⟨settled, hnew, rfl⟩ := List.mem_map.mp hnow
    rcases hsettled settled hnew with hold | ⟨hwaited, -⟩
    · exact hkeys (List.mem_map_of_mem hold)
    · exact hwaits hwaited
  resolved := by
    refine resolved_snoc hsound.resolved ?_
    intro id result hentry
    rw [hentry] at hreturned
    exact absurd hreturned (by simp [Entry.returned?])

theorem Sound.heard_snoc (hsound : Sound journal ledger) (response : Response) :
    Sound (journal ++ [.heard response]) (ledger.hear response) := by
  cases hid : response.id with
  | none =>
      have hsame : ledger.hear response = ledger := by simp [hear, hid]
      rw [hsame]
      refine hsound.snoc_of_silent rfl rfl rfl ?_ (fun settled hmem => .inl hmem)
      intro id hmem
      exact ⟨hmem, by simp [Entry.Concerns, hid], hsound.apart id hmem⟩
  | some number =>
      by_cases hwaits : number ∈ ledger.pending
      · have hheard : ledger.hear response =
            { ledger with
              pending := ledger.pending.filter (· ≠ number)
              settled := ledger.settled ++ [(number, some response)] } := by
          simp [hear, hid, hwaits]
        rw [hheard]
        refine hsound.snoc_of_silent rfl rfl rfl ?_ ?_
        · intro id hmem
          obtain ⟨hold, hne⟩ := List.mem_filter.mp hmem
          have hother : id ≠ number := by simpa using hne
          have hapart := hsound.apart id hold
          refine ⟨hold, ?_, by simpa [hother] using hapart⟩
          simpa [Entry.Concerns, hid] using fun hsame => hother hsame.symm
        · intro settled hmem
          rcases List.mem_append.mp hmem with hmem | hmem
          · exact .inl hmem
          · rw [List.mem_singleton.mp hmem]
            exact .inr ⟨hwaits, hid, journal, [], rfl, hsound.pending number hwaits⟩
      · have hsame : ledger.hear response = ledger := by simp [hear, hid, hwaits]
        rw [hsame]
        refine hsound.snoc_of_silent rfl rfl rfl ?_ (fun settled hmem => .inl hmem)
        intro id hmem
        refine ⟨hmem, ?_, hsound.apart id hmem⟩
        intro hsame
        have hnumber : number = id := by simpa [Entry.Concerns, hid] using hsame
        rw [hnumber] at hwaits
        exact hwaits hmem

theorem Sound.closed_snoc (hsound : Sound journal ledger) :
    Sound (journal ++ [.closed]) ledger.close := by
  refine hsound.snoc_of_silent rfl rfl rfl (by simp [close]) ?_
  intro settled hmem
  rcases List.mem_append.mp hmem with hmem | hmem
  · exact .inl hmem
  · obtain ⟨id, hid, rfl⟩ := List.mem_map.mp hmem
    exact .inr ⟨hid, journal, [], rfl, hsound.pending id hid⟩

/-- A request may be over that waits or is settled; of all others, things stay as they are. -/
theorem Sound.returned_snoc (hsound : Sound journal ledger)
    (hknown : ledger.Knows id) (hresult : Resolved journal id result)
    (hnext : after.next = ledger.next)
    (hpending : ∀ other ∈ after.pending, other ∈ ledger.pending ∧ other ≠ id)
    (hsettled : ∀ settled ∈ after.settled, settled ∈ ledger.settled ∧ settled.1 ≠ id) :
    Sound (journal ++ [.returned id result]) after where
  asked := by simpa [Entry.asked?, hnext] using hsound.asked
  distinct := by simpa [Entry.asked?] using hsound.distinct
  pending := by
    intro other hmem
    obtain ⟨hold, hne⟩ := hpending other hmem
    exact (hsound.pending other hold).snoc (fun hsame => hne hsame.symm)
  settled settled hmem := (hsound.settled settled (hsettled settled hmem).1).append
  apart := by
    intro other hmem hkeys
    obtain ⟨settled, hsettled', rfl⟩ := List.mem_map.mp hkeys
    exact hsound.apart _ (hpending _ hmem).1 (List.mem_map_of_mem (hsettled settled hsettled').1)
  once := by
    rw [returnedIn_append, List.nodup_append]
    refine ⟨hsound.once, by simp [Entry.returned?], ?_⟩
    intro other hmem last hlast hsame
    have hid : last = id := by simpa [Entry.returned?] using hlast
    rw [hsame, hid] at hmem
    obtain ⟨-, hwaits, hkeys⟩ := hsound.returned id hmem
    exact hknown.elim hwaits hkeys
  returned := by
    intro other hmem
    rw [returnedIn_append, List.mem_append] at hmem
    rcases hmem with hmem | hmem
    · obtain ⟨hasked, hwaits, hkeys⟩ := hsound.returned other hmem
      refine ⟨by simp [hasked], fun hnow => hwaits (hpending other hnow).1, ?_⟩
      intro hnow
      obtain ⟨settled, hnew, rfl⟩ := List.mem_map.mp hnow
      exact hkeys (List.mem_map_of_mem (hsettled settled hnew).1)
    · have hid : other = id := by simpa [Entry.returned?] using hmem
      rw [hid]
      refine ⟨by simp [hsound.asked_of_knows hknown], fun hnow => (hpending id hnow).2 rfl, ?_⟩
      intro hnow
      obtain ⟨settled, hmem, hsame⟩ := List.mem_map.mp hnow
      exact (hsettled settled hmem).2 hsame
  resolved := by
    refine resolved_snoc hsound.resolved ?_
    intro other outcome hentry
    obtain ⟨rfl, rfl⟩ := Entry.returned.inj hentry
    exact hresult

/-- The maker of a settled request learns what became of it. -/
theorem Sound.fetched_snoc (hsound : Sound journal ledger)
    (hlookup : ledger.settled.lookup id = some answer)
    (hresult : Settled journal id answer → Resolved journal id result) :
    Sound (journal ++ [.returned id result])
      { ledger with settled := ledger.settled.filter (·.1 ≠ id) } := by
  have hmem := mem_of_lookup hlookup
  have hkeys : id ∈ ledger.settled.map Prod.fst := List.mem_map_of_mem hmem
  refine hsound.returned_snoc (.inr hkeys) (hresult (hsound.settled _ hmem)) rfl ?_ ?_
  · intro other hwaits
    refine ⟨hwaits, ?_⟩
    rintro rfl
    exact hsound.apart other hwaits hkeys
  · intro settled hkept
    simpa using hkept

/-- The maker of a request that waits gives it up. -/
theorem Sound.failed_snoc (hsound : Sound journal ledger) (hpending : id ∈ ledger.pending)
    (failure : ClientError) :
    Sound (journal ++ [.returned id (.error failure)])
      { ledger with pending := ledger.pending.filter (· ≠ id) } := by
  refine hsound.returned_snoc (.inl hpending) (.failed (hsound.pending id hpending)) rfl ?_ ?_
  · intro other hwaits
    simpa using hwaits
  · intro settled hkept
    refine ⟨hkept, ?_⟩
    rintro rfl
    exact hsound.apart _ hpending (List.mem_map_of_mem hkept)

/-- An entry keeps journal and ledger in agreement. -/
theorem Sound.step (hsound : Sound journal ledger) (hstep : ledger.Step entry after) :
    Sound (journal ++ [entry]) after := by
  cases hstep with
  | asked => exact hsound.asked_snoc
  | heard response => exact hsound.heard_snoc response
  | closed => exact hsound.closed_snoc
  | answered hsettled => exact hsound.fetched_snoc hsettled .answered
  | dropped hsettled => exact hsound.fetched_snoc hsettled .dropped
  | failed failure hpending => exact hsound.failed_snoc hpending failure

theorem Sound.steps {entries : List Entry} (hsound : Sound journal ledger)
    (hsteps : ledger.Steps entries after) : Sound (journal ++ entries) after := by
  induction hsteps generalizing journal with
  | nil => simpa using hsound
  | cons hstep _ ih => simpa using ih (hsound.step hstep)

theorem Step.single (hstep : ledger.Step entry after) : ledger.Steps [entry] after :=
  .cons hstep (.nil after)

/-- A request that cannot be sent is over at once, and only its number is gone. -/
theorem Sound.steps_unsent (hsound : Sound journal ledger) (failure : ClientError) :
    ledger.Steps
      [.asked (.number ledger.next), .returned (.number ledger.next) (.error failure), .closed]
      { ledger with next := ledger.next + 1 }.close := by
  have hfresh : ledger.pending.filter (· ≠ .number ledger.next) = ledger.pending := by
    refine List.filter_eq_self.mpr ?_
    intro id hmem
    simpa using hsound.ne_next (.inl hmem)
  have hask : { ledger with next := ledger.next + 1 } =
      { ledger.ask with pending := ledger.ask.pending.filter (· ≠ .number ledger.next) } := by
    simp only [ask, List.filter_append, hfresh]
    simp
  rw [hask]
  exact .cons .asked (.cons (.failed failure (by simp [ask])) (Step.single .closed))

/-- Only a request that is over is forgotten. -/
theorem Step.knows (hstep : ledger.Step entry after) (hknows : ledger.Knows id)
    (hother : entry.returned? ≠ some id) : after.Knows id := by
  cases hstep with
  | asked => exact hknows.imp_left fun hwaits => List.mem_append_left _ hwaits
  | heard response =>
      simp only [hear]
      split
      · exact hknows
      · rename_i number _
        split
        · simp only [Knows, List.map_append, List.mem_append, List.mem_filter]
          by_cases hsame : id = number
          · exact .inr (.inr (by simp [hsame]))
          · exact hknows.imp (fun hwaits => ⟨hwaits, by simpa using hsame⟩) .inl
        · exact hknows
  | closed =>
      refine .inr ?_
      simp only [close, List.map_append, List.mem_append]
      exact hknows.elim (fun hwaits => .inr (by simpa using hwaits)) .inl
  | answered | dropped =>
      have hne : id ≠ _ := fun hsame => hother (congrArg some hsame.symm)
      refine hknows.imp_right ?_
      intro hkeys
      obtain ⟨settled, hmem, rfl⟩ := List.mem_map.mp hkeys
      exact List.mem_map_of_mem (List.mem_filter.mpr ⟨hmem, by simpa using hne⟩)
  | failed failure hpending =>
      have hne : id ≠ _ := fun hsame => hother (congrArg some hsame.symm)
      exact hknows.imp_left fun hwaits => List.mem_filter.mpr ⟨hwaits, by simpa using hne⟩

theorem Steps.knows {entries : List Entry} (hsteps : ledger.Steps entries after)
    (hknows : ledger.Knows id) (hother : id ∉ returnedIn entries) : after.Knows id := by
  induction hsteps with
  | nil => exact hknows
  | @cons ledger middle after entry rest hstep _ ih =>
      rw [← List.singleton_append, returnedIn_append, List.mem_append, not_or] at hother
      refine ih (hstep.knows hknows ?_) hother.2
      intro hreturned
      exact hother.1 (by simp [hreturned])

/-- A request that is made and not over at once is known. -/
theorem Steps.knows_of_asked {entries : List Entry} (hsteps : ledger.Steps entries after)
    (hasked : id ∈ askedIn entries) (hother : id ∉ returnedIn entries) : after.Knows id := by
  induction hsteps with
  | nil => exact absurd hasked List.not_mem_nil
  | @cons ledger middle after entry rest hstep hrest ih =>
      rw [← List.singleton_append, returnedIn_append, List.mem_append, not_or] at hother
      rw [← List.singleton_append, askedIn_append, List.mem_append] at hasked
      rcases hasked with hfirst | hlater
      · refine hrest.knows ?_ hother.2
        cases hstep with
        | asked => exact .inl (by simp_all [ask, Entry.asked?])
        | _ => simp [Entry.asked?] at hfirst
      · exact ih hlater hother.2

/-- Whoever waits when the session is closed will learn that it was. -/
theorem lookup_close (hpending : id ∈ ledger.pending)
    (hunsettled : ledger.settled.lookup id = none) :
    ledger.close.settled.lookup id = some none := by
  obtain ⟨early, late, hsplit, hfirst⟩ := List.eq_append_cons_of_mem hpending
  have hdropped : (ledger.pending.map fun id => (id, (none : Option Response))).lookup id =
      some none := by
    refine List.lookup_eq_some_iff.mpr
      ⟨early.map fun id => (id, none), late.map fun id => (id, none), by simp [hsplit], ?_⟩
    intro entry hmem
    obtain ⟨other, hother, rfl⟩ := List.mem_map.mp hmem
    exact bne_iff_ne.mpr fun hsame => hfirst (hsame ▸ hother)
  rw [close, List.lookup_append, hunsettled, hdropped]
  rfl

/-- A request that was dropped stays so until its maker learns it. -/
theorem Step.dropped_or_returned (hstep : ledger.Step entry after)
    (hdropped : ledger.settled.lookup id = some none) :
    after.settled.lookup id = some none ∨ entry = .returned id (.error .connectionClosed) := by
  have happend (more : List (RequestId × Option Response)) :
      (ledger.settled ++ more).lookup id = some none := by
    rw [List.lookup_append, hdropped]
    rfl
  have hfilter (other : RequestId) (hne : id ≠ other) :
      (ledger.settled.filter (·.1 ≠ other)).lookup id = some none := by
    obtain ⟨early, late, hsplit, hfirst⟩ := List.lookup_eq_some_iff.mp hdropped
    refine List.lookup_eq_some_iff.mpr
      ⟨early.filter (·.1 ≠ other), late.filter (·.1 ≠ other), ?_, ?_⟩
    · rw [hsplit, List.filter_append, List.filter_cons_of_pos (by simpa using hne)]
    · exact fun entry hmem => hfirst entry (List.mem_filter.mp hmem).1
  cases hstep with
  | asked | failed => exact .inl hdropped
  | heard response =>
      simp only [hear]
      split
      · exact .inl hdropped
      · split
        · exact .inl (happend _)
        · exact .inl hdropped
  | closed => exact .inl (happend _)
  | @answered other response hsettled =>
      refine .inl (hfilter other ?_)
      rintro rfl
      exact absurd (hdropped.symm.trans hsettled) (by simp)
  | @dropped other hsettled =>
      by_cases hsame : id = other
      · exact .inr (hsame ▸ rfl)
      · exact .inl (hfilter other hsame)

theorem Steps.dropped_or_returned {entries : List Entry} (hsteps : ledger.Steps entries after)
    (hdropped : ledger.settled.lookup id = some none) :
    after.settled.lookup id = some none ∨ .returned id (.error .connectionClosed) ∈ entries := by
  induction hsteps with
  | nil => exact .inl hdropped
  | cons hstep hrest ih =>
      rcases hstep.dropped_or_returned hdropped with hstill | rfl
      · exact (ih hstill).imp_right fun hmem => List.mem_cons_of_mem _ hmem
      · exact .inr List.mem_cons_self

end Steps

end Ledger

end NplLifecycle.Session
