import NplLifecycle.Proofs.Message.Shapes
import NplLifecycle.Proofs.Session.Turn

/-!
# Responses without an identifier

A session could be handed a response without an identifier, and would only note so in its log.  But
what is read from a frame is never such a response, so no reader comes to note it.
-/

namespace NplLifecycle.Session

variable {around : Surroundings} {session : Session} {message : Message}

def unidentified : Effect :=
  .log (.warn "Received response without id")

theorem dispatch_of_unidentified {response : Response} (h : response.id = none) :
    session.dispatch around (.response response) = (session, [unidentified]) := by
  rw [dispatch, handleResponse, h]
  rfl

/-- A text that goes on behind a front is no text that does not begin so. -/
theorem append_ne_of_not_prefix {front other : String} (h : ¬ front.toList <+: other.toList)
    (text : String) : front ++ text ≠ other := by
  intro heq
  apply h
  rw [← heq, String.toList_append]
  exact List.prefix_append _ _

theorem log_ne_unidentified {front : String}
    (h : ¬ front.toList <+: "Received response without id".toList) (text : String) :
    Effect.log (.warn (front ++ text)) ≠ unidentified := by
  intro heq
  rw [unidentified, Effect.log.injEq, LogLine.warn, LogLine.warn, LogLine.mk.injEq] at heq
  exact append_ne_of_not_prefix h text heq.2.1

theorem exists_of_mem_reply {request : Request} {line : LogLine}
    (hline : line ∈ (session.reply request).2) :
    ∃ text, line = .warn ("Cannot report workspace folders: " ++ text) := by
  rw [reply] at hline
  split at hline
  · split at hline
    · exact absurd hline List.not_mem_nil
    · exact ⟨_, List.mem_singleton.mp hline⟩
  · split at hline
    · exact absurd hline List.not_mem_nil
    · split at hline <;> exact absurd hline List.not_mem_nil

theorem unidentified_not_mem_handleRequest (request : Request) :
    unidentified ∉ session.handleRequest around request := by
  intro hmem
  rcases List.mem_append.mp hmem with hline | hsent
  · rcases List.mem_map.mp hline with ⟨line, hreply, heq⟩
    rcases exists_of_mem_reply hreply with ⟨text, rfl⟩
    exact log_ne_unidentified (by decide) text heq
  · split at hsent
    · rename_i effect heffect
      rcases send_eq_ok heffect with ⟨connection, -, hwrite⟩
      rw [hwrite, List.mem_singleton] at hsent
      exact absurd hsent (by simp [unidentified])
    · have heq := (List.mem_singleton.mp hsent).symm
      rw [String.append_assoc, String.append_assoc] at heq
      exact log_ne_unidentified (by decide) _ heq

theorem unidentified_not_mem_handleResponse {response : Response} (h : response.id.isSome) :
    unidentified ∉ (session.handleResponse response).2 := by
  rcases Option.isSome_iff_exists.mp h with ⟨id, hid⟩
  rw [handleResponse, hid]
  dsimp only
  split
  · exact List.not_mem_nil
  · intro hmem
    exact log_ne_unidentified (by decide) _ (List.mem_singleton.mp hmem).symm

/-- The note is left exactly for a response without an identifier. -/
theorem unidentified_mem_dispatch_iff : unidentified ∈ (session.dispatch around message).2 ↔
    ∃ response, message = .response response ∧ response.id = none := by
  cases message with
  | request request =>
      constructor
      · intro hmem
        exact absurd hmem (unidentified_not_mem_handleRequest request)
      · rintro ⟨response, heq, -⟩
        exact absurd heq (by simp)
  | notification =>
      constructor
      · intro hmem
        exact absurd hmem List.not_mem_nil
      · rintro ⟨response, heq, -⟩
        exact absurd heq (by simp)
  | response response =>
      constructor
      · intro hmem
        refine ⟨response, rfl, ?_⟩
        by_contra hsome
        exact unidentified_not_mem_handleResponse (Option.isSome_iff_ne_none.mpr hsome) hmem
      · rintro ⟨found, heq, hnone⟩
        rw [heq, dispatch_of_unidentified hnone]
        exact List.mem_singleton_self _

/-- What is promised of a body that is received. -/
structure Received (body : String) : Prop where
  notJson : Json.parse? body = none → Message.decode body = .error .notJson
  /-- The text of a value is read by the value's shape. -/
  shaped : ∀ value, Json.parse? body = some value → Message.Shaped body value
  /-- A response has an identifier. -/
  identified : ∀ response, Message.decode body = .ok (.response response) → response.id.isSome

theorem received (body : String) : Received body where
  notJson hnone := by rw [Message.decode, hnone]
  shaped _ := Message.shaped_of_parse?
  identified _ := Message.isSome_id_of_decode

theorem unidentified_not_mem_stepReader {connection : ConnectionId}
    {outcome : Session × List Effect}
    (hstep : session.stepReader around connection = some outcome) : unidentified ∉ outcome.2 := by
  obtain ⟨reader, reading, changed, -, -, -, hturn⟩ := stepReader_turn hstep
  cases hturn with
  | message hreads hframe htold =>
      obtain ⟨body, -, hdecode⟩ := told_eq_ok.mp htold
      intro hmem
      rcases unidentified_mem_dispatch_iff.mp hmem with ⟨response, rfl, hnone⟩
      have hsome := (received _).identified response hdecode
      rw [hnone] at hsome
      exact absurd hsome (by simp)
  | cancelled => exact List.not_mem_nil
  | fault | bytes | finish | failure => simp [unidentified]

/-- A body is read by its shape, and what is read lets no reader come upon a response without an
identifier. -/
theorem received_and_identified :
    (∀ body, Received body) ∧
    (∀ (around : Surroundings) (session : Session) (message : Message),
      unidentified ∈ (session.dispatch around message).2 ↔
        ∃ response, message = .response response ∧ response.id = none) ∧
    ∀ (around : Surroundings) (session : Session) (connection : ConnectionId)
      (outcome : Session × List Effect), session.stepReader around connection = some outcome →
        unidentified ∉ outcome.2 :=
  ⟨received, fun _ _ _ => unidentified_mem_dispatch_iff,
    fun _ _ _ _ => unidentified_not_mem_stepReader⟩

end NplLifecycle.Session
