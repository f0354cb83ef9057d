import NplLifecycle.Proofs.Message.RoundTrip

/-!
# The shapes of messages

A body is a message exactly if it is an object of one of three shapes.  Which one it can be is seen
from its method and its identifier alone; if it has not that shape, then it is no message, and the
error names the shape that it should have had.
-/

namespace NplLifecycle

namespace Json

variable {members : List (String × Json)} {name : String} {value : Json} {kind : Json → Prop}

def IsText (value : Json) : Prop :=
  ∃ text, value = .str text

/-- An integer of 64 bits with a sign. -/
def IsInt64 (value : Json) : Prop :=
  ∃ n, value = .int n ∧ -Int.pow 2 63 ≤ n ∧ n < Int.pow 2 63

/-- There is a member of the name, and its value is of the kind. -/
def Holds (members : List (String × Json)) (name : String) (kind : Json → Prop) : Prop :=
  ∃ value, members.lookup name = some value ∧ kind value

/-- There is no member of the name but `null`, or its value is of the kind. -/
def MayHold (members : List (String × Json)) (name : String) (kind : Json → Prop) : Prop :=
  members.lookup name = none ∨ Holds members name fun value => value = .null ∨ kind value

theorem isSome_str?_iff : value.str?.isSome ↔ value.IsText := by
  cases value <;> simp [str?, IsText]

theorem isSome_int64?_iff : value.int64?.isSome ↔ value.IsInt64 := by
  cases value <;> simp [int64?, IsInt64]

end Json

open Json (Holds MayHold)

variable {members : List (String × Json)} {name : String} {value : Json} {kind : Json → Prop}
  {found : Json} {α β : Type} {read : Json → Option α}

theorem isSome_bind_iff {first : Option α} {next : α → Option β} {rest : Prop}
    (hnext : ∀ found, (next found).isSome ↔ rest) :
    (first.bind next).isSome ↔ first.isSome ∧ rest := by
  cases first <;> simp [hnext]

theorem isSome_bind_lookup_iff (hread : ∀ value, (read value).isSome ↔ kind value) :
    ((members.lookup name).bind read).isSome ↔ Holds members name kind := by
  cases hlookup : members.lookup name with
  | none => simp [Holds, hlookup]
  | some value => simp [Holds, hlookup, hread]

theorem isSome_optionalField?_iff (hread : ∀ value, (read value).isSome ↔ kind value) :
    (optionalField? read (members.lookup name)).isSome ↔ MayHold members name kind := by
  cases hlookup : members.lookup name with
  | none => simp [optionalField?, MayHold, hlookup]
  | some value =>
      by_cases hnull : value = .null
      · simp [hnull, optionalField?, MayHold, Holds, hlookup]
      · rw [optionalField?_of_ne hnull]
        simp [MayHold, Holds, hlookup, hnull, hread]

namespace RequestId

def Shape (value : Json) : Prop :=
  value.IsText ∨ value.IsInt64

theorem isSome_ofJson?_iff : (ofJson? value).isSome ↔ Shape value := by
  rw [Shape, ← Json.isSome_str?_iff, ← Json.isSome_int64?_iff, ofJson?]
  cases value.int64? <;> cases value.str? <;> simp

theorem Shape.ne_null (h : Shape value) : value ≠ .null := by
  rcases h with ⟨text, htext⟩ | ⟨n, hn, -⟩
  · simp [htext]
  · simp [hn]

end RequestId

inductive Refusal.Shape : Json → Prop where
  | object {members : List (String × Json)} (code : Holds members "code" Json.IsInt64)
      (message : Holds members "message" Json.IsText) : Shape (.obj members)
  | items {code message data : Json} (isCode : code.IsInt64) (isMessage : message.IsText) :
      Shape (.arr [code, message, data])

theorem Refusal.isSome_ofJson?_obj : (ofJson? (.obj members)).isSome ↔
    Holds members "code" Json.IsInt64 ∧ Holds members "message" Json.IsText := by
  rw [ofJson?, ← isSome_bind_lookup_iff fun _ => Json.isSome_int64?_iff,
    ← isSome_bind_lookup_iff fun _ => Json.isSome_str?_iff]
  apply isSome_bind_iff
  intro code
  rw [optionalField?_present]
  cases (members.lookup "message").bind Json.str? <;> simp

theorem Refusal.isSome_ofJson?_items {code message data : Json} :
    (ofJson? (.arr [code, message, data])).isSome ↔ code.IsInt64 ∧ message.IsText := by
  rw [ofJson?, ← Json.isSome_int64?_iff, ← Json.isSome_str?_iff]
  apply isSome_bind_iff
  intro number
  rw [optionalField?_present]
  cases message.str? <;> simp

theorem Refusal.isSome_ofJson?_iff : (ofJson? value).isSome ↔ Shape value := by
  constructor
  · intro h
    unfold ofJson? at h
    split at h
    · rcases isSome_ofJson?_obj.mp h with ⟨hcode, hmessage⟩
      exact .object hcode hmessage
    · rcases isSome_ofJson?_items.mp h with ⟨hcode, hmessage⟩
      exact .items hcode hmessage
    · exact absurd h (by simp)
  · intro h
    cases h with
    | object hcode hmessage => exact isSome_ofJson?_obj.mpr ⟨hcode, hmessage⟩
    | items hcode hmessage => exact isSome_ofJson?_items.mpr ⟨hcode, hmessage⟩

inductive Request.Shape : Json → Prop where
  | object {members : List (String × Json)} (version : Holds members "jsonrpc" Json.IsText)
      (id : Holds members "id" RequestId.Shape) (method : Holds members "method" Json.IsText) :
      Shape (.obj members)

inductive Notification.Shape : Json → Prop where
  | object {members : List (String × Json)} (version : Holds members "jsonrpc" Json.IsText)
      (id : MayHold members "id" fun _ => False) (method : Holds members "method" Json.IsText) :
      Shape (.obj members)

inductive Response.Shape : Json → Prop where
  | object {members : List (String × Json)} (version : Holds members "jsonrpc" Json.IsText)
      (id : Holds members "id" RequestId.Shape) (method : members.lookup "method" = none)
      (refusal : MayHold members "error" Refusal.Shape) : Shape (.obj members)

section Reading

theorem Request.isSome_ofJson?_iff : (ofJson? (.obj members)).isSome ↔
    Holds members "jsonrpc" Json.IsText ∧ Holds members "id" RequestId.Shape ∧
      Holds members "method" Json.IsText := by
  rw [ofJson?, ← isSome_bind_lookup_iff fun _ => Json.isSome_str?_iff,
    ← isSome_bind_lookup_iff fun _ => RequestId.isSome_ofJson?_iff,
    ← isSome_bind_lookup_iff fun _ => Json.isSome_str?_iff]
  apply isSome_bind_iff
  intro version
  apply isSome_bind_iff
  intro id
  rw [Option.isSome_map]

theorem Notification.isSome_ofJson?_iff : (ofJson? (.obj members)).isSome ↔
    Holds members "jsonrpc" Json.IsText ∧ Holds members "method" Json.IsText := by
  rw [ofJson?, ← isSome_bind_lookup_iff fun _ => Json.isSome_str?_iff,
    ← isSome_bind_lookup_iff fun _ => Json.isSome_str?_iff]
  apply isSome_bind_iff
  intro version
  rw [Option.isSome_map]

theorem Response.isSome_ofJson?_iff : (ofJson? (.obj members)).isSome ↔
    Holds members "jsonrpc" Json.IsText ∧ MayHold members "id" RequestId.Shape ∧
      MayHold members "error" Refusal.Shape := by
  rw [ofJson?, ← isSome_bind_lookup_iff fun _ => Json.isSome_str?_iff,
    ← isSome_optionalField?_iff fun _ => RequestId.isSome_ofJson?_iff,
    ← isSome_optionalField?_iff fun _ => Refusal.isSome_ofJson?_iff]
  apply isSome_bind_iff
  intro version
  apply isSome_bind_iff
  intro id
  rw [optionalField?_present, Option.bind_some, Option.isSome_map]

theorem exists_of_get? (h : value.get? name = some found) :
    ∃ members, value = .obj members ∧ members.lookup name = some found := by
  cases value with
  | obj members => exact ⟨members, rfl, h⟩
  | null | bool | int | float | str | arr => exact absurd h (by simp [Json.get?])

theorem Request.shape_iff :
    Shape value ↔ value.HasMethod ∧ value.HasId ∧ (ofJson? value).isSome := by
  constructor
  · rintro ⟨hversion, ⟨id, hid, hshape⟩, ⟨method, hmethod, htext⟩⟩
    exact ⟨⟨method, hmethod⟩, ⟨id, hid, hshape.ne_null⟩,
      isSome_ofJson?_iff.mpr ⟨hversion, ⟨id, hid, hshape⟩, method, hmethod, htext⟩⟩
  · rintro ⟨⟨method, hmethod⟩, -, hread⟩
    rcases exists_of_get? hmethod with ⟨members, rfl, -⟩
    rcases isSome_ofJson?_iff.mp hread with ⟨hversion, hid, hmethod⟩
    exact .object hversion hid hmethod

theorem Notification.shape_iff :
    Shape value ↔ value.HasMethod ∧ ¬ value.HasId ∧ (ofJson? value).isSome := by
  constructor
  · rintro ⟨hversion, hid, ⟨method, hmethod, htext⟩⟩
    refine ⟨⟨method, hmethod⟩, ?_, isSome_ofJson?_iff.mpr ⟨hversion, method, hmethod, htext⟩⟩
    rintro ⟨id, hfound, hne⟩
    rcases hid with hnone | ⟨other, hother, hnull | hfalse⟩
    · exact absurd (hfound.symm.trans hnone) (by simp)
    · exact hne ((Option.some.inj (hfound.symm.trans hother)).trans hnull)
    · exact hfalse
  · rintro ⟨⟨method, hmethod⟩, hid, hread⟩
    rcases exists_of_get? hmethod with ⟨members, rfl, -⟩
    rcases isSome_ofJson?_iff.mp hread with ⟨hversion, hmethod⟩
    refine .object hversion ?_ hmethod
    cases hlookup : members.lookup "id" with
    | none => exact .inl hlookup
    | some id => exact .inr ⟨id, hlookup, .inl (by_contra fun hne => hid ⟨id, hlookup, hne⟩)⟩

theorem Response.shape_iff :
    Shape value ↔ ¬ value.HasMethod ∧ value.HasId ∧ (ofJson? value).isSome := by
  constructor
  · rintro ⟨hversion, ⟨id, hid, hshape⟩, hmethod, hrefusal⟩
    refine ⟨?_, ⟨id, hid, hshape.ne_null⟩, isSome_ofJson?_iff.mpr ⟨hversion, ?_, hrefusal⟩⟩
    · rintro ⟨method, hfound⟩
      exact absurd (hfound.symm.trans hmethod) (by simp)
    · exact .inr ⟨id, hid, .inr hshape⟩
  · rintro ⟨hmethod, ⟨id, hid, hne⟩, hread⟩
    rcases exists_of_get? hid with ⟨members, rfl, hid⟩
    rcases isSome_ofJson?_iff.mp hread with ⟨hversion, hmay, hrefusal⟩
    have hnone : members.lookup "method" = none := by
      cases hlookup : members.lookup "method" with
      | none => rfl
      | some method => exact absurd ⟨method, hlookup⟩ hmethod
    refine .object hversion ⟨id, hid, ?_⟩ hnone hrefusal
    rcases hmay with hgone | ⟨other, hother, hnull | hshape⟩
    · exact absurd (hid.symm.trans hgone) (by simp)
    · exact absurd ((Option.some.inj (hid.symm.trans hother)).trans hnull) hne
    · exact Option.some.inj (hother.symm.trans hid) ▸ hshape

end Reading

namespace Message

variable {body : String}

/-- What reading a body comes to, by the value that its text stands for. -/
structure Shaped (body : String) (value : Json) : Prop where
  request : (∃ content, decode body = .ok (.request content)) ↔ Request.Shape value
  notification : (∃ content, decode body = .ok (.notification content)) ↔ Notification.Shape value
  response : (∃ content, decode body = .ok (.response content)) ↔ Response.Shape value
  malformedRequest : value.HasMethod → value.HasId → ¬ Request.Shape value →
    decode body = .error .malformedRequest
  malformedNotification : value.HasMethod → ¬ value.HasId → ¬ Notification.Shape value →
    decode body = .error .malformedNotification
  malformedResponse : ¬ value.HasMethod → value.HasId → ¬ Response.Shape value →
    decode body = .error .malformedResponse
  unknown : ¬ value.HasMethod → ¬ value.HasId → decode body = .error (.unknownFormat body)

/-- The kind is decided by the method and the identifier, and then the shape is asked for. -/
theorem shaped_of_parse? (h : Json.parse? body = some value) : Shaped body value := by
  have hdecode : decode body = ofJson body value := by rw [decode, h]
  by_cases hmethod : value.HasMethod
  · by_cases hid : value.HasId
    · rw [ofJson_of_method_id hmethod hid] at hdecode
      cases hread : Request.ofJson? value <;> constructor <;>
        simp [hdecode, hread, hmethod, hid, Request.shape_iff, Notification.shape_iff,
          Response.shape_iff]
    · rw [ofJson_of_method hmethod hid] at hdecode
      cases hread : Notification.ofJson? value <;> constructor <;>
        simp [hdecode, hread, hmethod, hid, Request.shape_iff, Notification.shape_iff,
          Response.shape_iff]
  · by_cases hid : value.HasId
    · rw [ofJson_of_id hmethod hid] at hdecode
      cases hread : Response.ofJson? value <;> constructor <;>
        simp [hdecode, hread, hmethod, hid, Request.shape_iff, Notification.shape_iff,
          Response.shape_iff]
    · rw [ofJson_of_none hmethod hid] at hdecode
      constructor <;>
        simp [hdecode, hmethod, hid, Request.shape_iff, Notification.shape_iff, Response.shape_iff]

/-- A response that was read has an identifier. -/
theorem isSome_id_of_decode {response : Response} (h : decode body = .ok (.response response)) :
    response.id.isSome := by
  rcases exists_of_decode h with ⟨members, -, hread, id, hid, hne⟩
  have hfield := (Response.exists_fields hread).1
  rw [hid] at hfield
  exact isSome_of_optionalField? hne hfield

end Message

end NplLifecycle
