import NplLifecycle.Message.Decode
import NplLifecycle.Proofs.Json.Parsed

/-!
# Written messages

The three kinds of messages share one form on the wire, and which kind a body is shows in two of
its members only.  A request and a notification are read back as they were; a response is too, but
a result or data that are `null` are read as absent, and without an identifier it is no message.
-/

namespace NplLifecycle

open Json (setMembers arrangeMembers lookup_arranged)

/-- The identifier is a string, or an integer of 64 bits with a sign. -/
def RequestId.Fits : RequestId → Prop
  | .number n => -Int.pow 2 63 ≤ n ∧ n < Int.pow 2 63
  | .text _ => True

/-- The members of the value stand in order, and its numbers are integers of 64 bits. -/
structure Json.Plain (value : Json) : Prop where
  ordered : value.Ordered
  integral : value.Integral

/-- The code is an integer of 64 bits with a sign, and the data are plain. -/
structure Refusal.Fits (refusal : Refusal) : Prop where
  code : -Int.pow 2 63 ≤ refusal.code ∧ refusal.code < Int.pow 2 63
  data : ∀ value ∈ refusal.data, value.Plain

/-- The identifier fits, and the parameters are plain. -/
structure Request.Fits (request : Request) : Prop where
  id : request.id.Fits
  params : request.params.Plain

/-- The identifier fits, if there is one, and so do the result and the refusal. -/
structure Response.Fits (response : Response) : Prop where
  id : ∀ id ∈ response.id, id.Fits
  result : ∀ value ∈ response.result, value.Plain
  refusal : ∀ refusal ∈ response.refusal, refusal.Fits

/-- Identifiers and codes are of 64 bits, and the values in the message are plain. -/
def Message.Fits : Message → Prop
  | .request content => content.Fits
  | .response content => content.Fits
  | .notification content => content.params.Plain

/-- A value in a place where `null` stands for absence. -/
def Json.present (value : Option Json) : Option Json :=
  value.filter (· ≠ .null)

/-- The refusal as it is read from its own text. -/
def Refusal.received (refusal : Refusal) : Refusal :=
  { refusal with data := Json.present refusal.data }

/-- The response as it is read from its own text, if it has an identifier. -/
def Response.received (response : Response) : Response :=
  { response with
    result := Json.present response.result
    refusal := response.refusal.map Refusal.received }

namespace Message

def received : Message → Except DecodeError Message
  | .request content => .ok (.request content)
  | .notification content => .ok (.notification content)
  | .response content =>
    if content.id.isSome then .ok (.response content.received)
    else .error (.unknownFormat content.toJson.compact)

end Message

section Reading

variable {members : List (String × Json)} {value : Json} {id : RequestId} {body : String}

theorem RequestId.ofJson?_toJson (h : id.Fits) : ofJson? id.toJson = some id := by
  cases id with
  | number n =>
      have hint : (Json.int n).int64? = some n := if_pos h
      rw [toJson, ofJson?, hint]
  | text s => rfl

theorem RequestId.toJson_ne_null (id : RequestId) : id.toJson ≠ .null := by
  cases id <;> simp [toJson]

theorem RequestId.arrange_toJson (id : RequestId) : id.toJson.arrange = id.toJson := by
  cases id <;> rfl

/-- A field that is there and is not `null` is read. -/
theorem optionalField?_of_ne {α : Type} {read : Json → Option α} (hne : value ≠ .null) :
    optionalField? read (some value) = (read value).map some := by
  unfold optionalField?
  split
  · contradiction
  · rename_i heq
    exact absurd (Option.some.inj heq) hne
  · rename_i heq
    rw [Option.some.inj heq]

theorem optionalField?_some {α : Type} {read : Json → Option α} {content : α}
    (hne : value ≠ .null) (hread : read value = some content) :
    optionalField? read (some value) = some (some content) := by
  rw [optionalField?_of_ne hne, hread]
  rfl

theorem optionalField?_present (value : Option Json) :
    optionalField? some value = some (Json.present value) := by
  cases value with
  | none => rfl
  | some value =>
      by_cases hnull : value = .null
      · rw [hnull]
        rfl
      · rw [optionalField?_some hnull rfl, Json.present, Option.filter_some,
          if_pos (by simpa using hnull)]

theorem Request.ofJson?_of_lookup {request : Request} (hid : request.id.Fits)
    (hversion : members.lookup "jsonrpc" = some (.str request.version))
    (hnumber : members.lookup "id" = some request.id.toJson)
    (hmethod : members.lookup "method" = some (.str request.method))
    (hparams : members.lookup "params" = some request.params) :
    Request.ofJson? (.obj members) = some request := by
  rw [ofJson?, hversion, hnumber, hmethod, hparams, Option.bind_some, Option.bind_some,
    Option.bind_some, RequestId.ofJson?_toJson hid]
  rfl

theorem Notification.ofJson?_of_lookup {notification : Notification}
    (hversion : members.lookup "jsonrpc" = some (.str notification.version))
    (hmethod : members.lookup "method" = some (.str notification.method))
    (hparams : members.lookup "params" = some notification.params) :
    Notification.ofJson? (.obj members) = some notification := by
  rw [ofJson?, hversion, hmethod, hparams]
  rfl

theorem Refusal.ofJson?_of_lookup {refusal : Refusal} (h : refusal.Fits)
    (hcode : members.lookup "code" = some (.int refusal.code))
    (hmessage : members.lookup "message" = some (.str refusal.message))
    (hdata : members.lookup "data" = refusal.data) :
    Refusal.ofJson? (.obj members) = some refusal.received := by
  have hint : (Json.int refusal.code).int64? = some refusal.code := if_pos h.code
  rw [ofJson?, hcode, hmessage, hdata, optionalField?_present, Option.bind_some,
    Option.bind_some, hint]
  rfl

theorem Refusal.ofJson?_arrange {refusal : Refusal} (h : refusal.Fits) :
    Refusal.ofJson? refusal.toJson.arrange = some refusal.received := by
  rw [toJson, Json.arrange, Json.ofMembers_eq]
  cases hdata : refusal.data with
  | none =>
      have hlookup := lookup_arranged
        [("code", .int refusal.code), ("message", .str refusal.message)] (by simp)
      exact ofJson?_of_lookup h (hlookup "code") (hlookup "message")
        ((hlookup "data").trans hdata.symm)
  | some value =>
      have hlookup := lookup_arranged
        [("code", .int refusal.code), ("message", .str refusal.message),
          ("data", value)] (by simp)
      have hvalue : some value.arrange = some value :=
        congrArg some (Json.arrange_of_ordered value (h.data value hdata).ordered)
      exact ofJson?_of_lookup h (hlookup "code") (hlookup "message")
        ((hlookup "data").trans (hvalue.trans hdata.symm))

theorem Response.ofJson?_of_lookup {response : Response} (hid : response.id = some id)
    (hfits : id.Fits) (hversion : members.lookup "jsonrpc" = some (.str response.version))
    (hnumber : members.lookup "id" = some id.toJson)
    (hresult : members.lookup "result" = response.result)
    (hrefusal : members.lookup "error" = response.refusal.map fun refusal => refusal.toJson.arrange)
    (hreads : ∀ refusal ∈ response.refusal, refusal.Fits) :
    Response.ofJson? (.obj members) = some response.received := by
  have hrefused : optionalField? Refusal.ofJson? (members.lookup "error") =
      some (response.refusal.map Refusal.received) := by
    rw [hrefusal]
    cases hsome : response.refusal with
    | none => rfl
    | some refusal => 
       have hread := Refusal.ofJson?_arrange (hreads refusal hsome)
       refine optionalField?_some ?_ hread
       intro hnull
       dsimp only at hnull
       rw [hnull] at hread
       exact absurd hread (by simp [Refusal.ofJson?])
  rw [ofJson?, hversion, hnumber, hresult, hrefused,
    optionalField?_some id.toJson_ne_null (RequestId.ofJson?_toJson hfits), optionalField?_present,
    received, hid]
  rfl

end Reading

/-- The value is an object with a method, whatever it is. -/
def Json.HasMethod (value : Json) : Prop :=
  ∃ method, value.get? "method" = some method

/-- The value is an object with an identifier other than `null`. -/
def Json.HasId (value : Json) : Prop :=
  ∃ id, value.get? "id" = some id ∧ id ≠ .null

namespace Message

section Writing

variable {request : Request} {response : Response} {notification : Notification}
  {members : List (String × Json)} {method id value : Json} {body : String}

theorem isSome_get?_iff : (value.get? "method").isSome ↔ value.HasMethod :=
  Option.isSome_iff_exists

theorem any_get?_iff : (value.get? "id").any (· ≠ .null) ↔ value.HasId := by
  rw [Json.HasId]
  cases value.get? "id" <;> simp

theorem ofJson_of_method_id (hmethod : value.HasMethod) (hid : value.HasId) :
    ofJson body value =
      (Request.ofJson? value).elim (.error .malformedRequest) (.ok ∘ .request) := by
  rw [ofJson, isSome_get?_iff.mpr hmethod, any_get?_iff.mpr hid]

theorem ofJson_of_method (hmethod : value.HasMethod) (hid : ¬ value.HasId) :
    ofJson body value =
      (Notification.ofJson? value).elim (.error .malformedNotification) (.ok ∘ .notification) := by
  rw [ofJson, isSome_get?_iff.mpr hmethod,
    Bool.eq_false_iff.mpr fun hany => hid (any_get?_iff.mp hany)]

theorem ofJson_of_id (hmethod : ¬ value.HasMethod) (hid : value.HasId) :
    ofJson body value =
      (Response.ofJson? value).elim (.error .malformedResponse) (.ok ∘ .response) := by
  rw [ofJson, any_get?_iff.mpr hid,
    Bool.eq_false_iff.mpr fun hsome => hmethod (isSome_get?_iff.mp hsome)]

theorem ofJson_of_none (hmethod : ¬ value.HasMethod) (hid : ¬ value.HasId) :
    ofJson body value = .error (.unknownFormat body) := by
  rw [ofJson, Bool.eq_false_iff.mpr fun hany => hid (any_get?_iff.mp hany),
    Bool.eq_false_iff.mpr fun hsome => hmethod (isSome_get?_iff.mp hsome)]

/-- A method and an identifier make a request. -/
theorem ofJson_of_request (hmethod : members.lookup "method" = some method)
    (hid : members.lookup "id" = some id) (hne : id ≠ .null)
    (hread : Request.ofJson? (.obj members) = some request) :
    ofJson body (.obj members) = .ok (.request request) := by
  have hcalled : (Json.obj members).HasMethod := ⟨method, hmethod⟩
  rw [ofJson_of_method_id hcalled ⟨id, hid, hne⟩, hread]
  rfl

/-- A method without an identifier makes a notification. -/
theorem ofJson_of_notification (hmethod : members.lookup "method" = some method)
    (hid : members.lookup "id" = none)
    (hread : Notification.ofJson? (.obj members) = some notification) :
    ofJson body (.obj members) = .ok (.notification notification) := by
  have hnone : ¬ (Json.obj members).HasId := by simp [Json.HasId, Json.get?, hid]
  have hcalled : (Json.obj members).HasMethod := ⟨method, hmethod⟩
  rw [ofJson_of_method hcalled hnone, hread]
  rfl

/-- An identifier without a method makes a response. -/
theorem ofJson_of_response (hmethod : members.lookup "method" = none)
    (hid : members.lookup "id" = some id) (hne : id ≠ .null)
    (hread : Response.ofJson? (.obj members) = some response) :
    ofJson body (.obj members) = .ok (.response response) := by
  have hnone : ¬ (Json.obj members).HasMethod := by simp [Json.HasMethod, Json.get?, hmethod]
  rw [ofJson_of_id hnone ⟨id, hid, hne⟩, hread]
  rfl

theorem ofJson_of_neither (hmethod : members.lookup "method" = none)
    (hid : members.lookup "id" = some .null) :
    ofJson body (.obj members) = .error (.unknownFormat body) := by
  apply ofJson_of_none
  · simp [Json.HasMethod, Json.get?, hmethod]
  · simp [Json.HasId, Json.get?, hid]

theorem ofJson_arrange_request (h : request.Fits) :
    ofJson body request.toJson.arrange = .ok (.request request) := by
  have hlookup := lookup_arranged
    [("jsonrpc", .str request.version), ("id", request.id.toJson),
      ("method", .str request.method), ("params", request.params)] (by simp)
  have hid := (hlookup "id").trans (congrArg some request.id.arrange_toJson)
  have hparams := (hlookup "params").trans
    (congrArg some (Json.arrange_of_ordered request.params h.params.ordered))
  exact ofJson_of_request (hlookup "method") hid request.id.toJson_ne_null
    (Request.ofJson?_of_lookup h.id (hlookup "jsonrpc") hid (hlookup "method") hparams)

theorem ofJson_arrange_notification (h : notification.params.Plain) :
    ofJson body notification.toJson.arrange = .ok (.notification notification) := by
  have hlookup := lookup_arranged
    [("jsonrpc", .str notification.version), ("method", .str notification.method),
      ("params", notification.params)] (by simp)
  have hparams := (hlookup "params").trans
    (congrArg some (Json.arrange_of_ordered notification.params h.ordered))
  exact ofJson_of_notification (hlookup "method") (hlookup "id")
    (Notification.ofJson?_of_lookup (hlookup "jsonrpc") (hlookup "method") hparams)

/-- Each member of a written response is found; there is no method. -/
theorem lookup_response (response : Response) :
    ∃ members, response.toJson.arrange = .obj members ∧
      members.lookup "jsonrpc" = some (.str response.version) ∧
      members.lookup "id" = some (.ofOption (response.id.map RequestId.toJson)) ∧
      members.lookup "method" = none ∧
      members.lookup "result" = response.result.map Json.arrange ∧
      members.lookup "error" = response.refusal.map fun refusal => refusal.toJson.arrange := by
  obtain ⟨version, id, result, refusal⟩ := response
  have hid : (Json.ofOption (id.map RequestId.toJson)).arrange =
      .ofOption (id.map RequestId.toJson) := by
    cases id with
    | none => rfl
    | some id => exact id.arrange_toJson
  refine ⟨_, rfl, ?_⟩
  have hlookup := lookup_arranged
    ([("jsonrpc", .str version), ("id", .ofOption (id.map RequestId.toJson))] ++
      (result.map fun result => ("result", result)).toList ++
      (refusal.map fun refusal => ("error", refusal.toJson)).toList)
    (by cases result <;> cases refusal <;> simp)
  refine ⟨(hlookup _).trans ?_, (hlookup _).trans ?_, (hlookup _).trans ?_, (hlookup _).trans ?_,
    (hlookup _).trans ?_⟩
  · rfl
  · exact congrArg some hid
  · cases result <;> cases refusal <;> rfl
  · cases result <;> cases refusal <;> rfl
  · cases result <;> cases refusal <;> rfl

theorem ofJson_arrange_response (h : response.Fits) :
    ofJson response.toJson.compact response.toJson.arrange =
      (Message.response response).received := by
  obtain ⟨members, harrange, hversion, hid, hmethod, hresult, hrefusal⟩ := lookup_response response
  rw [harrange, received]
  cases hsome : response.id with
  | none =>
      rw [hsome] at hid
      exact ofJson_of_neither hmethod hid
  | some id =>
      rw [hsome] at hid
      have hplain : response.result.map Json.arrange = response.result := by
        cases hvalue : response.result with
        | none => rfl
        | some value =>
            exact congrArg some (Json.arrange_of_ordered value (h.result value hvalue).ordered)
      exact ofJson_of_response hmethod hid id.toJson_ne_null
        (Response.ofJson?_of_lookup hsome (h.id id hsome) hversion hid (hresult.trans hplain)
          hrefusal h.refusal)

end Writing

section Integers

variable {message : Message}

theorem integral_int {n : Int} (h : -Int.pow 2 63 ≤ n ∧ n < Int.pow 2 63) :
    (Json.int n).Integral := by
  have hless : Int.pow 2 63 < Int.pow 2 64 := by decide
  exact ⟨h.1, Int.lt_trans h.2 hless⟩

theorem integral_id {id : RequestId} (h : id.Fits) : id.toJson.Integral := by
  cases id with
  | number n => exact integral_int h
  | text s => trivial

theorem integral_refusal {refusal : Refusal} (h : refusal.Fits) : refusal.toJson.Integral := by
  have hcode := integral_int h.code
  cases hdata : refusal.data with
  | none =>
      rw [Refusal.toJson, hdata]
      exact ⟨hcode, trivial, trivial⟩
  | some value =>
      rw [Refusal.toJson, hdata]
      exact ⟨hcode, trivial, (h.data value hdata).integral, trivial⟩

theorem integral_response {response : Response} (h : response.Fits) :
    response.toJson.Integral := by
  obtain ⟨version, id, result, refusal⟩ := response
  have hid : (Json.ofOption (id.map RequestId.toJson)).Integral := by
    cases id with
    | none => trivial
    | some id => exact integral_id (h.id id rfl)
  cases result with
  | none =>
      cases refusal with
      | none => exact ⟨trivial, hid, trivial⟩
      | some refusal => exact ⟨trivial, hid, integral_refusal (h.refusal refusal rfl), trivial⟩
  | some value =>
      have hvalue := (h.result value rfl).integral
      cases refusal with
      | none => exact ⟨trivial, hid, hvalue, trivial⟩
      | some refusal =>
          exact ⟨trivial, hid, hvalue, integral_refusal (h.refusal refusal rfl), trivial⟩

theorem Fits.integral (h : message.Fits) : message.toJson.Integral := by
  cases message with
  | request content => exact ⟨trivial, integral_id h.id, trivial, h.params.integral, trivial⟩
  | notification content => exact ⟨trivial, trivial, h.integral, trivial⟩
  | response content => exact integral_response h

/-- What is read from the text of a message that fits and is not nested too deeply. -/
theorem decode_compact (h : message.Fits) (hdepth : message.toJson.depth ≤ Json.nestingLimit) :
    decode message.toJson.compact = message.received := by
  rw [decode, Json.parse?_compact h.integral hdepth]
  cases message with
  | request content => exact ofJson_arrange_request h
  | notification content => exact ofJson_arrange_notification h
  | response content => exact ofJson_arrange_response h

end Integers

end Message

end NplLifecycle
