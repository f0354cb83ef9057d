import NplLifecycle.Proofs.Message.Written

/-!
# Messages come through

Whatever was read as a message has no part that its own text would lose: its identifier and codes
fit, a result or data that are there are not `null`, and it is nested no deeper than the text that
it was read from.  So a message is read back from its text as it was, or as what its text can say,
and what was read once is read back for ever.
-/

namespace NplLifecycle

/-- The value is nested less deeply than the whole, and is plain if the whole is. -/
structure Json.Part (whole value : Json) : Prop where
  depth : value.depth < whole.depth
  plain : whole.Plain → value.Plain

section Parts

variable {members : List (String × Json)} {items : List Json} {value : Json} {name : String}

theorem Json.plain_null : Json.null.Plain :=
  ⟨trivial, trivial⟩

theorem Json.part_of_lookup (h : members.lookup name = some value) :
    Json.Part (.obj members) value where
  depth := Nat.lt_succ_of_le (Json.depth_le_of_lookup h)
  plain hwhole :=
    ⟨Json.ordered_of_lookup hwhole.ordered.2 h, Json.integral_of_lookup hwhole.integral h⟩

theorem Json.part_of_mem (h : value ∈ items) : Json.Part (.arr items) value := by
  induction items with
  | nil => exact absurd h List.not_mem_nil
  | cons item rest ih =>
      cases List.mem_cons.mp h with
      | inl hfirst =>
          rw [hfirst]
          exact ⟨Nat.lt_succ_of_le (Nat.le_max_left ..),
            fun hwhole => ⟨hwhole.ordered.1, hwhole.integral.1⟩⟩
      | inr hrest =>
          obtain ⟨hdepth, hplain⟩ := ih hrest
          refine ⟨Nat.lt_of_lt_of_le hdepth (Nat.succ_le_succ (Nat.le_max_right ..)), ?_⟩
          exact fun hwhole => hplain ⟨hwhole.ordered.2, hwhole.integral.2⟩

theorem Json.mem_of_mem_present {field : Option Json} (h : value ∈ Json.present field) :
    value ∈ field :=
  (Option.filter_eq_some_iff.mp h).1

theorem Json.present_present (field : Option Json) :
    Json.present (Json.present field) = Json.present field := by
  cases field with
  | none => rfl
  | some value => by_cases hnull : value = .null <;> simp [Json.present, hnull]

/-- A field that was read was there. -/
theorem mem_of_optionalField? {α : Type} {read : Json → Option α} {field : Option Json}
    {content : Option α} {found : α} (h : optionalField? read field = some content)
    (hfound : found ∈ content) : ∃ value ∈ field, read value = some found := by
  unfold optionalField? at h
  split at h
  · rw [← Option.some.inj h] at hfound
    exact absurd hfound (by simp)
  · rw [← Option.some.inj h] at hfound
    exact absurd hfound (by simp)
  · obtain ⟨other, hread, rfl⟩ := Option.map_eq_some_iff.mp h
    rw [← Option.some.inj hfound]
    exact ⟨_, rfl, hread⟩

theorem isSome_of_optionalField? {α : Type} {read : Json → Option α} {content : Option α}
    (hne : value ≠ .null) (h : optionalField? read (some value) = some content) :
    content.isSome := by
  rw [optionalField?_of_ne hne] at h
  obtain ⟨found, -, rfl⟩ := Option.map_eq_some_iff.mp h
  rfl

theorem Json.range_of_int64? {n : Int} (h : value.int64? = some n) :
    -Int.pow 2 63 ≤ n ∧ n < Int.pow 2 63 := by
  cases value with
  | int m =>
      obtain ⟨hrange, hsome⟩ := Option.ite_none_right_eq_some.mp h
      rw [← Option.some.inj hsome]
      exact hrange
  | null | bool | float | str | arr | obj => exact absurd h (by simp [Json.int64?])

theorem RequestId.fits_of_ofJson? {id : RequestId} (h : RequestId.ofJson? value = some id) :
    id.Fits := by
  unfold RequestId.ofJson? at h
  split at h
  · rename_i n _ hint
    rw [← Option.some.inj h]
    exact Json.range_of_int64? hint
  · rw [← Option.some.inj h]
    trivial
  · exact absurd h (by simp)

end Parts

section Read

variable {value : Json} {refusal : Refusal} {members : List (String × Json)}
  {request : Request} {response : Response} {notification : Notification}

/-- A refusal that was read has a code of 64 bits, and its data are a part of what it was read
from. -/
theorem Refusal.exists_field (h : Refusal.ofJson? value = some refusal) :
    (-Int.pow 2 63 ≤ refusal.code ∧ refusal.code < Int.pow 2 63) ∧ 0 < value.depth ∧
      ∃ field, refusal.data = Json.present field ∧ ∀ part ∈ field, value.Part part := by
  unfold Refusal.ofJson? at h
  split at h
  · obtain ⟨code, hcode, h⟩ := Option.bind_eq_some_iff.mp h
    obtain ⟨message, -, h⟩ := Option.bind_eq_some_iff.mp h
    obtain ⟨number, -, hnumber⟩ := Option.bind_eq_some_iff.mp hcode
    rw [optionalField?_present, Option.map_some, Option.some.injEq] at h
    rw [← h]
    exact ⟨Json.range_of_int64? hnumber, Nat.succ_pos _, _, rfl,
      fun part hpart => Json.part_of_lookup hpart⟩
  · rename_i code message data
    obtain ⟨number, hnumber, h⟩ := Option.bind_eq_some_iff.mp h
    obtain ⟨text, -, h⟩ := Option.bind_eq_some_iff.mp h
    rw [optionalField?_present, Option.map_some, Option.some.injEq] at h
    rw [← h]
    refine ⟨Json.range_of_int64? hnumber, Nat.succ_pos _, some data, rfl, ?_⟩
    intro part hpart
    rw [← Option.some.inj hpart]
    exact Json.part_of_mem (by simp)
  · exact absurd h (by simp)

theorem Refusal.received_of_ofJson? (h : Refusal.ofJson? value = some refusal) :
    refusal.received = refusal := by
  obtain ⟨-, -, field, hdata, -⟩ := Refusal.exists_field h
  rw [Refusal.received, hdata, Json.present_present, ← hdata]

theorem Refusal.fits_of_ofJson? (hplain : value.Plain) (h : Refusal.ofJson? value = some refusal) :
    refusal.Fits := by
  obtain ⟨hcode, -, field, hdata, hpart⟩ := Refusal.exists_field h
  refine ⟨hcode, ?_⟩
  intro data hmem
  rw [hdata] at hmem
  exact (hpart data (Json.mem_of_mem_present hmem)).plain hplain

theorem Refusal.depth_of_ofJson? (h : Refusal.ofJson? value = some refusal) :
    refusal.toJson.depth ≤ value.depth := by
  obtain ⟨-, hpos, field, hdata, hpart⟩ := Refusal.exists_field h
  cases hsome : refusal.data with
  | none =>
      rw [Refusal.toJson, hsome]
      exact hpos
  | some data =>
      have hless := (hpart data (Json.mem_of_mem_present (hdata ▸ hsome))).depth
      rw [Refusal.toJson, hsome]
      simp [Json.depth, Json.membersDepth]
      omega

/-- A response that was read has an identifier of its own if there is one; its result is a part of
what it was read from, and its refusal was read from such a part. -/
theorem Response.exists_fields (h : Response.ofJson? (.obj members) = some response) :
    optionalField? RequestId.ofJson? (members.lookup "id") = some response.id ∧
      response.result = Json.present (members.lookup "result") ∧
      ∀ refusal ∈ response.refusal, ∃ part, members.lookup "error" = some part ∧
        Refusal.ofJson? part = some refusal := by
  obtain ⟨version, -, h⟩ := Option.bind_eq_some_iff.mp h
  obtain ⟨id, hid, h⟩ := Option.bind_eq_some_iff.mp h
  obtain ⟨result, hresult, h⟩ := Option.bind_eq_some_iff.mp h
  obtain ⟨refusal, hrefusal, rfl⟩ := Option.map_eq_some_iff.mp h
  rw [optionalField?_present, Option.some.injEq] at hresult
  refine ⟨hid, hresult.symm, ?_⟩
  intro found hfound
  obtain ⟨part, hpart, hread⟩ := mem_of_optionalField? hrefusal hfound
  exact ⟨part, hpart, hread⟩

theorem Response.received_of_ofJson? (h : Response.ofJson? (.obj members) = some response) :
    response.received = response := by
  obtain ⟨-, hresult, hrefusal⟩ := Response.exists_fields h
  have hrefused : response.refusal.map Refusal.received = response.refusal := by
    cases hsome : response.refusal with
    | none => rfl
    | some refusal =>
        obtain ⟨part, -, hread⟩ := hrefusal refusal hsome
        exact congrArg some (Refusal.received_of_ofJson? hread)
  rw [Response.received, hrefused, hresult, Json.present_present, ← hresult]

theorem Response.fits_of_ofJson? (hplain : (Json.obj members).Plain)
    (h : Response.ofJson? (.obj members) = some response) : response.Fits := by
  obtain ⟨hid, hresult, hrefusal⟩ := Response.exists_fields h
  refine ⟨?_, ?_, ?_⟩
  · intro id hmem
    obtain ⟨part, -, hread⟩ := mem_of_optionalField? hid hmem
    exact RequestId.fits_of_ofJson? hread
  · intro result hmem
    rw [hresult] at hmem
    exact (Json.part_of_lookup (Json.mem_of_mem_present hmem)).plain hplain
  · intro refusal hmem
    obtain ⟨part, hpart, hread⟩ := hrefusal refusal hmem
    exact Refusal.fits_of_ofJson? ((Json.part_of_lookup hpart).plain hplain) hread

theorem RequestId.depth_toJson (id : RequestId) : id.toJson.depth = 0 := by
  cases id <;> rfl

theorem Response.depth_of_ofJson? (h : Response.ofJson? (.obj members) = some response) :
    response.toJson.depth ≤ (Json.obj members).depth := by
  obtain ⟨-, hresult, hrefusal⟩ := Response.exists_fields h
  have hid : (Json.ofOption (response.id.map RequestId.toJson)).depth = 0 := by
    cases response.id with
    | none => rfl
    | some id => exact id.depth_toJson
  have hvalue : ∀ result ∈ response.result, result.depth ≤ Json.membersDepth members := by
    intro result hmem
    rw [hresult] at hmem
    exact Json.depth_le_of_lookup (Json.mem_of_mem_present hmem)
  have hrefused : ∀ refusal ∈ response.refusal,
      refusal.toJson.depth ≤ Json.membersDepth members := by
    intro refusal hmem
    obtain ⟨part, hpart, hread⟩ := hrefusal refusal hmem
    exact Nat.le_trans (Refusal.depth_of_ofJson? hread) (Json.depth_le_of_lookup hpart)
  rw [Response.toJson, Json.depth, Json.depth]
  apply Nat.succ_le_succ
  cases hsome : response.result with
  | none =>
      cases hrefusals : response.refusal with
      | none => simp [Json.membersDepth, Json.depth, hid]
      | some refusal => simpa [Json.membersDepth, Json.depth, hid] using hrefused refusal hrefusals
  | some result =>
      have hfirst := hvalue result hsome
      cases hrefusals : response.refusal with
      | none => simpa [Json.membersDepth, Json.depth, hid] using hfirst
      | some refusal =>
          have hsecond := hrefused refusal hrefusals
          simpa [Json.membersDepth, Json.depth, hid] using Nat.max_le.mpr ⟨hfirst, hsecond⟩

end Read

namespace Message

variable {members : List (String × Json)} {value : Json} {body : String} {message : Message}

/-- A message of the kind was read from the members. -/
def WasRead (members : List (String × Json)) : Message → Prop
  | .request content => Request.ofJson? (.obj members) = some content
  | .notification content => Notification.ofJson? (.obj members) = some content
  | .response content =>
    Response.ofJson? (.obj members) = some content ∧
      ∃ id, members.lookup "id" = some id ∧ id ≠ .null

/-- What was read as a message is an object, and a response has an identifier. -/
theorem exists_wasRead (h : ofJson body value = .ok message) :
    ∃ members, value = .obj members ∧ WasRead members message := by
  cases value with
  | null | bool | int | float | str | arr => exact absurd h (by simp [ofJson, Json.get?])
  | obj members =>
      refine ⟨members, rfl, ?_⟩
      simp only [ofJson] at h
      split at h
      · cases hread : Request.ofJson? (.obj members) with
        | none => simp [hread] at h
        | some content =>
            simp only [hread, Option.elim_some, Function.comp_apply, Except.ok.injEq] at h
            rw [← h]
            exact hread
      · cases hread : Notification.ofJson? (.obj members) with
        | none => simp [hread] at h
        | some content =>
            simp only [hread, Option.elim_some, Function.comp_apply, Except.ok.injEq] at h
            rw [← h]
            exact hread
      · rename_i hid
        cases hread : Response.ofJson? (.obj members) with
        | none => simp [hread] at h
        | some content =>
            simp only [hread, Option.elim_some, Function.comp_apply, Except.ok.injEq] at h
            rw [← h]
            cases hlookup : members.lookup "id" with
            | none => simp [Json.get?, hlookup] at hid
            | some id => exact ⟨hread, id, hlookup, by simpa [Json.get?, hlookup] using hid⟩
      · exact absurd h (by simp)

theorem WasRead.received (h : WasRead members message) : message.received = .ok message := by
  cases message with
  | request content => rfl
  | notification content => rfl
  | response content =>
      obtain ⟨hread, id, hid, hne⟩ := h
      have hfield := (Response.exists_fields hread).1
      rw [hid] at hfield
      have hsome := isSome_of_optionalField? hne hfield
      rw [Message.received, if_pos hsome, Response.received_of_ofJson? hread]

theorem plain_params (hplain : (Json.obj members).Plain) :
    (Json.ofOption (members.lookup "params")).Plain := by
  cases hparams : members.lookup "params" with
  | none => exact Json.plain_null
  | some params => exact (Json.part_of_lookup hparams).plain hplain

theorem WasRead.fits (h : WasRead members message) (hplain : (Json.obj members).Plain) :
    message.Fits := by
  cases message with
  | request content =>
      obtain ⟨version, -, h⟩ := Option.bind_eq_some_iff.mp h
      obtain ⟨id, hid, h⟩ := Option.bind_eq_some_iff.mp h
      obtain ⟨method, -, rfl⟩ := Option.map_eq_some_iff.mp h
      obtain ⟨number, -, hread⟩ := Option.bind_eq_some_iff.mp hid
      exact ⟨RequestId.fits_of_ofJson? hread, plain_params hplain⟩
  | notification content =>
      obtain ⟨version, -, h⟩ := Option.bind_eq_some_iff.mp h
      obtain ⟨method, -, rfl⟩ := Option.map_eq_some_iff.mp h
      exact plain_params hplain
  | response content => exact Response.fits_of_ofJson? hplain h.1

theorem depth_params (members : List (String × Json)) :
    (Json.ofOption (members.lookup "params")).depth ≤ Json.membersDepth members := by
  cases hparams : members.lookup "params" with
  | none => exact Nat.zero_le _
  | some params => exact Json.depth_le_of_lookup hparams

theorem WasRead.depth (h : WasRead members message) :
    message.toJson.depth ≤ (Json.obj members).depth := by
  have hparams := depth_params members
  cases message with
  | request content =>
      obtain ⟨version, -, h⟩ := Option.bind_eq_some_iff.mp h
      obtain ⟨id, hid, h⟩ := Option.bind_eq_some_iff.mp h
      obtain ⟨method, -, rfl⟩ := Option.map_eq_some_iff.mp h
      apply Nat.succ_le_succ
      simpa [Json.membersDepth, Json.depth, id.depth_toJson] using hparams
  | notification content =>
      obtain ⟨version, -, h⟩ := Option.bind_eq_some_iff.mp h
      obtain ⟨method, -, rfl⟩ := Option.map_eq_some_iff.mp h
      apply Nat.succ_le_succ
      simpa [Json.membersDepth, Json.depth] using hparams
  | response content => exact Response.depth_of_ofJson? h.1

theorem exists_of_decode (h : decode body = .ok message) :
    ∃ members, Json.parse? body = some (.obj members) ∧ WasRead members message := by
  cases hparse : Json.parse? body with
  | none => simp [decode, hparse] at h
  | some value =>
      simp only [decode, hparse] at h
      obtain ⟨members, rfl, hread⟩ := exists_wasRead h
      exact ⟨members, rfl, hread⟩

/-- A message that fits is read from its text as what the text says it is; what was read as a
message has nothing that its text does not say; and what was read from a text of integers is read
back as it is. -/
theorem decode_written :
    (∀ message : Message, message.Fits → message.toJson.depth ≤ Json.nestingLimit →
      decode message.toJson.compact = message.received) ∧
    (∀ body message, decode body = .ok message → message.received = .ok message) ∧
    ∀ body value message, Json.parse? body = some value → value.Integral →
      decode body = .ok message → decode message.toJson.compact = .ok message := by
  refine ⟨fun message => decode_compact, ?_, ?_⟩
  · intro body message h
    obtain ⟨members, -, hread⟩ := exists_of_decode h
    exact hread.received
  · intro body value message hvalue hintegral h
    obtain ⟨members, hparse, hread⟩ := exists_of_decode h
    rw [hparse, Option.some.injEq] at hvalue
    rw [← hvalue] at hintegral
    obtain ⟨hordered, hdepth⟩ := Json.ordered_of_parse? hparse
    rw [decode_compact (hread.fits ⟨hordered, hintegral⟩) (Nat.le_trans hread.depth hdepth)]
    exact hread.received

section Practice

/-- Refuses a request with a text for its number, and says `null` for the result. -/
def practiceRefusal : Message :=
  .response ⟨"2.0", some (.text "\"\n"), some .null,
    some ⟨-32601, "no", some (.arr [.int 18446744073709551615, .obj [("a", .null)]])⟩⟩

/-- A request whose number is given twice, with its members in no order. -/
def practiceBody : String :=
  "\x7b\"method\":\"m\", \"id\":-7,\"jsonrpc\":\"2.0\",\"id\":9," ++
    "\"params\":[-0,\x7b\"b\":1,\"a\":\"\\u00e9\"\x7d]\x7d"

def practiceRequest : Request :=
  ⟨"2.0", .number 9, "m", .arr [.float Json.minusZero, .obj [("a", .str "é"), ("b", .int 1)]]⟩

theorem decode_practiceBody : decode practiceBody = .ok (.request practiceRequest) := by
  decide +kernel

theorem decode_practiceWritten :
    decode practiceRefusal.toJson.compact = .ok (.response ⟨"2.0", some (.text "\"\n"), none,
      some ⟨-32601, "no", some (.arr [.int 18446744073709551615, .obj [("a", .null)]])⟩⟩) ∧
    (Message.request practiceRequest).received = .ok (.request practiceRequest) ∧
    decode (Message.request practiceRequest).toJson.compact = .ok (.request practiceRequest) := by
  have hgreat : (Json.int 18446744073709551615).Integral := by
    rw [Json.Integral]
    decide
  have hdata : (Json.arr [.int 18446744073709551615, .obj [("a", .null)]]).Plain :=
    ⟨⟨trivial, ⟨List.pairwise_singleton _ _, trivial, trivial⟩, trivial⟩,
      ⟨hgreat, ⟨trivial, trivial⟩, trivial⟩⟩
  have hfits : practiceRefusal.Fits := by
    refine ⟨?_, ?_, ?_⟩
    · rintro id ⟨⟩
      trivial
    · rintro value ⟨⟩
      exact Json.plain_null
    · rintro refusal ⟨⟩
      refine ⟨by decide, ?_⟩
      rintro value ⟨⟩
      exact hdata
  have hparse : Json.parse? practiceBody = some (.obj [("id", .int 9), ("jsonrpc", .str "2.0"),
      ("method", .str "m"), ("params", practiceRequest.params)]) := by
    decide +kernel
  have hintegral : (Json.obj [("id", .int 9), ("jsonrpc", .str "2.0"), ("method", .str "m"),
      ("params", practiceRequest.params)]).Integral :=
    ⟨integral_int (by decide), trivial, trivial,
      ⟨rfl, ⟨trivial, integral_int (by decide), trivial⟩, trivial⟩, trivial⟩
  exact ⟨decode_written.1 practiceRefusal hfits (by decide),
    decode_written.2.1 practiceBody _ decode_practiceBody,
    decode_written.2.2 practiceBody _ _ hparse hintegral decode_practiceBody⟩

end Practice

end Message

end NplLifecycle
