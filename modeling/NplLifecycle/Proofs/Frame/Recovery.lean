import NplLifecycle.Json.Document
import NplLifecycle.Proofs.Frame.Segment
import NplLifecycle.Proofs.Json.Line

/-!
# What is delivered behind a bad header

A header that announces no length is taken off alone, so its body stays in front of the next frame
and is read as the beginning of that frame's header.  The length line there counts only where it
begins a line.  If the body ends with a line break and blanks it does, and nothing is lost; if not,
the frame is a fault too, its own body stays in front of the next one, and no frame behind it is
ever delivered.
-/

namespace NplLifecycle.Frame

def delivered (buffer : List UInt8) : List String :=
  (drain buffer).1.filterMap Except.toOption

/-- The last line of a text is blank, or there is none. -/
def EndsBlank (text : List Char) : Prop :=
  ∀ c ∈ Text.lastPiece '\n' text, Text.isBlank c

instance : DecidablePred EndsBlank :=
  fun text => decidable_of_iff ((Text.lastPiece '\n' text).all Text.isBlank) List.all_eq_true

section Delivering

variable {buffer rest : List UInt8} {text : String} {fault : Fault}

theorem delivered_of_none (h : next? buffer = none) : delivered buffer = [] := by
  rw [delivered, drain_of_none h]
  rfl

theorem delivered_of_ok (h : next? buffer = some (.ok text, rest)) :
    delivered buffer = text :: delivered rest := by
  rw [delivered, drain_of_some h]
  rfl

theorem delivered_of_error (h : next? buffer = some (.error fault, rest)) :
    delivered buffer = delivered rest := by
  rw [delivered, drain_of_some h]
  rfl

end Delivering

section Behind

variable {text : List Char}

/-- Bytes of a text are split at a terminator where the text has two empty lines' ending. -/
theorem exists_of_splitHeader?_encode {header rest : List UInt8}
    (h : splitHeader? (Text.encode (String.ofList text)) = some (header, rest)) :
    ∃ front back, text = front ++ '\r' :: '\n' :: '\r' :: '\n' :: back ∧
      Text.encode (String.ofList front) = header ∧ Text.encode (String.ofList back) = rest := by
  obtain ⟨front, first, rfl, hfront, hfirst⟩ :=
    Text.exists_of_encode_eq_append_cons (by decide) (splitHeader?_eq_some h)
  obtain ⟨second, rfl, hsecond⟩ := Text.exists_of_encode_eq_cons (by decide) hfirst
  obtain ⟨third, rfl, hthird⟩ := Text.exists_of_encode_eq_cons (by decide) hsecond
  obtain ⟨back, rfl, hback⟩ := Text.exists_of_encode_eq_cons (by decide) hthird
  exact ⟨front, back, rfl, hfront, hback⟩

/-- Text in front is taken off up to its last terminator without delivering anything. -/
theorem exists_delivered_eq (havoids : Text.Avoids 'c' text) :
    ∃ last, Text.Avoids 'c' last ∧ splitHeader? (Text.encode (String.ofList last)) = none ∧
      (EndsBlank last ↔ EndsBlank text) ∧
      ∀ rest, delivered (Text.encode (String.ofList text) ++ rest) =
        delivered (Text.encode (String.ofList last) ++ rest) := by
  induction hlength : text.length using Nat.strongRecOn generalizing text with
  | ind length ih =>
      cases hsplit : splitHeader? (Text.encode (String.ofList text)) with
      | none => exact ⟨text, havoids, hsplit, Iff.rfl, fun rest => rfl⟩
      | some found =>
          obtain ⟨header, rest⟩ := found
          obtain ⟨front, back, htext, rfl, rfl⟩ := exists_of_splitHeader?_encode hsplit
          have hlines : text = (front ++ ['\r']) ++ '\n' :: (['\r'] ++ '\n' :: back) := by
            rw [htext]
            simp
          rw [hlines] at havoids
          obtain ⟨hhead, hrest⟩ := havoids.of_append_cons
          have hback : Text.Avoids 'c' back := hrest.of_append_cons.2
          obtain ⟨last, hlast, hopen, hblank, hdelivered⟩ :=
            ih back.length (by simp [← hlength, htext]; omega) hback rfl
          refine ⟨last, hlast, hopen, ?_, ?_⟩
          · rw [hblank, EndsBlank, EndsBlank, hlines, Text.lastPiece_append_cons,
              Text.lastPiece_append_cons]
          · intro more
            have hnext := next?_of_unusable (closed_of_splitHeader? hsplit)
              (unusable_of_avoids (hhead.of_append (by decide)))
              (Text.encode (String.ofList back) ++ more)
            rw [← hdelivered more, ← delivered_of_error hnext]
            have hbytes := splitHeader?_eq_some hsplit
            rw [hbytes]
            simp [terminator]

theorem pieces_chars (message : Json) :
    Text.pieces '\n' (Json.chars message) = [Json.chars message] :=
  Text.pieces_of_not_mem (Json.lineFeed_not_mem_chars message)

theorem avoids_chars (message : Json) : Text.Avoids 'c' (Json.chars message) := by
  obtain ⟨first, hfirst, hletter⟩ := Json.initial?_chars message
  rw [Text.Avoids, pieces_chars, List.forall_mem_singleton, hfirst]
  exact fun heq => hletter (Option.some.inj heq)

theorem not_endsBlank_chars (message : Json) : ¬EndsBlank (Json.chars message) := by
  obtain ⟨first, hfirst, _⟩ := Json.initial?_chars message
  rw [EndsBlank, Text.lastPiece, pieces_chars, ← Text.initial?_eq_none_iff]
  intro hnone
  exact absurd (hnone.symm.trans hfirst) (by simp)

/-- Behind text whose lines begin otherwise, either every message is delivered or none. -/
theorem delivered_behind (havoids : Text.Avoids 'c' text) {messages : List Json}
    (hfits : ∀ message ∈ messages, (Text.encode message.compact).length ≤ maxBody) :
    delivered (Text.encode (String.ofList text) ++
        messages.flatMap fun message => encode message.compact) =
      if EndsBlank text then messages.map Json.compact else [] := by
  induction messages generalizing text with
  | nil =>
      obtain ⟨last, _, hopen, _, hdelivered⟩ := exists_delivered_eq havoids
      have hnone : next? (Text.encode (String.ofList last) ++ []) = none := by
        rw [List.append_nil, next?, hopen]
      rw [List.flatMap_nil, hdelivered, delivered_of_none hnone, List.map_nil, ite_self]
  | cons message messages ih =>
      obtain ⟨last, hlast, hopen, hblank, hdelivered⟩ := exists_delivered_eq havoids
      rw [List.forall_mem_cons] at hfits
      rw [List.flatMap_cons, hdelivered]
      by_cases hends : EndsBlank text
      · have hinitial := Text.initial?_eq_none_iff.mpr (hblank.mpr hends)
        have hrest : delivered (messages.flatMap fun message => encode message.compact) =
            messages.map Json.compact := ih (Text.avoids_nil 'c') hfits.2
        rw [delivered_of_ok (next?_of_blank hlast hopen hinitial hfits.1 _), hrest, if_pos hends,
          List.map_cons]
      · have hinitial : Text.initial? (Text.lastPiece '\n' last) ≠ none := by
          rw [Ne, Text.initial?_eq_none_iff]
          exact fun h => hends (hblank.mp h)
        -- the body stays in front of the next frame
        have hrest := ih (avoids_chars message) hfits.2
        rw [if_neg (not_endsBlank_chars message)] at hrest
        rw [delivered_of_error (next?_of_not_blank hlast hopen hinitial _), if_neg hends]
        exact hrest

end Behind

section Losing

variable {header : List UInt8} {fault : Fault} {body : String} {messages : List Json}

theorem avoids_of_ofChars? (h : (Json.Document.ofChars? body.toList).isSome) :
    Text.Avoids 'c' body.toList := by
  obtain ⟨document, hdocument⟩ := Option.isSome_iff_exists.mp h
  obtain ⟨tokens, htokens, _⟩ := Option.bind_eq_some_iff.mp hdocument
  exact Json.avoids_of_tokens? htokens

/-- Behind a header that announces no length and a JSON text that was meant to be its body, every
message is delivered if the last line of that text is blank, and none is if it is not. -/
theorem delivered_of_unusable (hclosed : Closed header) (hfault : Unusable header fault)
    (hbody : (Json.Document.ofChars? body.toList).isSome)
    (hfits : ∀ message ∈ messages, (Text.encode message.compact).length ≤ maxBody) :
    delivered (header ++ terminator ++ (Text.encode body ++
        messages.flatMap fun message => encode message.compact)) =
      if EndsBlank body.toList then messages.map Json.compact else [] := by
  have hbehind := delivered_behind (avoids_of_ofChars? hbody) hfits
  rw [String.ofList_toList] at hbehind
  rw [delivered_of_error (next?_of_unusable hclosed hfault _), hbehind]

def practiceExit : Json :=
  .obj [("jsonrpc", .str "2.0"), ("method", .str "exit")]

theorem closed_practiceHeader : Closed (Text.encode "Content-Length: nine") := by
  have hsplit : splitHeader? (Text.encode "Content-Length: nine\r\n\r\n") =
      some (Text.encode "Content-Length: nine", []) := by decide
  exact closed_of_splitHeader? hsplit

theorem unusable_practiceHeader :
    Unusable (Text.encode "Content-Length: nine") .lengthInvalid :=
  announcedLength_eq_error_iff.mp (by decide)

theorem delivered_of_practiceBreak :
    delivered (Text.encode "Content-Length: nine" ++ terminator ++ (Text.encode "\x7b\x7d\n " ++
      [practiceExit, practiceExit].flatMap fun message => encode message.compact)) =
      [practiceExit, practiceExit].map Json.compact := by
  have hfits : ∀ message ∈ [practiceExit, practiceExit],
      (Text.encode message.compact).length ≤ maxBody := by decide
  have hbody : (Json.Document.ofChars? "\x7b\x7d\n ".toList).isSome := by decide +kernel
  have hdelivered := delivered_of_unusable closed_practiceHeader unusable_practiceHeader hbody hfits
  rw [hdelivered]
  exact if_pos (by decide)

/-- A message behind a header without a usable length and an empty record can be lost. -/
theorem not_delivered_of_practiceRecord :
    ¬∀ (header : List UInt8) (fault : Fault) (body : String) (messages : List Json),
      Closed header → Unusable header fault → (Json.Document.ofChars? body.toList).isSome →
      (∀ message ∈ messages, (Text.encode message.compact).length ≤ maxBody) →
      (messages.map Json.compact).Sublist
        (delivered (header ++ terminator ++ (Text.encode body ++
          messages.flatMap fun message => encode message.compact))) := by
  intro hclaim
  have hfits : ∀ message ∈ [practiceExit], (Text.encode message.compact).length ≤ maxBody := by
    decide
  have hrecord : (Json.Document.ofChars? "\x7b\x7d".toList).isSome := by decide +kernel
  have hlost := hclaim _ _ "\x7b\x7d" [practiceExit] closed_practiceHeader
    unusable_practiceHeader hrecord hfits
  have hbehind := delivered_behind (avoids_of_ofChars? hrecord) hfits
  rw [String.ofList_toList, if_neg (by decide)] at hbehind
  rw [delivered_of_error (next?_of_unusable closed_practiceHeader unusable_practiceHeader _),
    hbehind] at hlost
  exact absurd hlost.length_le (by decide)

end Losing

end NplLifecycle.Frame
