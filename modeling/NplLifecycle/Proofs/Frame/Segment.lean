import NplLifecycle.Proofs.Frame.Length
import NplLifecycle.Proofs.Frame.Stream

/-!
# Streams of whole segments

A stream that is put together from written frames, frames whose body is no text, and headers that
announce no length falls into exactly these parts again: each yields its own outcome and takes its
own bytes, whatever the bodies say.
-/

namespace NplLifecycle.Frame

/-- A part of a stream that ends where the next one begins. -/
inductive Segment where
  /-- The frame of a text. -/
  | message (text : String) (hfits : (Text.encode text).length ≤ maxBody)
  /-- A header that announces its body, which is no text. -/
  | garbled (header body : List UInt8) (hclosed : Closed header)
    (hlength : Announces header body.length) (hbody : Text.decode? body = none)
  /-- A header that announces no length. -/
  | headless (header : List UInt8) (fault : Fault) (hclosed : Closed header)
    (hfault : Unusable header fault)

namespace Segment

def bytes : Segment → List UInt8
  | message text _ => encode text
  | garbled header body _ _ _ => header ++ terminator ++ body
  | headless header _ _ _ => header ++ terminator

def outcome : Segment → Outcome
  | message text _ => .ok text
  | garbled _ _ _ _ _ => .error .bodyNotText
  | headless _ fault _ _ => .error fault

end Segment

theorem next?_segment (segment : Segment) (rest : List UInt8) :
    next? (segment.bytes ++ rest) = some (segment.outcome, rest) := by
  cases segment with
  | message text hfits => exact next?_encode hfits rest
  | garbled header body hclosed hlength hbody =>
      rw [Segment.bytes, List.append_assoc, next?_of_announces hclosed hlength, hbody]
      rfl
  | headless header fault hclosed hfault => exact next?_of_unusable hclosed hfault rest

/-- Draining a stream of segments yields the outcome of each, in order, and leaves what follows
the last of them. -/
theorem drain_segments (segments : List Segment) {tail : List UInt8} (htail : next? tail = none) :
    drain (segments.flatMap Segment.bytes ++ tail) = (segments.map Segment.outcome, tail) := by
  induction segments with
  | nil => exact drain_of_none htail
  | cons segment segments ih =>
      rw [List.flatMap_cons, List.append_assoc, drain_of_some (next?_segment segment _), ih]
      rfl

/-- A message, a byte that is no text under a header in small letters, a header whose length is no
number and a message that looks like a header, with the beginning of another header behind them. -/
theorem drain_practiceSegments :
    let garbled := Text.encode "content-length :1"
    let headless := Text.encode "Content-Length: nine\r\nX: 1"
    let tail := Text.encode "Content-Length: 2\r\n\r\n0"
    drain (encode "\x7b\x7d" ++ (garbled ++ terminator ++ [255]) ++ (headless ++ terminator) ++
      encode "Content-Length: 1\r\n\r\n" ++ tail) =
      ([.ok "\x7b\x7d", .error .bodyNotText, .error .lengthInvalid,
        .ok "Content-Length: 1\r\n\r\n"], tail) := by
  intro garbled headless tail
  have hgarbled : splitHeader? (garbled ++ terminator) = some (garbled, []) := by decide
  have hheadless : splitHeader? (headless ++ terminator) = some (headless, []) := by decide
  have htail : next? tail = none := by decide
  exact drain_segments
    [.message "\x7b\x7d" (by decide),
      .garbled garbled [255] (closed_of_splitHeader? hgarbled)
        (announcedLength_eq_ok_iff.mp (by decide)) (by decide),
      .headless headless .lengthInvalid (closed_of_splitHeader? hheadless)
        (announcedLength_eq_error_iff.mp (by decide)),
      .message "Content-Length: 1\r\n\r\n" (by decide)] htail

end NplLifecycle.Frame
