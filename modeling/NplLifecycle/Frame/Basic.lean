import NplLifecycle.Frame.Header

/-!
# Frames

The stream between client and server is a sequence of frames: a header block and a body of the
length that the header announces.  `next?` takes the first frame off a buffer.  A frame that
yields no message is a fault; its header, and its body if the length is usable, are taken off all
the same, so that the frames behind it are not lost with it.
-/

namespace NplLifecycle.Frame

def encode (body : String) : List UInt8 :=
  let bytes := Text.encode body
  Text.encode ("Content-Length: " ++ toString bytes.length ++ "\r\n\r\n") ++ bytes

/-- What a frame yields: the text of its body, or a fault. -/
abbrev Outcome := Except Fault String

/-- Takes the first frame off a buffer; `none` until the buffer holds a whole one. -/
def next? (buffer : List UInt8) : Option (Outcome × List UInt8) :=
  match splitHeader? buffer with
  | none => none
  | some (header, rest) =>
    match announcedLength header with
    | .error fault => some (.error fault, rest)
    | .ok length =>
      if rest.length < length then none
      else
        match Text.decode? (rest.take length) with
        | none => some (.error .bodyNotText, rest.drop length)
        | some body => some (.ok body, rest.drop length)

/-- A buffer is its header, the four bytes that end it, and what follows. -/
theorem splitHeader?_eq_some {buffer header rest : List UInt8}
    (h : splitHeader? buffer = some (header, rest)) :
    buffer = header ++ 13 :: 10 :: 13 :: 10 :: rest := by
  fun_induction splitHeader? buffer generalizing header rest with
  | case1 => simp at h
  | case2 body =>
    simp only [Option.some.injEq, Prod.mk.injEq] at h
    rw [← h.1, ← h.2, List.nil_append]
  | case3 b body _ ih =>
    obtain ⟨⟨inner, after⟩, hinner, heq⟩ := Option.map_eq_some_iff.1 h
    simp only [Prod.mk.injEq] at heq
    rw [← heq.1, ← heq.2, ih hinner, List.cons_append]

/-- A frame takes at least the four bytes that end its header. -/
theorem next?_length {buffer rest : List UInt8} {outcome : Outcome}
    (h : next? buffer = some (outcome, rest)) : rest.length + 4 ≤ buffer.length := by
  unfold next? at h
  split at h
  · simp at h
  · rename_i header body hsplit
    have hbuffer := congrArg List.length (splitHeader?_eq_some hsplit)
    simp only [List.length_append, List.length_cons] at hbuffer
    split at h
    · simp only [Option.some.injEq, Prod.mk.injEq] at h
      rw [← h.2]
      omega
    · split at h
      · simp at h
      · split at h <;>
        · simp only [Option.some.injEq, Prod.mk.injEq] at h
          rw [← h.2, List.length_drop]
          omega

/-- Takes off all whole frames; gives what they yield, in order, and the bytes left over. -/
def drain (buffer : List UInt8) : List Outcome × List UInt8 :=
  match _h : next? buffer with
  | none => ([], buffer)
  | some (outcome, rest) =>
    let (outcomes, left) := drain rest
    (outcome :: outcomes, left)
termination_by buffer.length
decreasing_by
  have := next?_length _h
  omega

/-- Appends chunks one by one, draining after each; gives what all frames yield and the bytes
left over. -/
def feed (buffer : List UInt8) : List (List UInt8) → List Outcome × List UInt8
  | [] => ([], buffer)
  | chunk :: rest =>
    let (outcomes, left) := drain (buffer ++ chunk)
    let (more, last) := feed left rest
    (outcomes ++ more, last)

end NplLifecycle.Frame
