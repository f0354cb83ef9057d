import NplLifecycle.Proofs.Frame.Positions
import NplLifecycle.Proofs.Server.Conversation

/-!
# Where a length leads out of memory

The practice server reckons where a body ends before it asks if the body has arrived, and takes any
length that fits a machine word.  If the sum does not fit too, it is a breach in a build that checks
sums; in one that does not, the end of the body comes to stand in front of its beginning, which is a
breach as well.  There is no other breach.  So the server crashes exactly where, behind frames that
do not end the conversation, a header gives such a length, however the stream is cut.
-/

namespace NplLifecycle.Practice

open NplLifecycle.Frame (Breach slice splitHeader? terminatorAt?)

/-- What a build makes of a sum that does not fit a machine word. -/
inductive Arithmetic where
  /-- It is a breach. -/
  | checked
  /-- What exceeds the word is lost. -/
  | wrapping
  deriving DecidableEq, Repr

def Arithmetic.plus : Arithmetic → Nat → Nat → Except Breach Nat
  | .checked, first, second =>
    if first + second < Nat.pow 2 64 then .ok (first + second) else .error .sum
  | .wrapping, first, second => .ok ((first + second) % Nat.pow 2 64)

def Arithmetic.breach : Arithmetic → Breach
  | .checked => .sum
  | .wrapping => .range

/-- Finds the first frame of a buffer by positions; gives its body, and how many bytes it takes. -/
def extract (arithmetic : Arithmetic) (buffer : List UInt8) :
    Except Breach (Option (String × Nat)) :=
  match terminatorAt? buffer with
  | none => .ok none
  | some headerEnd => do
    let header ← slice buffer 0 headerEnd
    match announcedLength? header with
    | none => return none
    | some length =>
      let bodyStart := headerEnd + 4
      let total ← arithmetic.plus bodyStart length
      if buffer.length < total then return none
      else
        let body ← slice buffer bodyStart total
        return (Text.decode? body).map fun text => (text, total)

/-- What the server sees of a frame that was looked for by positions. -/
def frontOf (buffer : List UInt8) : Except Breach (Option (String × Nat)) → Front
  | .error _ => .overflow
  | .ok none => .waiting
  | .ok (some (body, total)) => .frame body (buffer.drop total)

/-- The first header gives a length that ends beyond the greatest machine word. -/
def Overlong (buffer : List UInt8) : Prop :=
  ∃ header rest length, splitHeader? buffer = some (header, rest) ∧
    announcedLength? header = some length ∧ Nat.pow 2 64 ≤ header.length + 4 + length

section Sums

variable {arithmetic : Arithmetic} {first second : Nat}

theorem plus_of_lt (hfits : first + second < Nat.pow 2 64) :
    arithmetic.plus first second = .ok (first + second) := by
  cases arithmetic with
  | checked => exact if_pos hfits
  | wrapping => exact congrArg Except.ok (Nat.mod_eq_of_lt hfits)

/-- What is left of a sum that does not fit is less than either word. -/
theorem wrapped_lt (hsecond : second < Nat.pow 2 64)
    (hreach : Nat.pow 2 64 ≤ first + second) : (first + second) % Nat.pow 2 64 < first := by
  by_cases hfirst : first < Nat.pow 2 64
  · rw [Nat.mod_eq_sub_mod hreach, Nat.mod_eq_of_lt (by omega)]
    omega
  · have hpos : 0 < Nat.pow 2 64 := by decide
    exact Nat.lt_of_lt_of_le (Nat.mod_lt _ hpos) (Nat.le_of_not_lt hfirst)

end Sums

section Extracting

variable {arithmetic : Arithmetic} {buffer header rest : List UInt8} {length total : Nat}
  {body : String}

/-- The practice server uses a length only if it fits a machine word. -/
theorem announcedLength?_lt (hlength : announcedLength? header = some length) :
    length < Nat.pow 2 64 := by
  obtain ⟨text, -, hlines⟩ := Option.bind_eq_some_iff.mp hlength
  obtain ⟨line, -, hline⟩ := List.exists_of_findSome?_eq_some hlines
  obtain ⟨value, -, hvalue⟩ := Option.bind_eq_some_iff.mp hline
  rw [Number.readUnsigned?_eq_filter] at hvalue
  have hfits := (Option.filter_eq_some_iff.mp hvalue).2
  exact of_decide_eq_true hfits

theorem extract_of_none (hsplit : splitHeader? buffer = none) :
    extract arithmetic buffer = .ok none := by
  rw [extract, Frame.terminatorAt?_of_none hsplit]

theorem extract_of_silent (hsplit : splitHeader? buffer = some (header, rest))
    (hlength : announcedLength? header = none) : extract arithmetic buffer = .ok none := by
  simp only [extract, Frame.terminatorAt?_of_some hsplit, Frame.slice_header hsplit, bind,
    Except.bind, hlength, pure, Except.pure]

/-- A sum that does not fit is found out at once, or when the body is cut out. -/
theorem extract_of_overlong (hsplit : splitHeader? buffer = some (header, rest))
    (hlength : announcedLength? header = some length)
    (hreach : Nat.pow 2 64 ≤ header.length + 4 + length) :
    extract arithmetic buffer = .error arithmetic.breach := by
  simp only [extract, Frame.terminatorAt?_of_some hsplit, Frame.slice_header hsplit, bind,
    Except.bind, hlength]
  cases arithmetic with
  | checked =>
      rw [Arithmetic.plus, if_neg (Nat.not_lt.mpr hreach)]
      rfl
  | wrapping =>
      have hwrapped := wrapped_lt (announcedLength?_lt hlength) hreach
      have hsum := Frame.length_of_split hsplit
      rw [Arithmetic.plus]
      dsimp only
      rw [if_neg (by omega), slice, if_neg (by omega)]
      rfl

/-- A sum that fits is no breach: the body is cut out once all of it is there. -/
theorem extract_of_announced (hsplit : splitHeader? buffer = some (header, rest))
    (hlength : announcedLength? header = some length)
    (hfits : header.length + 4 + length < Nat.pow 2 64) : extract arithmetic buffer =
      .ok (if rest.length < length then none
        else (Text.decode? (rest.take length)).map fun text =>
          (text, header.length + 4 + length)) := by
  simp only [extract, Frame.terminatorAt?_of_some hsplit, Frame.slice_header hsplit, bind,
    Except.bind, hlength, plus_of_lt hfits, pure, Except.pure]
  have hsum := Frame.length_of_split hsplit
  by_cases hwaits : rest.length < length
  · rw [if_pos (by omega), if_pos hwaits]
  · rw [if_neg (by omega), if_neg hwaits, Frame.slice_body hsplit (Nat.le_of_not_lt hwaits)]

/-- What is found by positions is what is found without. -/
theorem frontOf_extract (arithmetic : Arithmetic) (buffer : List UInt8) :
    frontOf buffer (extract arithmetic buffer) = front buffer := by
  cases hsplit : splitHeader? buffer with
  | none =>
      rw [extract_of_none hsplit, front_of_none hsplit]
      rfl
  | some parts =>
      obtain ⟨header, rest⟩ := parts
      cases hlength : announcedLength? header with
      | none =>
          rw [extract_of_silent hsplit hlength]
          simp only [front, hsplit, hlength, frontOf]
      | some length =>
          by_cases hreach : Nat.pow 2 64 ≤ header.length + 4 + length
          · rw [extract_of_overlong hsplit hlength hreach]
            simp only [front, hsplit, hlength, if_pos hreach, frontOf]
          · have hfits := Nat.lt_of_not_le hreach
            rw [extract_of_announced hsplit hlength hfits, front_of_announced hsplit hlength hfits]
            have hrest := Frame.drop_of_split hsplit length
            split
            · rfl
            · cases Text.decode? (rest.take length) with
              | none => rfl
              | some body => exact congrArg (Front.frame body) hrest

/-- Looking for a frame is a breach, or it finds nothing or a frame that lies within the buffer. -/
theorem extract_cases (arithmetic : Arithmetic) (buffer : List UInt8) :
    (Overlong buffer ∧ extract arithmetic buffer = .error arithmetic.breach) ∨
      (¬Overlong buffer ∧ ∃ found, extract arithmetic buffer = .ok found ∧
        ∀ body total, found = some (body, total) →
          ∃ header rest, splitHeader? buffer = some (header, rest) ∧ header.length + 4 ≤ total ∧
            total ≤ buffer.length ∧ total < Nat.pow 2 64) := by
  cases hsplit : splitHeader? buffer with
  | none =>
      exact Or.inr ⟨by simp [Overlong, hsplit], none, extract_of_none hsplit, by simp⟩
  | some parts =>
      obtain ⟨header, rest⟩ := parts
      cases hlength : announcedLength? header with
      | none =>
          exact Or.inr ⟨by simp [Overlong, hsplit, hlength], none,
            extract_of_silent hsplit hlength, by simp⟩
      | some length =>
          by_cases hreach : Nat.pow 2 64 ≤ header.length + 4 + length
          · exact Or.inl ⟨⟨header, rest, length, hsplit, hlength, hreach⟩,
              extract_of_overlong hsplit hlength hreach⟩
          · have hfits := Nat.lt_of_not_le hreach
            refine Or.inr ⟨?_, _, extract_of_announced hsplit hlength hfits, ?_⟩
            · rintro ⟨header', rest', length', hsplit', hlength', hreach'⟩
              obtain ⟨rfl, rfl⟩ := Prod.mk.inj (Option.some.inj (hsplit.symm.trans hsplit'))
              obtain rfl := Option.some.inj (hlength.symm.trans hlength')
              exact hreach hreach'
            · intro body total hfound
              by_cases hwaits : rest.length < length
              · rw [if_pos hwaits] at hfound
                exact absurd hfound (by simp)
              · rw [if_neg hwaits] at hfound
                obtain ⟨text, -, hpair⟩ := Option.map_eq_some_iff.mp hfound
                obtain ⟨-, rfl⟩ := Prod.mk.inj hpair
                have hsum := Frame.length_of_split hsplit
                exact ⟨header, rest, rfl, Nat.le_add_right _ _, by omega, hfits⟩

/-- A breach comes of an overlong frame and of nothing else. -/
theorem extract_eq_error_iff (arithmetic : Arithmetic) (buffer : List UInt8) :
    (∃ breach, extract arithmetic buffer = .error breach) ↔ Overlong buffer := by
  rcases extract_cases arithmetic buffer with ⟨hoverlong, herror⟩ | ⟨hnot, found, hfound, -⟩
  · exact iff_of_true ⟨_, herror⟩ hoverlong
  · apply iff_of_false _ hnot
    rintro ⟨breach, hbreach⟩
    exact absurd (hfound.symm.trans hbreach) (by simp)

theorem front_eq_overflow_iff : front buffer = .overflow ↔ Overlong buffer := by
  rw [← extract_eq_error_iff .checked, ← frontOf_extract .checked]
  cases extract .checked buffer with
  | error breach => simp [frontOf]
  | ok found =>
      cases found with
      | none => simp [frontOf]
      | some found =>
          obtain ⟨body, total⟩ := found
          simp [frontOf]

/-- The body of a frame that is found lies within the buffer, and its end fits a machine word. -/
theorem bounds_of_extract (hfound : extract arithmetic buffer = .ok (some (body, total))) :
    ∃ header rest, splitHeader? buffer = some (header, rest) ∧ header.length + 4 ≤ total ∧
      total ≤ buffer.length ∧ total < Nat.pow 2 64 := by
  rcases extract_cases arithmetic buffer with ⟨-, herror⟩ | ⟨-, found, hother, hbounds⟩
  · exact absurd (herror.symm.trans hfound) (by simp)
  · exact hbounds body total (Except.ok.inj (hother.symm.trans hfound))

end Extracting

def endsWith (options : Options) (body : String) : Bool :=
  (Incoming.ofText? body).any (exitsAfter options)

/-- Behind frames that do not end the conversation there is an overlong one. -/
inductive Derails (options : Options) : List UInt8 → Prop where
  | here {stream : List UInt8} (hoverlong : Overlong stream) : Derails options stream
  | behind {stream rest : List UInt8} {body : String} (hfront : front stream = .frame body rest)
    (hgoes : endsWith options body = false) (hrest : Derails options rest) :
    Derails options stream

section Running

variable {options : Options} {server : Server} {buffer rest : List UInt8} {body : String}

theorem options_handleBody (server : Server) (body : String) :
    (server.handleBody body).options = server.options := by
  unfold Server.handleBody
  cases Incoming.ofText? body <;> rfl

theorem status_handleBody (hrunning : server.status = .running) (body : String) :
    (server.handleBody body).status =
      if endsWith server.options body then .exited else .running := by
  unfold Server.handleBody endsWith
  cases Incoming.ofText? body with
  | none => exact hrunning
  | some incoming =>
      rw [Option.elim_some, Option.any_some, ← hrunning]
      rfl

/-- Behind a frame it goes on with what follows, unless the frame ends the conversation. -/
theorem derails_of_frame (hfront : front buffer = .frame body rest) :
    Derails options buffer ↔ endsWith options body = false ∧ Derails options rest := by
  constructor
  · intro hderails
    cases hderails with
    | here hoverlong =>
        rw [front_eq_overflow_iff.mpr hoverlong] at hfront
        exact absurd hfront (by simp)
    | behind hsame hgoes hrest =>
        obtain ⟨rfl, rfl⟩ := Front.frame.inj (hsame.symm.trans hfront)
        exact ⟨hgoes, hrest⟩
  · rintro ⟨hgoes, hrest⟩
    exact .behind hfront hgoes hrest

theorem not_derails_of_waiting (hfront : front buffer = .waiting) :
    ¬Derails options buffer := by
  intro hderails
  cases hderails with
  | here hoverlong =>
      rw [front_eq_overflow_iff.mpr hoverlong] at hfront
      exact absurd hfront (by simp)
  | behind hsame hgoes hrest =>
      rw [hsame] at hfront
      exact absurd hfront (by simp)

/-- A running server crashes over a buffer exactly where it derails. -/
theorem crashed_drain_iff (hrunning : server.status = .running) (buffer : List UInt8) :
    (server.drain buffer).status = .crashed ↔ Derails server.options buffer := by
  fun_induction Server.drain server buffer with
  | case1 server buffer h =>
      apply iff_of_false
      · simp [hrunning]
      · exact not_derails_of_waiting h
  | case2 server buffer h => exact iff_of_true rfl (.here (front_eq_overflow_iff.mp h))
  | case3 server buffer body rest h next hnext ih =>
      have hgoes : endsWith server.options body = false := by
        have hstatus := hnext
        rw [status_handleBody hrunning] at hstatus
        cases hends : endsWith server.options body with
        | false => rfl
        | true => simp [hends] at hstatus
      rw [ih hnext, derails_of_frame h, options_handleBody]
      exact (and_iff_right hgoes).symm
  | case4 server buffer body rest h next hstopped =>
      have hstatus : next.status = _ := status_handleBody hrunning body
      cases hends : endsWith server.options body with
      | false =>
          rw [hends] at hstatus
          exact absurd hstatus hstopped
      | true =>
          rw [hends, if_pos rfl] at hstatus
          rw [derails_of_frame h, hends]
          simp [hstatus]

/-- In a build of either kind, looking for a frame is a breach exactly where the first header gives
a length that ends beyond the greatest machine word; everywhere else it finds what stands at the
front of the buffer, and the body that is cut out lies within the buffer.  With any options, and
however its input is cut, the server crashes exactly where behind frames that do not end the
conversation there is a header of that kind. -/
theorem crashes_iff_derails (arithmetic : Arithmetic) (buffer : List UInt8) (options : Options)
    (chunks : List (List UInt8)) :
    ((∃ breach, extract arithmetic buffer = .error breach) ↔ Overlong buffer) ∧
      frontOf buffer (extract arithmetic buffer) = front buffer ∧
      (∀ body total, extract arithmetic buffer = .ok (some (body, total)) →
        ∃ header rest, splitHeader? buffer = some (header, rest) ∧ header.length + 4 ≤ total ∧
          total ≤ buffer.length ∧ total < Nat.pow 2 64) ∧
      ((chunks.foldl Server.feed (.create options)).status = .crashed ↔
        Derails options chunks.flatten) := by
  refine ⟨extract_eq_error_iff arithmetic buffer, frontOf_extract arithmetic buffer,
    fun body total => bounds_of_extract, ?_⟩
  have hrunning : (Server.create options).status = .running := rfl
  have hwaiting : front (Server.create options).buffer = .waiting := rfl
  have htold := congrArg Server.status (told_foldl_feed hrunning hwaiting chunks)
  have hstatus : (chunks.foldl Server.feed (.create options)).status =
      ((Server.create options).drain chunks.flatten).status := htold
  rw [hstatus]
  exact crashed_drain_iff hrunning chunks.flatten

end Running

section Practice

/-- A header that gives the greatest machine word as the length. -/
def practiceGreed : List UInt8 :=
  Text.encode "Content-Length: 18446744073709551615\r\n\r\n"

/-- Behind the header this length ends beyond every machine word: a build that checks sums finds no
sum, one that does not cuts outside the buffer, and the server crashes. -/
theorem crashed_of_practiceGreed :
    extract .checked practiceGreed = .error .sum ∧
      extract .wrapping practiceGreed = .error .range ∧
      ([practiceGreed].foldl Server.feed (.create {})).status = .crashed := by
  have hfront : front practiceGreed = .overflow := by decide +kernel
  refine ⟨by decide +kernel, by decide +kernel, ?_⟩
  change ((Server.create {}).drain practiceGreed).status = .crashed
  rw [drain_of_overflow _ hfront]

/-- The same behind a message, in two pieces. -/
def practiceDetour : List (List UInt8) :=
  [Frame.encode "\x7b\x7d" ++ practiceGreed.take 30, practiceGreed.drop 30]

/-- The message is found within its frame, and behind it the server crashes. -/
theorem crashes_of_practiceDetour :
    (∃ header rest, splitHeader? (Frame.encode "\x7b\x7d") = some (header, rest) ∧
      header.length + 4 ≤ 23 ∧ 23 ≤ (Frame.encode "\x7b\x7d").length ∧ 23 < Nat.pow 2 64) ∧
    Derails {} practiceDetour.flatten ∧
      (practiceDetour.foldl Server.feed (.create {})).status = .crashed := by
  obtain ⟨-, -, hbounds, hcrashes⟩ :=
    crashes_iff_derails .wrapping (Frame.encode "\x7b\x7d") {} practiceDetour
  have hfound : extract .wrapping (Frame.encode "\x7b\x7d") = .ok (some ("\x7b\x7d", 23)) := by
    decide +kernel
  have hfirst : front practiceDetour.flatten = .frame "\x7b\x7d" practiceGreed := by
    decide +kernel
  have hsecond : front practiceGreed = .overflow := by decide +kernel
  have hderails : Derails {} practiceDetour.flatten :=
    .behind hfirst (by decide +kernel) (.here (front_eq_overflow_iff.mp hsecond))
  exact ⟨hbounds _ _ hfound, hderails, hcrashes.mpr hderails⟩

end Practice

end NplLifecycle.Practice
