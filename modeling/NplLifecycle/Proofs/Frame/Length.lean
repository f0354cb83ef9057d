import NplLifecycle.Proofs.Frame.Header
import NplLifecycle.Proofs.Number.Decimal
import NplLifecycle.Proofs.Text.Line
import NplLifecycle.Proofs.Text.Utf8

/-!
# Length lines

The header of a frame that is written is one line that gives the length.  What a reader makes of
that line depends on the text that stands in front of it in the header it takes off: in front of the
first frame, or behind a frame that ended where it should, there is none.
-/

namespace NplLifecycle.Frame

def lengthName : List Char :=
  ['C', 'o', 'n', 't', 'e', 'n', 't', '-', 'L', 'e', 'n', 'g', 't', 'h']

def lengthLine (length : Nat) : List Char :=
  lengthName ++ ':' :: ' ' :: Number.digits length

section Writing

theorem ofList_lengthLine (length : Nat) :
    String.ofList (lengthLine length) = "Content-Length: " ++ toString length := by
  have hname : "Content-Length: ".toList = lengthName ++ [':', ' '] := by decide
  apply String.toList_injective
  calc (String.ofList (lengthLine length)).toList
      = lengthName ++ [':', ' '] ++ Number.digits length := by
        rw [String.toList_ofList, List.append_assoc]
        rfl
    _ = ("Content-Length: " ++ toString length).toList := by
        rw [String.toList_append, hname, Number.toList_toString length]

/-- A frame is its length line, a terminator and its body. -/
theorem encode_eq (body : String) : encode body =
    Text.encode (String.ofList (lengthLine (Text.encode body).length)) ++ terminator ++
      Text.encode body := by
  have hend : Text.encode "\r\n\r\n" = terminator := by decide
  rw [ofList_lengthLine, ← hend, ← Text.encode_append]
  rfl

variable {length : Nat} {c : Char}

theorem lengthLine_ne_nil : lengthLine length ≠ [] :=
  List.cons_ne_nil _ _

/-- A length line is made of visible ASCII characters and blanks between words. -/
theorem bounds_of_mem_lengthLine (hc : c ∈ lengthLine length) :
    32 ≤ c.toNat ∧ c.toNat < 128 := by
  have hname : (lengthName ++ [':', ' ']).all fun c => 32 ≤ c.toNat ∧ c.toNat < 128 := by decide
  have hsplit : c ∈ (lengthName ++ [':', ' ']) ++ Number.digits length := by
    rw [List.append_assoc]
    exact hc
  cases List.mem_append.mp hsplit with
  | inl hword => exact of_decide_eq_true (List.all_eq_true.mp hname c hword)
  | inr hdigit =>
      have hbounds := Number.bounds_of_isDigit (Number.isDigit_of_mem_digits hdigit)
      omega

theorem lineFeed_not_mem_lengthLine : '\n' ∉ lengthLine length := by
  intro h
  exact absurd (bounds_of_mem_lengthLine h).1 (by decide)

/-- No byte of a length line belongs to a line ending. -/
theorem not_mem_encode_lengthLine {b : UInt8} (hb : b ∈ terminator) :
    b ∉ Text.encode (String.ofList (lengthLine length)) := by
  intro hmem
  rw [Text.encode_ofList, List.mem_flatMap] at hmem
  obtain ⟨c, hc, hbyte⟩ := hmem
  have hbounds := bounds_of_mem_lengthLine hc
  rw [Text.utf8EncodeChar_of_ascii hbounds.2] at hbyte
  have hends : ∀ b ∈ terminator, b.toNat < 32 := by simp [terminator]
  have hlow := hends b hb
  rw [List.mem_singleton.mp hbyte, UInt8.toNat_ofNat'] at hlow
  omega

/-- Behind text without a terminator, a length line ends a header. -/
theorem closed_lengthLine {front : List Char}
    (hfront : splitHeader? (Text.encode (String.ofList front)) = none) (length : Nat) :
    Closed (Text.encode (String.ofList (front ++ lengthLine length))) := by
  have hne : Text.encode (String.ofList (lengthLine length)) ≠ [] := by
    rw [lengthLine, lengthName, List.cons_append, Text.encode_ofList_cons]
    exact List.append_ne_nil_of_left_ne_nil (String.utf8EncodeChar_ne_nil) _
  rw [Text.encode_ofList_append]
  exact closed_append hfront hne (fun _ => not_mem_encode_lengthLine)

end Writing

section Fields

variable {line : List Char}

/-- A line with a length field begins with the first letter of its name. -/
theorem initial?_of_lengthField? {value : List Char} (h : lengthField? line = some value) :
    Text.initial? line = some 'c' := by
  have hword : "content-length".toList = 'c' :: "ontent-length".toList := by decide
  obtain ⟨⟨name, after⟩, hcut, hfield⟩ := Option.bind_eq_some_iff.mp h
  rw [Text.eq_append_of_cutAt? hcut, Text.initial?_append]
  dsimp only at hfield
  split at hfield
  · rename_i hname
    rw [hword] at hname
    rw [Text.initial?_of_sameIgnoringCase hname]
    rfl
  · exact absurd hfield (by simp)

/-- Blanks in front of a length line do not hide it. -/
theorem lengthField?_lengthLine {blank : List Char} (hblank : Text.initial? blank = none)
    (length : Nat) : lengthField? (blank ++ lengthLine length) = some (Number.digits length) := by
  have hcolon : ':' ∉ blank ++ lengthName := by
    rw [List.mem_append, not_or]
    refine ⟨?_, by decide⟩
    intro hmem
    exact absurd (Text.initial?_eq_none_iff.mp hblank ':' hmem) (by decide)
  have hname : Text.trim (blank ++ lengthName) = lengthName := by
    rw [Text.trim_append_of_blank hblank]
    decide
  have hvalue : Text.trim (' ' :: Number.digits length) = Number.digits length := by
    rw [← List.singleton_append, Text.trim_append_of_blank (by decide)]
    exact Text.trim_of_not_blank fun c hc =>
      Number.isBlank_of_isDigit (Number.isDigit_of_mem_digits hc)
  rw [lengthField?, lengthLine, ← List.append_assoc, Text.cutAt?_append_cons hcolon,
    Option.bind_some]
  dsimp only
  rw [hname, hvalue]
  exact if_pos (by decide)

variable {front : List Char} {length : Nat}

theorem lengthField?_of_avoids (havoids : Text.Avoids 'c' front) {piece : List Char}
    (hpiece : piece ∈ Text.pieces '\n' front) (hfront : line <+: piece) :
    lengthField? line = none := by
  apply Option.eq_none_iff_forall_ne_some.mpr
  intro value hvalue
  have hinitial := Text.initial?_of_front hfront (initial?_of_lengthField? hvalue)
  exact havoids piece hpiece hinitial

theorem lengthField?_of_mem_ended (havoids : Text.Avoids 'c' front) :
    ∀ line ∈ (Text.pieces '\n' front).dropLast.map Text.dropReturn, lengthField? line = none := by
  intro line hline
  obtain ⟨piece, hpiece, rfl⟩ := List.mem_map.mp hline
  exact lengthField?_of_avoids havoids (List.dropLast_subset _ hpiece)
    (Text.front_dropReturn piece)

/-- A text whose lines begin otherwise is no header of use. -/
theorem unusable_of_avoids (havoids : Text.Avoids 'c' front) :
    Unusable (Text.encode (String.ofList front)) .lengthMissing := by
  refine .missing (Text.decode?_encode _) ?_
  intro line hline
  rw [String.toList_ofList] at hline
  obtain ⟨piece, hpiece, hfront⟩ := Text.exists_front_of_mem_lines hline
  exact lengthField?_of_avoids havoids hpiece hfront

/-- Where the lines in front begin otherwise and the last of them is blank, a length line announces
its length. -/
theorem announces_of_blank (havoids : Text.Avoids 'c' front)
    (hlast : Text.initial? (Text.lastPiece '\n' front) = none) (hfits : length ≤ maxBody) :
    Announces (Text.encode (String.ofList (front ++ lengthLine length))) length := by
  have hfeed : '\n' ∉ lengthLine length := lineFeed_not_mem_lengthLine
  have hlines := Text.lines_append_of_not_mem front hfeed lengthLine_ne_nil
  refine .intro (Text.decode?_encode _)
    ⟨_, _, [], ?_, lengthField?_of_mem_ended havoids, lengthField?_lengthLine hlast length⟩
    (Number.readUnsigned?_digits ?_) hfits
  · rw [String.toList_ofList, hlines]
  · calc length ≤ maxBody := hfits
      _ < lengthBound := by decide

/-- Where the lines in front begin otherwise and the last of them is not blank, a length line is
overlooked. -/
theorem unusable_of_not_blank (havoids : Text.Avoids 'c' front)
    (hlast : Text.initial? (Text.lastPiece '\n' front) ≠ none) :
    Unusable (Text.encode (String.ofList (front ++ lengthLine length))) .lengthMissing := by
  have hfeed : '\n' ∉ lengthLine length := lineFeed_not_mem_lengthLine
  have hlines := Text.lines_append_of_not_mem front hfeed lengthLine_ne_nil
  refine .missing (Text.decode?_encode _) ?_
  intro line hline
  rw [String.toList_ofList, hlines, List.mem_append] at hline
  cases hline with
  | inl hended => exact lengthField?_of_mem_ended havoids line hended
  | inr hglued =>
      rw [List.mem_singleton.mp hglued]
      apply Option.eq_none_iff_forall_ne_some.mpr
      intro value hvalue
      obtain ⟨first, hfirst⟩ := Option.ne_none_iff_exists'.mp hlast
      have hinitial := initial?_of_lengthField? hvalue
      rw [Text.initial?_append, hfirst, Option.some_or] at hinitial
      exact havoids _ (Text.lastPiece_mem '\n' front) (hfirst.trans hinitial)

end Fields

section Behind

variable {front : List Char} {text : String}

theorem encode_behind (front : List Char) (text : String) (rest : List UInt8) :
    Text.encode (String.ofList front) ++ (encode text ++ rest) =
      Text.encode (String.ofList (front ++ lengthLine (Text.encode text).length)) ++ terminator ++
        (Text.encode text ++ rest) := by
  rw [encode_eq, Text.encode_ofList_append]
  simp only [List.append_assoc]

/-- A frame is taken off with the text in front if a length line is found there. -/
theorem next?_of_blank (havoids : Text.Avoids 'c' front)
    (hopen : splitHeader? (Text.encode (String.ofList front)) = none)
    (hlast : Text.initial? (Text.lastPiece '\n' front) = none)
    (hfits : (Text.encode text).length ≤ maxBody) (rest : List UInt8) :
    next? (Text.encode (String.ofList front) ++ (encode text ++ rest)) = some (.ok text, rest) := by
  rw [encode_behind,
    next?_of_announces (closed_lengthLine hopen _) (announces_of_blank havoids hlast hfits),
    Text.decode?_encode]
  rfl

/-- Only the header of a frame is taken off with the text in front if the length line is overlooked
there: the body stays. -/
theorem next?_of_not_blank (havoids : Text.Avoids 'c' front)
    (hopen : splitHeader? (Text.encode (String.ofList front)) = none)
    (hlast : Text.initial? (Text.lastPiece '\n' front) ≠ none) (rest : List UInt8) :
    next? (Text.encode (String.ofList front) ++ (encode text ++ rest)) =
      some (.error .lengthMissing, Text.encode text ++ rest) := by
  rw [encode_behind,
    next?_of_unusable (closed_lengthLine hopen _) (unusable_of_not_blank havoids hlast)]

/-- A frame is taken off alone, whatever follows and whatever its text says. -/
theorem next?_encode (hfits : (Text.encode text).length ≤ maxBody) (rest : List UInt8) :
    next? (encode text ++ rest) = some (.ok text, rest) :=
  next?_of_blank (Text.avoids_nil 'c') rfl rfl hfits rest

end Behind

end NplLifecycle.Frame
