import NplLifecycle.Proofs.Path.Absolute
import NplLifecycle.Proofs.Text.Utf8

/-!
# Nesting by text

Whether one path is beneath another is decided on their texts.  Both separators are ASCII
characters, so on paths that are UTF-8 the same is said of the bytes.  What is made absolute stays
UTF-8, because the cuts between its components are made at an ASCII byte.
-/

namespace NplLifecycle

/-- The bytes are those of a text. -/
def Text.IsText (bytes : List UInt8) : Prop :=
  ∃ text, bytes = encode text

open Text (IsText)

theorem Text.isText_encode (text : String) : IsText (encode text) :=
  ⟨text, rfl⟩

theorem Text.IsText.append {front behind : List UInt8} (hfront : IsText front)
    (hbehind : IsText behind) : IsText (front ++ behind) := by
  obtain ⟨text, rfl⟩ := hfront
  obtain ⟨more, rfl⟩ := hbehind
  exact ⟨text ++ more, (encode_append text more).symm⟩

namespace Path

theorem isText_slash : IsText [slash] :=
  ⟨"/", by decide⟩

/-- The pieces of a text are texts. -/
theorem isText_of_mem_pieces {bytes piece : List UInt8} (hbytes : IsText bytes)
    (hpiece : piece ∈ pieces bytes) : IsText piece := by
  obtain ⟨text, rfl⟩ := hbytes
  obtain ⟨chars, rfl⟩ : ∃ chars, text = String.ofList chars := ⟨text.toList, by simp⟩
  induction chars generalizing piece with
  | nil =>
      rw [List.mem_singleton.mp hpiece]
      exact Text.isText_encode ""
  | cons c chars ih =>
      rw [Text.encode_ofList_cons] at hpiece
      by_cases hslash : slash ∈ String.utf8EncodeChar c
      · rw [(Text.eq_of_mem_utf8EncodeChar (by decide) hslash).2, ← List.nil_append [slash],
          List.append_assoc, List.singleton_append, pieces_append_slash] at hpiece
        rcases List.mem_append.mp hpiece with hnone | hrest
        · rw [List.mem_singleton.mp hnone]
          exact Text.isText_encode ""
        · exact ih hrest
      · cases hrest : pieces (Text.encode (String.ofList chars)) with
        | nil => exact absurd hrest (pieces_ne_nil _)
        | cons first others =>
            rw [pieces_append_of_not_mem hslash hrest] at hpiece
            rw [hrest] at ih
            rcases List.mem_cons.mp hpiece with rfl | hother
            · have hchar : IsText (String.utf8EncodeChar c) := by
                refine ⟨String.ofList [c], ?_⟩
                rw [Text.encode_ofList, List.flatMap_singleton]
              exact hchar.append (ih List.mem_cons_self)
            · exact ih (List.mem_cons_of_mem _ hother)

theorem isText_extend {directory : List UInt8} {names : List (List UInt8)}
    (hdirectory : IsText directory) (hnames : ∀ name ∈ names, IsText name) :
    IsText (extend directory names) := by
  induction names generalizing directory with
  | nil => exact hdirectory
  | cons name rest ih =>
      obtain ⟨hname, hrest⟩ := List.forall_mem_cons.mp hnames
      rw [extend]
      refine ih (.append (.append hdirectory ?_) hname) hrest
      split
      · exact Text.isText_encode ""
      · exact isText_slash

/-- What is made absolute is a text, if the path and the working directory are. -/
theorem isText_absoluteOrSame {workingDirectory p : Path}
    (hworking : IsText workingDirectory.bytes) (hp : IsText p.bytes) :
    IsText (absoluteOrSame workingDirectory p).bytes := by
  have hnames (name : List UInt8) (hname : name ∈ p.components) : IsText name :=
    isText_of_mem_pieces hp (List.mem_filter.mp hname).1
  have hstart : IsText (if p.isAbsolute then rootOf p.bytes else workingDirectory.bytes) := by
    split
    · rcases isLead_rootOf p.bytes with hroot | hroot
      · rw [hroot]
        exact isText_slash
      · rw [hroot]
        exact isText_slash.append isText_slash
    · exact hworking
  have hwhole (joined : List UInt8) (hjoined : IsText joined) :
      IsText (if endsInSlash p.bytes && ! endsInSlash joined then joined ++ [slash]
        else joined) := by
    split
    · exact hjoined.append isText_slash
    · exact hjoined
  rw [absoluteOrSame, absolute?]
  by_cases hempty : p.bytes = []
  · rw [if_pos hempty]
    exact hp
  · rw [if_neg hempty]
    exact hwhole _ (isText_extend hstart hnames)

/-- The bytes of one path go on behind those of another with a given byte. -/
def GoesOn (mark : UInt8) (candidate existing : Path) : Prop :=
  ∃ rest, candidate.bytes = existing.bytes ++ mark :: rest

/-- On texts, a character of ASCII stands behind a front exactly if its byte stands behind the
front's bytes. -/
theorem goesOn_iff_isPrefixOf {candidate existing : Path} {text front : String} {c : Char}
    (hcandidate : candidate.bytes = Text.encode text)
    (hexisting : existing.bytes = Text.encode front) (hascii : c.toNat < 128) :
    GoesOn (UInt8.ofNat c.toNat) candidate existing ↔
      (front.toList ++ [c]).isPrefixOf text.toList := by
  have hmark : Char.ofNat (UInt8.ofNat c.toNat).toNat = c := by
    rw [UInt8.toNat_ofNat', Nat.mod_eq_of_lt (by omega), Char.ofNat_toNat]
  rw [List.isPrefixOf_iff_prefix, GoesOn, hcandidate, hexisting]
  constructor
  · rintro ⟨rest, hrest⟩
    rw [← String.ofList_toList (s := text)] at hrest
    obtain ⟨before, after, hchars, hbefore, -⟩ :=
      Text.exists_of_encode_eq_append_cons (by rw [UInt8.toNat_ofNat']; omega) hrest
    rw [hmark] at hchars
    refine ⟨after, ?_⟩
    rw [hchars, ← Text.encode_inj.mp hbefore, String.toList_ofList, List.append_assoc,
      List.singleton_append]
  · rintro ⟨after, hafter⟩
    refine ⟨Text.encode (String.ofList after), ?_⟩
    rw [← String.ofList_toList (s := text), ← hafter, Text.encode_ofList_append,
      Text.encode_ofList_append, String.ofList_toList, Text.encode_ofList [c],
      List.flatMap_singleton, Text.utf8EncodeChar_of_ascii hascii, List.append_assoc,
      List.singleton_append]

/-- A path has the bytes of another, or they go on behind the other's with a separator: a slash, or
a backslash. -/
def Nested (candidate existing : Path) : Prop :=
  candidate.bytes = existing.bytes ∨ GoesOn slash candidate existing ∨ GoesOn 92 candidate existing

/-- On paths that are UTF-8, being the same or beneath by text is said of the bytes. -/
theorem isSameOrNested_iff {candidate existing : Path} (hcandidate : IsText candidate.bytes)
    (hexisting : IsText existing.bytes) :
    isSameOrNested candidate existing ↔ Nested candidate existing := by
  obtain ⟨text, htext⟩ := hcandidate
  obtain ⟨front, hfront⟩ := hexisting
  have hdisplay : candidate.display = text := by
    rw [display, htext, Text.decodeLossy_of_decode? (Text.decode?_encode text)]
  have hdisplay' : existing.display = front := by
    rw [display, hfront, Text.decodeLossy_of_decode? (Text.decode?_encode front)]
  have hsame : text.toList = front.toList ↔ candidate.bytes = existing.bytes := by
    rw [htext, hfront, String.toList_inj, Text.encode_inj]
  have hslash := goesOn_iff_isPrefixOf (c := '/') htext hfront (by decide)
  have hbackslash := goesOn_iff_isPrefixOf (c := '\\') htext hfront (by decide)
  rw [isSameOrNested, hdisplay, hdisplay', Bool.or_eq_true, Bool.or_eq_true, decide_eq_true_iff,
    hsame, ← hslash, ← hbackslash, or_assoc]
  rfl

end Path

end NplLifecycle
