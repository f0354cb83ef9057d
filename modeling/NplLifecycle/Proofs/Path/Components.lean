import Mathlib.Data.List.Infix
import NplLifecycle.Path.Basic

/-!
# Components of a path

A path is cut at its slashes, and the pieces that name something are its components.  A path that is
made absolute is written in one way: it begins with one slash, or with two where exactly two were
given, then come its components with one slash between any two of them, and a slash at the end
stays.
-/

namespace NplLifecycle.Path

def IsName (piece : List UInt8) : Prop :=
  isComponent piece = true ∧ slash ∉ piece

theorem IsName.ne_nil {name : List UInt8} (hname : IsName name) : name ≠ [] := by
  rintro rfl
  exact absurd hname.1 (by decide)

theorem pieces_ne_nil (bytes : List UInt8) : pieces bytes ≠ [] := by
  cases bytes with
  | nil => exact List.cons_ne_nil _ _
  | cons b rest =>
      rw [pieces]
      split
      · exact List.cons_ne_nil _ _
      · split
        · exact List.cons_ne_nil _ _
        · exact List.cons_ne_nil _ _

theorem pieces_append_slash (front behind : List UInt8) :
    pieces (front ++ slash :: behind) = pieces front ++ pieces behind := by
  induction front with
  | nil => rfl
  | cons b front ih =>
      rw [List.cons_append, pieces, pieces, ih]
      split
      · rfl
      · cases hfront : pieces front with
        | nil => exact absurd hfront (pieces_ne_nil front)
        | cons first others => rfl

/-- What holds no slash stays in one piece. -/
theorem pieces_append_of_not_mem {front behind first : List UInt8} {others : List (List UInt8)}
    (hfront : slash ∉ front) (hbehind : pieces behind = first :: others) :
    pieces (front ++ behind) = (front ++ first) :: others := by
  induction front with
  | nil => exact hbehind
  | cons b front ih =>
      rw [List.mem_cons, not_or] at hfront
      rw [List.cons_append, pieces, if_neg (Ne.symm hfront.1), ih hfront.2]
      rfl

theorem pieces_of_not_mem {bytes : List UInt8} (hbytes : slash ∉ bytes) :
    pieces bytes = [bytes] := by
  have hpieces := pieces_append_of_not_mem hbytes (show pieces [] = [] :: [] from rfl)
  rwa [List.append_nil] at hpieces

theorem slash_not_mem_of_mem_pieces {bytes piece : List UInt8} (hpiece : piece ∈ pieces bytes) :
    slash ∉ piece := by
  induction bytes generalizing piece with
  | nil =>
      rw [List.mem_singleton.mp hpiece]
      exact List.not_mem_nil
  | cons b rest ih =>
      rw [pieces] at hpiece
      split at hpiece
      · rcases List.mem_cons.mp hpiece with rfl | hrest
        · exact List.not_mem_nil
        · exact ih hrest
      · rename_i hslash
        split at hpiece
        · rename_i hnone
          exact absurd hnone (pieces_ne_nil rest)
        · rename_i first others hrest
          rw [hrest] at ih
          rcases List.mem_cons.mp hpiece with rfl | hother
          · rw [List.mem_cons, not_or]
            exact ⟨Ne.symm hslash, ih List.mem_cons_self⟩
          · exact ih (List.mem_cons_of_mem _ hother)

/-- The components of some bytes. -/
theorem components_append_slash (front behind : List UInt8) :
    components ⟨front ++ slash :: behind⟩ = components ⟨front⟩ ++ components ⟨behind⟩ := by
  rw [components, pieces_append_slash, List.filter_append]
  rfl

theorem components_concat_slash (front : List UInt8) :
    components ⟨front ++ [slash]⟩ = components ⟨front⟩ := by
  rw [components_append_slash]
  exact List.append_nil _

theorem isName_of_mem_components {p : Path} {name : List UInt8} (hname : name ∈ p.components) :
    IsName name := by
  obtain ⟨hpiece, hcomponent⟩ := List.mem_filter.mp hname
  exact ⟨hcomponent, slash_not_mem_of_mem_pieces hpiece⟩

theorem components_of_isName {name : List UInt8} (hname : IsName name) :
    components ⟨name⟩ = [name] := by
  rw [components, pieces_of_not_mem hname.2, List.filter_cons_of_pos hname.1, List.filter_nil]

/-- A path goes on with one component more. -/
theorem components_separate (directory : List UInt8) {name : List UInt8} (hname : IsName name) :
    components ⟨directory ++
      (if directory.getLast? = some slash ∨ directory = [] then [] else [slash]) ++ name⟩ =
      components ⟨directory⟩ ++ [name] := by
  split
  · rename_i hends
    rcases hends with hslash | rfl
    · obtain ⟨front, rfl⟩ := List.getLast?_eq_some_iff.mp hslash
      rw [List.append_nil, List.append_assoc, List.singleton_append, components_append_slash,
        components_concat_slash, components_of_isName hname]
    · exact components_of_isName hname
  · rw [List.append_assoc, List.singleton_append, components_append_slash,
      components_of_isName hname]

/-- The components of an entry's path are those of its directory and its name. -/
theorem components_entry (directory : Path) {name : String} (hname : IsName (Text.encode name)) :
    (directory.entry name).components = directory.components ++ [Text.encode name] :=
  components_separate directory.bytes hname

theorem extend_append (directory : List UInt8) (names more : List (List UInt8)) :
    extend directory (names ++ more) = extend (extend directory names) more := by
  induction names generalizing directory with
  | nil => rfl
  | cons name rest ih => exact ih _

theorem isPrefix_extend (directory : List UInt8) (names : List (List UInt8)) :
    directory <+: extend directory names := by
  induction names generalizing directory with
  | nil => exact List.prefix_rfl
  | cons name rest ih =>
      rw [extend]
      refine List.IsPrefix.trans ?_ (ih _)
      rw [List.append_assoc]
      exact List.prefix_append _ _

theorem components_extend (directory : List UInt8) {names : List (List UInt8)}
    (hnames : ∀ name ∈ names, IsName name) :
    components ⟨extend directory names⟩ = components ⟨directory⟩ ++ names := by
  induction names generalizing directory with
  | nil => exact (List.append_nil _).symm
  | cons name rest ih =>
      obtain ⟨hname, hrest⟩ := List.forall_mem_cons.mp hnames
      rw [extend, ih _ hrest, components_separate directory hname, List.append_assoc,
        List.singleton_append]

end NplLifecycle.Path
