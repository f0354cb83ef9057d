import NplLifecycle.Uri.File
import NplLifecycle.Uri.Strict
import Mathlib.Data.List.TakeWhile

/-!
# Which file identifiers are strict

The identifier of an absolute path has no user, no service, no query and no fragment, so all that
can be wrong with it is a character of its path.  Every byte that stands there for itself may stand
in a strict identifier, but for the brackets, the caret and the bar.
-/

namespace NplLifecycle.Uri

/-- The bytes that an identifier holds as they are, although a strict one may not. -/
def lenientBytes : List UInt8 :=
  "[]^|".toList.map fun c => c.toNat.toUInt8

/-- Is a path one whose identifier is strict: has no component of it a lenient byte? -/
def IsStrict (p : Path) : Prop :=
  ∀ component ∈ p.components, ∀ b ∈ component, b ∉ lenientBytes

instance (p : Path) : Decidable (IsStrict p) :=
  inferInstanceAs (Decidable (∀ component ∈ p.components, ∀ b ∈ component, b ∉ lenientBytes))

section Faults

variable {allowed : Char → Bool} {c : Char} {rest : List Char}

theorem firstFault?_cons (hc : c ≠ '%') (index : Nat) :
    firstFault? allowed index (c :: rest) =
      if allowed c then firstFault? allowed (index + c.utf8Size) rest else some index := by
  rw [firstFault?]
  intro a b rest hpercent
  exact absurd hpercent hc

/-- Whether there is a fault does not depend on where the counting begins. -/
theorem firstFault?_eq_none_iff (index other : Nat) (text : List Char) :
    firstFault? allowed index text = none ↔ firstFault? allowed other text = none := by
  induction index, text using firstFault?.induct allowed generalizing other with
  | case1 index => exact Iff.rfl
  | case2 index a b rest hdigits ih =>
      rw [firstFault?, firstFault?, if_pos hdigits, if_pos hdigits]
      exact ih _
  | case3 index a b rest hdigits =>
      rw [firstFault?, firstFault?, if_neg hdigits, if_neg hdigits]
      simp
  | case4 index c rest hc hallowed ih =>
      rw [firstFault?, firstFault?, if_pos hallowed, if_pos hallowed]
      · exact ih _
      · exact hc
      · exact hc
  | case5 index c rest hc hallowed =>
      rw [firstFault?, firstFault?, if_neg hallowed, if_neg hallowed]
      · simp
      · exact hc
      · exact hc

end Faults

section Bytes

variable {b : UInt8} {c : Char}

theorem isHexDigit_upperHexDigit {n : Nat} (hn : n < 16) :
    isHexDigit (Number.upperHexDigit n) = true := by
  revert n
  decide +kernel

/-- What holds of the bytes of two hexadecimal digits holds of every byte. -/
theorem forall_byte {P : UInt8 → Prop}
    (h : ∀ high < 16, ∀ low < 16, P (16 * high + low).toUInt8) (b : UInt8) : P b := by
  have hb := b.toNat_lt
  have hbyte : (16 * (b.toNat / 16) + b.toNat % 16).toUInt8 = b := by
    rw [Nat.div_add_mod]
    simp
  rw [← hbyte]
  exact h _ (by omega) _ (by omega)

theorem not_lenient_of_isEscaped : isEscaped b = true → b ∉ lenientBytes := by
  revert b
  apply forall_byte
  decide +kernel

/-- A byte that stands for itself begins no escape, and may stand in a path unless it is lenient. -/
theorem isPathChar_of_isEscaped : isEscaped b = false →
    Char.ofNat b.toNat ≠ '%' ∧ (isPathChar (Char.ofNat b.toNat) = true ↔ b ∉ lenientBytes) := by
  revert b
  apply forall_byte
  decide +kernel

theorem all_escapeByte : ((escapeByte b).all fun c => c ≠ '?' && c ≠ '#') = true := by
  revert b
  apply forall_byte
  decide +kernel

theorem firstFault?_escapeByte (index : Nat) (b : UInt8) (rest : List Char) :
    firstFault? isPathChar index (escapeByte b ++ rest) = none ↔
      b ∉ lenientBytes ∧ firstFault? isPathChar index rest = none := by
  rw [escapeByte]
  split
  · rename_i hescaped
    have hlenient := not_lenient_of_isEscaped hescaped
    have hb := b.toNat_lt
    have hhigh : isHexDigit (Number.upperHexDigit (b.toNat / 16)) = true :=
      isHexDigit_upperHexDigit (by omega)
    have hlow : isHexDigit (Number.upperHexDigit (b.toNat % 16)) = true :=
      isHexDigit_upperHexDigit (by omega)
    rw [escape, List.cons_append, List.cons_append, List.cons_append, List.nil_append, firstFault?,
      if_pos (by rw [hhigh, hlow]; rfl), firstFault?_eq_none_iff _ index, and_iff_right hlenient]
  · rename_i hplain
    rcases isPathChar_of_isEscaped (by simpa using hplain) with ⟨hpercent, hpath⟩
    rw [List.singleton_append, firstFault?_cons hpercent, ← hpath]
    split
    · rename_i hallowed
      rw [firstFault?_eq_none_iff _ index, and_iff_right hallowed]
    · rename_i hallowed
      simp [hallowed]

theorem firstFault?_flatMap_escapeByte (index : Nat) (component : List UInt8) (rest : List Char) :
    firstFault? isPathChar index (component.flatMap escapeByte ++ rest) = none ↔
      (∀ b ∈ component, b ∉ lenientBytes) ∧ firstFault? isPathChar index rest = none := by
  induction component with
  | nil => simp
  | cons b component ih =>
      rw [List.flatMap_cons, List.append_assoc, firstFault?_escapeByte, ih, List.forall_mem_cons,
        and_assoc]

theorem firstFault?_flatMap_segment (index : Nat) (components : List (List UInt8)) :
    firstFault? isPathChar index (components.flatMap segment) = none ↔
      ∀ component ∈ components, ∀ b ∈ component, b ∉ lenientBytes := by
  induction components with
  | nil => simp [firstFault?]
  | cons component components ih =>
      rw [List.flatMap_cons, segment, List.cons_append, firstFault?_cons (by decide),
        if_pos (by decide), firstFault?_eq_none_iff _ index, firstFault?_flatMap_escapeByte, ih,
        List.forall_mem_cons]

/-- No character of a path begins a query or a fragment. -/
theorem not_mark_of_mem_segments {components : List (List UInt8)}
    (hc : c ∈ components.flatMap segment) : c ≠ '?' ∧ c ≠ '#' := by
  rcases List.mem_flatMap.mp hc with ⟨component, -, hsegment⟩
  rcases List.mem_cons.mp hsegment with hslash | hbytes
  · rw [hslash]
    decide
  · rcases List.mem_flatMap.mp hbytes with ⟨b, -, hb⟩
    simpa using List.all_eq_true.mp all_escapeByte c hb

end Bytes

/-- In an identifier of nothing but a path, the first fault is that of the path. -/
theorem fault?_file {path : List Char} (hslash : path.head? = some '/')
    (hpath : ∀ c ∈ path, c ≠ '?' ∧ c ≠ '#') :
    fault? ("file://".toList ++ path) = firstFault? isPathChar 7 path := by
  have hscheme : ("file://".toList ++ path).takeWhile (· ≠ ':') = "file".toList := rfl
  have hstarts : ¬ ("file".toList.isEmpty || ! isLetter ("file".toList.headD ' ') ||
      "file".toList.length = ("file://".toList ++ path).length) = true := by
    simp [isLetter]
  have hclean : firstFault? (fun c => isLetter c || isDigit c || "+-.".toList.contains c) 0
      "file".toList = none := by decide
  have hrest : ("file://".toList ++ path).drop ("file".toList.length + 1) =
      '/' :: '/' :: path := rfl
  have hmarks : "//".toList.isPrefixOf ('/' :: '/' :: path) = true := rfl
  have hbehind : ('/' :: '/' :: path).drop 2 = path := rfl
  have hnobody : path.takeWhile (fun c => ! (c == '/' || c == '?' || c == '#')) = [] := by
    cases path with
    | nil => rfl
    | cons c path =>
        rw [Option.some.inj hslash]
        rfl
  have hwhole : path.takeWhile (fun c => c ≠ '?' && c ≠ '#') = path := by
    apply List.takeWhile_eq_self_iff.mpr
    intro c hc
    simp [hpath c hc]
  have hend : ('/' :: '/' :: path).drop (2 + path.length) = [] := by
    apply List.drop_eq_nil_of_le
    rw [List.length_cons, List.length_cons]
    omega
  have hfault : authorityFault? (5 + 2) [] = none := by decide
  have hpathStart : 5 + byteCount (('/' :: '/' :: path).take 2) = 7 := rfl
  have hstart : byteCount "file".toList + 1 = 5 := by decide
  rw [fault?, hscheme, if_neg hstarts, hclean, Option.orElse_none, hstart]
  simp only [hrest, hmarks, hbehind, if_true, hnobody, List.length_nil, Nat.zero_add, hwhole, hend,
    hfault, Option.orElse_none, hpathStart]
  cases firstFault? isPathChar 7 path <;> simp [firstFault?]

/-- The identifier of an absolute path is strict exactly if no component has a lenient byte. -/
theorem fault?_ofPath? {p : Path} {uri : String} (h : ofPath? p = some uri) :
    fault? uri.toList = none ↔ IsStrict p := by
  rw [ofPath?] at h
  split at h
  · rw [← Option.some.inj h, String.toList_ofList]
    split
    · rename_i hnone
      have hslash : ∀ c ∈ ['/'], c ≠ '?' ∧ c ≠ '#' := by simp
      rw [fault?_file rfl hslash, IsStrict, ← firstFault?_flatMap_segment 7, hnone,
        firstFault?_cons (by decide), if_pos (by decide), firstFault?, firstFault?]
    · rename_i hsome
      have hslash : (p.components.flatMap segment).head? = some '/' := by
        cases hcomponents : p.components with
        | nil =>
            rw [hcomponents] at hsome
            exact absurd rfl hsome
        | cons component rest => rfl
      rw [fault?_file hslash fun c hc => not_mark_of_mem_segments hc]
      exact firstFault?_flatMap_segment 7 p.components
  · exact absurd h (by simp)

end NplLifecycle.Uri
