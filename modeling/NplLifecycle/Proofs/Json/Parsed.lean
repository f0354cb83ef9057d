import NplLifecycle.Proofs.Json.RoundTrip

/-!
# What a text can say

A value that was read from a text has the members of its objects in order, is nested no deeper than
the parser allows, and its integers fit 64 bits.  So it is read back from its own text as it is, if
its doubles are the ones that their texts stand for.
-/

namespace NplLifecycle.Json

section Parts

variable {name : String} {value found : Json} {members built : List (String × Json)}

theorem ordered_of_lookup (h : MembersOrdered members) (hfound : members.lookup name = some found) :
    found.Ordered := by
  induction members with
  | nil => exact absurd hfound (by simp)
  | cons member members ih =>
      rw [lookup_cons_eq_ite] at hfound
      split at hfound
      · rw [← Option.some.inj hfound]
        exact h.1
      · exact ih h.2 hfound

theorem integral_of_lookup (h : MembersIntegral members)
    (hfound : members.lookup name = some found) : found.Integral := by
  induction members with
  | nil => exact absurd hfound (by simp)
  | cons member members ih =>
      rw [lookup_cons_eq_ite] at hfound
      split at hfound
      · rw [← Option.some.inj hfound]
        exact h.1
      · exact ih h.2 hfound

theorem depth_le_of_lookup (hfound : members.lookup name = some found) :
    found.depth ≤ membersDepth members := by
  induction members with
  | nil => exact absurd hfound (by simp)
  | cons member members ih =>
      rw [lookup_cons_eq_ite] at hfound
      split at hfound
      · rw [← Option.some.inj hfound]
        exact Nat.le_max_left ..
      · exact Nat.le_trans (ih hfound) (Nat.le_max_right ..)

theorem membersDepth_insertMember_le (name : String) (value : Json)
    (members : List (String × Json)) :
    membersDepth (insertMember name value members) ≤ max value.depth (membersDepth members) := by
  fun_induction insertMember name value members with
  | case1 => exact Nat.le_refl _
  | case2 => exact Nat.le_refl _
  | case3 old rest hless =>
      simp only [membersDepth]
      omega
  | case4 first old rest hless hne ih =>
      simp only [membersDepth]
      omega

theorem membersDepth_setMembers_le (built members : List (String × Json)) :
    membersDepth (setMembers built members) ≤ max (membersDepth built) (membersDepth members) := by
  induction members generalizing built with
  | nil => exact Nat.le_max_left ..
  | cons member members ih =>
      have hinsert := membersDepth_insertMember_le member.1 member.2 built
      have hrest := ih (insertMember member.1 member.2 built)
      rw [setMembers_cons, membersDepth]
      omega

theorem depth_ofMembers_le : (ofMembers members).depth ≤ membersDepth members + 1 := by
  have hset := membersDepth_setMembers_le [] members
  rw [ofMembers_eq, depth]
  simp only [membersDepth] at hset
  omega

end Parts

/-- A numeral stands for a number. -/
theorem number_of_value? {numeral : Numeral} {value : Json} (h : numeral.value? = some value) :
    (∃ n, value = .int n) ∨ ∃ x, value = .float x := by
  simp only [Numeral.value?] at h
  split at h
  · obtain ⟨x, -, hx⟩ := Option.map_eq_some_iff.mp h
    exact Or.inr ⟨_, hx.symm⟩
  · split at h
    · obtain ⟨x, -, hx⟩ := Option.map_eq_some_iff.mp h
      exact Or.inr ⟨_, hx.symm⟩
    · split at h
      · exact Or.inl ⟨_, (Option.some.inj h).symm⟩
      · split at h
        · exact Or.inl ⟨_, (Option.some.inj h).symm⟩
        · exact Or.inr ⟨_, (Option.some.inj h).symm⟩

mutual

/-- The value of a document is ordered and nested no deeper than the limit. -/
theorem ordered_of_value? (document : Document) (limit : Nat) {value : Json}
    (h : document.value? limit = some value) : value.Ordered ∧ value.depth ≤ limit := by
  match document, limit with
  | .null, _ | .bool _, _ =>
      rw [← Option.some.inj h]
      exact ⟨trivial, Nat.zero_le _⟩
  | .numeral number, _ =>
      cases number_of_value? h with
      | inl hint =>
          obtain ⟨n, rfl⟩ := hint
          exact ⟨trivial, Nat.zero_le _⟩
      | inr hfloat =>
          obtain ⟨x, rfl⟩ := hfloat
          exact ⟨trivial, Nat.zero_le _⟩
  | .text s, _ =>
      obtain ⟨text, -, rfl⟩ := Option.map_eq_some_iff.mp h
      exact ⟨trivial, Nat.zero_le _⟩
  | .list items, 0 | .record members, 0 => exact absurd h (by simp [Document.value?])
  | .list items, limit + 1 =>
      obtain ⟨values, hvalues, rfl⟩ := Option.map_eq_some_iff.mp h
      obtain ⟨hordered, hdepth⟩ := ordered_of_values? items limit hvalues
      exact ⟨hordered, Nat.succ_le_succ hdepth⟩
  | .record members, limit + 1 =>
      obtain ⟨found, hfound, rfl⟩ := Option.map_eq_some_iff.mp h
      obtain ⟨hordered, hdepth⟩ := ordered_of_members? members limit hfound
      exact ⟨ordered_ofMembers hordered,
        Nat.le_trans depth_ofMembers_le (Nat.succ_le_succ hdepth)⟩

theorem ordered_of_values? (documents : List Document) (limit : Nat) {values : List Json}
    (h : Document.values? limit documents = some values) :
    ItemsOrdered values ∧ itemsDepth values ≤ limit := by
  match documents with
  | [] =>
      rw [← Option.some.inj h]
      exact ⟨trivial, Nat.zero_le _⟩
  | document :: rest =>
      obtain ⟨value, hvalue, hmore⟩ := Option.bind_eq_some_iff.mp h
      obtain ⟨more, hrest, rfl⟩ := Option.map_eq_some_iff.mp hmore
      obtain ⟨hfirst, hdepth⟩ := ordered_of_value? document limit hvalue
      obtain ⟨hordered, hdepths⟩ := ordered_of_values? rest limit hrest
      exact ⟨⟨hfirst, hordered⟩, Nat.max_le.mpr ⟨hdepth, hdepths⟩⟩

theorem ordered_of_members? (documents : List (Option String × Document)) (limit : Nat)
    {members : List (String × Json)} (h : Document.members? limit documents = some members) :
    MembersOrdered members ∧ membersDepth members ≤ limit := by
  match documents with
  | [] =>
      rw [← Option.some.inj h]
      exact ⟨trivial, Nat.zero_le _⟩
  | (name, document) :: rest =>
      obtain ⟨text, -, hbehind⟩ := Option.bind_eq_some_iff.mp h
      obtain ⟨value, hvalue, hmore⟩ := Option.bind_eq_some_iff.mp hbehind
      obtain ⟨more, hrest, rfl⟩ := Option.map_eq_some_iff.mp hmore
      obtain ⟨hfirst, hdepth⟩ := ordered_of_value? document limit hvalue
      obtain ⟨hordered, hdepths⟩ := ordered_of_members? rest limit hrest
      exact ⟨⟨hfirst, hordered⟩, Nat.max_le.mpr ⟨hdepth, hdepths⟩⟩

end

theorem ordered_of_parse? {text : String} {value : Json} (h : parse? text = some value) :
    value.Ordered ∧ value.depth ≤ nestingLimit := by
  obtain ⟨document, -, hvalue⟩ := Option.bind_eq_some_iff.mp h
  exact ordered_of_value? document nestingLimit hvalue

section Every

variable {p q : Json → Prop} {name : String} {value : Json} {members built : List (String × Json)}

theorem everyMember_insertMember (hvalue : value.Every p) (h : EveryMember p members) :
    EveryMember p (insertMember name value members) := by
  fun_induction insertMember name value members with
  | case1 => exact ⟨hvalue, trivial⟩
  | case2 => exact ⟨hvalue, h⟩
  | case3 => exact ⟨hvalue, h.2⟩
  | case4 first old rest hless hne ih => exact ⟨h.1, ih h.2⟩

theorem every_of_lookup {found : Json} (h : EveryMember p members)
    (hfound : members.lookup name = some found) : found.Every p := by
  induction members with
  | nil => exact absurd hfound (by simp)
  | cons member members ih =>
      rw [lookup_cons_eq_ite] at hfound
      split at hfound
      · rw [← Option.some.inj hfound]
        exact h.1
      · exact ih h.2 hfound

theorem everyMember_setMembers (hbuilt : EveryMember p built) (h : EveryMember p members) :
    EveryMember p (setMembers built members) := by
  induction members generalizing built with
  | nil => exact hbuilt
  | cons member members ih => exact ih (everyMember_insertMember h.1 hbuilt) h.2

mutual

theorem every_and (value : Json) (hp : value.Every p) (hq : value.Every q) :
    value.Every fun part => p part ∧ q part := by
  match value with
  | .null | .bool _ | .int _ | .float _ | .str _ => exact ⟨hp, hq⟩
  | .arr items => exact everyItem_and items hp hq
  | .obj members => exact everyMember_and members hp hq

theorem everyItem_and (items : List Json) (hp : EveryItem p items) (hq : EveryItem q items) :
    EveryItem (fun part => p part ∧ q part) items := by
  match items with
  | [] => trivial
  | item :: rest => exact ⟨every_and item hp.1 hq.1, everyItem_and rest hp.2 hq.2⟩

theorem everyMember_and (members : List (String × Json)) (hp : EveryMember p members)
    (hq : EveryMember q members) : EveryMember (fun part => p part ∧ q part) members := by
  match members with
  | [] => trivial
  | (_, value) :: rest => exact ⟨every_and value hp.1 hq.1, everyMember_and rest hp.2 hq.2⟩

end

end Every

section Integers

theorem takeBelow_lt {bound soFar : Nat} (text : List Char) (h : soFar < bound) :
    (takeBelow bound soFar text).1 < bound := by
  induction text generalizing soFar with
  | nil => exact h
  | cons c text ih =>
      rw [takeBelow]
      split
      · rename_i hnext
        exact ih hnext
      · exact h

/-- An integer that a numeral stands for fits 64 bits. -/
theorem fits_of_numeral {numeral : Numeral} {value : Json} (h : numeral.value? = some value) :
    value.Fits := by
  have hbelow : ((takeBelow (Nat.pow 2 64) 0 numeral.whole).1 : Int) < Int.pow 2 64 :=
    Int.ofNat_lt.mpr (takeBelow_lt numeral.whole (by decide))
  have hgreat : 0 < Int.pow 2 64 := by decide
  have hhalf : 0 ≤ Int.pow 2 63 := by decide
  simp only [Numeral.value?] at h
  split at h
  · obtain ⟨x, -, rfl⟩ := Option.map_eq_some_iff.mp h
    trivial
  · split at h
    · obtain ⟨x, -, rfl⟩ := Option.map_eq_some_iff.mp h
      trivial
    · split at h
      · rw [← Option.some.inj h]
        exact ⟨by omega, hbelow⟩
      · split at h
        · rename_i hsmall
          have hbound : ((takeBelow (Nat.pow 2 64) 0 numeral.whole).1 : Int) ≤ Int.pow 2 63 :=
            Int.ofNat_le.mpr hsmall.2
          rw [← Option.some.inj h]
          exact ⟨by omega, by omega⟩
        · rw [← Option.some.inj h]
          trivial

mutual

/-- The integers of a document's value fit 64 bits. -/
theorem fits_of_value? (document : Document) (limit : Nat) {value : Json}
    (h : document.value? limit = some value) : value.Every Fits := by
  match document, limit with
  | .null, _ | .bool _, _ =>
      rw [← Option.some.inj h]
      trivial
  | .numeral number, _ =>
      have hfits := fits_of_numeral h
      cases number_of_value? h with
      | inl hint =>
          obtain ⟨n, rfl⟩ := hint
          exact hfits
      | inr hfloat =>
          obtain ⟨x, rfl⟩ := hfloat
          exact hfits
  | .text s, _ =>
      obtain ⟨text, -, rfl⟩ := Option.map_eq_some_iff.mp h
      trivial
  | .list items, 0 | .record members, 0 => exact absurd h (by simp [Document.value?])
  | .list items, limit + 1 =>
      obtain ⟨values, hvalues, rfl⟩ := Option.map_eq_some_iff.mp h
      exact fits_of_values? items limit hvalues
  | .record members, limit + 1 =>
      obtain ⟨found, hfound, rfl⟩ := Option.map_eq_some_iff.mp h
      exact everyMember_setMembers trivial (fits_of_members? members limit hfound)

theorem fits_of_values? (documents : List Document) (limit : Nat) {values : List Json}
    (h : Document.values? limit documents = some values) : EveryItem Fits values := by
  match documents with
  | [] =>
      rw [← Option.some.inj h]
      trivial
  | document :: rest =>
      obtain ⟨value, hvalue, hmore⟩ := Option.bind_eq_some_iff.mp h
      obtain ⟨more, hrest, rfl⟩ := Option.map_eq_some_iff.mp hmore
      exact ⟨fits_of_value? document limit hvalue, fits_of_values? rest limit hrest⟩

theorem fits_of_members? (documents : List (Option String × Document)) (limit : Nat)
    {members : List (String × Json)} (h : Document.members? limit documents = some members) :
    EveryMember Fits members := by
  match documents with
  | [] =>
      rw [← Option.some.inj h]
      trivial
  | (name, document) :: rest =>
      obtain ⟨text, -, hbehind⟩ := Option.bind_eq_some_iff.mp h
      obtain ⟨value, hvalue, hmore⟩ := Option.bind_eq_some_iff.mp hbehind
      obtain ⟨more, hrest, rfl⟩ := Option.map_eq_some_iff.mp hmore
      exact ⟨fits_of_value? document limit hvalue, fits_of_members? rest limit hrest⟩

end

theorem fits_of_parse? {text : String} {value : Json} (h : parse? text = some value) :
    value.Every Fits := by
  obtain ⟨document, -, hvalue⟩ := Option.bind_eq_some_iff.mp h
  exact fits_of_value? document nestingLimit hvalue

end Integers

end NplLifecycle.Json
