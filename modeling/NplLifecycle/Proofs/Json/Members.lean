import NplLifecycle.Json.Basic

/-!
# Members in order

An object that is built member by member holds them ordered by name, whatever order they came in,
and under each name the value that was set last.  Members that come in order are kept as they are.
-/

namespace NplLifecycle.Json

variable {name other : String} {value : Json} {members built : List (String × Json)}

def Ascending (members : List (String × Json)) : Prop :=
  (members.map Prod.fst).Pairwise (· < ·)

section Lookups

variable {α : Type} {entry : α} {entries : List (String × α)}

theorem lookup_cons_eq_ite :
    ((name, entry) :: entries).lookup other =
      if other = name then some entry else entries.lookup other := by
  rw [List.lookup_cons]
  by_cases hsame : other = name
  · rw [beq_iff_eq.mpr hsame, if_pos hsame]
  · rw [beq_eq_false_iff_ne.mpr hsame, if_neg hsame]

theorem lookup_eq_none_of_not_mem (h : name ∉ entries.map Prod.fst) :
    entries.lookup name = none := by
  induction entries with
  | nil => rfl
  | cons member entries ih =>
      rw [List.map_cons, List.mem_cons, not_or] at h
      rw [lookup_cons_eq_ite, if_neg h.1, ih h.2]

end Lookups

section Insertion

theorem mem_names_insertMember (h : other ∈ (insertMember name value members).map Prod.fst) :
    other = name ∨ other ∈ members.map Prod.fst := by
  fun_induction insertMember name value members with
  | case1 => simpa using h
  | case2 => simpa using h
  | case3 => exact Or.inr (by simpa using h)
  | case4 first old rest hless hne ih =>
      rw [List.map_cons, List.mem_cons] at h ⊢
      cases h with
      | inl hfirst => exact Or.inr (Or.inl hfirst)
      | inr hrest => exact (ih hrest).imp_right Or.inr

theorem Ascending.insertMember (h : Ascending members) :
    Ascending (insertMember name value members) := by
  fun_induction Json.insertMember name value members with
  | case1 => exact List.pairwise_singleton _ _
  | case2 first old rest hless =>
      refine List.pairwise_cons.mpr ⟨?_, h⟩
      intro later hlater
      cases List.mem_cons.mp hlater with
      | inl hfirst =>
          rw [hfirst]
          exact hless
      | inr hrest => exact String.lt_trans hless ((List.pairwise_cons.mp h).1 later hrest)
  | case3 old rest hless => exact h
  | case4 first old rest hless hne ih =>
      obtain ⟨hfirst, hrest⟩ := List.pairwise_cons.mp h
      refine List.pairwise_cons.mpr ⟨?_, ih hrest⟩
      intro later hlater
      cases mem_names_insertMember hlater with
      | inl hname =>
          rw [hname]
          exact Std.lt_of_le_of_ne (String.not_lt.mp hless) (Ne.symm hne)
      | inr hold => exact hfirst later hold

theorem membersOrdered_insertMember (hvalue : value.Ordered) (h : MembersOrdered members) :
    MembersOrdered (insertMember name value members) := by
  fun_induction insertMember name value members with
  | case1 => exact ⟨hvalue, trivial⟩
  | case2 => exact ⟨hvalue, h⟩
  | case3 => exact ⟨hvalue, h.2⟩
  | case4 first old rest hless hne ih => exact ⟨h.1, ih h.2⟩

/-- A member that was set is found; the others are found as before. -/
theorem lookup_insertMember :
    (insertMember name value members).lookup other =
      if other = name then some value else members.lookup other := by
  fun_induction insertMember name value members with
  | case1 => exact lookup_cons_eq_ite
  | case2 => exact lookup_cons_eq_ite
  | case3 old rest hless =>
      rw [lookup_cons_eq_ite, lookup_cons_eq_ite]
      split
      · rfl
      · rfl
  | case4 first old rest hless hne ih =>
      rw [lookup_cons_eq_ite, lookup_cons_eq_ite, ih]
      by_cases hfirst : other = first
      · rw [if_pos hfirst, if_pos hfirst, if_neg (hfirst ▸ Ne.symm hne)]
      · rw [if_neg hfirst, if_neg hfirst]

/-- Of two values that are set under one name the later stays. -/
theorem insertMember_insertMember (first second : Json) :
    insertMember name second (insertMember name first members) =
      insertMember name second members := by
  induction members with
  | nil => simp [insertMember]
  | cons member members ih => grind [insertMember]

/-- Members of two names may be set in either order. -/
theorem insertMember_comm (hne : name ≠ other) (first second : Json) :
    insertMember name first (insertMember other second members) =
      insertMember other second (insertMember name first members) := by
  induction members with
  | nil => grind [insertMember]
  | cons member members ih => grind [insertMember]

/-- A member whose name is greater than the others is put behind them. -/
theorem insertMember_eq_append (h : ∀ old ∈ members.map Prod.fst, old < name) :
    insertMember name value members = members ++ [(name, value)] := by
  induction members with
  | nil => rfl
  | cons member members ih =>
      rw [List.map_cons, List.forall_mem_cons] at h
      have hless : ¬name < member.1 := fun hless => String.lt_irrefl _ (String.lt_trans hless h.1)
      have hne : name ≠ member.1 := fun heq => String.lt_irrefl _ (heq ▸ h.1)
      rw [insertMember, if_neg hless, if_neg hne, ih h.2, List.cons_append]

/-- A member is put between the smaller and the greater names, whatever its value is. -/
theorem exists_insertMember_eq (hascending : Ascending members) (name : String) :
    ∃ front behind, (∀ value, insertMember name value members = front ++ (name, value) :: behind) ∧
      (∀ member ∈ front, member.1 < name) ∧ (∀ member ∈ behind, name < member.1) ∧
      ∀ member, member ∈ front ++ behind ↔ member ∈ members ∧ member.1 ≠ name := by
  induction members with
  | nil => exact ⟨[], [], fun _ => rfl, by simp, by simp, by simp⟩
  | cons member members ih =>
      obtain ⟨first, old⟩ := member
      obtain ⟨hfirst, hrest⟩ := List.pairwise_cons.mp hascending
      have hlater : ∀ member ∈ members, first < member.1 := fun member hmember =>
        hfirst member.1 (List.mem_map_of_mem hmember)
      by_cases hless : name < first
      · have hbehind : ∀ member ∈ (first, old) :: members, name < member.1 :=
          List.forall_mem_cons.mpr
            ⟨hless, fun member hmember => String.lt_trans hless (hlater member hmember)⟩
        refine ⟨[], (first, old) :: members, fun value => by rw [insertMember, if_pos hless]; rfl,
          by simp, hbehind, fun member => ?_⟩
        refine ⟨fun hmember => ⟨hmember, fun heq => ?_⟩, And.left⟩
        exact String.lt_irrefl _ (heq ▸ hbehind member hmember)
      · by_cases hsame : name = first
        · subst hsame
          refine ⟨[], members, fun value => by rw [insertMember, if_neg hless, if_pos rfl]; rfl,
            by simp, hlater, fun member => ?_⟩
          constructor
          · exact fun hmember => ⟨List.mem_cons_of_mem _ hmember,
              fun heq => String.lt_irrefl _ (heq ▸ hlater member hmember)⟩
          · rintro ⟨hmember, hne⟩
            exact (List.mem_cons.mp hmember).resolve_left fun heq => hne (heq ▸ rfl)
        · obtain ⟨front, behind, hinsert, hfront, hbehind, hmem⟩ := ih hrest
          have hbelow : first < name := Std.lt_of_le_of_ne (String.not_lt.mp hless) (Ne.symm hsame)
          refine ⟨(first, old) :: front, behind, fun value => ?_,
            List.forall_mem_cons.mpr ⟨hbelow, hfront⟩, hbehind, fun member => ?_⟩
          · rw [insertMember, if_neg hless, if_neg hsame, hinsert, List.cons_append]
          · rw [List.cons_append, List.mem_cons, List.mem_cons, hmem]
            constructor
            · rintro (rfl | ⟨hmember, hne⟩)
              · exact ⟨Or.inl rfl, Ne.symm hsame⟩
              · exact ⟨Or.inr hmember, hne⟩
            · rintro ⟨rfl | hmember, hne⟩
              · exact Or.inl rfl
              · exact Or.inr ⟨hmember, hne⟩

end Insertion

section Building

/-- The members that are set one after the other, from those that are there on. -/
def setMembers (built members : List (String × Json)) : List (String × Json) :=
  members.foldl (fun built member => insertMember member.1 member.2 built) built

theorem ofMembers_eq : ofMembers members = .obj (setMembers [] members) :=
  rfl

theorem setMembers_cons :
    setMembers built ((name, value) :: members) =
      setMembers (insertMember name value built) members :=
  rfl

theorem Ascending.setMembers (h : Ascending built) : Ascending (setMembers built members) := by
  induction members generalizing built with
  | nil => exact h
  | cons member members ih => exact ih h.insertMember

theorem membersOrdered_setMembers (hbuilt : MembersOrdered built) (h : MembersOrdered members) :
    MembersOrdered (setMembers built members) := by
  induction members generalizing built with
  | nil => exact hbuilt
  | cons member members ih => exact ih (membersOrdered_insertMember h.1 hbuilt) h.2

/-- Of members with different names each is found, in front of those that were there. -/
theorem lookup_setMembers (h : (members.map Prod.fst).Nodup) :
    (setMembers built members).lookup name = (members.lookup name).or (built.lookup name) := by
  induction members generalizing built with
  | nil => rfl
  | cons member members ih =>
      obtain ⟨hfirst, hrest⟩ := List.nodup_cons.mp h
      rw [setMembers_cons, ih hrest, lookup_insertMember, lookup_cons_eq_ite]
      by_cases hsame : name = member.1
      · rw [if_pos hsame, if_pos hsame, hsame, lookup_eq_none_of_not_mem hfirst]
        rfl
      · rw [if_neg hsame, if_neg hsame]

/-- Members that come in order are kept in their order. -/
theorem setMembers_eq_append (h : Ascending (built ++ members)) :
    setMembers built members = built ++ members := by
  induction members generalizing built with
  | nil => exact (List.append_nil built).symm
  | cons member members ih =>
      have hlast : ∀ old ∈ built.map Prod.fst, old < member.1 := by
        intro old hold
        rw [Ascending, List.map_append, List.pairwise_append] at h
        exact h.2.2 old hold member.1 List.mem_cons_self
      rw [setMembers_cons, insertMember_eq_append hlast, ih]
      · rw [List.append_assoc, List.singleton_append]
      · rw [List.append_assoc, List.singleton_append]
        exact h

theorem ordered_ofMembers (h : MembersOrdered members) : (ofMembers members).Ordered :=
  ⟨Ascending.setMembers List.Pairwise.nil, membersOrdered_setMembers trivial h⟩

/-- An ordered object is made of its members. -/
theorem ofMembers_of_ordered (h : (obj members).Ordered) : ofMembers members = .obj members := by
  have hascending : Ascending ([] ++ members) := h.1
  rw [ofMembers_eq, setMembers_eq_append hascending, List.nil_append]

end Building

end NplLifecycle.Json
