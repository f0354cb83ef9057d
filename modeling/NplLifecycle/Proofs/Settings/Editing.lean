import NplLifecycle.Settings.Edit
import NplLifecycle.Proofs.Settings.Layers
import NplLifecycle.Proofs.Json.Indented

/-!
# What an edit changes

A member of a settings file puts something below one name only, the first of its expression.  So an
edit of one member leaves every other name with the value that it had, and where no other member of
the file touches the places of a setting, its new value is the only leaf at them.
-/

namespace NplLifecycle.Settings

namespace Tree

variable {name other root : String} {rest place : List String} {tree value : Tree}
  {found : Option Tree} {layer : List (String × Tree)}

section Roots

def rootOf (name : String) : String :=
  match stepsOf name with
  | .member root :: _ => root
  | _ => name

/-- The steps of an expression behind its first name. -/
def stepsBelow (name : String) : List Step :=
  (stepsOf name).tail

theorem stepsOf_eq (name : String) : stepsOf name = .member (rootOf name) :: stepsBelow name := by
  obtain ⟨root, below, hsteps⟩ : ∃ root below, stepsOf name = .member root :: below := by
    simp only [stepsOf]
    cases (if (name.toList.takeWhile isNameChar).isEmpty then none
      else steps? (name.toList.dropWhile isNameChar)) with
    | none => exact ⟨_, _, rfl⟩
    | some below => exact ⟨_, _, rfl⟩
  rw [rootOf, stepsBelow, hsteps, List.tail_cons]

theorem set_eq : tree.set name value =
    .table (adjust (rootOf name) (adjustAt (merge · value) (stepsBelow name)) tree.members) := by
  rw [set, stepsOf_eq, adjustAt]

/-- What is found under a name after the members of a layer have been put: only those whose
expressions start with the name count. -/
def memberAfter (root : String) (found : Option Tree) (layer : List (String × Tree)) :
    Option Tree :=
  layer.foldl (fun found entry =>
    if rootOf entry.1 = root then
      some (adjustAt (merge · entry.2) (stepsBelow entry.1) (found.getD .nothing))
    else found) found

theorem lookup_setAll : (setAll tree layer).members.lookup root =
    memberAfter root (tree.members.lookup root) layer := by
  induction layer generalizing tree with
  | nil => rfl
  | cons entry layer ih =>
      have hset : (tree.set entry.1 entry.2).members.lookup root =
          memberAfter root (tree.members.lookup root) [entry] := by
        rw [set_eq, Tree.members, lookup_adjust]
        by_cases hroot : rootOf entry.1 = root
        · rw [if_pos hroot.symm, hroot]
          exact (if_pos hroot).symm
        · rw [if_neg (Ne.symm hroot)]
          exact (if_neg hroot).symm
      exact (@ih (tree.set entry.1 entry.2)).trans (by rw [hset]; rfl)

theorem isTable_setAll (h : tree.isTable = true) : (setAll tree layer).isTable = true := by
  induction layer generalizing tree with
  | nil => exact h
  | cons entry layer ih =>
      refine @ih (tree.set entry.1 entry.2) ?_
      rw [set_eq]
      rfl

theorem nodup_setAll (h : (tree.members.map Prod.fst).Nodup) :
    ((setAll tree layer).members.map Prod.fst).Nodup := by
  induction layer generalizing tree with
  | nil => exact h
  | cons entry layer ih =>
      refine @ih (tree.set entry.1 entry.2) ?_
      rw [set_eq]
      exact nodup_names_adjust h

theorem memberAfter_cons {entry : String × Tree} :
    memberAfter root found (entry :: layer) =
      memberAfter root (memberAfter root found [entry]) layer :=
  rfl

theorem memberAfter_singleton {entry : String × Tree} (h : rootOf entry.1 = root) :
    memberAfter root found [entry] =
      some (adjustAt (merge · entry.2) (stepsBelow entry.1) (found.getD .nothing)) :=
  if_pos h

theorem memberAfter_cons_of_ne (h : rootOf name ≠ root) :
    memberAfter root found ((name, value) :: layer) = memberAfter root found layer := by
  rw [memberAfter_cons]
  exact congrArg (memberAfter root · layer) (if_neg h)

theorem memberAfter_append {more : List (String × Tree)} :
    memberAfter root found (layer ++ more) = memberAfter root (memberAfter root found layer) more :=
  List.foldl_append

theorem memberAfter_of_ne (h : ∀ entry ∈ layer, rootOf entry.1 ≠ root) :
    memberAfter root found layer = found := by
  induction layer with
  | nil => rfl
  | cons entry layer ih =>
      obtain ⟨hentry, hlayer⟩ := List.forall_mem_cons.mp h
      rw [memberAfter_cons_of_ne hentry, ih hlayer]

end Roots

section Sparing

variable {entry : String × Tree} {more : List (String × Tree)}

def Spares (place : List String) (entry : String × Tree) : Prop :=
  leavesAt? place (stepsOf entry.1) entry.2 = some []

theorem spares_of_rootOf_ne {rest : List String} (h : rootOf entry.1 ≠ name) :
    Spares (name :: rest) entry := by
  rw [Spares, stepsOf_eq, leavesAt?, if_neg h]

theorem layerLeaves?_append_of_spares (h : ∀ entry ∈ layer, Spares place entry) :
    layerLeaves? place (layer ++ more) = layerLeaves? place more := by
  induction layer with
  | nil => rfl
  | cons entry layer ih =>
      obtain ⟨hentry, hlayer⟩ := List.forall_mem_cons.mp h
      rw [List.cons_append, layerLeaves?, hentry, ih hlayer]
      exact Option.map_id'

/-- Where the others leave a place alone, a member puts there what it puts alone. -/
theorem layerLeaves?_of_others (hlayer : ∀ other ∈ layer, Spares place other)
    (hmore : ∀ other ∈ more, Spares place other) :
    layerLeaves? place (layer ++ entry :: more) = leavesAt? place (stepsOf entry.1) entry.2 := by
  have hnone : layerLeaves? place more = some [] := by
    rw [← List.append_nil more, layerLeaves?_append_of_spares hmore]
    rfl
  rw [layerLeaves?_append_of_spares hlayer, layerLeaves?, hnone]
  cases leavesAt? place (stepsOf entry.1) entry.2 with
  | none => rfl
  | some leaves => exact congrArg some (List.append_nil leaves)

theorem leavesIn?_append_of_ne (h : ∀ entry ∈ layer, entry.1 ≠ name) :
    leavesIn? name rest (layer ++ more) = leavesIn? name rest more := by
  induction layer with
  | nil => rfl
  | cons entry layer ih =>
      obtain ⟨hentry, hlayer⟩ := List.forall_mem_cons.mp h
      rw [List.cons_append, leavesIn?, if_neg hentry, ih hlayer]

/-- A member puts below its name what it puts alone, where the others have other names. -/
theorem leavesIn?_of_others (hlayer : ∀ other ∈ layer, other.1 ≠ name)
    (hmore : ∀ other ∈ more, other.1 ≠ name) :
    leavesIn? name rest (layer ++ (name, value) :: more) = leaves? rest value := by
  have hnone : leavesIn? name rest more = some [] := by
    rw [← List.append_nil more, leavesIn?_append_of_ne hmore]
    rfl
  rw [leavesIn?_append_of_ne hlayer, leavesIn?, if_pos rfl, hnone]
  cases leaves? rest value with
  | none => rfl
  | some leaves => exact congrArg some (List.append_nil leaves)

end Sparing

section Members

variable {inner : Json} {members : List (String × Json)}

theorem ofMembers_append {more : List (String × Json)} :
    ofMembers (members ++ more) = ofMembers members ++ ofMembers more := by
  induction members with
  | nil => rfl
  | cons member members ih => rw [List.cons_append, ofMembers, ofMembers, ih, List.cons_append]

theorem mem_ofMembers {entry : String × Tree} (h : entry ∈ ofMembers members) :
    ∃ member ∈ members, entry = (member.1, ofJson member.2) := by
  induction members with
  | nil => exact absurd h List.not_mem_nil
  | cons member members ih =>
      cases List.mem_cons.mp h with
      | inl hfirst => exact ⟨member, List.mem_cons_self, hfirst⟩
      | inr hrest =>
          obtain ⟨found, hfound, heq⟩ := ih hrest
          exact ⟨found, List.mem_cons_of_mem _ hfound, heq⟩

theorem mem_ofMembers_of_mem {member : String × Json} (h : member ∈ members) :
    (member.1, ofJson member.2) ∈ ofMembers members := by
  induction members with
  | nil => exact absurd h List.not_mem_nil
  | cons first members ih =>
      cases List.mem_cons.mp h with
      | inl hfirst =>
          rw [hfirst]
          exact List.mem_cons_self
      | inr hrest => exact List.mem_cons_of_mem _ (ih hrest)

/-- An edit leaves the other names as they were. -/
theorem memberAfter_insertMember (h : rootOf name ≠ root) :
    memberAfter root found (ofMembers (Json.insertMember name inner members)) =
      memberAfter root found (ofMembers members) := by
  fun_induction Json.insertMember name inner members generalizing found with
  | case1 =>
      rw [ofMembers, ofMembers]
      exact memberAfter_cons_of_ne h
  | case2 first old rest hless => rw [ofMembers, memberAfter_cons_of_ne h]
  | case3 old rest hless =>
      rw [ofMembers, ofMembers, memberAfter_cons_of_ne h, memberAfter_cons_of_ne h]
  | case4 first old rest hless hne ih =>
      rw [ofMembers, ofMembers, memberAfter_cons, ih, ← memberAfter_cons]

/-- A member that is set puts below its name what it puts alone. -/
theorem leavesIn?_insertMember (hascending : Json.Ascending members) :
    leavesIn? name rest (ofMembers (Json.insertMember name inner members)) =
      leaves? rest (ofJson inner) := by
  obtain ⟨front, behind, hinsert, hfront, hbehind, -⟩ :=
    Json.exists_insertMember_eq hascending name
  rw [hinsert, ofMembers_append, ofMembers]
  refine leavesIn?_of_others (fun entry hentry => ?_) (fun entry hentry => ?_)
  · obtain ⟨member, hmember, rfl⟩ := mem_ofMembers hentry
    exact fun heq => String.lt_irrefl _ (heq ▸ hfront member hmember)
  · obtain ⟨member, hmember, rfl⟩ := mem_ofMembers hentry
    exact fun heq => String.lt_irrefl _ (heq ▸ hbehind member hmember)

end Members

end Tree

section Assigning

variable {name : String} {rest path : List String} {value old new : Json}
  {members : List (String × Json)}

theorem assign?_cons_obj (value : Json) (name : String) (rest : List String)
    (members : List (String × Json)) :
    assign? value (name :: rest) (.obj members) =
      (assign? value rest ((members.lookup name).getD (.obj []))).map fun inner =>
        .obj (Json.insertMember name inner members) := by
  cases rest with
  | nil => rfl
  | cons next rest => rfl

/-- An edit sets one member of an object. -/
theorem assign?_cons_eq_some_iff :
    assign? value (name :: rest) old = some new ↔ ∃ members inner, old = .obj members ∧
      assign? value rest ((members.lookup name).getD (.obj [])) = some inner ∧
      new = .obj (Json.insertMember name inner members) := by
  cases old with
  | obj members =>
      rw [assign?_cons_obj, Option.map_eq_some_iff]
      constructor
      · rintro ⟨inner, hinner, rfl⟩
        exact ⟨members, inner, rfl, hinner, rfl⟩
      · rintro ⟨_, inner, heq, hinner, rfl⟩
        obtain rfl := Json.obj.inj heq
        exact ⟨inner, hinner, rfl⟩
  | _ => simp [assign?]

theorem ordered_getD (h : Json.MembersOrdered members) :
    ((members.lookup name).getD (.obj [])).Ordered := by
  cases hfound : members.lookup name with
  | none => exact ⟨List.Pairwise.nil, trivial⟩
  | some found => exact Json.ordered_of_lookup h hfound

/-- The value that was assigned is the only leaf at its place. -/
theorem leaves?_of_assign? (hvalue : (Tree.ofJson value).isTable = false) (hordered : old.Ordered)
    (h : assign? value path old = some new) :
    Tree.leaves? path (Tree.ofJson new) = some [Tree.ofJson value] := by
  induction path generalizing old new with
  | nil =>
      obtain rfl := Option.some.inj h
      rw [Tree.leaves?, hvalue]
      rfl
  | cons name rest ih =>
      obtain ⟨members, inner, rfl, hinner, rfl⟩ := assign?_cons_eq_some_iff.mp h
      rw [Tree.ofJson, Tree.leaves?, Tree.leavesIn?_insertMember hordered.1]
      exact ih (ordered_getD hordered.2) hinner

/-- An edit keeps the members in order, is nested no deeper than what it puts and what was there,
and holds the numbers of both. -/
theorem ordered_of_assign? (hvalue : value.Ordered) (hordered : old.Ordered)
    (h : assign? value path old = some new) : new.Ordered := by
  induction path generalizing old new with
  | nil =>
      obtain rfl := Option.some.inj h
      exact hvalue
  | cons name rest ih =>
      obtain ⟨members, inner, rfl, hinner, rfl⟩ := assign?_cons_eq_some_iff.mp h
      exact ⟨Json.Ascending.insertMember hordered.1, Json.membersOrdered_insertMember
        (ih (ordered_getD hordered.2) hinner) hordered.2⟩

theorem depth_of_assign? (h : assign? value path old = some new) :
    new.depth ≤ max old.depth (path.length + value.depth) := by
  induction path generalizing old new with
  | nil =>
      obtain rfl := Option.some.inj h
      exact Nat.le_trans (by simp) (Nat.le_max_right _ _)
  | cons name rest ih =>
      obtain ⟨members, inner, rfl, hinner, rfl⟩ := assign?_cons_eq_some_iff.mp h
      have hinsert := Json.membersDepth_insertMember_le name inner members
      have hbelow : inner.depth ≤ max (Json.membersDepth members) (rest.length + value.depth) := by
        cases hlookup : members.lookup name with
        | some found =>
            have hfound := Json.depth_le_of_lookup hlookup
            rw [hlookup] at hinner
            exact Nat.le_trans (ih hinner) (max_le_max_right _ hfound)
        | none =>
            rw [hlookup] at hinner
            cases rest with
            | nil =>
                obtain rfl := Option.some.inj hinner
                exact Nat.le_trans (by simp) (Nat.le_max_right _ _)
            | cons next rest =>
                have hmade := ih hinner
                have hempty : (Json.obj []).depth = 1 := rfl
                rw [Option.getD_none, hempty, List.length_cons] at hmade
                rw [List.length_cons]
                omega
      rw [Json.depth, Json.depth, List.length_cons]
      omega

theorem every_of_assign? {p : Json → Prop} (hvalue : value.Every p) (hold : old.Every p)
    (h : assign? value path old = some new) : new.Every p := by
  induction path generalizing old new with
  | nil =>
      obtain rfl := Option.some.inj h
      exact hvalue
  | cons name rest ih =>
      obtain ⟨members, inner, rfl, hinner, rfl⟩ := assign?_cons_eq_some_iff.mp h
      refine Json.everyMember_insertMember (ih ?_ hinner) hold
      cases hlookup : members.lookup name with
      | none => exact trivial
      | some found => exact Json.every_of_lookup hold hlookup

end Assigning

end NplLifecycle.Settings
