import NplLifecycle.Proofs.Settings.Stored
import Mathlib.Data.List.Induction

/-!
# Members that speak for another

Two trees are twins at a place if they differ at most in a leaf there that is no list with items.
A value that leaves the place alone keeps twins twins, and any other makes them equal.  So once a
member behind the one of a setting touches its place, what the setting's own member says is lost.
-/

namespace NplLifecycle.Settings.Tree

variable {name other : String} {rest place : List String} {first second value : Tree}
  {change : Tree → Tree} {members before after above : List (String × Tree)} {steps : List Step}

/-- A leaf with nothing in it. -/
def Hollow (tree : Tree) : Prop :=
  tree.isTable = false ∧ tree.items = []

/-- Trees that differ at most in a hollow leaf at a place. -/
def Twin : List String → Tree → Tree → Prop
  | [], first, second => Hollow first ∧ Hollow second
  | name :: rest, first, second => ∃ front own others behind,
      first = .table (front ++ (name, own) :: behind) ∧
      second = .table (front ++ (name, others) :: behind) ∧
      name ∉ front.map Prod.fst ∧ Twin rest own others

theorem members_of_hollow (h : Hollow first) : first.members = [] := by
  cases first with
  | table members => exact absurd h.1 (by simp [isTable])
  | _ => rfl

section Members

theorem adjust_append_cons {own : Tree} (h : name ∉ before.map Prod.fst) :
    adjust name change (before ++ (name, own) :: after) =
      before ++ (name, change own) :: after := by
  induction before with
  | nil => rw [List.nil_append, adjust, if_pos rfl, List.nil_append]
  | cons member before ih =>
      rw [List.map_cons, List.mem_cons, not_or] at h
      rw [List.cons_append, adjust, if_neg (Ne.symm h.1), ih h.2, List.cons_append]

/-- Changing one member changes it where it stands, or appends it. -/
theorem exists_adjust_eq (name : String) (members : List (String × Tree)) :
    ∃ front old behind, name ∉ front.map Prod.fst ∧
      ∀ change, adjust name change members = front ++ (name, change old) :: behind := by
  induction members with
  | nil => exact ⟨[], .nothing, [], List.not_mem_nil, fun _ => rfl⟩
  | cons member members ih =>
      obtain ⟨first, old⟩ := member
      by_cases hsame : first = name
      · refine ⟨[], old, members, List.not_mem_nil, fun change => ?_⟩
        rw [adjust, if_pos hsame, hsame, List.nil_append]
      · obtain ⟨front, found, behind, hfront, hadjust⟩ := ih
        refine ⟨(first, old) :: front, found, behind, ?_, fun change => ?_⟩
        · rw [List.map_cons, List.mem_cons, not_or]
          exact ⟨Ne.symm hsame, hfront⟩
        · rw [adjust, if_neg hsame, hadjust, List.cons_append]

/-- Changing another member leaves a member where it stands. -/
theorem exists_adjust_append_cons (change : Tree → Tree) (after : List (String × Tree))
    (hne : other ≠ name) (h : name ∉ before.map Prod.fst) :
    ∃ front behind, name ∉ front.map Prod.fst ∧
      ∀ own, adjust other change (before ++ (name, own) :: after) =
        front ++ (name, own) :: behind := by
  induction before with
  | nil =>
      refine ⟨[], adjust other change after, List.not_mem_nil, fun own => ?_⟩
      rw [List.nil_append, adjust, if_neg (Ne.symm hne), List.nil_append]
  | cons member before ih =>
      obtain ⟨first, old⟩ := member
      rw [List.map_cons, List.mem_cons, not_or] at h
      by_cases hsame : first = other
      · refine ⟨(first, change old) :: before, after, ?_, fun own => ?_⟩
        · rw [List.map_cons, List.mem_cons, not_or]
          exact h
        · rw [List.cons_append, adjust, if_pos hsame, List.cons_append]
      · obtain ⟨front, behind, hfront, hadjust⟩ := ih h.2
        refine ⟨(first, old) :: front, behind, ?_, fun own => ?_⟩
        · rw [List.map_cons, List.mem_cons, not_or]
          exact ⟨h.1, hfront⟩
        · rw [List.cons_append, adjust, if_neg hsame, hadjust, List.cons_append]

end Members

section Twins

/-- What is put over twins at a place keeps them twins if it leaves the place alone, and makes them
equal otherwise. -/
structure Settles (place : List String) (leaves : Option (List Tree)) (first second : Tree) :
    Prop where
  twin : leaves = some [] → Twin place first second
  same : leaves ≠ some [] → first = second

theorem Twin.adjust_other (hne : other ≠ name)
    (h : Twin (name :: rest) (.table before) (.table after)) :
    Twin (name :: rest) (.table (adjust other change before))
      (.table (adjust other change after)) := by
  obtain ⟨front, own, others, behind, hfirst, hsecond, hfront, htwin⟩ := h
  obtain rfl := Tree.table.inj hfirst
  obtain rfl := Tree.table.inj hsecond
  obtain ⟨newFront, newBehind, hnew, hadjust⟩ :=
    exists_adjust_append_cons change behind hne hfront
  exact ⟨newFront, own, others, newBehind, by rw [hadjust], by rw [hadjust], hnew, htwin⟩

theorem Settles.adjust {leaves : Option (List Tree)}
    (h : Twin (name :: rest) (.table before) (.table after))
    (hchange : ∀ own others, Twin rest own others →
      Settles rest leaves (change own) (change others)) :
    Settles (name :: rest) leaves (.table (Tree.adjust name change before))
      (.table (Tree.adjust name change after)) := by
  obtain ⟨front, own, others, behind, hfirst, hsecond, hfront, htwin⟩ := h
  obtain rfl := Tree.table.inj hfirst
  obtain rfl := Tree.table.inj hsecond
  rw [adjust_append_cons hfront, adjust_append_cons hfront]
  have hsettles := hchange own others htwin
  exact ⟨fun hnone => ⟨front, _, _, behind, rfl, rfl, hfront, hsettles.twin hnone⟩,
    fun hsome => by rw [hsettles.same hsome]⟩

mutual

theorem settles_merge (place : List String) (value : Tree) {first second : Tree}
    (h : Twin place first second) :
    Settles place (leaves? place value) (merge first value) (merge second value) := by
  match place, value with
  | name :: rest, .table above =>
      obtain ⟨front, own, others, behind, rfl, rfl, -⟩ := id h
      exact settles_mergeMembers name rest above h
  | [], .table above =>
      refine ⟨fun hnone => absurd hnone (by simp [leaves?, isTable]), fun _ => ?_⟩
      rw [merge, merge, members_of_hollow h.1, members_of_hollow h.2]
  | [], .nothing | [], .bool _ | [], .int _ | [], .float _ | [], .text _ | [], .list _ =>
      exact ⟨fun hnone => absurd hnone (by simp [leaves?, isTable]), fun _ => rfl⟩
  | _ :: _, .nothing | _ :: _, .bool _ | _ :: _, .int _ | _ :: _, .float _ | _ :: _, .text _
  | _ :: _, .list _ => exact ⟨fun hnone => absurd hnone (by simp [leaves?]), fun _ => rfl⟩

theorem settles_mergeMembers (name : String) (rest : List String) (above : List (String × Tree))
    {before after : List (String × Tree)}
    (h : Twin (name :: rest) (.table before) (.table after)) :
    Settles (name :: rest) (leavesIn? name rest above) (.table (mergeMembers before above))
      (.table (mergeMembers after above)) := by
  match above with
  | [] => exact ⟨fun _ => h, fun hsome => absurd rfl hsome⟩
  | (other, value) :: more =>
      rw [leavesIn?, mergeMembers, mergeMembers]
      split
      · rename_i hsame
        have hone : Settles (name :: rest) (leaves? rest value)
            (.table (adjust name (merge · value) before))
            (.table (adjust name (merge · value) after)) :=
          Settles.adjust h fun own others htwin => settles_merge rest value htwin
        rw [hsame]
        by_cases hspared : leaves? rest value = some []
        · have hmore := settles_mergeMembers name rest more (hone.twin hspared)
          rw [hspared, Option.bind_some]
          exact (Option.map_id' (x := leavesIn? name rest more)).symm ▸ hmore
        · refine ⟨fun hnone => ?_, fun _ => by rw [Tree.table.inj (hone.same hspared)]⟩
          obtain ⟨first, hfirst, hmore⟩ := Option.bind_eq_some_iff.mp hnone
          obtain ⟨later, -, happend⟩ := Option.map_eq_some_iff.mp hmore
          rw [(List.append_eq_nil_iff.mp happend).1] at hfirst
          exact absurd hfirst hspared
      · rename_i hne
        exact settles_mergeMembers name rest more (h.adjust_other hne)

end

theorem settles_adjustAt (h : Twin place first second) :
    Settles place (leavesAt? place steps value) (adjustAt (merge · value) steps first)
      (adjustAt (merge · value) steps second) := by
  induction steps generalizing place first second with
  | nil =>
      rw [leavesAt?]
      exact settles_merge place value h
  | cons step more ih =>
      cases place with
      | nil =>
          refine ⟨fun hnone => absurd hnone (by simp [leavesAt?]), fun _ => ?_⟩
          cases step with
          | item index => rw [adjustAt, adjustAt, h.1.2, h.2.2]
          | member other => rw [adjustAt, adjustAt, members_of_hollow h.1, members_of_hollow h.2]
      | cons name rest =>
          obtain ⟨front, own, others, behind, rfl, rfl, -⟩ := id h
          cases step with
          | item index => exact ⟨fun hnone => absurd hnone (by simp [leavesAt?]), fun _ => rfl⟩
          | member other =>
              rw [leavesAt?, adjustAt, adjustAt]
              split
              · rename_i hsame
                rw [hsame]
                exact Settles.adjust h fun own others htwin => ih htwin
              · rename_i hne
                exact ⟨fun _ => h.adjust_other hne, fun hsome => absurd rfl hsome⟩

/-- Members that are put over twins under a name, one of which touches the place, make them
equal. -/
theorem memberAfter_eq_of_twin {layer : List (String × Tree)}
    (h : Twin rest first second) (htouched : ∃ entry ∈ layer, ¬Spares (name :: rest) entry) :
    memberAfter name (some first) layer = memberAfter name (some second) layer := by
  induction layer generalizing first second with
  | nil =>
      obtain ⟨entry, hentry, -⟩ := htouched
      exact absurd hentry List.not_mem_nil
  | cons entry layer ih =>
      conv_lhs => rw [memberAfter_cons]
      conv_rhs => rw [memberAfter_cons]
      by_cases hroot : rootOf entry.1 = name
      · have hsettles : Settles rest (leavesAt? rest (stepsBelow entry.1) entry.2)
            (adjustAt (merge · entry.2) (stepsBelow entry.1) first)
            (adjustAt (merge · entry.2) (stepsBelow entry.1) second) := settles_adjustAt h
        rw [memberAfter_singleton hroot, memberAfter_singleton hroot, Option.getD_some,
          Option.getD_some]
        by_cases hspares : Spares (name :: rest) entry
        · have hleaves := hspares
          rw [Spares, stepsOf_eq, leavesAt?, if_pos hroot] at hleaves
          refine ih (hsettles.twin hleaves) ?_
          obtain ⟨other, hother, htouches⟩ := htouched
          cases List.mem_cons.mp hother with
          | inl heq => exact absurd (heq ▸ hspares) htouches
          | inr hmem => exact ⟨other, hmem, htouches⟩
        · rw [hsettles.same]
          rw [Spares, stepsOf_eq, leavesAt?, if_pos hroot] at hspares
          exact hspares
      · have hone : ∀ other ∈ [entry], rootOf other.1 ≠ name := by simpa using hroot
        rw [memberAfter_of_ne hone, memberAfter_of_ne hone]
        refine ih h ?_
        obtain ⟨other, hother, htouches⟩ := htouched
        cases List.mem_cons.mp hother with
        | inl heq => exact absurd (heq ▸ spares_of_rootOf_ne hroot) htouches
        | inr hmem => exact ⟨other, hmem, htouches⟩

end Twins

section Roots

variable {found : Option Tree} {layer : List (String × Tree)} {root : String}

theorem steps?_ne_nil {text : List Char} {below : List Step} (hne : text ≠ [])
    (h : steps? text = some below) : below ≠ [] := by
  rintro rfl
  rw [steps?.eq_def] at h
  split at h
  · exact hne rfl
  · dsimp only at h
    split at h
    · exact absurd h (by simp)
    · obtain ⟨more, -, hmore⟩ := Option.map_eq_some_iff.mp h
      exact absurd hmore (List.cons_ne_nil _ _)
  · obtain ⟨index, -, hindex⟩ := Option.bind_eq_some_iff.mp h
    split at hindex
    · exact absurd hindex (by simp)
    · obtain ⟨more, -, hmore⟩ := Option.map_eq_some_iff.mp hindex
      exact absurd hmore (List.cons_ne_nil _ _)
  · exact absurd h (by simp)

/-- A name stands for itself, or goes on behind its first name. -/
theorem stepsOf_cases (name : String) :
    stepsOf name = [.member name] ∨
      ∃ front behind below, name.toList = front ++ behind ∧ behind ≠ [] ∧ below ≠ [] ∧
        stepsOf name = .member (String.ofList front) :: below := by
  simp only [stepsOf]
  split
  · exact Or.inl rfl
  · cases hread : steps? (name.toList.dropWhile isNameChar) with
    | none => exact Or.inl rfl
    | some below =>
        have hsplit := List.takeWhile_append_dropWhile (p := isNameChar) (l := name.toList)
        by_cases hbehind : name.toList.dropWhile isNameChar = []
        · rw [hbehind, List.append_nil] at hsplit
          rw [hbehind, steps?] at hread
          rw [hsplit, String.ofList_toList, ← Option.some.inj hread]
          exact Or.inl rfl
        · exact Or.inr ⟨_, _, below, hsplit.symm, hbehind, steps?_ne_nil hbehind hread, rfl⟩

/-- An expression that goes on behind a name stands behind it in order. -/
theorem lt_of_rootOf_eq (h : rootOf name = root) (hne : name ≠ root) :
    root < name ∧ stepsBelow name ≠ [] := by
  have hsteps := stepsOf_eq name
  rw [h] at hsteps
  cases stepsOf_cases name with
  | inl halone =>
      rw [halone] at hsteps
      exact absurd (Step.member.inj (List.cons.inj hsteps).1) hne
  | inr hlonger =>
      obtain ⟨front, behind, below, hname, hbehind, hbelow, heq⟩ := hlonger
      rw [heq] at hsteps
      have hfront : String.ofList front = root := Step.member.inj (List.cons.inj hsteps).1
      refine ⟨?_, (List.cons.inj hsteps).2 ▸ hbelow⟩
      obtain ⟨c, more, rfl⟩ := List.exists_cons_of_ne_nil hbehind
      have hless : front ++ [] < front ++ c :: more :=
        List.append_left_lt (List.nil_lt_cons c more)
      rw [String.lt_iff_toList_lt, ← hfront, String.toList_ofList, hname]
      rwa [List.append_nil] at hless

theorem memberAfter_ne_none (h : ∃ entry ∈ layer, rootOf entry.1 = root) :
    memberAfter root found layer ≠ none := by
  induction layer using List.reverseRecOn with
  | nil =>
      obtain ⟨entry, hentry, -⟩ := h
      exact absurd hentry List.not_mem_nil
  | append_singleton layer entry ih =>
      rw [memberAfter_append]
      by_cases hroot : rootOf entry.1 = root
      · rw [memberAfter_singleton hroot]
        exact Option.some_ne_none _
      · rw [memberAfter_of_ne (by simpa using hroot)]
        refine ih ?_
        obtain ⟨other, hother, heq⟩ := h
        cases List.mem_append.mp hother with
        | inl hmem => exact ⟨other, hmem, heq⟩
        | inr hlast => exact absurd (List.mem_singleton.mp hlast ▸ heq) hroot

/-- A table, or a list with items. -/
def Crowded (tree : Tree) : Prop :=
  tree.isTable = true ∨ tree.items ≠ []

theorem crowded_adjustAt {change : Tree → Tree} (h : steps ≠ []) (tree : Tree) :
    Crowded (adjustAt change steps tree) := by
  obtain ⟨step, more, rfl⟩ := List.exists_cons_of_ne_nil h
  cases step with
  | member name => exact Or.inl rfl
  | item index =>
      refine Or.inr ?_
      rw [adjustAt, items, adjustItem]
      dsimp only
      split
      · split
        · exact List.cons_ne_nil _ _
        · exact List.append_ne_nil_of_right_ne_nil _ (List.cons_ne_nil _ _)
      · split
        · exact List.cons_ne_nil _ _
        · exact List.append_ne_nil_of_right_ne_nil _ (List.cons_ne_nil _ _)

/-- Where expressions go on behind a name, a table or a list with items is found under the name. -/
theorem crowded_memberAfter (hbehind : ∀ entry ∈ layer, entry.1 ≠ root)
    (h : ∃ entry ∈ layer, rootOf entry.1 = root) :
    ∃ tree, memberAfter root found layer = some tree ∧ Crowded tree := by
  induction layer using List.reverseRecOn with
  | nil =>
      obtain ⟨entry, hentry, -⟩ := h
      exact absurd hentry List.not_mem_nil
  | append_singleton layer entry ih =>
      rw [memberAfter_append]
      by_cases hroot : rootOf entry.1 = root
      · rw [memberAfter_singleton hroot]
        have hne := hbehind entry (List.mem_append_right _ List.mem_cons_self)
        exact ⟨_, rfl, crowded_adjustAt (lt_of_rootOf_eq hroot hne).2 _⟩
      · rw [memberAfter_of_ne (by simpa using hroot)]
        refine ih (fun other hother => hbehind other (List.mem_append_left _ hother)) ?_
        obtain ⟨other, hother, heq⟩ := h
        cases List.mem_append.mp hother with
        | inl hmem => exact ⟨other, hmem, heq⟩
        | inr hlast => exact absurd (List.mem_singleton.mp hlast ▸ heq) hroot

end Roots

section Assigning

variable {path : List String} {old new others own rival : Json}

theorem merge_of_not_isTable (h : value.isTable = false) : merge first value = value := by
  cases value with
  | table members => exact absurd h (by simp [isTable])
  | _ => rfl

theorem mergeMembers_append {more : List (String × Tree)} :
    mergeMembers before (above ++ more) = mergeMembers (mergeMembers before above) more := by
  induction above generalizing before with
  | nil => rfl
  | cons member above ih => rw [List.cons_append, mergeMembers, mergeMembers, ih]

/-- Two values at the same place of a document make twins of what it is merged into. -/
theorem twin_of_assign? (hordered : old.Ordered) (hown : Hollow (ofJson own))
    (hrival : Hollow (ofJson rival)) (hnew : assign? own path old = some new)
    (hothers : assign? rival path old = some others) (below : Tree) :
    Twin path (merge below (ofJson new)) (merge below (ofJson others)) := by
  induction path generalizing old new others below with
  | nil =>
      obtain rfl := Option.some.inj hnew
      obtain rfl := Option.some.inj hothers
      rw [merge_of_not_isTable hown.1, merge_of_not_isTable hrival.1]
      exact ⟨hown, hrival⟩
  | cons name rest ih =>
      obtain ⟨members, inner, rfl, hinner, rfl⟩ := assign?_cons_eq_some_iff.mp hnew
      obtain ⟨_, rivalInner, heq, hrivalInner, rfl⟩ := assign?_cons_eq_some_iff.mp hothers
      obtain rfl := Json.obj.inj heq
      obtain ⟨front, behind, hinsert, -, hbehind, -⟩ :=
        Json.exists_insertMember_eq hordered.1 name
      have hspared : leavesIn? name rest (ofMembers behind) = some [] := by
        rw [← List.append_nil (ofMembers behind), leavesIn?_append_of_ne]
        · rfl
        · intro entry hentry heq
          obtain ⟨member, hmember, rfl⟩ := mem_ofMembers hentry
          exact String.lt_irrefl _ (heq ▸ hbehind member hmember)
      obtain ⟨start, old, rest', hstart, hadjust⟩ :=
        exists_adjust_eq name (mergeMembers below.members (ofMembers front))
      have hinside := ih (ordered_getD hordered.2) hinner hrivalInner old
      have htwin : Twin (name :: rest)
          (.table (start ++ (name, merge old (ofJson inner)) :: rest'))
          (.table (start ++ (name, merge old (ofJson rivalInner)) :: rest')) :=
        ⟨start, _, _, rest', rfl, rfl, hstart, hinside⟩
      rw [hinsert, hinsert, ofJson, ofJson, merge, merge, ofMembers_append, ofMembers_append,
        ofMembers, ofMembers, mergeMembers_append, mergeMembers_append, mergeMembers, mergeMembers,
        hadjust, hadjust]
      exact (settles_mergeMembers name rest (ofMembers behind) htwin).twin hspared

end Assigning

end NplLifecycle.Settings.Tree
