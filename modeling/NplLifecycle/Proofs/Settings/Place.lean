import NplLifecycle.Settings.Load
import NplLifecycle.Proofs.Json.Members

/-!
# Places in a tree of settings

A place is a path of member names.  The way to a place is clear in a tree if tables lead there, as
far as they exist, and no table stands at its end.  A value that is merged into the tree, or put
where steps lead, either leaves the place alone, or puts leaves there one after the other, or puts
something in the way.  Where nothing comes in the way, the way stays clear, and the last leaf that
was put is the one that is found.
-/

namespace NplLifecycle.Settings.Tree

def isTable : Tree → Bool
  | .table _ => true
  | _ => false

def at? : List String → Tree → Option Tree
  | [], tree => some tree
  | name :: rest, tree => (tree.members.lookup name).bind (at? rest)

/-- Tables with different names lead to a place, as far as they exist, and none stands there. -/
def Clear : List String → Tree → Prop
  | [], tree => tree.isTable = false
  | name :: rest, tree =>
    tree.isTable = true ∧ (tree.members.map Prod.fst).Nodup ∧
      ∀ inner, tree.members.lookup name = some inner → Clear rest inner

mutual

/-- The leaves that a value puts at a place, in order; `none` if it puts something in the way. -/
def leaves? : List String → Tree → Option (List Tree)
  | [], value => if value.isTable then none else some [value]
  | name :: rest, .table members => leavesIn? name rest members
  | _ :: _, _ => none

def leavesIn? (name : String) (rest : List String) :
    List (String × Tree) → Option (List Tree)
  | [] => some []
  | (other, value) :: more =>
    if other = name then
      (leaves? rest value).bind fun first => (leavesIn? name rest more).map (first ++ ·)
    else leavesIn? name rest more

end

/-- The leaves that a value puts at a place when it is put where steps lead. -/
def leavesAt? : List String → List Step → Tree → Option (List Tree)
  | place, [], value => leaves? place value
  | name :: rest, .member other :: more, value =>
    if other = name then leavesAt? rest more value else some []
  | _, _, _ => none

def layerLeaves? (place : List String) : List (String × Tree) → Option (List Tree)
  | [] => some []
  | (name, value) :: more =>
    (leavesAt? place (stepsOf name) value).bind fun first =>
      (layerLeaves? place more).map (first ++ ·)

variable {name other : String} {rest place : List String} {tree before after value : Tree}
  {members layer : List (String × Tree)} {steps : List Step} {leaves first later : List Tree}

section Members

variable {change : Tree → Tree}

theorem lookup_adjust :
    (adjust name change members).lookup other =
      if other = name then some (change ((members.lookup name).getD .nothing))
      else members.lookup other := by
  induction members with
  | nil => exact Json.lookup_cons_eq_ite
  | cons member members ih =>
      obtain ⟨first, old⟩ := member
      rw [adjust]
      by_cases hfirst : first = name
      · rw [if_pos hfirst, hfirst, Json.lookup_cons_eq_ite, Json.lookup_cons_eq_ite,
          Json.lookup_cons_eq_ite, if_pos rfl, Option.getD_some]
        by_cases hsame : other = name
        · rw [if_pos hsame, if_pos hsame]
        · rw [if_neg hsame, if_neg hsame, if_neg hsame]
      · rw [if_neg hfirst, Json.lookup_cons_eq_ite, ih, Json.lookup_cons_eq_ite,
          Json.lookup_cons_eq_ite, if_neg (Ne.symm hfirst)]
        by_cases hsame : other = name
        · rw [if_pos hsame, hsame, if_neg (Ne.symm hfirst), if_pos rfl]
        · rw [if_neg hsame, if_neg hsame]

theorem mem_names_adjust (h : other ∈ (adjust name change members).map Prod.fst) :
    other = name ∨ other ∈ members.map Prod.fst := by
  induction members with
  | nil => simpa [adjust] using h
  | cons member members ih =>
      rw [adjust] at h
      split at h
      · exact Or.inr h
      · rw [List.map_cons, List.mem_cons] at h ⊢
        cases h with
        | inl hfirst => exact Or.inr (Or.inl hfirst)
        | inr hrest => exact (ih hrest).imp_right Or.inr

theorem nodup_names_adjust (h : (members.map Prod.fst).Nodup) :
    ((adjust name change members).map Prod.fst).Nodup := by
  induction members with
  | nil => simp [adjust]
  | cons member members ih =>
      obtain ⟨hfirst, hrest⟩ := List.nodup_cons.mp h
      rw [adjust]
      split
      · exact h
      · rename_i hne
        refine List.nodup_cons.mpr ⟨fun hmem => ?_, ih hrest⟩
        cases mem_names_adjust hmem with
        | inl hname => exact hne hname
        | inr hold => exact hfirst hold

end Members

section Putting

/-- What is put behind a way leaves it clear, and the last leaf is the one that is found. -/
structure Puts (place : List String) (leaves : List Tree) (before after : Tree) : Prop where
  clear : Clear place after
  found : after.at? place = leaves.getLast?.or (before.at? place)

/-- The same of members and the name that a place starts with. -/
structure PutsIn (name : String) (rest : List String) (leaves : List Tree)
    (before after : List (String × Tree)) : Prop where
  nodup : (after.map Prod.fst).Nodup
  clear : ∀ inner, after.lookup name = some inner → Clear rest inner
  found : (after.lookup name).bind (at? rest) =
    leaves.getLast?.or ((before.lookup name).bind (at? rest))

/-- The way to a place is clear, or there is nothing yet where it starts. -/
def Free (place : List String) (tree : Tree) : Prop :=
  tree = .nothing ∨ Clear place tree

/-- The members of a tree in which the way is free. -/
structure FreeIn (name : String) (rest : List String) (members : List (String × Tree)) : Prop where
  nodup : (members.map Prod.fst).Nodup
  clear : ∀ inner, members.lookup name = some inner → Clear rest inner

theorem freeIn_of_free (h : Free (name :: rest) tree) : FreeIn name rest tree.members := by
  cases h with
  | inl hnothing =>
      subst hnothing
      exact ⟨List.nodup_nil, fun inner hinner => absurd hinner (by simp [Tree.members])⟩
  | inr hclear => exact ⟨hclear.2.1, hclear.2.2⟩

theorem FreeIn.inner (h : FreeIn name rest members) :
    Free rest ((members.lookup name).getD .nothing) := by
  cases hinner : members.lookup name with
  | none => exact Or.inl rfl
  | some inner => exact Or.inr (h.clear inner hinner)

theorem Puts.trans (hfirst : Puts place first tree before)
    (hlater : Puts place later before after) :
    Puts place (first ++ later) tree after where
  clear := hlater.clear
  found := by rw [hlater.found, hfirst.found, List.getLast?_append, Option.or_assoc]

theorem PutsIn.trans {start between final : List (String × Tree)}
    (hfirst : PutsIn name rest first start between)
    (hlater : PutsIn name rest later between final) :
    PutsIn name rest (first ++ later) start final where
  nodup := hlater.nodup
  clear := hlater.clear
  found := by rw [hlater.found, hfirst.found, List.getLast?_append, Option.or_assoc]

theorem PutsIn.freeIn {start final : List (String × Tree)}
    (h : PutsIn name rest leaves start final) :
    FreeIn name rest final :=
  ⟨h.nodup, h.clear⟩

theorem PutsIn.table {final : List (String × Tree)}
    (h : PutsIn name rest leaves tree.members final) :
    Puts (name :: rest) leaves tree (.table final) :=
  ⟨⟨rfl, h.nodup, h.clear⟩, h.found⟩

/-- A member that is missing counts as nothing, in which no place behind a name has a leaf. -/
theorem PutsIn.adjust {change : Tree → Tree} (hfree : FreeIn name rest members)
    (hput : rest = [] → leaves ≠ [])
    (h : Puts rest leaves ((members.lookup name).getD .nothing)
      (change ((members.lookup name).getD .nothing))) :
    PutsIn name rest leaves members (adjust name change members) where
  nodup := nodup_names_adjust hfree.nodup
  clear inner hinner := by
    rw [lookup_adjust, if_pos rfl] at hinner
    rw [← Option.some.inj hinner]
    exact h.clear
  found := by
    rw [lookup_adjust, if_pos rfl, Option.bind_some, h.found]
    cases members.lookup name with
    | some inner => rfl
    | none =>
        cases rest with
        | cons => rfl
        | nil =>
            obtain ⟨leaf, hleaf⟩ := Option.ne_none_iff_exists'.mp
              (mt List.getLast?_eq_none_iff.mp (hput rfl))
            rw [hleaf, Option.some_or, Option.some_or]

theorem PutsIn.adjust_other {change : Tree → Tree} (hne : other ≠ name)
    (hfree : FreeIn name rest members) :
    PutsIn name rest [] members (Tree.adjust other change members) := by
  have hlookup : (Tree.adjust other change members).lookup name = members.lookup name := by
    rw [lookup_adjust, if_neg (Ne.symm hne)]
  exact ⟨nodup_names_adjust hfree.nodup, hlookup ▸ hfree.clear, by rw [hlookup]; rfl⟩

theorem leaves?_ne_nil (h : leaves? [] value = some leaves) : leaves ≠ [] := by
  rw [leaves?] at h
  split at h
  · exact absurd h (by simp)
  · rw [← Option.some.inj h]
    exact List.cons_ne_nil _ _

mutual

theorem puts_merge (place : List String) (value : Tree) {tree : Tree} {leaves : List Tree}
    (hfree : Free place tree) (h : leaves? place value = some leaves) :
    Puts place leaves tree (merge tree value) := by
  match place, value with
  | name :: rest, .table members =>
      exact (putsIn_mergeMembers name rest members (freeIn_of_free hfree) h).table
  | [], .table members => exact absurd h (by simp [leaves?, isTable])
  | [], .nothing | [], .bool _ | [], .int _ | [], .float _ | [], .text _ | [], .list _ =>
      rw [← Option.some.inj h]
      exact ⟨rfl, rfl⟩
  | _ :: _, .nothing | _ :: _, .bool _ | _ :: _, .int _ | _ :: _, .float _ | _ :: _, .text _
  | _ :: _, .list _ => exact absurd h (by simp [leaves?])

theorem putsIn_mergeMembers (name : String) (rest : List String) (above : List (String × Tree))
    {below : List (String × Tree)} {leaves : List Tree} (hfree : FreeIn name rest below)
    (h : leavesIn? name rest above = some leaves) :
    PutsIn name rest leaves below (mergeMembers below above) := by
  match above with
  | [] =>
      rw [← Option.some.inj h]
      exact ⟨hfree.nodup, hfree.clear, rfl⟩
  | (other, value) :: more =>
      rw [leavesIn?] at h
      rw [mergeMembers]
      split at h
      · rename_i hsame
        obtain ⟨first, hfirst, hmore⟩ := Option.bind_eq_some_iff.mp h
        obtain ⟨later, hlater, rfl⟩ := Option.map_eq_some_iff.mp hmore
        have hput : rest = [] → first ≠ [] := by
          rintro rfl
          exact leaves?_ne_nil hfirst
        have hone : PutsIn name rest first below (adjust name (merge · value) below) :=
          PutsIn.adjust hfree hput (puts_merge rest value hfree.inner hfirst)
        rw [hsame]
        exact hone.trans (putsIn_mergeMembers name rest more hone.freeIn hlater)
      · rename_i hne
        have hone : PutsIn name rest [] below (adjust other (merge · value) below) :=
          PutsIn.adjust_other hne hfree
        exact hone.trans (putsIn_mergeMembers name rest more hone.freeIn h)

end

theorem puts_adjustAt (hfree : Free place tree) (h : leavesAt? place steps value = some leaves) :
    Puts place leaves tree (adjustAt (merge · value) steps tree) := by
  induction steps generalizing place tree leaves with
  | nil =>
      rw [leavesAt?] at h
      exact puts_merge place value hfree h
  | cons step more ih =>
      cases place with
      | nil => exact absurd h (by simp [leavesAt?])
      | cons name rest =>
          cases step with
          | item index => exact absurd h (by simp [leavesAt?])
          | member other =>
              have hin := freeIn_of_free hfree
              rw [leavesAt?] at h
              rw [adjustAt]
              split at h
              · rename_i hsame
                have hput : rest = [] → leaves ≠ [] := by
                  rintro rfl
                  cases more with
                  | nil => exact leaves?_ne_nil (by simpa [leavesAt?] using h)
                  | cons => exact absurd h (by simp [leavesAt?])
                rw [hsame]
                exact (PutsIn.adjust hin hput (ih hin.inner h)).table
              · rename_i hne
                rw [← Option.some.inj h]
                exact (PutsIn.adjust_other hne hin).table

/-- A layer that puts nothing in the way leaves the way clear, and the last leaf that it puts at
the place is found there; without one, the leaf that was there is. -/
theorem puts_setAll (hclear : Clear place tree) (h : layerLeaves? place layer = some leaves) :
    Puts place leaves tree (setAll tree layer) := by
  induction layer generalizing tree leaves with
  | nil =>
      rw [← Option.some.inj h]
      exact ⟨hclear, rfl⟩
  | cons entry more ih =>
      obtain ⟨first, hfirst, hmore⟩ := Option.bind_eq_some_iff.mp h
      obtain ⟨later, hlater, rfl⟩ := Option.map_eq_some_iff.mp hmore
      have hone : Puts place first tree (tree.set entry.1 entry.2) :=
        puts_adjustAt (Or.inr hclear) hfirst
      exact hone.trans (ih hone.clear hlater)

end Putting

end NplLifecycle.Settings.Tree
