import NplLifecycle.Files.Store
import Mathlib.Data.List.Basic

/-!
# Reading a file that was written

A file that was written is read back with its content.  Writing puts a file where no directory is,
so the directories that lead to it are still there afterwards and its path leads to the same
location.  So what could be written once can be written again.
-/

namespace NplLifecycle.Files.Store

variable {store after : Store} {path : Path} {location here there other : Location} {node : Node}
  {content : List UInt8} {pieces : List (List UInt8)}

theorem lookup_filter_of_ne {entries : List (Location × Node)} (hne : other ≠ location) :
    (entries.filter (·.1 ≠ location)).lookup other = entries.lookup other := by
  induction entries with
  | nil => rfl
  | cons entry entries ih =>
      by_cases hentry : entry.1 = location
      · rw [List.filter_cons_of_neg (by simp [hentry]), ih, List.lookup_cons,
          beq_eq_false_iff_ne.mpr (hentry ▸ hne)]
      · rw [List.filter_cons_of_pos (by simpa using hentry), List.lookup_cons, List.lookup_cons, ih]

theorem at?_put_self : (store.put location node).at? location = some node := by
  rw [at?, put, List.lookup_cons, beq_self_eq_true]

/-- A directory elsewhere stays. -/
theorem at?_put_of_ne (hne : other ≠ location) (h : store.at? other = some .directory) :
    (store.put location node).at? other = some .directory := by
  have hlookup : (store.put location node).entries.lookup other = store.entries.lookup other := by
    rw [put, List.lookup_cons, beq_eq_false_iff_ne.mpr hne]
    exact lookup_filter_of_ne hne
  rw [at?] at h ⊢
  rw [hlookup]
  cases hold : store.entries.lookup other with
  | some old =>
      rw [hold] at h
      exact h
  | none =>
      rw [hold] at h
      dsimp only at h ⊢
      split at h
      · rename_i hthere
        refine if_pos (hthere.imp_right fun hprefix => ?_)
        obtain ⟨entry, hentry, hleads⟩ := List.any_eq_true.mp hprefix
        by_cases hsame : entry.1 = location
        · exact List.any_eq_true.mpr ⟨_, List.mem_cons_self, hsame ▸ hleads⟩
        · exact List.any_eq_true.mpr ⟨entry, List.mem_cons_of_mem _
            (List.mem_filter.mpr ⟨hentry, by simpa using hsame⟩), hleads⟩
      · exact absurd h (by simp)

/-- Every directory of a store is one of another too. -/
def KeepsDirectories (store after : Store) : Prop :=
  ∀ location, store.at? location = some .directory → after.at? location = some .directory

theorem keepsDirectories_put (hfree : store.at? location ≠ some .directory) :
    KeepsDirectories store (store.put location node) := by
  intro other hother
  apply at?_put_of_ne _ hother
  intro heq
  exact hfree (heq ▸ hother)

/-- A piece leads on from directories only. -/
theorem directory_of_step? {piece : List UInt8} (h : store.step? here piece = some there) :
    store.at? here = some .directory := by
  by_contra hnot
  rw [step?, if_pos hnot] at h
  exact absurd h (by simp)

/-- A piece leads on from a directory where it led before. -/
theorem KeepsDirectories.step? {piece : List UInt8} (hkeeps : KeepsDirectories store after)
    (h : store.step? here piece = some there) : after.step? here piece = some there := by
  have hhere := directory_of_step? h
  rw [Store.step?, if_neg (not_not.mpr hhere)] at h
  rw [Store.step?, if_neg (not_not.mpr (hkeeps here hhere))]
  exact h

theorem foldlM_step?_put (hfree : store.at? location ≠ some .directory)
    (h : pieces.foldlM store.step? here = some there) :
    pieces.foldlM (store.put location node).step? here = some there := by
  induction pieces generalizing here with
  | nil => exact h
  | cons piece pieces ih =>
      rw [List.foldlM_cons] at h ⊢
      obtain ⟨next, hnext, hrest⟩ := Option.bind_eq_some_iff.mp h
      exact Option.bind_eq_some_iff.mpr ⟨next, (keepsDirectories_put hfree).step? hnext, ih hrest⟩

/-- Where no directory is, a file does not stand in the way of any path. -/
theorem locate?_put (hfree : store.at? location ≠ some .directory)
    (h : store.locate? path = some there) :
    (store.put location node).locate? path = some there := by
  rw [locate?] at h ⊢
  split at h
  · rename_i husable
    rw [if_pos husable]
    exact foldlM_step?_put hfree h
  · exact absurd h (by simp)

theorem node?_write? (h : store.write? path content = some after) :
    after.node? path = some (.file content) := by
  obtain ⟨location, hlocation, hput⟩ := Option.bind_eq_some_iff.mp h
  split at hput
  · exact absurd hput (by simp)
  · rename_i hfree
    rw [not_or] at hfree
    obtain rfl := Option.some.inj hput
    rw [node?, locate?_put hfree.1 hlocation, Option.bind_some, at?_put_self]

/-- A file that was written exists and has the content that was written. -/
theorem read?_write? (h : store.write? path content = some after) :
    after.exists? path = true ∧ after.read? path = some content := by
  rw [exists?, read?, node?_write? h]
  exact ⟨rfl, rfl⟩

section Again

variable {made : Store}

/-- Where directories were made they are there afterwards, the old ones too, and making them again
changes nothing. -/
theorem makeAlong_again (hmade : store.makeAlong here pieces = (made, true)) :
    store.at? here = some .directory ∧ KeepsDirectories store made ∧
      ∀ after, KeepsDirectories made after → after.makeAlong here pieces = (after, true) := by
  induction pieces generalizing store here with
  | nil =>
      rw [makeAlong, Prod.mk.injEq, decide_eq_true_eq] at hmade
      obtain ⟨rfl, hhere⟩ := hmade
      refine ⟨hhere, fun _ => id, fun after hkeeps => ?_⟩
      rw [makeAlong, decide_eq_true (hkeeps here hhere)]
  | cons piece pieces ih =>
      rw [makeAlong] at hmade
      cases hstep : store.step? here piece with
      | none =>
          rw [hstep] at hmade
          exact absurd hmade (by simp)
      | some next =>
          rw [hstep] at hmade
          have hmore : KeepsDirectories store
              (if store.at? next = none then store.put next .directory else store) := by
            split
            · rename_i hnone
              exact keepsDirectories_put (by simp [hnone])
            · exact fun _ => id
          obtain ⟨hnext, hkept, hagain⟩ := ih hmade
          have hkeeps : KeepsDirectories store made := fun location h => hkept _ (hmore _ h)
          refine ⟨directory_of_step? hstep, hkeeps, fun after hafter => ?_⟩
          have hthere : after.at? next = some .directory := hafter _ (hkept _ hnext)
          have hlead : after.step? here piece = some next :=
            KeepsDirectories.step? (fun location h => hafter _ (hkeeps _ h)) hstep
          rw [makeAlong, hlead]
          dsimp only
          rw [if_neg (by simp [hthere])]
          exact hagain after hafter

theorem workingDirectory_makeAlong (store : Store) (here : Location) (pieces : List (List UInt8)) :
    (store.makeAlong here pieces).1.workingDirectory = store.workingDirectory := by
  induction pieces generalizing store here with
  | nil => rfl
  | cons piece pieces ih =>
      rw [makeAlong]
      split
      · rfl
      · rw [ih]
        split
        · rfl
        · rfl

theorem workingDirectory_makeDirectory (store : Store) (path : Path) :
    (store.makeDirectory path).1.workingDirectory = store.workingDirectory := by
  rw [makeDirectory]
  split
  · exact workingDirectory_makeAlong _ _ _
  · rfl

/-- A directory that was made need not be made again. -/
theorem makeDirectory_again (hmade : store.makeDirectory path = (made, true))
    (hsame : after.workingDirectory = store.workingDirectory)
    (hkeeps : KeepsDirectories made after) : after.makeDirectory path = (after, true) := by
  rw [makeDirectory] at hmade ⊢
  split at hmade
  · rename_i husable
    have hstart : after.startOf path = store.startOf path := by
      rw [startOf, startOf, hsame]
    rw [if_pos husable, hstart]
    exact (makeAlong_again hmade).2.2 after hkeeps
  · rename_i husable
    rw [if_neg husable, (Prod.mk.inj hmade).2]

/-- Writing a file keeps the directories, and the file can be written again. -/
theorem write?_again (h : store.write? path content = some after) (other : List UInt8) :
    KeepsDirectories store after ∧ after.workingDirectory = store.workingDirectory ∧
      (after.write? path other).isSome := by
  obtain ⟨location, hlocation, hput⟩ := Option.bind_eq_some_iff.mp h
  split at hput
  · exact absurd hput (by simp)
  · rename_i hfree
    rw [not_or, not_not] at hfree
    obtain rfl := Option.some.inj hput
    have hkeeps : KeepsDirectories store (store.put location (.file content)) :=
      keepsDirectories_put hfree.1
    refine ⟨hkeeps, rfl, ?_⟩
    rw [write?, locate?_put hfree.1 hlocation, Option.bind_some, at?_put_self,
      hkeeps _ hfree.2, if_neg (by simp)]
    rfl

end Again

end NplLifecycle.Files.Store
