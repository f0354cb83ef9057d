import Mathlib.Data.List.Forall2

/-!
# Computations that may fail

Where elements go through a computation one after the other, all results are there if each is, and
they stand in the order of the elements.
-/

namespace NplLifecycle

variable {Element Failure Result : Type} {compute : Element → Except Failure Result}
  {elements : List Element} {results : List Result}

/-- Elements go through a computation one after the other, and it succeeds for each of them. -/
theorem mapM_eq_ok_iff :
    elements.mapM compute = .ok results ↔
      List.Forall₂ (fun element result => compute element = .ok result) elements results := by
  induction elements generalizing results with
  | nil =>
      rw [List.forall₂_nil_left_iff]
      exact ⟨fun h => (Except.ok.inj h).symm, fun h => h ▸ rfl⟩
  | cons element rest ih =>
      rw [List.mapM_cons, List.forall₂_cons_left_iff]
      cases helement : compute element with
      | error failure => simp [bind, Except.bind]
      | ok result =>
          cases hrest : rest.mapM compute with
          | error failure =>
              have hnone (others : List Result) : ¬List.Forall₂
                  (fun element result => compute element = .ok result) rest others := by
                rw [← ih, hrest]
                simp
              simp [bind, Except.bind, hnone]
          | ok others =>
              constructor
              · intro hresults
                obtain rfl := Except.ok.inj hresults
                exact ⟨result, others, rfl, ih.mp hrest, rfl⟩
              · rintro ⟨_, tail, hfirst, htail, rfl⟩
                obtain rfl := Except.ok.inj hfirst
                obtain rfl := Except.ok.inj (hrest.symm.trans (ih.mpr htail))
                rfl

theorem exists_mapM_eq_ok_iff : (∃ results, elements.mapM compute = .ok results) ↔
    ∀ element ∈ elements, ∃ result, compute element = .ok result := by
  simp only [mapM_eq_ok_iff]
  induction elements with
  | nil => simp [List.forall₂_nil_left_iff]
  | cons element elements ih =>
      rw [List.forall_mem_cons, ← ih]
      constructor
      · rintro ⟨results, hresults⟩
        rcases List.forall₂_cons_left_iff.mp hresults with ⟨result, rest, hresult, hrest, -⟩
        exact ⟨⟨result, hresult⟩, rest, hrest⟩
      · rintro ⟨⟨result, hresult⟩, rest, hrest⟩
        exact ⟨result :: rest, .cons hresult hrest⟩

/-- All results are there exactly if they are the results of the elements in their order. -/
theorem mapM_eq_ok_iff_map {result? : Element → Option Result}
    (hresult : ∀ element ∈ elements, ∀ result,
      compute element = .ok result ↔ result? element = some result) :
    elements.mapM compute = .ok results ↔ results.map some = elements.map result? := by
  rw [mapM_eq_ok_iff]
  induction elements generalizing results with
  | nil => simp [List.forall₂_nil_left_iff]
  | cons element elements ih =>
      cases results with
      | nil => simp
      | cons result results =>
          rw [List.forall₂_cons, hresult element List.mem_cons_self,
            ih fun element helement => hresult element (List.mem_cons_of_mem _ helement)]
          rw [List.map_cons, List.map_cons, List.cons.injEq, eq_comm]

end NplLifecycle
