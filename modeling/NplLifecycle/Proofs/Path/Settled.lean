import NplLifecycle.Proofs.Path.Absolute

/-!
# Making a path absolute again

What was made absolute is settled: it starts at a root and its names stand behind single slashes.  A
settled path is its own absolute form, so to make a path absolute twice does no more than once.
-/

namespace NplLifecycle.Path

variable {workingDirectory p : Path} {lead rest : List UInt8} {names : List (List UInt8)}

theorem exists_settled (hworking : Resolved workingDirectory) (hsome : p.bytes ≠ []) :
    ∃ lead names, Settled (absoluteOrSame workingDirectory p) lead names := by
  apply exists_settled_of_absolute? hworking
  rw [absoluteOrSame, absolute?, if_neg hsome]
  rfl

/-- The absolute form of a path that is absolute already has the same components. -/
theorem settled_of_isAbsolute (h : p.isAbsolute = true) :
    Settled (absoluteOrSame workingDirectory p) (rootOf p.bytes) p.components := by
  have hsome : p.bytes ≠ [] := by
    intro hempty
    rw [Path.isAbsolute, hempty] at h
    exact absurd h (by simp)
  rw [absoluteOrSame, absolute?, if_neg hsome, if_pos h, Option.getD_some]
  exact settled_extend (isLead_rootOf _) (fun name hname => isName_of_mem_components hname) _

theorem IsLead.components_eq (hlead : IsLead lead) : components ⟨lead⟩ = [] := by
  rcases hlead with hone | htwo
  · rw [hone]
    rfl
  · rw [htwo]
    rfl

theorem IsLead.rootOf_append (hlead : IsLead lead) (hrest : rest.head? ≠ some slash) :
    rootOf (lead ++ rest) = lead := by
  cases rest with
  | nil =>
      rcases hlead with hone | htwo
      · rw [hone]
        rfl
      · rw [htwo]
        rfl
  | cons b rest =>
      have hb : b ≠ slash := fun heq => hrest (congrArg some heq)
      rcases hlead with hone | htwo
      · rw [hone]
        unfold rootOf
        split
        · rename_i heq
          exact absurd (List.cons.inj (List.cons.inj heq).2).1 hb
        · rename_i heq
          exact absurd (List.cons.inj (List.cons.inj heq).2).1 hb
        · rfl
      · rw [htwo]
        unfold rootOf
        split
        · rename_i heq
          exact absurd (List.cons.inj (List.cons.inj (List.cons.inj heq).2).2).1 hb
        · rfl
        · rename_i hnone
          exact absurd rfl (hnone (b :: rest))

/-- Behind the root stands nothing, or a name. -/
theorem exists_extend_eq (hlead : IsLead lead) (hnames : ∀ name ∈ names, IsName name) :
    ∃ rest, extend lead names = lead ++ rest ∧ rest.head? ≠ some slash := by
  cases names with
  | nil => exact ⟨[], (List.append_nil lead).symm, by simp⟩
  | cons name names =>
      have hname := hnames name List.mem_cons_self
      have hends : lead.getLast? = some slash := by simpa [endsInSlash] using hlead.endsInSlash
      rcases isPrefix_extend (lead ++ name) names with ⟨rest, hrest⟩
      refine ⟨name ++ rest, ?_, ?_⟩
      · rw [extend, if_pos (.inl hends), List.append_nil, ← hrest, List.append_assoc]
      · cases name with
        | nil => exact absurd rfl hname.ne_nil
        | cons b name =>
            intro hslash
            exact hname.2 (Option.some.inj hslash ▸ List.mem_cons_self)

theorem Settled.exists_bytes_eq (h : Settled p lead names) :
    ∃ rest, p.bytes = lead ++ rest ∧ rest.head? ≠ some slash := by
  rcases exists_extend_eq h.isLead h.areNames with ⟨rest, hrest, hhead⟩
  rcases h.spelling with hbytes | ⟨hbytes, hopen⟩
  · exact ⟨rest, hbytes.trans hrest, hhead⟩
  · cases rest with
    | nil =>
        rw [hrest, List.append_nil, h.isLead.endsInSlash] at hopen
        exact absurd hopen (by simp)
    | cons b rest => exact ⟨b :: rest ++ [slash], by rw [hbytes, hrest, List.append_assoc], hhead⟩

theorem Settled.components_eq (h : Settled p lead names) : p.components = names := by
  have hjoined : components ⟨extend lead names⟩ = names := by
    rw [components_extend lead h.areNames, h.isLead.components_eq, List.nil_append]
  have hsame : p.components = components ⟨extend lead names⟩ := by
    rcases h.spelling with hbytes | ⟨hbytes, -⟩
    · rw [components, components, hbytes]
    · calc
        p.components = components ⟨extend lead names ++ [slash]⟩ := by
          rw [components, components, hbytes]
        _ = components ⟨extend lead names⟩ := components_concat_slash _
  rw [hsame, hjoined]

theorem Settled.isAbsolute (h : Settled p lead names) : p.isAbsolute = true := by
  rcases h.exists_bytes_eq with ⟨rest, hrest, -⟩
  rw [Path.isAbsolute, hrest]
  rcases h.isLead with hone | htwo
  · rw [hone]
    rfl
  · rw [htwo]
    rfl

/-- A settled path is its own absolute form. -/
theorem Settled.absoluteOrSame_eq (h : Settled p lead names) :
    absoluteOrSame workingDirectory p = p := by
  rcases h.exists_bytes_eq with ⟨rest, hrest, hhead⟩
  have hsome : p.bytes ≠ [] := by
    intro hempty
    have hslash := h.isAbsolute
    rw [Path.isAbsolute, hempty] at hslash
    exact absurd hslash (by simp)
  have hroot : rootOf p.bytes = lead := by rw [hrest, h.isLead.rootOf_append hhead]
  rw [absoluteOrSame, absolute?, if_neg hsome, if_pos h.isAbsolute, hroot, h.components_eq,
    Option.getD_some]
  rcases h.spelling with hbytes | ⟨hbytes, hopen⟩
  · rw [← hbytes]
    simp
  · have hends : endsInSlash p.bytes = true := by simp [hbytes, endsInSlash]
    rw [hends, hopen]
    simp [← hbytes]

/-- To make a path absolute twice does no more than once. -/
theorem absoluteOrSame_absoluteOrSame (hworking : Resolved workingDirectory) (p : Path) :
    absoluteOrSame workingDirectory (absoluteOrSame workingDirectory p) =
      absoluteOrSame workingDirectory p := by
  by_cases hempty : p.bytes = []
  · have hsame : absoluteOrSame workingDirectory p = p := by
      rw [absoluteOrSame, absolute?, if_pos hempty, Option.getD_none]
    rw [hsame, hsame]
  · rcases exists_settled hworking hempty with ⟨lead, names, hsettled⟩
    exact hsettled.absoluteOrSame_eq

end NplLifecycle.Path
