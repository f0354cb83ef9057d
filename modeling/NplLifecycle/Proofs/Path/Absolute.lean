import NplLifecycle.Proofs.Path.Components

/-!
# Absolute paths part by part

The parts of a path are the slashes that it begins with and its components.  One slash at the
beginning stands for the root directory; exactly two stand for a root of their own, which is kept
apart.  What is made absolute is spelled by its parts, but for a slash at the end; so where one path
has the parts of another and more, its bytes go on behind the other's.
-/

namespace NplLifecycle.Path

/-- The slashes that a path begins with, one by one, and its components. -/
def parts (p : Path) : List (List UInt8) :=
  (p.bytes.takeWhile (· = slash)).map (fun b => [b]) ++ p.components

/-- A path is beneath another, or the same: its parts are those of the other and maybe more. -/
def Beneath (inner outer : Path) : Prop :=
  outer.parts <+: inner.parts

instance (inner outer : Path) : Decidable (inner.Beneath outer) :=
  inferInstanceAs (Decidable (_ <+: _))

/-- A path has the parts of another, and more. -/
def StrictlyBeneath (inner outer : Path) : Prop :=
  inner.Beneath outer ∧ inner.parts ≠ outer.parts

theorem parts_cons_slash (rest : List UInt8) : parts ⟨slash :: rest⟩ = [slash] :: parts ⟨rest⟩ := by
  have hcomponents : components ⟨slash :: rest⟩ = components ⟨rest⟩ :=
    components_append_slash [] rest
  rw [parts, hcomponents, parts]
  simp

theorem parts_cons_of_ne {b : UInt8} (hb : b ≠ slash) (rest : List UInt8) :
    parts ⟨b :: rest⟩ = components ⟨b :: rest⟩ := by
  simp [parts, hb]

theorem parts_of_isName {name : List UInt8} (hname : IsName name) : parts ⟨name⟩ = [name] := by
  cases name with
  | nil => exact absurd rfl hname.ne_nil
  | cons b rest =>
      have hb : b ≠ slash := fun hb => hname.2 (by simp [hb])
      rw [parts_cons_of_ne hb, components_of_isName hname]

/-- What goes on behind a slash is beneath what it goes on from. -/
theorem beneath_append_slash (front behind : List UInt8) :
    Beneath ⟨front ++ slash :: behind⟩ ⟨front⟩ := by
  induction front with
  | nil => exact List.nil_prefix
  | cons b front ih =>
      rw [Beneath, List.cons_append]
      by_cases hb : b = slash
      · rw [hb, parts_cons_slash, parts_cons_slash]
        exact (List.prefix_cons_inj _).mpr ih
      · rw [parts_cons_of_ne hb, parts_cons_of_ne hb, ← List.cons_append, components_append_slash]
        exact List.prefix_append _ _

/-- A slash at the end is none of a path's parts, if there is more in the path than slashes. -/
theorem parts_concat_slash {front : List UInt8} (hfront : components ⟨front⟩ ≠ []) :
    parts ⟨front ++ [slash]⟩ = parts ⟨front⟩ := by
  induction front with
  | nil => exact absurd rfl hfront
  | cons b front ih =>
      rw [List.cons_append]
      by_cases hb : b = slash
      · subst hb
        rw [parts_cons_slash, parts_cons_slash, ih]
        rwa [show components ⟨front⟩ = components ⟨slash :: front⟩ from
          (components_append_slash [] front).symm]
      · rw [parts_cons_of_ne hb, parts_cons_of_ne hb, ← List.cons_append, components_concat_slash]

/-- A path goes on with one part more. -/
theorem parts_separate (directory : List UInt8) {name : List UInt8} (hname : IsName name) :
    parts ⟨directory ++
      (if directory.getLast? = some slash ∨ directory = [] then [] else [slash]) ++ name⟩ =
      parts ⟨directory⟩ ++ [name] := by
  induction directory with
  | nil => exact parts_of_isName hname
  | cons b rest ih =>
      by_cases hb : b = slash
      · subst hb
        rw [parts_cons_slash]
        cases rest with
        | nil => exact (parts_cons_slash name).trans (congrArg _ (parts_of_isName hname))
        | cons c rest =>
            rw [List.getLast?_cons_cons]
            simp only [List.cons_ne_nil, or_false] at ih ⊢
            rw [List.cons_append, List.cons_append, parts_cons_slash, ih, List.cons_append]
      · rw [parts_cons_of_ne hb, ← components_separate _ hname, List.cons_append, List.cons_append,
          parts_cons_of_ne hb]

theorem parts_extend (directory : List UInt8) {names : List (List UInt8)}
    (hnames : ∀ name ∈ names, IsName name) :
    parts ⟨extend directory names⟩ = parts ⟨directory⟩ ++ names := by
  induction names generalizing directory with
  | nil => exact (List.append_nil _).symm
  | cons name rest ih =>
      obtain ⟨hname, hrest⟩ := List.forall_mem_cons.mp hnames
      rw [extend, ih _ hrest, parts_separate directory hname, List.append_assoc,
        List.singleton_append]

/-- Where an absolute path can start: at the root directory, or at the root of two slashes. -/
def IsLead (lead : List UInt8) : Prop :=
  lead = [slash] ∨ lead = [slash, slash]

theorem isLead_rootOf (bytes : List UInt8) : IsLead (rootOf bytes) := by
  unfold rootOf
  split
  · exact .inl rfl
  · exact .inr rfl
  · exact .inl rfl

theorem IsLead.extend_parts {lead : List UInt8} (hlead : IsLead lead) :
    extend [] (parts ⟨lead⟩) = lead := by
  rcases hlead with rfl | rfl
  · rfl
  · rfl

theorem IsLead.endsInSlash {lead : List UInt8} (hlead : IsLead lead) :
    endsInSlash lead = true := by
  rcases hlead with rfl | rfl
  · rfl
  · rfl

/-- A path is spelled by its parts: they are written one after the other, with one slash between any
two names, and a slash may stand at the end where none is yet. -/
def Spelled (p : Path) : Prop :=
  p.bytes = extend [] p.parts ∨
    p.bytes = extend [] p.parts ++ [slash] ∧ endsInSlash (extend [] p.parts) = false

/-- The working directory, as the system gives it: an absolute path without anything that says
nothing. -/
def Resolved (workingDirectory : Path) : Prop :=
  workingDirectory.bytes = extend [slash] workingDirectory.components

/-- A path that starts at a root and goes on with names; a slash may follow where none is yet. -/
structure Settled (p : Path) (lead : List UInt8) (names : List (List UInt8)) : Prop where
  isLead : IsLead lead
  areNames : ∀ name ∈ names, IsName name
  spelling : p.bytes = extend lead names ∨
    p.bytes = extend lead names ++ [slash] ∧ endsInSlash (extend lead names) = false

theorem settled_extend {lead : List UInt8} {names : List (List UInt8)} (hlead : IsLead lead)
    (hnames : ∀ name ∈ names, IsName name) (ends : Bool) :
    Settled ⟨if ends && ! endsInSlash (extend lead names) then extend lead names ++ [slash]
      else extend lead names⟩ lead names := by
  refine ⟨hlead, hnames, ?_⟩
  split
  · rename_i hends
    simp only [Bool.and_eq_true, Bool.not_eq_true'] at hends
    exact .inr ⟨rfl, hends.2⟩
  · exact .inl rfl

/-- What is made absolute starts at a root and goes on with names. -/
theorem exists_settled_of_absolute? {workingDirectory p whole : Path}
    (hworking : Resolved workingDirectory) (h : absolute? workingDirectory p = some whole) :
    ∃ lead names, Settled whole lead names := by
  have hgiven (name : List UInt8) : name ∈ p.components → IsName name := isName_of_mem_components
  have hstart : ∃ lead names, IsLead lead ∧ (∀ name ∈ names, IsName name) ∧
      extend (if p.isAbsolute then rootOf p.bytes else workingDirectory.bytes) p.components =
        extend lead names := by
    split
    · exact ⟨_, _, isLead_rootOf _, hgiven, rfl⟩
    · refine ⟨[slash], workingDirectory.components ++ p.components, .inl rfl, ?_, ?_⟩
      · intro name hname
        exact (List.mem_append.mp hname).elim isName_of_mem_components (hgiven name)
      · rw [extend_append, ← hworking]
  obtain ⟨lead, names, hlead, hnames, hjoined⟩ := hstart
  refine ⟨lead, names, ?_⟩
  rw [absolute?] at h
  split at h
  · exact absurd h (by simp)
  · rw [← Option.some.inj h, hjoined]
    exact settled_extend hlead hnames _

theorem Settled.spelled {p : Path} {lead : List UInt8} {names : List (List UInt8)}
    (h : Settled p lead names) : Spelled p := by
  have hparts : extend [] (parts ⟨extend lead names⟩) = extend lead names := by
    rw [parts_extend lead h.areNames, extend_append, h.isLead.extend_parts]
  cases p with
  | mk bytes =>
      rcases h.spelling with rfl | ⟨rfl, hmore⟩
      · exact .inl hparts.symm
      · -- Only a root by itself has no components, and that ends in a slash already.
        have hnamed : components ⟨extend lead names⟩ ≠ [] := by
          intro hnone
          rw [components_extend lead h.areNames, List.append_eq_nil_iff] at hnone
          rw [hnone.2, extend, h.isLead.endsInSlash] at hmore
          exact absurd hmore (by simp)
        right
        rw [parts_concat_slash hnamed, hparts]
        exact ⟨rfl, hmore⟩

theorem spelled_of_absolute? {workingDirectory p whole : Path}
    (hworking : Resolved workingDirectory) (h : absolute? workingDirectory p = some whole) :
    Spelled whole := by
  obtain ⟨lead, names, hsettled⟩ := exists_settled_of_absolute? hworking h
  exact hsettled.spelled

/-- A path that is made absolute begins with a slash. -/
theorem isAbsolute_of_absolute? {workingDirectory p whole : Path}
    (hworking : Resolved workingDirectory) (h : absolute? workingDirectory p = some whole) :
    ∃ rest, whole.bytes = slash :: rest := by
  obtain ⟨lead, names, hlead, -, hwhole⟩ := exists_settled_of_absolute? hworking h
  have hfront : [slash] <+: whole.bytes := by
    have hlead : [slash] <+: lead := by
      rcases hlead with rfl | rfl
      · exact List.prefix_rfl
      · exact ⟨[slash], rfl⟩
    have hextend : [slash] <+: extend lead names := hlead.trans (isPrefix_extend lead names)
    rcases hwhole with hwhole | ⟨hwhole, -⟩
    · rwa [hwhole]
    · rw [hwhole]
      exact hextend.trans (List.prefix_append _ _)
  obtain ⟨rest, hrest⟩ := hfront
  exact ⟨rest, hrest.symm⟩

/-- What is beneath a path that does not end in a slash is that path, or goes on from it behind a
slash. -/
theorem exists_of_beneath {inner outer : Path} (hinner : Spelled inner)
    (habsolute : ∃ rest, inner.bytes = slash :: rest)
    (houter : outer.bytes = extend [] outer.parts) (hopen : endsInSlash outer.bytes = false)
    (h : Beneath inner outer) :
    inner.bytes = outer.bytes ∨ ∃ rest, inner.bytes = outer.bytes ++ slash :: rest := by
  obtain ⟨more, hmore⟩ := h
  have hwhole : inner.bytes = extend outer.bytes more ∨
      inner.bytes = extend outer.bytes more ++ [slash] := by
    rw [houter, ← extend_append, hmore]
    exact hinner.imp_right And.left
  cases more with
  | nil => exact hwhole.imp_right fun hslash => ⟨[], hslash⟩
  | cons name more =>
      right
      by_cases hempty : outer.bytes = []
      · rw [hempty]
        exact habsolute
      · rw [extend, if_neg (by simpa [endsInSlash, hempty] using hopen)] at hwhole
        have hfront : outer.bytes ++ [slash] ++ name <+: inner.bytes := by
          rcases hwhole with hwhole | hwhole
          · rw [hwhole]
            exact isPrefix_extend _ _
          · rw [hwhole]
            exact (isPrefix_extend _ _).trans (List.prefix_append _ _)
        obtain ⟨rest, hrest⟩ := hfront
        refine ⟨name ++ rest, ?_⟩
        rw [← hrest, List.append_assoc, List.append_assoc, List.singleton_append]

/-- What goes on behind a slash from a path that ends in one already is beneath that path, and is
not that path. -/
theorem strictlyBeneath_of_goesOn {inner outer : Path} {rest : List UInt8} (hinner : Spelled inner)
    (houter : Spelled outer) (hslash : endsInSlash outer.bytes = true)
    (hgoes : inner.bytes = outer.bytes ++ slash :: rest) : StrictlyBeneath inner outer := by
  have hbeneath : Beneath inner outer := by
    have happend := beneath_append_slash outer.bytes rest
    rwa [← hgoes] at happend
  refine ⟨hbeneath, ?_⟩
  -- Two spellings of the same parts differ by one slash, and the shorter does not end in one.
  intro hsame
  have hlonger : outer.bytes.length < inner.bytes.length := by
    rw [hgoes, List.length_append, List.length_cons]
    omega
  rw [Spelled, hsame] at hinner
  rcases hinner with hinner | ⟨hinner, hopen⟩
  · rcases houter with houter | ⟨houter, -⟩
    · rw [hinner, houter] at hlonger
      exact Nat.lt_irrefl _ hlonger
    · rw [hinner, houter, List.length_append] at hlonger
      omega
  · rcases houter with houter | ⟨houter, -⟩
    · rw [houter, hopen] at hslash
      exact absurd hslash (by simp)
    · rw [hinner, houter] at hlonger
      exact Nat.lt_irrefl _ hlonger

end NplLifecycle.Path
