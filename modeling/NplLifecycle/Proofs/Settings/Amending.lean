import NplLifecycle.Proofs.Settings.Editing

/-!
# What an edit leaves as it was

An edit puts a value at a place of a document and makes the objects that are missing on the way.  It
fails only where something else than an object is on the way, whatever the value.  Everything beside
the way stays, a second edit of the place undoes the first, and edits of two settings do not meet.
-/

namespace NplLifecycle

namespace Json

/-- The value behind a path of member names. -/
def at? : List String → Json → Option Json
  | [], value => some value
  | name :: rest, value => (value.get? name).bind (at? rest)

theorem at?_obj (name : String) (rest : List String) (members : List (String × Json)) :
    (Json.obj members).at? (name :: rest) = (members.lookup name).bind (at? rest) :=
  rfl

/-- Whatever stands on the way to a place is an object. -/
def ObjectsTo (place : List String) (document : Json) : Prop :=
  ∀ front, front <+: place → front ≠ place →
    ∀ found, document.at? front = some found → ∃ members, found = .obj members

/-- A document as it was, but for the value at a place and the objects on the way there. -/
structure Amended (place : List String) (value old new : Json) : Prop where
  /-- The value is at the place. -/
  placed : ∀ rest, new.at? (place ++ rest) = value.at? rest
  /-- Objects lead to it. -/
  led : ∀ front, front <+: place → front ≠ place → ∃ members, new.at? front = some (.obj members)
  /-- What is beside the way stays. -/
  kept : ∀ other, ¬ other <+: place → ¬ place <+: other → new.at? other = old.at? other

end Json

namespace Settings

open Json (Amended ObjectsTo)

variable {name other : String} {rest path : List String} {value old new once : Json}

/-- What is behind a name is behind the object that an edit would find or make there. -/
theorem at?_getD (name : String) {rest : List String} (members : List (String × Json))
    (hrest : rest ≠ []) :
    ((members.lookup name).getD (.obj [])).at? rest =
      (members.lookup name).bind (Json.at? rest) := by
  cases members.lookup name with
  | some found => rfl
  | none =>
      cases rest with
      | nil => exact absurd rfl hrest
      | cons next rest => rfl

/-- An edit amends the document. -/
theorem amended_of_assign? (h : assign? value path old = some new) :
    Amended path value old new := by
  induction path generalizing old new with
  | nil =>
      have hnew : value = new := Option.some.inj h
      rw [hnew]
      refine ⟨fun rest => rfl, ?_, ?_⟩
      · intro front hfront hne
        exact absurd (List.prefix_nil.mp hfront) hne
      · intro other _ hother
        exact absurd List.nil_prefix hother
  | cons name path ih =>
      rcases assign?_cons_eq_some_iff.mp h with ⟨members, inner, rfl, hinner, rfl⟩
      have hbelow := ih hinner
      refine ⟨?_, ?_, ?_⟩
      · intro rest
        rw [List.cons_append, Json.at?_obj, Json.lookup_insertMember, if_pos rfl]
        exact hbelow.placed rest
      · intro front hfront hne
        cases front with
        | nil => exact ⟨_, rfl⟩
        | cons first front =>
            rcases List.cons_prefix_cons.mp hfront with ⟨rfl, hmore⟩
            rw [Json.at?_obj, Json.lookup_insertMember, if_pos rfl]
            exact hbelow.led front hmore fun heq => hne (heq ▸ rfl)
      · intro other hother hbehind
        cases other with
        | nil => exact absurd List.nil_prefix hother
        | cons first other =>
            rw [Json.at?_obj, Json.at?_obj, Json.lookup_insertMember]
            by_cases hsame : first = name
            · rw [List.cons_prefix_cons, not_and] at hother hbehind
              have hmore := hother hsame
              have hne : other ≠ [] := fun hnil => hmore (hnil ▸ List.nil_prefix)
              rw [if_pos hsame, hsame, ← at?_getD name members hne]
              exact hbelow.kept other hmore (hbehind hsame.symm)
            · rw [if_neg hsame]

/-- An edit is made exactly if only objects are on the way. -/
theorem isSome_assign?_iff : (assign? value path old).isSome ↔ ObjectsTo path old := by
  induction path generalizing old with
  | nil =>
      refine ⟨fun _ front hfront hne => ?_, fun _ => rfl⟩
      exact absurd (List.prefix_nil.mp hfront) hne
  | cons name path ih =>
      constructor
      · intro h front hfront hne found hfound
        rcases Option.isSome_iff_exists.mp h with ⟨new, hnew⟩
        rcases assign?_cons_eq_some_iff.mp hnew with ⟨members, inner, rfl, hinner, -⟩
        cases front with
        | nil => exact ⟨members, (Option.some.inj hfound).symm⟩
        | cons first front =>
            rcases List.cons_prefix_cons.mp hfront with ⟨rfl, hmore⟩
            rw [Json.at?_obj] at hfound
            rcases Option.bind_eq_some_iff.mp hfound with ⟨child, hchild, hbehind⟩
            rw [hchild] at hinner
            exact ih.mp (Option.isSome_of_eq_some hinner) front hmore (fun heq => hne (heq ▸ rfl))
              found hbehind
      · intro h
        rcases h [] List.nil_prefix (List.cons_ne_nil _ _).symm old rfl with ⟨members, rfl⟩
        have hinner : (assign? value path ((members.lookup name).getD (.obj []))).isSome := by
          apply ih.mpr
          intro front hfront hne found hfound
          by_cases hnil : front = []
          · -- The object that is found at the name, or made there.
            subst hnil
            have hchild : (members.lookup name).getD (.obj []) = found := Option.some.inj hfound
            cases hlookup : members.lookup name with
            | none => exact ⟨[], by rw [← hchild, hlookup, Option.getD_none]⟩
            | some child =>
                apply h [name] ((List.prefix_cons_inj name).mpr hfront)
                · exact fun heq => hne (List.cons.inj heq).2
                · rw [Json.at?_obj, hlookup, ← hchild, hlookup]
                  rfl
          · rw [at?_getD name members hnil, ← Json.at?_obj] at hfound
            exact h (name :: front) ((List.prefix_cons_inj name).mpr hfront)
              (fun heq => hne (List.cons.inj heq).2) found hfound
        rcases Option.isSome_iff_exists.mp hinner with ⟨inner, hsome⟩
        exact Option.isSome_of_eq_some
          (assign?_cons_eq_some_iff.mpr ⟨members, inner, rfl, hsome, rfl⟩)

/-- A later edit of a place undoes an earlier one. -/
theorem assign?_assign? {first second : Json} (h : assign? first path old = some once) :
    assign? second path once = assign? second path old := by
  induction path generalizing old once with
  | nil => rfl
  | cons name path ih =>
      rcases assign?_cons_eq_some_iff.mp h with ⟨members, inner, rfl, hinner, rfl⟩
      rw [assign?_cons_obj, assign?_cons_obj, Json.lookup_insertMember, if_pos rfl,
        Option.getD_some, ih hinner]
      simp only [Json.insertMember_insertMember]

section Beside

variable {first second : Json} {behind : List String}

/-- An edit below one name is made after an edit below another exactly if it is made before. -/
theorem isSome_assign?_beside (hne : other ≠ name)
    (h : assign? first (name :: rest) old = some once) :
    (assign? second (other :: behind) once).isSome =
      (assign? second (other :: behind) old).isSome := by
  rcases assign?_cons_eq_some_iff.mp h with ⟨members, inner, rfl, -, rfl⟩
  rw [assign?_cons_obj, assign?_cons_obj, Json.lookup_insertMember, if_neg hne, Option.isSome_map,
    Option.isSome_map]

/-- Edits below two names give the same document in either order. -/
theorem assign?_comm {twin : Json} (hne : other ≠ name)
    (h : assign? first (name :: rest) old = some once)
    (hother : assign? second (other :: behind) old = some twin) :
    assign? second (other :: behind) once = assign? first (name :: rest) twin := by
  rcases assign?_cons_eq_some_iff.mp h with ⟨members, inner, rfl, hinner, rfl⟩
  rcases assign?_cons_eq_some_iff.mp hother with ⟨_, found, heq, hfound, rfl⟩
  rw [← Json.obj.inj heq] at hfound ⊢
  rw [assign?_cons_obj, assign?_cons_obj, Json.lookup_insertMember, if_neg hne, hfound,
    Json.lookup_insertMember, if_neg (Ne.symm hne), hinner, Option.map_some, Option.map_some,
    Json.insertMember_comm hne]

end Beside

end Settings

end NplLifecycle
