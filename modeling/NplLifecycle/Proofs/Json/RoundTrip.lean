import NplLifecycle.Proofs.Json.Integral
import NplLifecycle.Proofs.Json.Members
import NplLifecycle.Proofs.Json.Tokens

/-!
# Reading a written value back

A value whose numbers are legible, as integers of 64 bits are, is read back from its text with its
members in order; an ordered value is read back as it is.  The brackets of the text are those of the
value, so it is enough that the value is not nested too deeply.
-/

namespace NplLifecycle.Json

open Number (integerText)

mutual

/-- The value with the members of all its objects in order. -/
def arrange : Json → Json
  | .arr items => .arr (arrangeItems items)
  | .obj members => .ofMembers (arrangeMembers members)
  | value => value

def arrangeItems : List Json → List Json
  | [] => []
  | item :: rest => arrange item :: arrangeItems rest

/-- The members as they stand, with the members of their values in order. -/
def arrangeMembers : List (String × Json) → List (String × Json)
  | [] => []
  | (name, value) :: rest => (name, arrange value) :: arrangeMembers rest

end

section Arranging

variable {name : String} {members : List (String × Json)}

mutual

theorem arrange_of_ordered (value : Json) (h : value.Ordered) : value.arrange = value := by
  match value with
  | .null | .bool _ | .int _ | .float _ | .str _ => rfl
  | .arr items => rw [arrange, arrangeItems_of_ordered items h]
  | .obj members => rw [arrange, arrangeMembers_of_ordered members h.2, ofMembers_of_ordered h]

theorem arrangeItems_of_ordered (items : List Json) (h : ItemsOrdered items) :
    arrangeItems items = items := by
  match items with
  | [] => rfl
  | item :: rest =>
      rw [arrangeItems, arrange_of_ordered item h.1, arrangeItems_of_ordered rest h.2]

theorem arrangeMembers_of_ordered (members : List (String × Json)) (h : MembersOrdered members) :
    arrangeMembers members = members := by
  match members with
  | [] => rfl
  | (name, value) :: rest =>
      rw [arrangeMembers, arrange_of_ordered value h.1, arrangeMembers_of_ordered rest h.2]

end

theorem names_arrangeMembers (members : List (String × Json)) :
    (arrangeMembers members).map Prod.fst = members.map Prod.fst := by
  induction members with
  | nil => rfl
  | cons member members ih => rw [arrangeMembers, List.map_cons, List.map_cons, ih]

theorem lookup_arrangeMembers (members : List (String × Json)) (name : String) :
    (arrangeMembers members).lookup name = (members.lookup name).map arrange := by
  induction members with
  | nil => rfl
  | cons member members ih =>
      rw [arrangeMembers, lookup_cons_eq_ite, lookup_cons_eq_ite, ih]
      split
      · rfl
      · rfl

/-- In an object whose names differ the same members are found when they stand in order. -/
theorem lookup_arranged (members : List (String × Json)) (h : (members.map Prod.fst).Nodup)
    (name : String) :
    (setMembers [] (arrangeMembers members)).lookup name = (members.lookup name).map arrange := by
  rw [← names_arrangeMembers] at h
  rw [lookup_setMembers h, lookup_arrangeMembers]
  exact Option.or_none

end Arranging

mutual

/-- Every scalar in the value has a property. -/
def Every (p : Json → Prop) : Json → Prop
  | .arr items => EveryItem p items
  | .obj members => EveryMember p members
  | value => p value

/-- Every scalar in the items has a property. -/
def EveryItem (p : Json → Prop) : List Json → Prop
  | [] => True
  | item :: rest => Every p item ∧ EveryItem p rest

/-- Every scalar in the members' values has a property. -/
def EveryMember (p : Json → Prop) : List (String × Json) → Prop
  | [] => True
  | (_, value) :: rest => Every p value ∧ EveryMember p rest

end

/-- An integer fits 64 bits, signed or unsigned. -/
def Fits : Json → Prop
  | .int n => -Int.pow 2 63 ≤ n ∧ n < Int.pow 2 64
  | _ => True

/-- A double is the one that its text stands for. -/
def Readable : Json → Prop
  | .float x => ∃ number, Numeral.ofChars? x.jsonText.toList = some number ∧
      number.value? = some (.float x)
  | _ => True

/-- A number is the one that its text stands for. -/
def Legible (value : Json) : Prop :=
  value.Fits ∧ value.Readable

/-- A number is one of those that a value may hold, and its text stands for one of them. -/
def InRange : Json → Prop
  | .int n => -Int.pow 2 63 ≤ n ∧ n < Int.pow 2 64
  | .float x => ∃ number, Numeral.ofChars? x.jsonText.toList = some number ∧ number.value?.isSome
  | _ => True

/-- The number that the text of a double stands for. -/
def rereadDouble (x : Number.Binary64) : Json :=
  ((Numeral.ofChars? x.jsonText.toList).bind Numeral.value?).getD (.float x)

mutual

/-- The value as it is read from its own text: its members stand in order, and a double may have
become one next to it. -/
def reread : Json → Json
  | .float x => rereadDouble x
  | .arr items => .arr (rereadItems items)
  | .obj members => .ofMembers (rereadMembers members)
  | value => value

def rereadItems : List Json → List Json
  | [] => []
  | item :: rest => reread item :: rereadItems rest

/-- The members as they are read, in the order of the text. -/
def rereadMembers : List (String × Json) → List (String × Json)
  | [] => []
  | (name, value) :: rest => (name, reread value) :: rereadMembers rest

end

section Legible

variable {p q : Json → Prop}

mutual

theorem every_mono (himp : ∀ value, p value → q value) (value : Json) (h : value.Every p) :
    value.Every q := by
  match value with
  | .null | .bool _ | .int _ | .float _ | .str _ => exact himp _ h
  | .arr items => exact everyItem_mono himp items h
  | .obj members => exact everyMember_mono himp members h

theorem everyItem_mono (himp : ∀ value, p value → q value) (items : List Json)
    (h : EveryItem p items) : EveryItem q items := by
  match items with
  | [] => trivial
  | item :: rest => exact ⟨every_mono himp item h.1, everyItem_mono himp rest h.2⟩

theorem everyMember_mono (himp : ∀ value, p value → q value) (members : List (String × Json))
    (h : EveryMember p members) : EveryMember q members := by
  match members with
  | [] => trivial
  | (_, value) :: rest => exact ⟨every_mono himp value h.1, everyMember_mono himp rest h.2⟩

end

theorem Legible.inRange (value : Json) (h : value.Legible) : value.InRange := by
  cases value with
  | null | bool | str | arr | obj => trivial
  | int n => exact h.1
  | float x =>
      obtain ⟨number, hnumber, hvalue⟩ := h.2
      exact ⟨number, hnumber, by rw [hvalue]; rfl⟩

mutual

/-- A value of legible numbers is read as it is, but for the order of its members. -/
theorem reread_of_legible (value : Json) (h : value.Every Legible) :
    value.reread = value.arrange := by
  match value with
  | .null | .bool _ | .int _ | .str _ => rfl
  | .float x =>
      obtain ⟨number, hnumber, hvalue⟩ := h.2
      rw [reread, rereadDouble, hnumber, Option.bind_some, hvalue]
      rfl
  | .arr items => rw [reread, arrange, rereadItems_of_legible items h]
  | .obj members => rw [reread, arrange, rereadMembers_of_legible members h]

theorem rereadItems_of_legible (items : List Json) (h : EveryItem Legible items) :
    rereadItems items = arrangeItems items := by
  match items with
  | [] => rfl
  | item :: rest =>
      rw [rereadItems, arrangeItems, reread_of_legible item h.1, rereadItems_of_legible rest h.2]

theorem rereadMembers_of_legible (members : List (String × Json))
    (h : EveryMember Legible members) : rereadMembers members = arrangeMembers members := by
  match members with
  | [] => rfl
  | (name, value) :: rest =>
      rw [rereadMembers, arrangeMembers, reread_of_legible value h.1,
        rereadMembers_of_legible rest h.2]

end

end Legible

mutual

theorem legible_of_integral (value : Json) (h : value.Integral) : value.Every Legible := by
  match value with
  | .null | .bool _ | .str _ => exact ⟨trivial, trivial⟩
  | .int n => exact ⟨h, trivial⟩
  | .float x =>
      rw [h]
      exact ⟨trivial, _, ofChars?_minusZero, value?_minusZero⟩
  | .arr items => exact itemsLegible_of_integral items h
  | .obj members => exact membersLegible_of_integral members h

theorem itemsLegible_of_integral (items : List Json) (h : ItemsIntegral items) :
    EveryItem Legible items := by
  match items with
  | [] => trivial
  | item :: rest => exact ⟨legible_of_integral item h.1, itemsLegible_of_integral rest h.2⟩

theorem membersLegible_of_integral (members : List (String × Json)) (h : MembersIntegral members) :
    EveryMember Legible members := by
  match members with
  | [] => trivial
  | (_, value) :: rest =>
      exact ⟨legible_of_integral value h.1, membersLegible_of_integral rest h.2⟩

end

/-- The tokens are those of a document: whoever expects a value reads the document. -/
structure Writes (tokens : List Token) (document : Document) : Prop where
  reads : ∀ levels rest, (Reading.mk levels .value none).run? (tokens ++ rest) =
    (Reading.complete document levels).run? rest
  head : ∃ first more, tokens = first :: more ∧ first ≠ .closeList

/-- The tokens are those of items, which end with the list. -/
structure WritesItems (tokens : List Token) (items : List Document) : Prop where
  reads : ∀ before levels rest,
    (Reading.mk (.list before :: levels) .value none).run? (tokens ++ .closeList :: rest) =
      (Reading.complete (.list (before.reverse ++ items)) levels).run? rest
  head : ∃ first more, tokens = first :: more ∧ first ≠ .closeList

structure WritesMembers (tokens : List Token) (members : List (Option String × Document)) :
    Prop where
  reads : ∀ before levels rest,
    (Reading.mk (.record before :: levels) .name none).run? (tokens ++ .closeRecord :: rest) =
      (Reading.complete (.record (before.reverse ++ members)) levels).run? rest
  head : ∃ name more, tokens = .text name :: more

section Writing

variable {token : Token} {tokens more : List Token} {document : Document}
  {items : List Document} {members : List (Option String × Document)}

theorem run?_cons {reading next : Reading} (h : reading.step? token = some next)
    (rest : List Token) : reading.run? (token :: rest) = next.run? rest := by
  rw [Reading.run?, h, Option.bind_some]

/-- Where a first item may stand, anything but the end of the list is taken for a value. -/
theorem run?_firstItem (h : token ≠ .closeList) (levels : List Level) (rest : List Token) :
    (Reading.mk levels .firstItem none).run? (token :: rest) =
      (Reading.mk levels .value none).run? (token :: rest) := by
  have hstep : (Reading.mk levels .firstItem none).step? token =
      (Reading.mk levels .value none).step? token := by
    change _ = Reading.value? levels token
    unfold Reading.step?
    split <;> simp_all
  rw [Reading.run?, Reading.run?, hstep]

/-- A token that opens nothing is a document by itself. -/
theorem writes_token (h : token ≠ .closeList)
    (hvalue : ∀ levels, Reading.value? levels token = some (Reading.complete document levels)) :
    Writes [token] document where
  reads levels rest := by
    have hstep : (Reading.mk levels .value none).step? token =
        some (Reading.complete document levels) := hvalue levels
    exact run?_cons hstep rest
  head := ⟨token, [], rfl, h⟩

theorem writes_numeral {text : List Char} {number : Numeral}
    (h : Numeral.ofChars? text = some number) : Writes [.numeral text] (.numeral number) :=
  writes_token (by simp) fun levels => by simp [Reading.value?, h]

theorem writes_text (s : String) : Writes [.text (some s.toList)] (.text (some s)) :=
  writes_token (by simp) fun levels => by simp [Reading.value?]

theorem WritesItems.singleton (h : Writes tokens document) : WritesItems tokens [document] where
  reads before levels rest := by
    rw [h.reads, Reading.complete, run?_cons rfl, List.reverse_cons]
  head := h.head

theorem WritesItems.cons (hfirst : Writes tokens document) (hrest : WritesItems more items) :
    WritesItems (tokens ++ .comma :: more) (document :: items) where
  reads before levels rest := by
    rw [List.append_assoc, List.cons_append, hfirst.reads, Reading.complete, run?_cons rfl,
      hrest.reads, List.reverse_cons, List.append_assoc, List.singleton_append]
  head := by
    obtain ⟨first, behind, rfl, hne⟩ := hfirst.head
    exact ⟨first, behind ++ .comma :: more, rfl, hne⟩

theorem writes_emptyList : Writes [.openList, .closeList] (.list []) where
  reads levels rest := (run?_cons rfl _).trans (run?_cons rfl rest)
  head := ⟨.openList, _, rfl, by simp⟩

theorem WritesItems.list (h : WritesItems tokens items) :
    Writes (.openList :: (tokens ++ [.closeList])) (.list items) where
  reads levels rest := by
    have hread := h.reads [] levels rest
    obtain ⟨first, behind, rfl, hne⟩ := h.head
    rw [List.cons_append, ← run?_firstItem hne] at hread
    rw [List.cons_append, run?_cons rfl, List.append_assoc]
    exact hread
  head := ⟨.openList, _, rfl, by simp⟩

theorem WritesMembers.singleton (name : String) (h : Writes tokens document) :
    WritesMembers (.text (some name.toList) :: .colon :: tokens) [(some name, document)] where
  reads before levels rest := by
    rw [List.cons_append, List.cons_append, run?_cons rfl, run?_cons rfl, h.reads,
      Reading.complete, run?_cons rfl, List.reverse_cons, Option.map_some, String.ofList_toList]
  head := ⟨_, _, rfl⟩

theorem WritesMembers.cons (name : String) (hfirst : Writes tokens document)
    (hrest : WritesMembers more members) :
    WritesMembers (.text (some name.toList) :: .colon :: (tokens ++ .comma :: more))
      ((some name, document) :: members) where
  reads before levels rest := by
    rw [List.cons_append, List.cons_append, run?_cons rfl, run?_cons rfl, List.append_assoc,
      List.cons_append, hfirst.reads, Reading.complete, run?_cons rfl, hrest.reads,
      List.reverse_cons, List.append_assoc, List.singleton_append, Option.map_some,
      String.ofList_toList]
  head := ⟨_, _, rfl⟩

theorem writes_emptyRecord : Writes [.openRecord, .closeRecord] (.record []) where
  reads levels rest := (run?_cons rfl _).trans (run?_cons rfl rest)
  head := ⟨.openRecord, _, rfl, by simp⟩

theorem WritesMembers.record (h : WritesMembers tokens members) :
    Writes (.openRecord :: (tokens ++ [.closeRecord])) (.record members) where
  reads levels rest := by
    have hread := h.reads [] levels rest
    obtain ⟨name, behind, rfl⟩ := h.head
    rw [List.cons_append, run?_cons rfl, List.append_assoc]
    exact hread
  head := ⟨.openRecord, _, rfl, by simp⟩

end Writing

mutual

/-- The tokens of a value are those of a document that stands for the value as it is read. -/
theorem exists_writes (value : Json) (limit : Nat) (hrange : value.Every InRange)
    (hdepth : value.depth ≤ limit) :
    ∃ document, Writes (tokensOf value) document ∧ document.value? limit = some value.reread := by
  match value, limit with
  | .null, _ => exact ⟨.null, writes_token (by simp) fun _ => rfl, rfl⟩
  | .bool b, _ => exact ⟨.bool b, writes_token (by simp) fun _ => rfl, rfl⟩
  | .int n, _ => exact ⟨_, writes_numeral (ofChars?_integerText n), value?_ofInt hrange⟩
  | .float x, _ =>
      obtain ⟨number, hnumber, hsome⟩ := hrange
      obtain ⟨read, hread⟩ := Option.isSome_iff_exists.mp hsome
      refine ⟨_, writes_numeral hnumber, ?_⟩
      rw [Document.value?, reread, rereadDouble, hnumber, Option.bind_some, hread]
      rfl
  | .str s, _ => exact ⟨_, writes_text s, rfl⟩
  | .arr items, 0 => exact absurd hdepth (by simp [depth])
  | .obj members, 0 => exact absurd hdepth (by simp [depth])
  | .arr [], limit + 1 => exact ⟨_, writes_emptyList, rfl⟩
  | .arr (item :: rest), limit + 1 =>
      obtain ⟨documents, hwrites, hvalues⟩ := exists_writesItems (item :: rest) limit (by simp)
        hrange (Nat.le_of_succ_le_succ hdepth)
      refine ⟨_, hwrites.list, ?_⟩
      rw [Document.value?, hvalues]
      rfl
  | .obj [], limit + 1 => exact ⟨_, writes_emptyRecord, rfl⟩
  | .obj (member :: rest), limit + 1 =>
      obtain ⟨documents, hwrites, hmembers⟩ := exists_writesMembers (member :: rest) limit (by simp)
        hrange (Nat.le_of_succ_le_succ hdepth)
      refine ⟨_, hwrites.record, ?_⟩
      rw [Document.value?, hmembers]
      rfl

theorem exists_writesItems (items : List Json) (limit : Nat) (hne : items ≠ [])
    (hrange : EveryItem InRange items) (hdepth : itemsDepth items ≤ limit) :
    ∃ documents, WritesItems (itemTokens items) documents ∧
      Document.values? limit documents = some (rereadItems items) := by
  match items with
  | [] => exact absurd rfl hne
  | [item] =>
      obtain ⟨document, hwrites, hvalue⟩ :=
        exists_writes item limit hrange.1 (Nat.le_trans (Nat.le_max_left ..) hdepth)
      refine ⟨[document], ?_, ?_⟩
      · rw [itemTokens]
        exact .singleton hwrites
      · rw [Document.values?, hvalue]
        rfl
  | item :: next :: rest =>
      obtain ⟨document, hwrites, hvalue⟩ :=
        exists_writes item limit hrange.1 (Nat.le_trans (Nat.le_max_left ..) hdepth)
      obtain ⟨documents, hmore, hvalues⟩ := exists_writesItems (next :: rest) limit (by simp)
        hrange.2 (Nat.le_trans (Nat.le_max_right ..) hdepth)
      refine ⟨document :: documents, ?_, ?_⟩
      · rw [itemTokens]
        · exact .cons hwrites hmore
        · simp
      · rw [Document.values?, hvalue, hvalues]
        rfl

theorem exists_writesMembers (members : List (String × Json)) (limit : Nat) (hne : members ≠ [])
    (hrange : EveryMember InRange members) (hdepth : membersDepth members ≤ limit) :
    ∃ documents, WritesMembers (memberTokens members) documents ∧
      Document.members? limit documents = some (rereadMembers members) := by
  match members with
  | [] => exact absurd rfl hne
  | [(name, value)] =>
      obtain ⟨document, hwrites, hvalue⟩ :=
        exists_writes value limit hrange.1 (Nat.le_trans (Nat.le_max_left ..) hdepth)
      refine ⟨[(some name, document)], ?_, ?_⟩
      · rw [memberTokens]
        exact .singleton name hwrites
      · rw [Document.members?, Option.bind_some, hvalue]
        rfl
  | (name, value) :: next :: rest =>
      obtain ⟨document, hwrites, hvalue⟩ :=
        exists_writes value limit hrange.1 (Nat.le_trans (Nat.le_max_left ..) hdepth)
      obtain ⟨documents, hmore, hmembers⟩ := exists_writesMembers (next :: rest) limit (by simp)
        hrange.2 (Nat.le_trans (Nat.le_max_right ..) hdepth)
      refine ⟨(some name, document) :: documents, ?_, ?_⟩
      · rw [memberTokens]
        · exact .cons name hwrites hmore
        · simp
      · rw [Document.members?, Option.bind_some, hvalue, hmembers]
        rfl

end

/-- A document is read from a text of its tokens. -/
theorem ofChars?_of_writes {text : List Char} {tokens : List Token} {document : Document}
    (htokens : tokens? text = some tokens) (h : Writes tokens document) :
    Document.ofChars? text = some document := by
  have hrun := h.reads [] []
  rw [List.append_nil] at hrun
  rw [Document.ofChars?, htokens, Option.bind_some, hrun]
  rfl

/-- A value is read back from a text of its tokens with its members in order. -/
theorem parse?_of_tokens {value : Json} {text : String}
    (htokens : tokens? text.toList = some (tokensOf value)) (hlegible : value.Every Legible)
    (hdepth : value.depth ≤ nestingLimit) : parse? text = some value.arrange := by
  obtain ⟨document, hwrites, hvalue⟩ := exists_writes value nestingLimit
    (every_mono Legible.inRange value hlegible) hdepth
  rw [parse?, ofChars?_of_writes htokens hwrites, Option.bind_some, hvalue,
    reread_of_legible value hlegible]

/-- A value is read back from its text with its members in order. -/
theorem parse?_compact {value : Json} (hintegral : value.Integral)
    (hdepth : value.depth ≤ nestingLimit) : parse? value.compact = some value.arrange :=
  parse?_of_tokens (by rw [compact, String.toList_ofList, tokens?_chars])
    (legible_of_integral value hintegral) hdepth

end NplLifecycle.Json
