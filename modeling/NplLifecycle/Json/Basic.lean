import NplLifecycle.Number.Binary64

/-!
# JSON values

Messages, settings files and protocol lines carry JSON.  A number is an integer where the text
wrote one that fits 64 bits, signed or unsigned, and a double otherwise; the two never compare
equal.  An object keeps its members as a list of pairs; objects that were read or built here are
*ordered*: their names are strictly increasing by code point, at every depth.
-/

namespace NplLifecycle

open Number (Binary64)

inductive Json where
  | null
  | bool (b : Bool)
  | int (n : Int)
  | float (x : Binary64)
  | str (s : String)
  | arr (items : List Json)
  | obj (members : List (String × Json))
  deriving Inhabited

namespace Json

mutual

def decEq : (a b : Json) → Decidable (a = b)
  | .null, .null => .isTrue rfl
  | .bool a, .bool b => if h : a = b then .isTrue (h ▸ rfl) else .isFalse (by simp [h])
  | .int a, .int b => if h : a = b then .isTrue (h ▸ rfl) else .isFalse (by simp [h])
  | .float a, .float b => if h : a = b then .isTrue (h ▸ rfl) else .isFalse (by simp [h])
  | .str a, .str b => if h : a = b then .isTrue (h ▸ rfl) else .isFalse (by simp [h])
  | .arr a, .arr b =>
    match decEqItems a b with
    | .isTrue h => .isTrue (h ▸ rfl)
    | .isFalse h => .isFalse (by simp [h])
  | .obj a, .obj b =>
    match decEqMembers a b with
    | .isTrue h => .isTrue (h ▸ rfl)
    | .isFalse h => .isFalse (by simp [h])
  | .null, .bool _ | .null, .int _ | .null, .float _ | .null, .str _ | .null, .arr _
  | .null, .obj _ | .bool _, .null | .bool _, .int _ | .bool _, .float _ | .bool _, .str _
  | .bool _, .arr _ | .bool _, .obj _ | .int _, .null | .int _, .bool _ | .int _, .float _
  | .int _, .str _ | .int _, .arr _ | .int _, .obj _ | .float _, .null | .float _, .bool _
  | .float _, .int _ | .float _, .str _ | .float _, .arr _ | .float _, .obj _ | .str _, .null
  | .str _, .bool _ | .str _, .int _ | .str _, .float _ | .str _, .arr _ | .str _, .obj _
  | .arr _, .null | .arr _, .bool _ | .arr _, .int _ | .arr _, .float _ | .arr _, .str _
  | .arr _, .obj _ | .obj _, .null | .obj _, .bool _ | .obj _, .int _ | .obj _, .float _
  | .obj _, .str _ | .obj _, .arr _ => .isFalse (by simp)

def decEqItems : (a b : List Json) → Decidable (a = b)
  | [], [] => .isTrue rfl
  | [], _ :: _ | _ :: _, [] => .isFalse (by simp)
  | x :: xs, y :: ys =>
    match decEq x y, decEqItems xs ys with
    | .isTrue h, .isTrue hs => .isTrue (h ▸ hs ▸ rfl)
    | .isFalse h, _ => .isFalse (by simp [h])
    | _, .isFalse hs => .isFalse (by simp [hs])

def decEqMembers : (a b : List (String × Json)) → Decidable (a = b)
  | [], [] => .isTrue rfl
  | [], _ :: _ | _ :: _, [] => .isFalse (by simp)
  | (k, x) :: xs, (l, y) :: ys =>
    if hk : k = l then
      match decEq x y, decEqMembers xs ys with
      | .isTrue h, .isTrue hs => .isTrue (hk ▸ h ▸ hs ▸ rfl)
      | .isFalse h, _ => .isFalse (by simp [h])
      | _, .isFalse hs => .isFalse (by simp [hs])
    else .isFalse (by simp [hk])

end

instance : DecidableEq Json := decEq

/-- Sets a member, keeping the names increasing. -/
def insertMember (name : String) (value : Json) :
    List (String × Json) → List (String × Json)
  | [] => [(name, value)]
  | (other, old) :: rest =>
    if name < other then (name, value) :: (other, old) :: rest
    else if name = other then (name, value) :: rest
    else (other, old) :: insertMember name value rest

/-- The object with the given members; of members of one name the last is kept. -/
def ofMembers (members : List (String × Json)) : Json :=
  .obj (members.foldl (fun built member => insertMember member.1 member.2 built) [])

/-- The member of that name, if the value is an object that has one. -/
def get? (name : String) : Json → Option Json
  | .obj members => members.lookup name
  | _ => none

def str? : Json → Option String
  | .str s => some s
  | _ => none

def items? : Json → Option (List Json)
  | .arr items => some items
  | _ => none

def int64? : Json → Option Int
  | .int n => if -Int.pow 2 63 ≤ n ∧ n < Int.pow 2 63 then some n else none
  | _ => none

def nat64? : Json → Option Nat
  | .int n => if 0 ≤ n ∧ n < Int.pow 2 64 then some n.toNat else none
  | _ => none

/-- A value with `null` standing for absence. -/
def ofOption : Option Json → Json
  | some value => value
  | none => .null

def ofStrings (texts : List String) : Json :=
  .arr (texts.map .str)

mutual

/-- Every object in the value has its names strictly increasing. -/
def Ordered : Json → Prop
  | .arr items => ItemsOrdered items
  | .obj members => (members.map Prod.fst).Pairwise (· < ·) ∧ MembersOrdered members
  | _ => True

def ItemsOrdered : List Json → Prop
  | [] => True
  | item :: rest => Ordered item ∧ ItemsOrdered rest

def MembersOrdered : List (String × Json) → Prop
  | [] => True
  | (_, value) :: rest => Ordered value ∧ MembersOrdered rest

end

mutual

/-- How many brackets are open at the deepest place of the value's text. -/
def depth : Json → Nat
  | .arr items => itemsDepth items + 1
  | .obj members => membersDepth members + 1
  | _ => 0

def itemsDepth : List Json → Nat
  | [] => 0
  | item :: rest => max (depth item) (itemsDepth rest)

def membersDepth : List (String × Json) → Nat
  | [] => 0
  | (_, value) :: rest => max (depth value) (membersDepth rest)

end

end Json

end NplLifecycle
