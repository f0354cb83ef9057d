import NplLifecycle.Proofs.Json.Parsed
import NplLifecycle.Proofs.Json.Range
import NplLifecycle.Proofs.Message.Written
import NplLifecycle.Server.Practice

/-!
# What the practice server hears

A message that a client can hold is read from its text whatever it says: its numbers are in range,
its names differ, and the fields that the practice server looks for are found under their names.
-/

namespace NplLifecycle.Json

/-- A number is one that a value can hold: an integer of 64 bits, signed or unsigned, or a finite
double. -/
def Holdable : Json → Prop
  | .int n => -Int.pow 2 63 ≤ n ∧ n < Int.pow 2 64
  | .float x => x.isFinite
  | _ => True

theorem Holdable.inRange (value : Json) (h : value.Holdable) : value.InRange := by
  cases value with
  | null | bool | str | arr | obj => trivial
  | int n => exact h
  | float x => exact exists_value?_of_isFinite h

namespace Document

variable {limit : Nat} {documents : List (Option String × Document)} {read : List (String × Json)}
  {document : Document} {name text : String}

end Document

end NplLifecycle.Json

namespace NplLifecycle.Practice

open Json (Document EveryMember Holdable InRange membersDepth present reread rereadMembers)

section Fields

variable {found : Option Document} {value : Option Json} {limit : Nat} {text : Option String}

end Fields

def heard (members : List (String × Json)) (method : Option String) : Incoming where
  id := present ((members.lookup "id").map reread)
  method := method
  params := .ofOption ((members.lookup "params").map reread)
  result := present ((members.lookup "result").map reread)

def hear : Message → Incoming
  | .request request => ⟨some request.id.toJson, some request.method, request.params.reread, none⟩
  | .notification notification => ⟨none, some notification.method, notification.params.reread, none⟩
  | .response response =>
    ⟨response.id.map RequestId.toJson, none, .null, present (response.result.map reread)⟩

section Messages

variable {message : Message}

end Messages

end NplLifecycle.Practice
