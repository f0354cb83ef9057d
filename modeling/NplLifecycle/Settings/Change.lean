import NplLifecycle.Settings.Key

/-!
# Announced changes

A host announces which keys changed.  A key may name a setting, a section that holds settings, or
something inside a setting, and touches every setting that it is comparable with.

A listener gets the changes that are announced while it listens.  Its inbox keeps only so many that
it has not read; when one more arrives, the oldest is lost, and the listener is told how many were
lost before it reads on.
-/

namespace NplLifecycle

structure SettingsChange where
  keys : List String
  deriving DecidableEq, Repr, Inhabited

namespace SettingsChange

def ofSettings (settings : List SettingKey) : SettingsChange :=
  ⟨settings.map SettingKey.qualified⟩

/-- Is one key the other with more behind a dot? -/
def isInside (inner outer : String) : Bool :=
  (outer.toList ++ ['.']).isPrefixOf inner.toList

/-- Touches the change a setting, a section around it, or something inside it? -/
def affects (change : SettingsChange) (key : SettingKey) : Bool :=
  change.keys.any fun changed =>
    changed == key.qualified || isInside key.qualified changed || isInside changed key.qualified

end SettingsChange

/-- The changes that a listener has not read yet. -/
structure Inbox where
  unread : List SettingsChange
  /-- How many were lost since the last reading. -/
  missed : Nat
  deriving DecidableEq, Repr, Inhabited

namespace Inbox

def empty : Inbox := ⟨[], 0⟩

/-- Puts a change into an inbox that keeps `capacity` of them. -/
def deliver (capacity : Nat) (change : SettingsChange) (inbox : Inbox) : Inbox :=
  if inbox.unread.length < capacity then { inbox with unread := inbox.unread ++ [change] }
  else ⟨inbox.unread.tail ++ [change], inbox.missed + 1⟩

inductive Reading where
  | change (change : SettingsChange)
  | missed (count : Nat)
  deriving DecidableEq, Repr

def next? (inbox : Inbox) : Option (Reading × Inbox) :=
  if 0 < inbox.missed then some (.missed inbox.missed, { inbox with missed := 0 })
  else
    match inbox.unread with
    | [] => none
    | change :: rest => some (.change change, { inbox with unread := rest })

end Inbox

end NplLifecycle
