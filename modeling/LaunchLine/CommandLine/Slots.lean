import LaunchLine.CommandLine.Token
import LaunchLine.Entries

/-!
# CommandLine/Slots — what the slots hold after a list of settings

Each slot that was filled has one entry.  **First place, last value**: filling a slot anew changes
what it holds, not where it stands.
-/

namespace LaunchLine

/-- The filled slots, in the order in which they were first filled. -/
structure Slots where
  entries : List (Slot × Option String)
  /-- No slot has two entries. -/
  nodup : (entries.map Prod.fst).Nodup

namespace Slots

/-- No slot is filled. -/
def empty : Slots :=
  ⟨[], List.nodup_nil⟩

/-- Fill a slot: its place stays if it had one, its value is the new one. -/
def put (slots : Slots) (slot : Slot) (value? : Option String) : Slots :=
  ⟨Entries.put slot value? slots.entries, Entries.nodup_put slot value? slots.nodup⟩

/-- What a setting does to the slots. -/
def apply (slots : Slots) : Setting → Slots
  | .fill slot value? => slots.put slot value?
  | .keepArtifacts => slots

/-- The slots after a list of settings. -/
def ofSettings (settings : List Setting) : Slots :=
  settings.foldl apply empty

/-- The text that a slot holds. -/
def value? (slots : Slots) (slot : Slot) : Option String :=
  (slots.entries.lookup slot).join

theorem value?_put (slots : Slots) (slot other : Slot) (v? : Option String) :
    (slots.put slot v?).value? other = if other = slot then v? else slots.value? other := by
  by_cases h : other = slot <;> simp [value?, put, Entries.lookup_put, h]

/-- What the launcher is told, slot by slot. -/
def render (slots : Slots) : List String :=
  slots.entries.map fun (slot, value?) => slot.render value?

end Slots

end LaunchLine
