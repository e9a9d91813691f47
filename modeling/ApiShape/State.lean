import ApiShape.Converter.Registry
import ApiShape.Journal

/-!
The state that schema synthesis and decoding work on, and the actions that change it. What an action
did before it failed stays done.
-/

namespace ApiShape

open Number

/-- The converters and the memo of those derived for wrappers, the names given to types and the
table of named schemas, the collisions of names in order, the journal, how many handles have been
given to streams, the handles of those that have been read to their end, and the further character
sets. -/
structure State where
  registry : Registry := {}
  derived : Table Descriptor Installed := ∅
  refs : Table Descriptor String := ∅
  schemas : Table String Schema := ∅
  collisions : List Collision := []
  journal : Journal := {}
  opened : Nat := 0
  spent : List Nat := []
  charsets : Text.Charsets := fun _ => none

instance : Inhabited State := ⟨{}⟩

/-- A step that may fail and may change the state. -/
abbrev Action (α : Type) := ExceptT Error (StateM State) α

namespace Action

def run {α : Type} (action : Action α) (s : State) : Except Error α × State :=
  StateT.run (ExceptT.run action) s

/-- An action that only computes. -/
def ofExcept {α : Type} (result : Except Error α) : Action α := ExceptT.mk (pure result)

def report (e : Event) : Action Unit := modify fun s => { s with journal := s.journal.report e }

/-- Counts one more. -/
def count (c : Counter) : Action Unit := modify fun s => { s with journal := s.journal.count c }

/-- Runs an action and, if it fails, another one before failing with the same error. -/
def onError {α : Type} (action : Action α) (cleanup : Error → Action Unit) : Action α :=
  tryCatch action fun e => do
    cleanup e
    throw e

/-- Resolves the converter of a type in the registry. -/
def resolve (env : Environment) (d : Descriptor) : Action Installed := do
  let (registry, installed) ← ofExcept ((← get).registry.resolve env d)
  modify fun s => { s with registry }
  return installed

end Action

end ApiShape
