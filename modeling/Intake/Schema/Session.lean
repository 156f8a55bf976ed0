import Intake.Schema.Loading

/-! # Loaders at work

A loader answers one call after another, and what one call leaves behind is what the next one finds:
the rest of the budget, and the references that are being expanded. A reference is put on top of
these before its definition is loaded and taken off again behind it, however that load ends. Calls
that fail leave the state in which they failed.
-/

namespace Intake

/-- What a loader keeps from one step to the next: the rest of the budget, and the references that
are being expanded, the innermost first. -/
structure LoaderState where
  left : Nat
  expanding : List String
deriving DecidableEq, Repr

/-- A run on the state of a loader that may fail. -/
abbrev Session := ExceptT SchemaError (StateM LoaderState)

/-- The budget is the first part of the state. -/
instance : MonadStateOf Nat Session where
  get := return (← getThe LoaderState).left
  set left := modifyThe LoaderState fun state => { state with left }
  modifyGet change := modifyGetThe LoaderState fun state =>
    let (result, left) := change state.left
    (result, { state with left })

/-- Carries out a load with a reference on top of those that are being expanded, and takes off the
top one after it, even if the load fails. -/
def Session.whileExpanding {α : Type} (reference : String) (load : Session α) : Session α :=
  ExceptT.mk do
    modifyThe LoaderState fun state => { state with expanding := reference :: state.expanding }
    let result ← ExceptT.run load
    modifyThe LoaderState fun state => { state with expanding := state.expanding.tail }
    return result

/-- What is asked of a loader: the schema of a document, with a name and a path for it. -/
structure LoadCall where
  name : String
  path : String
  document : Document
deriving Repr

namespace Loader

open Load

/-- Loads a schema with so many levels to go. -/
def loadAt (loader : Loader) : Nat → LoadChildBy Session
  | 0, _, path, _ => fail path (.depthExceeded loader.maxDepth)
  | room + 1, name, path, document =>
    match document.members? with
    | none => fail path .schemaNotAnObject
    | some members =>
      match members.find? "$ref" with
      | none => loader.property (loadAt loader room) name path members
      | some reference => do
        let state ← getThe LoaderState
        match loader.expand state.expanding path reference members with
        | .error error => throw error
        | .ok (reference, merged) =>
          Session.whileExpanding reference (loadAt loader room name path (.object merged))

/-- The state of a loader that has not been called yet. -/
def start (loader : Loader) : LoaderState := ⟨loader.maxNodes, []⟩

/-- How many schemas were taken from the budget. -/
def nodesLoaded (loader : Loader) (state : LoaderState) : Nat := loader.maxNodes - state.left

/-- Answers a call in a state, and leaves another one. -/
def answer (loader : Loader) (state : LoaderState) (call : LoadCall) :
    Except SchemaError Property × LoaderState :=
  (ExceptT.run (loader.loadAt (loader.maxDepth + 1) call.name call.path call.document)).run state

/-- The state after a number of calls, whether they failed or not. -/
def stateAfter (loader : Loader) (calls : List LoadCall) : LoaderState :=
  calls.foldl (fun state call => (loader.answer state call).2) loader.start

end Loader

end Intake
