import Intake.Proofs.Form.Fields
import Intake.Proofs.Schema.Limits
import Intake.Schema.Session

/-! # What calls leave behind

A loader at work keeps the references that are being expanded on a stack. Whatever a load meets, the
stack is left as it was found, so a call does the same as a load that is handed the references, and
between calls there are none. Of the budget a load only ever takes, and a load that succeeds takes
exactly the size of its schema. So all that one call changes for the next one is how much is left.
-/

namespace Intake

open Load

namespace Loader

variable {loader : Loader}

/-- Under the references a load that is handed them and a session that finds them on its stack come to
the same result and leave the same budget, and the session leaves the stack as it was. -/
def inSession (expanding : List String) : LoadRelation Load Session where
  Holds load session := ∀ left, (ExceptT.run session).run ⟨left, expanding⟩ =
    (((ExceptT.run load).run left).1, ⟨((ExceptT.run load).run left).2, expanding⟩)
  holds_pure _ _ := rfl
  holds_bind {_ _ first _ _ _} start rest left := by
    rw [run_bind, run_bind, start]
    rcases (ExceptT.run first).run left with ⟨_ | value, between⟩
    · rfl
    · exact rest value between
  holds_fail _ _ _ _ _ _ := rfl

private theorem charge_inSession (expanding : List String) (path : String) :
    (inSession expanding).Holds (loader.charge path) (loader.charge path) := by
  intro left
  cases left <;> rfl

/-- A reference is off the stack again when its definition is loaded. -/
theorem whileExpanding_inSession {α : Type} {expanding : List String} {reference : String}
    {load : Load α} {session : Session α}
    (inside : (inSession (reference :: expanding)).Holds load session) :
    (inSession expanding).Holds load (session.whileExpanding reference) := by
  intro left
  have pushed : (ExceptT.run (session.whileExpanding reference)).run ⟨left, expanding⟩ =
      let (result, after) := (ExceptT.run session).run ⟨left, reference :: expanding⟩
      (result, { after with expanding := after.expanding.tail }) := rfl
  rw [pushed, inside]
  rfl

/-- A session loads what a load does that is handed its references. -/
theorem loadAt_inSession (room : Nat) (expanding : List String) (name path : String)
    (document : Document) :
    (inSession expanding).Holds (loader.loadWithin room expanding name path document)
      (loader.loadAt room name path document) := by
  induction room generalizing expanding name path document with
  | zero => exact fun _ => rfl
  | succ room ih =>
    rw [loadWithin, loadAt]
    cases document.members? with
    | none => exact fun _ => rfl
    | some members =>
      dsimp only
      cases members.find? "$ref" with
      | none =>
        have within : (inSession expanding).HoldsWithin (loader.loadWithin room expanding)
            (loader.loadAt room) members := fun name path document _ => ih expanding name path document
        exact within.property (charge_inSession expanding path)
      | some reference =>
        -- The session takes the references from its stack, where the load is handed them.
        have read (left : Nat) (next : LoaderState → Session Property) :
            (ExceptT.run (getThe LoaderState >>= next)).run ⟨left, expanding⟩ =
              (ExceptT.run (next ⟨left, expanding⟩)).run ⟨left, expanding⟩ := rfl
        intro left
        rw [read]
        dsimp only
        cases loader.expand expanding path reference members with
        | error error => rfl
        | ok expanded =>
          obtain ⟨reference, merged⟩ := expanded
          exact whileExpanding_inSession (ih (reference :: expanding) name path (.object merged)) left

/-- A call in a state where nothing is being expanded does what a load does with the budget that is
left, and ends in such a state. -/
theorem answer_eq (left : Nat) (call : LoadCall) :
    loader.answer ⟨left, []⟩ call =
      let (result, rest) := (ExceptT.run (loader.load call.name call.path call.document)).run left
      (result, ⟨rest, []⟩) :=
  loadAt_inSession (loader.maxDepth + 1) [] call.name call.path call.document left

/-- Nothing is being expanded, and no more is left of the budget than there was at the start. -/
structure AtRest (loader : Loader) (state : LoaderState) : Prop where
  expanding : state.expanding = []
  left_le : state.left ≤ loader.maxNodes

private theorem start_atRest (loader : Loader) : loader.AtRest loader.start := ⟨rfl, le_refl _⟩

/-- A call that is answered at rest ends at rest, with no more left than before. -/
theorem answer_atRest {state : LoaderState} (rests : loader.AtRest state) (call : LoadCall) :
    loader.AtRest (loader.answer state call).2 ∧ (loader.answer state call).2.left ≤ state.left := by
  obtain ⟨left, expanding⟩ := state
  obtain ⟨rfl, within⟩ := rests
  have taken := loader.loadWithin_spends (loader.maxDepth + 1) [] call.name call.path call.document left
  rw [answer_eq]
  exact ⟨⟨rfl, taken.trans within⟩, taken⟩

private theorem stateAfter_append (loader : Loader) (calls : List LoadCall) (call : LoadCall) :
    loader.stateAfter (calls ++ [call]) = (loader.answer (loader.stateAfter calls) call).2 := by
  rw [stateAfter, List.foldl_append]
  rfl

/-- However calls end, the loader rests between them. -/
theorem stateAfter_atRest (loader : Loader) (calls : List LoadCall) :
    loader.AtRest (loader.stateAfter calls) := by
  induction calls using List.reverseRecOn with
  | nil => exact loader.start_atRest
  | append_singleton calls call ih =>
    rw [stateAfter_append]
    exact (answer_atRest ih call).1

/-- A loader that rests tells by its account alone what is left of its budget. -/
theorem AtRest.unique {state other : LoaderState} (rests : loader.AtRest state)
    (alike : loader.AtRest other) (same : loader.nodesLoaded state = loader.nodesLoaded other) :
    state = other := by
  obtain ⟨left, expanding⟩ := state
  obtain ⟨remaining, others⟩ := other
  obtain ⟨rfl, within⟩ := rests
  obtain ⟨rfl, bounded⟩ := alike
  simp only [nodesLoaded] at same within bounded
  have budgets : left = remaining := by omega
  rw [budgets]

/-- What a call that comes to a result leaves of an account: no reference is being expanded, the
count of schemas has not fallen and what is left makes up the rest of the bound, and a schema that is
loaded is counted in full and nests within the bound on depth. -/
structure CallAccount (loader : Loader) (before : LoaderState) (result : Except SchemaError Property)
    (after : LoaderState) : Prop where
  expanding : after.expanding = []
  grows : loader.nodesLoaded before ≤ loader.nodesLoaded after
  complete : loader.nodesLoaded after + after.left = loader.maxNodes
  counted : ∀ property, result = .ok property →
    loader.nodesLoaded after = loader.nodesLoaded before + property.size
  nests : ∀ property, result = .ok property → property.nestsWithin loader.maxDepth

private theorem answer_accounts {state : LoaderState} (rests : loader.AtRest state)
    (defined : (Document.object loader.definitions).wellFormed) {call : LoadCall}
    (sound : call.document.wellFormed) :
    loader.CallAccount state (loader.answer state call).1 (loader.answer state call).2 := by
  obtain ⟨ends, taken⟩ := answer_atRest rests call
  have within := ends.left_le
  have known : ∀ property, (loader.answer state call).1 = .ok property →
      property.LoadedAs call.name (loader.maxDepth + 1) ∧
        state.left = (loader.answer state call).2.left + property.size := by
    intro property loaded
    obtain ⟨left, expanding⟩ := state
    obtain ⟨rfl, -⟩ := rests
    rw [answer_eq] at loaded ⊢
    exact load_sound defined sound (Prod.ext loaded rfl)
  have bounded := rests.left_le
  refine ⟨ends.expanding, ?_, ?_, fun property loaded => ?_, fun property loaded => ?_⟩
  · simp only [nodesLoaded]
    omega
  · simp only [nodesLoaded]
    omega
  · have cost := (known property loaded).2
    simp only [nodesLoaded]
    omega
  · obtain ⟨levels, room, nests⟩ := (known property loaded).1.nests
    rwa [Nat.succ.inj room]

/-- Over any calls, whether they failed or not, a loader keeps account of what it loaded, and earlier
calls bear on the answer to the next one through that account alone. A form schema is loaded in such
calls, so it is no larger than its budget. -/
theorem calls_account :
    (∀ (loader : Loader) (calls : List LoadCall) (call : LoadCall),
      (Document.object loader.definitions).wellFormed → call.document.wellFormed →
        loader.CallAccount (loader.stateAfter calls)
          (loader.answer (loader.stateAfter calls) call).1 (loader.stateAfter (calls ++ [call]))) ∧
    (∀ (loader : Loader) (calls others : List LoadCall) (call : LoadCall),
      loader.nodesLoaded (loader.stateAfter calls) = loader.nodesLoaded (loader.stateAfter others) →
        loader.answer (loader.stateAfter calls) call =
          loader.answer (loader.stateAfter others) call) ∧
    ∀ (document : Document) (maxDepth maxNodes : Nat) (schema : FormSchema), document.wellFormed →
      FormSchema.ofDocument document maxDepth maxNodes = .ok schema →
        schema.root.size + (schema.definitions.map fun entry => entry.2.size).sum ≤ maxNodes := by
  refine ⟨fun loader calls call defined sound => ?_, fun loader calls others call same => ?_,
    fun document maxDepth maxNodes schema sound loads => FormSchema.size_le sound loads⟩
  · rw [stateAfter_append]
    exact answer_accounts (loader.stateAfter_atRest calls) defined sound
  · rw [(loader.stateAfter_atRest calls).unique (loader.stateAfter_atRest others) same]

/-- A reference to itself and a list of an unknown kind fail and take two schemas from three. The
answer to the next call is the same as after a list that was loaded. -/
theorem calls_account_failing :
    let word : Document := .object [("type", .string "string")]
    let circle : Document := .object [("$ref", .string "#/definitions/circle")]
    let listOf (items : Document) : Document :=
      .object [("type", .string "array"), ("items", items)]
    let loader : Loader := ⟨[("circle", circle), ("word", word)], 2, 3⟩
    let failing : List LoadCall :=
      [⟨"a", "#", circle⟩, ⟨"b", "#", listOf (.object [("type", .string "date")])⟩]
    let loading : List LoadCall := [⟨"c", "#", listOf word⟩]
    let call : LoadCall := ⟨"d", "#", .object [("$ref", .string "#/definitions/word")]⟩
    let text (name : String) : Property := .plain name (.string ⟨none, none, none, none, none, none⟩)
    let form : Document := .object [("definitions", .object [("word", word)]),
      ("properties", .object [("d", call.document)])]
    let schema : FormSchema :=
      ⟨.plain "" (.object .none [text "d"] .unstated), [("word", text "word")], rfl⟩
    (Document.object loader.definitions).wellFormed ∧ call.document.wellFormed ∧
      loader.nodesLoaded (loader.stateAfter failing) =
        loader.nodesLoaded (loader.stateAfter loading) ∧
      loader.answer (loader.stateAfter failing) call = (.ok (text "d"), ⟨0, []⟩) ∧
      loader.CallAccount (loader.stateAfter failing) (.ok (text "d"))
        (loader.stateAfter (failing ++ [call])) ∧
      loader.answer (loader.stateAfter failing) call =
        loader.answer (loader.stateAfter loading) call ∧
      form.wellFormed ∧ FormSchema.ofDocument form 2 3 = .ok schema ∧
      schema.root.size + (schema.definitions.map fun entry => entry.2.size).sum ≤ 3 := by
  intro word circle listOf loader failing loading call text form schema
  obtain ⟨account, alone, whole⟩ := calls_account
  have defined : (Document.object loader.definitions).wellFormed := by decide
  have sound : call.document.wellFormed := by decide
  have same : loader.nodesLoaded (loader.stateAfter failing) =
      loader.nodesLoaded (loader.stateAfter loading) := by decide
  have answered : loader.answer (loader.stateAfter failing) call = (.ok (text "d"), ⟨0, []⟩) := by
    with_unfolding_all rfl
  have kept := account loader failing call defined sound
  rw [answered] at kept
  have written : form.wellFormed := by decide
  have loads : FormSchema.ofDocument form 2 3 = .ok schema := rfl
  exact ⟨defined, sound, same, answered, kept, alone loader failing loading call same, written, loads,
    whole form 2 3 schema written loads⟩

end Loader

end Intake
