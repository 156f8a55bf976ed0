import Intake.Proofs.Engine.Faults
import Intake.Proofs.Engine.Meaning

/-! # Validators on their own

A value is validated by each token as if that token were the only one. It is accepted if every token
accepts it, and told all that they complain of, in their order; but the first token that cannot be
carried out decides the outcome, whatever was found before. So the order of the validators only
matters to what is said of a value that is not accepted.
-/

namespace Intake

/-- The rules with one validator in place of all. -/
def RuleSet.only (rules : RuleSet) (token : Token) : RuleSet := { rules with validate := [token] }

/-- The messages of a value that was refused. -/
def refusals : Except Failure Document → List String
  | .error (.invalid messages) => messages
  | _ => []

namespace StandardEngine

variable {tokens others : List Token} {token : Token} {value result : Document}

private theorem complaints_nil : complaints [] value = .ok [] := rfl

private theorem complaints_cons :
    complaints (token :: tokens) value = do
      let complaint? ← validateBy value token
      let found ← complaints tokens value
      return complaint?.toList ++ found := by
  rw [complaints, complaints, List.mapM_cons]
  cases validateBy value token with
  | error fault => rfl
  | ok complaint? =>
    cases tokens.mapM (validateBy value) with
    | error fault => rfl
    | ok verdicts => cases complaint? <;> rfl

/-- What a token complains of. -/
def complaintsOf (value : Document) (token : Token) : List Complaint :=
  match validateBy value token with
  | .ok complaint? => complaint?.toList
  | .error _ => []

/-- Complaints are gathered in the order of the tokens, if all of these can be carried out. -/
theorem complaints_eq_ok_iff {found : List Complaint} :
    complaints tokens value = .ok found ↔
      (∀ token ∈ tokens, ∃ complaint?, validateBy value token = .ok complaint?) ∧
        found = tokens.flatMap (complaintsOf value) := by
  induction tokens generalizing found with
  | nil => simp [complaints_nil, eq_comm]
  | cons token tokens ih =>
    rw [complaints_cons, except_bind_eq_ok, List.forall_mem_cons, List.flatMap_cons]
    constructor
    · rintro ⟨complaint?, first, later⟩
      obtain ⟨gathered, rest, same⟩ := except_bind_eq_ok.mp later
      obtain ⟨run, rfl⟩ := ih.mp rest
      cases same
      exact ⟨⟨⟨complaint?, first⟩, run⟩, by rw [complaintsOf, first]⟩
    · rintro ⟨⟨⟨complaint?, first⟩, run⟩, rfl⟩
      have rest := ih.mpr ⟨run, rfl⟩
      refine ⟨complaint?, first, except_bind_eq_ok.mpr ⟨_, rest, ?_⟩⟩
      rw [complaintsOf, first]
      rfl

/-- The first token that cannot be carried out ends the work. -/
theorem complaints_eq_error_iff_first {fault : RuleFault} :
    complaints tokens value = .error fault ↔
      ∃ before token after, tokens = before ++ token :: after ∧
        validateBy value token = .error fault ∧
        ∀ earlier ∈ before, ∃ complaint?, validateBy value earlier = .ok complaint? := by
  induction tokens with
  | nil => simp [complaints_nil]
  | cons head tokens ih =>
    rw [complaints_cons]
    cases first : validateBy value head with
    | error other =>
      constructor
      · rintro ⟨⟩
        exact ⟨[], head, tokens, rfl, first, List.forall_mem_nil _⟩
      -- All tokens before the failing one are carried out, and the head is not, so there are none.
      · rintro ⟨before, token, after, split, stops, run⟩
        cases before with
        | nil =>
          cases split
          rw [first] at stops
          cases stops
          rfl
        | cons earlier before =>
          cases split
          obtain ⟨complaint?, passed⟩ := run head (List.mem_cons_self ..)
          rw [first] at passed
          cases passed
    | ok complaint? =>
      have rest : (do
          let found ← complaints tokens value
          return complaint?.toList ++ found) = .error fault ↔
            complaints tokens value = .error fault := by
        cases complaints tokens value <;> simp [bind, Except.bind, pure, Except.pure]
      refine rest.trans (ih.trans ⟨?_, ?_⟩)
      · rintro ⟨before, token, after, rfl, stops, run⟩
        exact ⟨head :: before, token, after, rfl, stops, List.forall_mem_cons.mpr ⟨⟨_, first⟩, run⟩⟩
      · rintro ⟨before, token, after, split, stops, run⟩
        cases before with
        | nil =>
          cases split
          rw [first] at stops
          cases stops
        | cons earlier before =>
          cases split
          exact ⟨before, token, after, rfl, stops, (List.forall_mem_cons.mp run).2⟩

private theorem flatMap_complaintsOf_ne_nil_iff :
    tokens.flatMap (complaintsOf value) ≠ [] ↔
      ∃ token ∈ tokens, ∃ complaint, validateBy value token = .ok (some complaint) := by
  have complains (token : Token) : complaintsOf value token ≠ [] ↔
      ∃ complaint, validateBy value token = .ok (some complaint) := by
    rw [complaintsOf]
    rcases validateBy value token with fault | _ | complaint <;> simp
  simp only [Ne, List.flatMap_eq_nil_iff, not_forall, exists_prop, ← complains]

theorem validate_eq_invalid_iff {messages : List String} :
    validate tokens value = .error (.invalid messages) ↔
      ∃ found, complaints tokens value = .ok found ∧ found ≠ [] ∧
        messages = found.map Complaint.message := by
  rw [validate]
  rcases complaints tokens value with fault | _ | ⟨complaint, others⟩ <;>
    simp [Failure.ofFault, eq_comm]

/-- Whether every token passes a value does not depend on their order. -/
theorem complaints_eq_nil_iff_of_perm (perm : tokens.Perm others) :
    complaints tokens value = .ok [] ↔ complaints others value = .ok [] := by
  rw [complaints_eq_nil_iff, complaints_eq_nil_iff]
  refine forall_congr' fun token => ?_
  rw [perm.mem_iff]

variable {rules : RuleSet} {raw : Document}

/-- Nothing but the other validators is left out. -/
theorem process_only (prepared : prepare rules raw = .ok value) (token : Token) :
    process raw (rules.only token) = validate [token] value := by
  have same : prepare (rules.only token) raw = .ok value := prepared
  rw [process_eq_prepare_bind, same]
  rfl

private theorem complaints_singleton :
    complaints [token] value = (validateBy value token).map Option.toList := by
  rw [complaints_cons, complaints_nil]
  cases validateBy value token with
  | error fault => rfl
  | ok complaint? => cases complaint? <;> rfl

private theorem validate_singleton_eq_ok_iff :
    validate [token] value = .ok result ↔ Passes value token ∧ value = result := by
  rw [validate_eq_ok_iff, complaints_eq_nil_iff, List.forall_mem_singleton]

private theorem validate_singleton_eq_unexpected_iff {reason : String} :
    validate [token] value = .error (.unexpected reason) ↔
      ∃ fault, validateBy value token = .error fault ∧ reason = fault.message := by
  rw [validate_eq_unexpected_iff, complaints_singleton]
  cases validateBy value token <;> simp [Except.map]

private theorem validate_singleton_eq_invalid_iff {messages : List String} :
    validate [token] value = .error (.invalid messages) ↔
      ∃ complaint, validateBy value token = .ok (some complaint) ∧ messages = [complaint.message] := by
  rw [validate_eq_invalid_iff, complaints_singleton]
  rcases validateBy value token with fault | _ | complaint <;> simp [Except.map]

/-- A token can be carried out exactly if its rules are not at fault. -/
theorem exists_validateBy_eq_ok_iff :
    (∃ complaint?, validateBy value token = .ok complaint?) ↔
      ∀ reason, validate [token] value ≠ .error (.unexpected reason) := by
  simp only [Ne, validate_singleton_eq_unexpected_iff]
  cases validateBy value token <;> simp

private theorem refusals_validate_singleton :
    refusals (validate [token] value) = (complaintsOf value token).map Complaint.message := by
  rw [validate, complaints_singleton, complaintsOf]
  rcases validateBy value token with fault | _ | complaint <;> rfl

/-- How the outcome of rules follows from the outcomes of their validators, each on its own. -/
structure IsConjunction (rules : RuleSet) (raw value : Document) : Prop where
  accepted : ∀ result, process raw rules = .ok result ↔
    result = value ∧ ∀ token ∈ rules.validate, ∃ own, process raw (rules.only token) = .ok own
  unexpected : ∀ reason, process raw rules = .error (.unexpected reason) ↔
    ∃ before token after, rules.validate = before ++ token :: after ∧
      process raw (rules.only token) = .error (.unexpected reason) ∧
      ∀ earlier ∈ before, ∀ other, process raw (rules.only earlier) ≠ .error (.unexpected other)
  invalid : ∀ messages, process raw rules = .error (.invalid messages) ↔
    (∀ token ∈ rules.validate, ∀ reason,
        process raw (rules.only token) ≠ .error (.unexpected reason)) ∧
      (∃ token ∈ rules.validate, ∃ own, process raw (rules.only token) = .error (.invalid own)) ∧
      messages = rules.validate.flatMap fun token => refusals (process raw (rules.only token))
  permuted : ∀ tokens, tokens.Perm rules.validate → ∀ result,
    process raw { rules with validate := tokens } = .ok result ↔ process raw rules = .ok result

/-- The validators of rules are carried out as if each were the only one. -/
theorem process_isConjunction (prepared : prepare rules raw = .ok value) :
    IsConjunction rules raw value := by
  have whole : process raw rules = validate rules.validate value := by
    rw [process_eq_prepare_bind, prepared]
    rfl
  constructor
  case accepted =>
    intro result
    rw [whole, validate_eq_ok_iff, complaints_eq_nil_iff]
    simp only [process_only prepared, validate_singleton_eq_ok_iff]
    constructor
    · rintro ⟨passes, rfl⟩
      exact ⟨rfl, fun token member => ⟨_, passes token member, rfl⟩⟩
    · rintro ⟨rfl, passes⟩
      refine ⟨fun token member => ?_, rfl⟩
      obtain ⟨own, pass, -⟩ := passes token member
      exact pass
  case unexpected =>
    intro reason
    rw [whole, validate_eq_unexpected_iff]
    simp only [process_only prepared, validate_singleton_eq_unexpected_iff, ← exists_validateBy_eq_ok_iff]
    constructor
    · rintro ⟨fault, stops, rfl⟩
      obtain ⟨before, token, after, split, first, run⟩ := complaints_eq_error_iff_first.mp stops
      exact ⟨before, token, after, split, ⟨fault, first, rfl⟩, run⟩
    · rintro ⟨before, token, after, split, ⟨fault, first, rfl⟩, run⟩
      exact ⟨fault, complaints_eq_error_iff_first.mpr ⟨before, token, after, split, first, run⟩, rfl⟩
  case invalid =>
    intro messages
    rw [whole, validate_eq_invalid_iff]
    simp only [process_only prepared, ← exists_validateBy_eq_ok_iff, validate_singleton_eq_invalid_iff,
      refusals_validate_singleton, ← List.map_flatMap]
    constructor
    · rintro ⟨found, gathered, some, rfl⟩
      obtain ⟨run, rfl⟩ := complaints_eq_ok_iff.mp gathered
      obtain ⟨token, member, complaint, complains⟩ := flatMap_complaintsOf_ne_nil_iff.mp some
      exact ⟨run, ⟨token, member, _, complaint, complains, rfl⟩, rfl⟩
    · rintro ⟨run, ⟨token, member, own, complaint, complains, rfl⟩, rfl⟩
      have some := flatMap_complaintsOf_ne_nil_iff.mpr ⟨token, member, complaint, complains⟩
      exact ⟨_, complaints_eq_ok_iff.mpr ⟨run, rfl⟩, some, rfl⟩
  case permuted =>
    intro tokens perm result
    have same : prepare { rules with validate := tokens } raw = prepare rules raw := rfl
    rw [process_eq_ok_iff, process_eq_ok_iff, same, complaints_eq_nil_iff_of_perm perm]

/-- A text that is too short and no mail address is told both; an unknown rule between the two
validators decides the outcome instead. -/
theorem process_isConjunction_unknown :
    let rules (validate : List Token) : RuleSet :=
      ⟨some (.plain "string"), [.plain "trim"], [], validate⟩
    let short : Token := .withArgument "min_length" "5"
    let both := rules [short, .plain "email"]
    let broken := rules [short, .plain "shout", .plain "email"]
    prepare both (.string " a@b ") = .ok (.string "a@b") ∧
      process (.string " a@b ") both =
        .error (.invalid ["must be at least 5 characters", "must be a valid email address"]) ∧
      prepare broken (.string " a@b ") = .ok (.string "a@b") ∧
      process (.string " a@b ") broken = .error (.unexpected "unknown validate rule 'shout'") := by
  intro rules short both broken
  have prepared (validate : List Token) :
      prepare (rules validate) (.string " a@b ") = .ok (.string "a@b") := rfl
  have joint := process_isConjunction (prepared [short, .plain "email"])
  have stopped := process_isConjunction (prepared [short, .plain "shout", .plain "email"])
  refine ⟨prepared _, (joint.invalid _).mpr ⟨?_, ?_, rfl⟩, prepared _, (stopped.unexpected _).mpr ?_⟩
  · exact List.forall_mem_cons.mpr ⟨nofun, List.forall_mem_singleton.mpr nofun⟩
  · exact ⟨short, List.mem_cons_self .., _, rfl⟩
  · exact ⟨[short], .plain "shout", [.plain "email"], rfl, rfl, List.forall_mem_singleton.mpr nofun⟩

end StandardEngine

end Intake
