import Intake.Engine.Standard
import Intake.Proofs.Document.Writing
import Intake.Proofs.Form.Rules
import Intake.Rule.Wire

/-! # Rule sets survive the wire

A token travels as one text, which is cut at its first colon when it is read. So it comes back as it
was if its name holds no colon, whatever its argument holds, and so does a rule set of such tokens, as
a document and as the text of one. The names of compiled tokens come from fixed tables without a colon;
only their arguments come from schemas, forms and configurations.
-/

namespace Intake

open Members (find?)

namespace Token

/-- The name holds no colon, so that the first colon of the text is the one behind it. -/
def Separable (token : Token) : Prop := ':' ∉ token.name.toList

/-- A text is written again as it was. -/
theorem text_ofText (text : String) : (Token.ofText text).text = text := by
  have parts := List.takeWhile_append_dropWhile (p := (· != ':')) (l := text.toList)
  rw [ofText]
  cases behind : text.toList.dropWhile (· != ':') with
  | nil =>
    rw [behind, List.append_nil] at parts
    simp only [Token.text, parts, String.ofList_toList]
  | cons c argument =>
    -- The first character that is not taken is the colon.
    have colon : c = ':' := by
      have refused := List.head?_dropWhile_not (· != ':') text.toList
      simpa [behind] using refused
    rw [behind, colon] at parts
    apply String.toList_inj.mp
    simpa [Token.text] using parts

/-- A token whose name holds no colon is read back from its text. -/
theorem Separable.ofText_text {token : Token} (separable : token.Separable) :
    Token.ofText token.text = token := by
  have keeps (c : Char) (member : c ∈ token.name.toList) : (c != ':') = true :=
    bne_iff_ne.mpr fun same => separable (same ▸ member)
  have before (rest : List Char) :
      (token.name.toList ++ rest).takeWhile (· != ':') =
        token.name.toList ++ rest.takeWhile (· != ':') :=
    List.takeWhile_append_of_pos keeps
  have after (rest : List Char) :
      (token.name.toList ++ rest).dropWhile (· != ':') = rest.dropWhile (· != ':') :=
    List.dropWhile_append_of_pos keeps
  obtain ⟨name, argument?⟩ := token
  cases argument? with
  | none =>
    have whole := before []
    have nothing := after []
    simp only [List.append_nil, List.takeWhile_nil, List.dropWhile_nil] at whole nothing
    simp [ofText, text, whole, nothing]
  | some argument =>
    have whole := before (':' :: argument.toList)
    have rest := after (':' :: argument.toList)
    rw [List.takeWhile_cons_of_neg (by simp), List.append_nil] at whole
    rw [List.dropWhile_cons_of_neg (by simp)] at rest
    simp [ofText, text, whole, rest]

end Token

namespace RuleSet

/-- The names of all tokens hold no colon. -/
def Separable (rules : RuleSet) : Prop :=
  ∀ phase, ∀ token ∈ rules.tokens phase, token.Separable

variable {rules : RuleSet}

private theorem readTokens?_tokenDocuments {tokens : List Token}
    (separable : ∀ token ∈ tokens, token.Separable) :
    (tokenDocuments tokens).mapM readToken? = some tokens := by
  induction tokens with
  | nil => rfl
  | cons token tokens ih =>
    obtain ⟨first, others⟩ := List.forall_mem_cons.mp separable
    have head : readToken? (.string token.text) = some token := congrArg some first.ofText_text
    rw [tokenDocuments, List.map_cons, List.mapM_cons, head]
    have tail := ih others
    rw [tokenDocuments] at tail
    simp [tail]

/-- A phase is read from the list of its tokens, or from none if it is empty. -/
theorem readTokens?_phase {tokens : List Token} [Decidable (tokenDocuments tokens = [])]
    (separable : ∀ token ∈ tokens, token.Separable) :
    readTokens? (if tokenDocuments tokens = [] then none else some (.array (tokenDocuments tokens))) =
      some tokens := by
  split_ifs with empty
  · rw [List.map_eq_nil_iff.mp empty]
    rfl
  · exact readTokens?_tokenDocuments separable

private theorem readCast?_cast {token? : Option Token} (separable : ∀ token ∈ token?, token.Separable) :
    readCast? (token?.map fun token => .string token.text) = some token? := by
  cases token? with
  | none => rfl
  | some token => exact congrArg (some ∘ some) (separable token rfl).ofText_text

/-- The members of a rule set as a document. -/
def members (rules : RuleSet) : Members :=
  Members.optional "cast" (rules.cast?.map fun token => .string token.text)
    ++ Members.list "sanitize" (tokenDocuments rules.sanitize)
    ++ Members.list "transform" (tokenDocuments rules.transform)
    ++ Members.list "validate" (tokenDocuments rules.validate)

/-- A rule set is read back from the document that it is written as. -/
theorem Separable.ofDocument?_toDocument (separable : rules.Separable) :
    ofDocument? rules.toDocument = some rules := by
  have cast : readCast? (rules.cast?.map fun token => .string token.text) = some rules.cast? :=
    readCast?_cast fun token member => separable .cast token (Option.mem_toList.mpr member)
  have sanitize := separable .sanitize
  have transform := separable .transform
  have validate := separable .validate
  have written : find? rules.members "cast" = rules.cast?.map fun token => .string token.text := by
    simp [members]
  simp only [tokens] at sanitize transform validate
  change ofPhases? (find? rules.members "cast") (find? rules.members "sanitize")
    (find? rules.members "transform") (find? rules.members "validate") = some rules
  rw [written]
  simp [members, ofPhases?, cast, readTokens?_phase sanitize, readTokens?_phase transform,
    readTokens?_phase validate]

private theorem keys_optional_sublist (key : String) (value : Option Document) :
    (Members.keys (Members.optional key value)).Sublist [key] := by
  cases value <;> simp [Members.optional, Members.keys]

private theorem keys_list_sublist (key : String) (items : List Document) :
    (Members.keys (Members.list key items)).Sublist [key] := by
  cases items <;> simp [Members.list, Members.keys]

private theorem nodup_keys_members (rules : RuleSet) : (Members.keys rules.members).Nodup := by
  have phases : (Members.keys rules.members).Sublist ["cast", "sanitize", "transform", "validate"] := by
    rw [members, Members.keys, List.map_append, List.map_append, List.map_append]
    exact (((keys_optional_sublist _ _).append (keys_list_sublist _ _)).append
      (keys_list_sublist _ _)).append (keys_list_sublist _ _)
  exact phases.nodup (by decide)

/-- The values of the members are texts of tokens and lists of such texts. -/
theorem mem_members {member : String × Document} (present : member ∈ rules.members) :
    (∃ text, member.2 = .string text) ∨ ∃ tokens, member.2 = .array (tokenDocuments tokens) := by
  have listed {key : String} {tokens : List Token}
      (present : member ∈ Members.list key (tokenDocuments tokens)) :
      ∃ tokens, member.2 = .array (tokenDocuments tokens) := by
    rw [Members.list] at present
    split_ifs at present
    · cases present
    · rw [List.mem_singleton.mp present]
      exact ⟨tokens, rfl⟩
  simp only [members, List.mem_append] at present
  rcases present with ((cast | sanitize) | transform) | validate
  · left
    rw [Members.optional, Option.mem_toList, Option.map_map] at cast
    obtain ⟨token, -, rfl⟩ := Option.map_eq_some_iff.mp cast
    exact ⟨token.text, rfl⟩
  · exact .inr (listed sanitize)
  · exact .inr (listed transform)
  · exact .inr (listed validate)

/-- What holds of texts and of lists of texts holds of the values of all members. -/
theorem forall_mem_members (rules : RuleSet) (motive : Document → Prop) (text : ∀ value, motive (.string value))
    (list : ∀ items, (∀ item ∈ items, ∃ value, item = .string value) → motive (.array items)) :
    ∀ member ∈ rules.members, motive member.2 := by
  intro member present
  rcases mem_members present with ⟨value, same⟩ | ⟨tokens, same⟩
  · exact same ▸ text value
  · rw [same]
    refine list _ fun item inside => ?_
    obtain ⟨token, -, rfl⟩ := List.mem_map.mp inside
    exact ⟨token.text, rfl⟩

private theorem wellFormed_toDocument (rules : RuleSet) : rules.toDocument.wellFormed := by
  refine Document.wellFormed_object.mpr ⟨rules.nodup_keys_members, ?_⟩
  refine rules.forall_mem_members (Document.wellFormed ·) (fun _ => rfl) fun items texts => ?_
  refine Document.wellFormed_array.mpr fun item inside => ?_
  obtain ⟨value, rfl⟩ := texts item inside
  rfl

private theorem withoutNumbers_toDocument (rules : RuleSet) : rules.toDocument.WithoutNumbers := by
  refine Document.withoutNumbers_object
    (rules.forall_mem_members _ Document.withoutNumbers_string fun items texts => ?_)
  refine Document.withoutNumbers_array fun item inside => ?_
  obtain ⟨value, rfl⟩ := texts item inside
  exact Document.withoutNumbers_string value

private theorem nesting_toDocument_le (rules : RuleSet) : rules.toDocument.nesting ≤ 2 := by
  refine Document.nesting_object_le_iff.mpr
    (rules.forall_mem_members (·.nesting ≤ 1) (fun _ => Nat.zero_le 1) fun items texts => ?_)
  refine Nat.succ_le_succ (Document.nestingOfItems_le_iff.mpr fun item inside => ?_)
  obtain ⟨value, rfl⟩ := texts item inside
  exact le_refl 0

/-- A rule set is read back from the text that it is written as. -/
theorem Separable.ofText? (separable : rules.Separable) :
    (Document.ofText? rules.toDocument.text).bind ofDocument? = some rules := by
  have text := Document.ofText?_text rules.wellFormed_toDocument rules.withoutNumbers_toDocument
    (rules.nesting_toDocument_le.trans (by decide))
  rw [text, Option.bind_some, separable.ofDocument?_toDocument]

/-- Rule sets under names as a document. -/
def documentOfAll (all : Dictionary RuleSet) : Document :=
  .object (all.map fun entry => (entry.1, entry.2.toDocument))

/-- The rule sets under names that a document stands for. -/
def allOfDocument? (document : Document) : Option (Dictionary RuleSet) := do
  let members ← document.members?
  let entries ← members.mapM fun member => (ofDocument? member.2).map fun rules => (member.1, rules)
  return .ofList entries

variable {all : Dictionary RuleSet}

/-- Rule sets under names are read back from the document that they are written as. -/
theorem allOfDocument?_documentOfAll (ascending : all.Ascending)
    (separable : ∀ entry ∈ all, entry.2.Separable) : allOfDocument? (documentOfAll all) = some all := by
  have each : (all.map fun entry => (entry.1, entry.2.toDocument)).mapM
      (fun member => (ofDocument? member.2).map fun rules => (member.1, rules)) = some all := by
    clear ascending
    induction all with
    | nil => rfl
    | cons entry all ih =>
      obtain ⟨first, others⟩ := List.forall_mem_cons.mp separable
      rw [List.map_cons, List.mapM_cons, first.ofDocument?_toDocument, ih others]
      rfl
  rw [allOfDocument?, documentOfAll, Document.members?]
  simp [each, Dictionary.ofList_of_ascending ascending]

/-- Rule sets under names are read back from the text that they are written as. -/
theorem allOfDocument?_ofText? (ascending : all.Ascending)
    (separable : ∀ entry ∈ all, entry.2.Separable) :
    (Document.ofText? (documentOfAll all).text).bind allOfDocument? = some all := by
  have sound : (documentOfAll all).wellFormed := by
    refine Document.wellFormed_object.mpr ⟨?_, List.forall_mem_map.mpr fun entry _ =>
      entry.2.wellFormed_toDocument⟩
    rw [Members.keys, List.map_map]
    exact ascending.nodup
  have noNumbers : (documentOfAll all).WithoutNumbers :=
    Document.withoutNumbers_object (List.forall_mem_map.mpr fun entry _ =>
      entry.2.withoutNumbers_toDocument)
  have nests : (documentOfAll all).nesting ≤ 3 :=
    Document.nesting_object_le_iff.mpr (List.forall_mem_map.mpr fun entry _ =>
      entry.2.nesting_toDocument_le)
  rw [Document.ofText?_text sound noNumbers (nests.trans (by decide)), Option.bind_some,
    allOfDocument?_documentOfAll ascending separable]

end RuleSet

private theorem Table.limitNames_separable : ∀ name ∈ limitNames, ':' ∉ name.toList := by decide

private theorem Token.plain_separable {name : String} (separable : ':' ∉ name.toList) {present : Prop}
    [Decidable present] : ∀ token ∈ if present then [Token.plain name] else [], token.Separable := by
  split_ifs
  · exact List.forall_mem_singleton.mpr separable
  · exact List.forall_mem_nil _

namespace Form

open Token (plain_separable)

/-- Whatever schema, control and pattern the rules of a field come from, no name in them holds a
colon. -/
theorem fieldRules_separable (form : Form) (phonePattern : String) (field : Field) :
    (form.fieldRules phonePattern field).Separable := by
  intro phase
  cases phase with
  | cast =>
    intro token member
    have casts : ∀ entry ∈ Table.casts, ':' ∉ entry.2.toList := by decide
    rw [RuleSet.tokens, fieldRules_cast, Option.mem_toList] at member
    obtain ⟨name, found, rfl⟩ := Option.map_eq_some_iff.mp member
    obtain ⟨entry, known, rfl⟩ := Table.mem_of_find? found
    exact casts entry known
  | sanitize =>
    rw [RuleSet.tokens, fieldRules_sanitize]
    exact plain_separable (by decide)
  | transform =>
    rw [RuleSet.tokens, fieldRules_transform, List.forall_mem_append]
    exact ⟨plain_separable (by decide), plain_separable (by decide)⟩
  | validate =>
    have control : ∀ token ∈ field.controlTokens, token.Separable :=
      field.forall_mem_controlTokens (by decide : ':' ∉ "file".toList) (by decide : ':' ∉ "image".toList)
    have limits : ∀ token ∈ field.property.kindTokens phonePattern, token.Separable :=
      fun token member =>
        Table.limitNames_separable _ (field.property.kindTokens_name_mem phonePattern token member)
    have required : (Token.plain "required").Separable := (by decide : ':' ∉ "required".toList)
    simp only [RuleSet.tokens, fieldRules_validate, List.forall_mem_append]
    refine ⟨⟨⟨plain_separable (by decide), limits⟩, control⟩, ?_⟩
    exact fun token member => List.eq_of_mem_replicate member ▸ required

private theorem rules_separable (form : Form) (phonePattern : String) :
    ∀ entry ∈ form.rules phonePattern, entry.2.Separable := by
  intro entry member
  obtain ⟨field, -, rfl⟩ := List.mem_map.mp (Dictionary.mem_of_mem_ofList member)
  exact form.fieldRules_separable phonePattern field

end Form

namespace RuleSet

/-- Each text is the text of the token that it stands for. A rule set whose names hold no colon is read
back from the document and from the text that it is written as. The rules of every form are such rule
sets, so they are read back unchanged, one by one or together under the names of their fields, and what
the engine makes of any value by the rules that were read is what it makes of it by those that were
compiled. -/
theorem wire_restores :
    (∀ text, (Token.ofText text).text = text) ∧
    (∀ rules : RuleSet, (∀ phase, ∀ token ∈ rules.tokens phase, ':' ∉ token.name.toList) →
      ofDocument? rules.toDocument = some rules ∧
      (Document.ofText? rules.toDocument.text).bind ofDocument? = some rules) ∧
    ∀ (form : Form) (phonePattern : String),
      (∀ name rules, (name, rules) ∈ form.rules phonePattern →
        (∀ phase, ∀ token ∈ rules.tokens phase, ':' ∉ token.name.toList) ∧
        ∃ reread, (Document.ofText? rules.toDocument.text).bind ofDocument? = some reread ∧
          ∀ value, StandardEngine.process value reread = StandardEngine.process value rules) ∧
      allOfDocument? (documentOfAll (form.rules phonePattern)) =
        some (form.rules phonePattern) ∧
      (Document.ofText? (documentOfAll (form.rules phonePattern)).text).bind
        allOfDocument? = some (form.rules phonePattern) := by
  refine ⟨Token.text_ofText, fun rules separable => ?_, fun form phonePattern => ⟨?_, ?_, ?_⟩⟩
  · have separable : rules.Separable := separable
    exact ⟨separable.ofDocument?_toDocument, separable.ofText?⟩
  · intro name rules member
    have separable : rules.Separable := form.rules_separable phonePattern (name, rules) member
    exact ⟨separable, rules, separable.ofText?, fun _ => rfl⟩
  · exact allOfDocument?_documentOfAll (Dictionary.ascending_ofList _)
      (form.rules_separable phonePattern)
  · exact allOfDocument?_ofText? (Dictionary.ascending_ofList _)
      (form.rules_separable phonePattern)

/-- Rules with a pattern that holds colons and quotes, a list of choices with a comma in one of them and a
validator with an empty argument; two phases are empty. -/
theorem wire_restores_pattern :
    let rules : RuleSet := ⟨some (.plain "string"), [], [], [.withArgument "regex" "^\"a:b:\n$",
      .withArgument "in" "\"x,y\",:", .withArgument "min_length" ""]⟩
    (∀ phase, ∀ token ∈ rules.tokens phase, ':' ∉ token.name.toList) ∧
      ofDocument? rules.toDocument = some rules ∧
      (Document.ofText? rules.toDocument.text).bind ofDocument? = some rules := by
  intro rules
  have separable : ∀ phase, ∀ token ∈ rules.tokens phase, ':' ∉ token.name.toList := by
    intro phase
    cases phase <;> decide
  exact ⟨separable, wire_restores.2.1 rules separable⟩

end RuleSet

end Intake
