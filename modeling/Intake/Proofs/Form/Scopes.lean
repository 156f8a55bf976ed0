import Intake.Form.Basic
import Intake.Proofs.Form.Consistency
import Intake.Proofs.Text.Splitting

/-! # Scopes read back

In a scope every name is written without a slash, so the only places where it is cut are the
separators between the names, and the marks that stand for tildes and slashes are read in one way.
Every path of names that are not empty is what its scope leads through. So a control can be given to
every property that such a path leads to.
-/

namespace Intake

namespace Scope

private theorem decodeName_encodeName (name : List Char) : decodeName (encodeName name) = name := by
  fun_induction encodeName name with
  | case1 => rfl
  | case2 rest ih => rw [decodeName, ih]
  | case3 rest ih => rw [decodeName, ih]
  | case4 c rest noTilde noSlash ih =>
    rw [decodeName, ih]
    · exact fun _ same => absurd same noTilde
    · exact fun _ same => absurd same noTilde

/-- Where slashes were put in for their marks, no digit zero came to stand in front. -/
theorem head?_of_replaceAll {segment : List Char}
    (first : (Text.replaceAll ['~', '1'] ['/'] segment).head? = some '0') : segment.head? = some '0' := by
  cases segment with
  | nil => rw [Text.replaceAll_nil] at first; exact first
  | cons c rest =>
    cases starts : ['~', '1'].isPrefixOf (c :: rest) with
    | true =>
      obtain ⟨rest, whole⟩ := List.isPrefixOf_iff_prefix.mp starts
      rw [← whole, Text.replaceAll_append (List.cons_ne_nil _ _)] at first
      cases first
    | false =>
      rw [Text.replaceAll_cons starts] at first
      exact first

/-- A segment is decoded as if first every mark of a slash were replaced and then every mark of a tilde:
the slashes that come in make up no mark of a tilde. -/
theorem decodeName_eq_replaceAll (segment : List Char) :
    decodeName segment =
      Text.replaceAll ['~', '0'] ['~'] (Text.replaceAll ['~', '1'] ['/'] segment) := by
  fun_induction decodeName segment with
  | case1 => rw [Text.replaceAll_nil, Text.replaceAll_nil]
  | case2 rest ih =>
    have marks := @Text.replaceAll_append ['~', '0'] ['~'] (List.cons_ne_nil _ _)
      (Text.replaceAll ['~', '1'] ['/'] rest)
    have kept : Text.replaceAll ['~', '1'] ['/'] ('~' :: '0' :: rest) =
        '~' :: '0' :: Text.replaceAll ['~', '1'] ['/'] rest := by
      rw [Text.replaceAll_cons rfl, Text.replaceAll_cons rfl]
    rw [kept, ih]
    exact marks.symm
  | case3 rest ih =>
    have marks := @Text.replaceAll_append ['~', '1'] ['/'] (List.cons_ne_nil _ _) rest
    rw [List.cons_append, List.cons_append, List.nil_append] at marks
    rw [marks, List.singleton_append, Text.replaceAll_cons rfl, ih]
  | case4 c rest noTilde noSlash ih =>
    have plain : ['~', '1'].isPrefixOf (c :: rest) = false := by
      rw [Bool.eq_false_iff, Ne, List.isPrefixOf_iff_prefix]
      rintro ⟨others, whole⟩
      cases whole
      exact noSlash _ rfl rfl
    have plain' : ['~', '0'].isPrefixOf (c :: Text.replaceAll ['~', '1'] ['/'] rest) = false := by
      rw [Bool.eq_false_iff, Ne, List.isPrefixOf_iff_prefix]
      rintro ⟨others, whole⟩
      injection whole with tilde zero
      have first := @head?_of_replaceAll rest (by rw [← zero]; rfl)
      obtain ⟨others, rfl⟩ := List.head?_eq_some_iff.mp first
      exact noTilde others tilde.symm rfl
    rw [Text.replaceAll_cons plain, Text.replaceAll_cons plain', ih]

private theorem slash_notMem_encodeName (name : List Char) : '/' ∉ encodeName name := by
  fun_induction encodeName name with
  | case1 => exact List.not_mem_nil
  | case2 rest ih => simpa using ih
  | case3 rest ih => simpa using ih
  | case4 c rest noTilde noSlash ih => simpa [ih] using Ne.symm noSlash

private theorem chars_ofPath (names : List String) :
    (ofPath names).toList =
      head ++ List.intercalate separator (names.map fun name => encodeName name.toList) := by
  rw [ofPath, String.toList_ofList]

/-- A path of names that are not empty is what its scope leads through. -/
theorem path?_ofPath {names : List String} (some : names ≠ []) (filled : ∀ name ∈ names, name ≠ "") :
    path? (ofPath names) = Option.some names := by
  have cut : Text.splitAt separator (List.intercalate separator
      (names.map fun name => encodeName name.toList)) = names.map fun name => encodeName name.toList := by
    apply @Text.splitAt_intercalate '/'
    · simpa using some
    · simp only [List.forall_mem_map]
      exact fun name _ => slash_notMem_encodeName name.toList
  have decoded : (names.map fun name => encodeName name.toList).map decodeName =
      names.map String.toList := by
    simp [decodeName_encodeName]
  have whole : (names.map String.toList).any List.isEmpty = false := by
    simpa using filled
  have rest := List.isPrefixOf?_eq_some_iff_append_eq.mpr (chars_ofPath names).symm
  rw [path?, rest, Option.bind_eq_bind, Option.bind_some, cut, decoded]
  dsimp only
  rw [whole, if_neg Bool.false_ne_true, List.map_map]
  simp

end Scope

namespace Control

variable {names : List String}

/-- A control with the scope of a path of names that are not empty leads through these names, and it
is let pass by every schema that has a property at their end. -/
theorem path_ofPath (some : names ≠ []) (filled : ∀ name ∈ names, name ≠ "")
    (label : Option ControlLabel) (options : Members) :
    let bound : Control := ⟨Scope.ofPath names, label, options⟩
    bound.path = .ok names ∧ ∀ schema : FormSchema,
      (Form.checkControl schema bound = .ok () ↔
        ∃ property, schema.propertyAt? names = Option.some property) ∧
      ∀ property, schema.propertyAt? names = Option.some property → ∀ data settings,
        Form.ofParts schema (Option.some (.control bound)) data settings =
          .ok ⟨schema, Option.some (.control bound), data, settings⟩ := by
  intro bound
  have leads : bound.path = .ok names := path_eq_ok_iff.mpr (Scope.path?_ofPath some filled)
  have checked (schema : FormSchema) : Form.checkControl schema bound = .ok () ↔
      ∃ property, schema.propertyAt? names = Option.some property := by
    rw [Form.checkControl, leads]
    cases target : schema.propertyAt? names <;>
      simp [target, bind, Except.bind, throw, throwThe, MonadExceptOf.throw, pure, Except.pure]
  refine ⟨leads, fun schema => ⟨checked schema, ?_⟩⟩
  intro property target data settings
  have passes := (checked schema).mpr ⟨property, target⟩
  simp [Form.ofParts, Element.controls, passes, bind, Except.bind, pure, Except.pure]

/-- Names that hold the separator, marks and nothing but the word between two slashes. -/
theorem path_ofPath_separators :
    let names := ["a/b", "~1", "properties", "/properties/"]
    let inner := Kind.object .none [.plain "/properties/" .boolean] .unstated
    let middle := Kind.object .none [.plain "properties" inner] .unstated
    let outer := Kind.object .none [.plain "~1" middle] .unstated
    let schema : FormSchema := ⟨.plain "" (.object .none [.plain "a/b" outer] .unstated), [], rfl⟩
    let bound : Control := ⟨Scope.ofPath names, none, []⟩
    names ≠ [] ∧ (∀ name ∈ names, name ≠ "") ∧
      bound.scope = "#/properties/a~1b/properties/~01/properties/properties/properties/~1properties~1" ∧
      bound.path = .ok names ∧ Form.checkControl schema bound = .ok () := by
  intro names inner middle outer schema bound
  have some : names ≠ [] := List.cons_ne_nil _ _
  have filled : ∀ name ∈ names, name ≠ "" := by decide
  obtain ⟨leads, checked⟩ := path_ofPath some filled none []
  exact ⟨some, filled, by decide, leads, (checked schema).1.mpr ⟨_, rfl⟩⟩

end Control

end Intake
