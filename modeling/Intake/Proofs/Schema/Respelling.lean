import Intake.Proofs.Schema.BareReferences
import Intake.Proofs.Schema.FreeExpansion
import Intake.Proofs.Schema.Limits

/-! # The spelling of references

A definition can be referred to behind two heads, and what a reference stands for is looked up by the
name behind the head. Whether it is cyclic is asked of its text, so that a reference may be refused in
one spelling and expanded in the other. This is the only difference that the spelling makes: a loader
that would expand every reference makes the same of all spellings, and the loader itself comes to what
that one does unless it refuses a reference as cyclic. Where nothing is written beside references there
is no difference at all, as the loader that expands every reference then never gets to the end of one
that is refused as cyclic.
-/

namespace Intake

open Load
open Members (find?)

/-- The references are the same, or point to one name behind different heads. -/
def Loader.Respells (text other : String) : Prop :=
  text = other ∨ ∃ name, ∃ head ∈ referenceHeads, ∃ further ∈ referenceHeads,
    text = head ++ name ∧ other = further ++ name

/-- The second document is the first one with references respelled at the places of schemas. -/
abbrev Document.Respelled : Document → Document → Prop := Document.Variant Loader.Respells .kept

/-- The second definitions are the first ones with references respelled in them. -/
abbrev Members.Respelled : Members → Members → Prop :=
  KeyOrder.kept.Matches (SameKey Document.Respelled)

namespace Loader

private theorem respells_refl (text : String) : Respells text text := .inl rfl

/-- Both spellings of a reference point to the same name. -/
theorem Respells.name_eq {text other : String} (respells : Respells text other) :
    referencedName? text = referencedName? other := by
  rcases respells with rfl | ⟨name, head, listed, further, also, rfl, rfl⟩
  · rfl
  · rw [referencedName?_of_head listed, referencedName?_of_head also]

private theorem corresponds_of_respelled {definitions others : Members}
    (respelled : definitions.Respelled others)
    (sound : (Document.object definitions).wellFormed) (also : (Document.object others).wellFormed)
    (maxDepth maxNodes : Nat) :
    Corresponds Respells .kept ⟨definitions, maxDepth, maxNodes⟩ ⟨others, maxDepth, maxNodes⟩ where
  sound := sound
  also := also
  defined name := by
    have distinct := (Document.wellFormed_object.mp sound).1
    exact rel_imp_of_mem (Members.rel_find?_of_matches (fun _ _ => SameKey.key_eq) distinct respelled name)
      fun _ _ _ _ => SameKey.held
  reflexive := respells_refl
  named _ _ := Respells.name_eq

end Loader

namespace Load

variable {α β : Type}

private theorem StopsAtLimit.of_likewise {related : α → β → Prop} {load : Load α} {other : Load β}
    {budget : Nat} (stops : StopsAtLimit load budget) (alike : likewise.Holds related load other) :
    StopsAtLimit other budget := by
  obtain ⟨error, left, run, limit⟩ := stops
  obtain ⟨ends, -⟩ := alike budget
  rw [run] at ends
  generalize ended : (ExceptT.run other).run budget = further at ends
  obtain ⟨_, rest⟩ := further
  cases ends with
  | error same => exact ⟨_, rest, ended, by rwa [SchemaFault.isLimit, ← same]⟩

private theorem likewise_flip {related : α → β → Prop} {load : Load α} {other : Load β}
    (alike : likewise.Holds related load other) : likewise.Holds (flip related) other load := by
  intro budget
  obtain ⟨ends, same⟩ := alike budget
  exact ⟨ends.flip, same.symm⟩

/-- What the first load yields, the second one yields from any budget, or it ends at a limit. If there is
no hope for what is being expanded, it always ends at one where the first one refuses a reference as
cyclic. -/
def refusals (hopeless : Prop) : LoadRelation Load Load where
  Holds load other := ∀ budget,
    (∀ value left, Yields load budget value left →
      ∀ more, (∃ rest, Yields other more value rest) ∨ StopsAtLimit other more) ∧
    (hopeless → RefusesAsCyclic load budget → ∀ more, StopsAtLimit other more)
  holds_pure value budget := by
    constructor
    · intro result left run more
      obtain ⟨rfl, -⟩ := yields_pure.mp run
      exact .inl ⟨more, yields_pure.mpr ⟨rfl, rfl⟩⟩
    · rintro _ ⟨_, _, ⟨⟩, _⟩
  holds_bind {_ _ first other next further} start goesOn budget := by
    constructor
    · intro result left run more
      obtain ⟨value, between, ran, finish⟩ := yields_bind.mp run
      rcases (start budget).1 value between ran more with ⟨rest, yields⟩ | stops
      · rcases (goesOn value between).1 result left finish rest with ⟨rest, ends⟩ | stops
        · exact .inl ⟨rest, yields_bind.mpr ⟨value, _, yields, ends⟩⟩
        · exact .inr (.bind_of_yields yields stops)
      · exact .inr (stops.bind further)
    · rintro none ⟨error, left, run, cyclic⟩ more
      rw [run_bind] at run
      rcases ended : (ExceptT.run first).run budget with ⟨_ | value, between⟩ <;>
        simp only [ended] at run
      · cases run
        exact ((start budget).2 none ⟨_, _, ended, cyclic⟩ more).bind further
      · rcases (start budget).1 value between ended more with ⟨rest, yields⟩ | stops
        · exact .bind_of_yields yields ((goesOn value between).2 none ⟨_, _, run, cyclic⟩ rest)
        · exact stops.bind further
  holds_fail path fault own next further budget := by
    constructor
    · intro value left run
      obtain ⟨_, _, ran, -⟩ := yields_bind.mp run
      exact absurd ran not_yields_fail
    · rintro _ ⟨_, _, ⟨⟩, cyclic⟩
      simp [SchemaFault.isLocal, cyclic] at own

/-- A load that fails, but refuses no reference as cyclic, is related to any other one. -/
theorem refusals_throw {hopeless : Prop} {error : SchemaError}
    (other : error.fault.faultClass ≠ .cyclicReference) (another : Load α) :
    (refusals hopeless).Holds (throw error) another := by
  intro budget
  refine ⟨fun _ _ run => absurd run not_yields_throw, ?_⟩
  rintro _ ⟨_, _, ⟨⟩, cyclic⟩
  exact absurd cyclic other

private theorem refusals_of_stops {hopeless : Prop} (load : Load α) {other : Load α}
    (stops : ∀ more, StopsAtLimit other more) : (refusals hopeless).Holds load other :=
  fun _ => ⟨fun _ _ _ more => .inr (stops more), fun _ _ => stops⟩

end Load

namespace Loader

variable {loader : Loader} {document : Document} {expanding : List String}

/-- Whether a load that expands every reference ends at a limit has nothing to do with names and paths. -/
theorem stopsAtLimit_elsewhere (defined : (Document.object loader.definitions).wellFormed)
    (sound : document.wellFormed) {room budget : Nat} {name path : String}
    (stops : StopsAtLimit (loader.loadFreely room name path document) budget) (called place : String) :
    StopsAtLimit (loader.loadFreely room called place document) budget := by
  have moved := loadFreely_variant (corresponds_refl defined) room name path place (.same document) sound
    sound
  obtain ⟨error, left, run, limit⟩ := stops.of_likewise moved
  refine ⟨error, left, ?_, limit⟩
  rw [loadFreely_renamed loader room called name, map_eq_pure_bind, run_bind, run]

/-- A load that ends at a limit whenever all loads with fewer levels do always ends at one. -/
theorem stopsAtLimit_of_fewer (defined : (Document.object loader.definitions).wellFormed)
    (sound : document.wellFormed) {further : Nat} {name path : String}
    (step : ∀ less ≤ further, (∀ fewer < less, ∀ called place budget,
        StopsAtLimit (loader.loadFreely fewer called place document) budget) →
      ∀ more, StopsAtLimit (loader.loadFreely less name path document) more) :
    ∀ more, StopsAtLimit (loader.loadFreely further name path document) more := by
  have stops (less : Nat) (fewer : less ≤ further) (more : Nat) :
      StopsAtLimit (loader.loadFreely less name path document) more := by
    induction less using Nat.strong_induction_on generalizing more with
    | _ less deeper =>
      refine step less fewer (fun fewest below called place budget => ?_) more
      have ends := deeper fewest below (below.le.trans fewer) budget
      exact stopsAtLimit_elsewhere defined sound ends called place
  exact stops further le_rfl

private theorem charge_refusals (hopeless : Prop) (path : String) :
    (refusals hopeless).Holds (loader.charge path) (loader.charge path) := by
  intro budget
  constructor
  · intro _ left _ more
    cases more with
    | zero => exact .inr ⟨_, 0, rfl, .inr rfl⟩
    | succ rest => exact .inl ⟨rest, rfl⟩
  · rintro _ ⟨_, _, run, cyclic⟩
    exact absurd cyclic (charge_findsNoCycle path budget _ _ run)

/-- With fewer than so many levels, loads of what the references stand for end at a limit, if they expand
every reference. -/
def NeverEnds (loader : Loader) (references : List String) (levels : Nat) : Prop :=
  ∀ text ∈ references, ∀ target, loader.resolve? text = some target → ∀ less < levels,
    ∀ name path budget, StopsAtLimit (loader.loadFreely less name path (.object target)) budget

private theorem neverEnds_nil (levels : Nat) : loader.NeverEnds [] levels :=
  fun _ listed => absurd listed List.not_mem_nil

private theorem NeverEnds.of_le {levels fewer : Nat} (never : loader.NeverEnds expanding levels)
    (le : fewer ≤ levels) : loader.NeverEnds expanding fewer :=
  fun text listed target resolves less few => never text listed target resolves less (few.trans_le le)

private theorem NeverEnds.cons {levels : Nat} (never : loader.NeverEnds expanding levels)
    {text : String} {target : Members} (resolves : loader.resolve? text = some target)
    (stops : ∀ less < levels, ∀ name path budget,
      StopsAtLimit (loader.loadFreely less name path (.object target)) budget) :
    loader.NeverEnds (text :: expanding) levels := by
  intro other listed also resolvesToo less few
  rcases List.mem_cons.mp listed with rfl | earlier
  · cases resolves.symm.trans resolvesToo
    exact stops less few
  · exact never other earlier also resolvesToo less few

/-- There is no hope for a definition whose load refuses a reference as cyclic, if there is none for what
is being expanded already: with few levels it ends at a limit, and then so it does with more. -/
theorem refusals_of_expanding {hopeless : Prop} {further : Nat} {text name path : String}
    {target : Members} {load : Load Property}
    (defined : (Document.object loader.definitions).wellFormed)
    (sound : (Document.object target).wellFormed) (resolves : loader.resolve? text = some target)
    (known : hopeless → loader.NeverEnds expanding further)
    (loads : ∀ (hopeless : Prop), ∀ less ≤ further,
      (hopeless → loader.NeverEnds (text :: expanding) less) →
        (refusals hopeless).Holds load (loader.loadFreely less name path (.object target))) :
    (refusals hopeless).Holds load (loader.loadFreely further name path (.object target)) := by
  intro budget
  refine ⟨(loads False further le_rfl False.elim budget).1, fun none cyclic => ?_⟩
  refine stopsAtLimit_of_fewer defined sound fun less fewer stops => ?_
  have never : loader.NeverEnds (text :: expanding) less := ((known none).of_le fewer).cons resolves stops
  exact (loads True less fewer (fun _ => never) budget).2 trivial cyclic

/-- Where nothing stands beside references, a load that expands all of them ends at a limit where another
one refuses a reference as cyclic: it gets into what is being expanded again and again. -/
theorem loadWithin_refusals (hopeless : Prop) {room : Nat} (further : Nat)
    (defined : (Document.object loader.definitions).wellFormed)
    (definitionsBare : loader.definitions.HaveBareReferences) (sound : document.wellFormed)
    (bare : document.HasBareReferences) (known : hopeless → loader.NeverEnds expanding further)
    (name path : String) :
    (refusals hopeless).Holds (loader.loadWithin room expanding name path document)
      (loader.loadFreely further name path document) := by
  induction room generalizing hopeless further expanding name path document with
  | zero => exact refusals_throw (by rintro ⟨⟩) _
  | succ room ih =>
    cases further with
    | zero => exact refusals_of_stops _ fun more => ⟨_, more, rfl, .inl rfl⟩
    | succ further =>
      have fewer (none : hopeless) : loader.NeverEnds expanding further :=
        (known none).of_le (Nat.le_succ further)
      rw [loadWithin, loadFreely]
      cases isObject : document.members? with
      | none => exact refusals_throw (by rintro ⟨⟩) _
      | some members =>
        rw [Document.members?_eq_some_iff] at isObject
        subst isObject
        obtain ⟨bare, below⟩ := Document.hasBareReferences_object.mp bare
        dsimp only [schema]
        cases refers : members.find? "$ref" with
        | none =>
          have within : (refusals hopeless).HoldsWithin (loader.loadWithin room expanding)
              (loader.loadFreely further) members := fun name path part held =>
            ih hopeless further (held.wellFormed sound) (below part held) fewer name path
          exact within.property (charge_refusals hopeless path)
        | some reference =>
          dsimp only
          rcases loader.expand_of_bare expanding bare refers path with
            ⟨error, refused, other⟩ | ⟨text, target, resolves, freely, rest⟩
          · rw [refused]
            exact refusals_throw other _
          · obtain ⟨called, -, found⟩ := resolve?_eq_some resolves
            have targetSound := Document.wellFormed_of_find? defined found
            have targetBare := definitionsBare called _ found
            rw [freely]
            rcases rest with expanded | ⟨listed, error, refused⟩
            · rw [expanded]
              exact refusals_of_expanding defined targetSound resolves fewer
                fun hopeless less _ never => ih hopeless less targetSound targetBare never name path
            -- The reference is being expanded already, and the other load goes around again.
            · rw [refused]
              intro budget
              refine ⟨fun _ _ run => absurd run not_yields_throw, fun none _ => ?_⟩
              exact known none text listed target resolves further (Nat.lt_succ_self further) name path

/-- A load that would expand a reference for ever refuses it as cyclic, unless it ends at a limit. -/
theorem refuses_or_stops {room budget : Nat} {name path : String}
    (stops : StopsAtLimit (loader.loadFreely room name path document) budget) (expanding : List String) :
    RefusesAsCyclic (loader.loadWithin room expanding name path document) budget ∨
      StopsAtLimit (loader.loadWithin room expanding name path document) budget := by
  rcases loader.loadWithin_unlessCyclic room expanding name path document budget with same | refuses
  · obtain ⟨error, left, run, limit⟩ := stops
    exact .inr ⟨error, left, same.trans run, limit⟩
  · exact .inl refuses

/-- A reference was refused as cyclic. -/
def IsCyclic (outcome : Except SchemaError Property) : Prop :=
  ∃ error, outcome = .error error ∧ error.fault.faultClass = .cyclicReference

/-- The outcome does not come from a limit on depth or size. -/
def MeetsNoLimit (outcome : Except SchemaError Property) : Prop :=
  ∀ error, outcome = .error error → ¬error.fault.isLimit

private theorem meetsNoLimit_of_isCyclic {outcome : Except SchemaError Property}
    (cyclic : IsCyclic outcome) : MeetsNoLimit outcome := by
  obtain ⟨error, refused, cyclic⟩ := cyclic
  intro fault failed
  cases refused.symm.trans failed
  rw [SchemaFault.isLimit, cyclic]
  decide

variable {another : Loader} {other : Document} {name path : String}

private theorem refusesAsCyclic_of_isCyclic (cyclic : IsCyclic (loader.outcome name path document)) :
    RefusesAsCyclic (loader.load name path document) loader.maxNodes := by
  obtain ⟨error, failed, cyclic⟩ := cyclic
  exact ⟨error, _, Prod.ext failed rfl, cyclic⟩

private theorem isCyclic_of_refuses
    (refuses : RefusesAsCyclic (loader.load name path document) loader.maxNodes) :
    IsCyclic (loader.outcome name path document) := by
  obtain ⟨error, _, run, cyclic⟩ := refuses
  exact ⟨error, congrArg Prod.fst run, cyclic⟩

private theorem not_stopsAtLimit (meets : MeetsNoLimit (loader.outcome name path document)) :
    ¬StopsAtLimit (loader.load name path document) loader.maxNodes := by
  rintro ⟨error, _, run, limit⟩
  exact meets error (congrArg Prod.fst run) limit

private theorem endsAlike_of_isCyclic {first second : Except SchemaError Property}
    (cyclic : IsCyclic first) (also : IsCyclic second) : EndsAlike Eq first second := by
  obtain ⟨_, rfl, cyclic⟩ := cyclic
  obtain ⟨_, rfl, also⟩ := also
  exact .error (cyclic.trans also.symm)

/-- Where nothing stands beside references and one spelling is refused as cyclic, so is any other one
that meets no limit. -/
theorem isCyclic_of_likewise (loader another : Loader) {related : Property → Property → Prop}
    (same : loader.maxDepth = another.maxDepth)
    (defined : (Document.object loader.definitions).wellFormed)
    (definitionsBare : loader.definitions.HaveBareReferences) (sound : document.wellFormed)
    (bare : document.HasBareReferences)
    (alike : likewise.Holds related (loader.loadFreely (loader.maxDepth + 1) name path document)
      (another.loadFreely (loader.maxDepth + 1) name path other))
    (cyclic : IsCyclic (loader.outcome name path document))
    (within : MeetsNoLimit (another.outcome name path other)) : IsCyclic (another.outcome name path other) := by
  have refuses := refusesAsCyclic_of_isCyclic cyclic
  have stops := (loadWithin_refusals True (loader.maxDepth + 1) defined definitionsBare
    sound bare (fun _ => neverEnds_nil _) name path loader.maxNodes).2 trivial refuses
  have also := (stops another.maxNodes).of_likewise alike
  rw [same] at also
  rcases refuses_or_stops also [] with again | ends
  · exact isCyclic_of_refuses again
  · exact absurd ends (not_stopsAtLimit within)

private theorem outcome_of_not_isCyclic (loader : Loader)
    (notCyclic : ¬IsCyclic (loader.outcome name path document)) :
    loader.outcome name path document = ((ExceptT.run
      (loader.loadFreely (loader.maxDepth + 1) name path document)).run loader.maxNodes).1 := by
  rcases loader.loadWithin_unlessCyclic (loader.maxDepth + 1) [] name path document loader.maxNodes with
    same | refuses
  · exact congrArg Prod.fst same
  · exact absurd (isCyclic_of_refuses refuses) notCyclic

/-- Two spellings of the references of a document and of its definitions are loaded to the same schema,
or fail with errors of one class, unless a reference is refused as cyclic in one of them. Where nothing is
written beside references, this is no exception either, if no limit is met. -/
theorem outcome_respelled {definitions others : Members} {document other : Document}
    (respelled : document.Respelled other) (respelledDefinitions : definitions.Respelled others)
    (sound : document.wellFormed) (also : other.wellFormed)
    (defined : (Document.object definitions).wellFormed)
    (definedToo : (Document.object others).wellFormed) (maxDepth maxNodes : Nat) (name path : String) :
    let first := (Loader.mk definitions maxDepth maxNodes).outcome name path document
    let second := (Loader.mk others maxDepth maxNodes).outcome name path other
    (¬IsCyclic first → ¬IsCyclic second → EndsAlike Eq first second) ∧
      (document.HasBareReferences → definitions.HaveBareReferences → MeetsNoLimit first →
        MeetsNoLimit second → EndsAlike Eq first second) := by
  intro first second
  let loader : Loader := ⟨definitions, maxDepth, maxNodes⟩
  let another : Loader := ⟨others, maxDepth, maxNodes⟩
  have corresponds : loader.Corresponds Respells .kept another :=
    corresponds_of_respelled respelledDefinitions defined definedToo maxDepth maxNodes
  have alike := loadFreely_variant corresponds (maxDepth + 1) name path path respelled sound also
  have apart : ¬IsCyclic first → ¬IsCyclic second → EndsAlike Eq first second := by
    intro notCyclic notCyclicToo
    have freely := loader.outcome_of_not_isCyclic notCyclic
    have freelyToo := another.outcome_of_not_isCyclic notCyclicToo
    have ends := (alike maxNodes).1
    rwa [← freely, ← freelyToo] at ends
  refine ⟨apart, fun bare definitionsBare within withinToo => ?_⟩
  have bareToo := bare.of_variant respelled
  have definitionsBareToo := definitionsBare.of_variant corresponds.defined
  by_cases cyclic : IsCyclic first
  · have again : IsCyclic second := isCyclic_of_likewise loader another rfl defined
      definitionsBare sound bare alike cyclic withinToo
    exact endsAlike_of_isCyclic cyclic again
  · by_cases cyclicToo : IsCyclic second
    · have again : IsCyclic first := isCyclic_of_likewise another loader rfl
        definedToo definitionsBareToo also bareToo (likewise_flip alike) cyclicToo within
      exact absurd again cyclic
    · exact apart cyclic cyclicToo

/-- A tree is made of trees. However the reference to its branch is spelled, it is refused as cyclic, only
further down if the spelling is another one than that of the reference to the tree. -/
theorem outcome_respelled_tree :
    let reference (head : String) : Document := .object [("$ref", .string (head ++ "tree"))]
    let definitions (head : String) : Members :=
      [("tree", .object [("properties", .object [("branch", reference head)])])]
    let tree : Document := reference "#/definitions/"
    let first := (Loader.mk (definitions "#/definitions/") 8 8).outcome "root" "#" tree
    let second := (Loader.mk (definitions "#/$defs/") 8 8).outcome "root" "#" tree
    (definitions "#/definitions/").Respelled (definitions "#/$defs/") ∧ tree.HasBareReferences ∧
      (definitions "#/definitions/").HaveBareReferences ∧
      first = .error ⟨"#/properties/branch", .cyclicReference "#/definitions/tree"⟩ ∧
      second = .error ⟨"#/properties/branch/properties/branch", .cyclicReference "#/$defs/tree"⟩ ∧
      EndsAlike Eq first second := by
  intro reference definitions tree first second
  have respelled : (reference "#/definitions/").Respelled (reference "#/$defs/") := by
    refine .object (.kept (.cons (.reference (.inr ⟨"tree", _, ?_, _, ?_, rfl, rfl⟩)) .nil)) <;> decide
  have respelledDefinitions : (definitions "#/definitions/").Respelled (definitions "#/$defs/") := by
    refine .kept (.cons (.intro _ (.object (.kept (.cons (.named ?_ ?_) .nil)))) .nil)
    · decide
    · exact .kept (.cons (.intro _ respelled) .nil)
  have bare : tree.HasBareReferences := by
    refine Document.hasBareReferences_object.mpr ⟨fun _ key listed => List.mem_singleton.mp listed, ?_⟩
    rintro _ ⟨member, present, held⟩
    cases List.mem_singleton.mp present
    cases held
  have definitionsBare : (definitions "#/definitions/").HaveBareReferences := by
    intro name definition found
    cases List.mem_singleton.mp (Members.mem_of_find?_eq_some found)
    refine Document.hasBareReferences_object.mpr ⟨fun refers => absurd refers (by decide), ?_⟩
    rintro _ ⟨member, present, held⟩
    cases List.mem_singleton.mp present
    cases List.mem_singleton.mp held
    exact bare
  have failed : first = .error ⟨"#/properties/branch", .cyclicReference "#/definitions/tree"⟩ := rfl
  have failedToo : second =
      .error ⟨"#/properties/branch/properties/branch", .cyclicReference "#/$defs/tree"⟩ := rfl
  have within : MeetsNoLimit first := meetsNoLimit_of_isCyclic ⟨_, failed, rfl⟩
  have withinToo : MeetsNoLimit second := meetsNoLimit_of_isCyclic ⟨_, failedToo, rfl⟩
  refine ⟨respelledDefinitions, bare, definitionsBare, failed, failedToo, ?_⟩
  exact (outcome_respelled (.same tree) respelledDefinitions (by decide) (by decide) (by decide) (by decide)
    8 8 "root" "#").2 bare definitionsBare within withinToo

/-- With the items written beside the reference to a list, the spelling decides. -/
example :
    let loader : Loader := ⟨[("list", .object [("type", .string "array")])], 8, 10⟩
    let lists (reference : String) : Document := .object [
      ("$ref", .string "#/definitions/list"), ("items", .object [("$ref", .string reference)])]
    loader.outcome "field" "#" (lists "#/definitions/list") =
        .error ⟨"#/items", .cyclicReference "#/definitions/list"⟩ ∧
      (loader.outcome "field" "#" (lists "#/$defs/list")).isOk :=
  ⟨rfl, rfl⟩

end Loader

end Intake
