import Intake.Form.Element

/-! # Where an element stands

An element stands in a layout at a position: the list of indices that lead down to it. Positions tell
how deep an element is nested, and in their lexicographic order the elements follow each other as in
the document. The controls of a layout are listed in that order.
-/

namespace Intake.Element

/-- The element that stands at a position. -/
def at? : Element → List Nat → Option Element
  | element, [] => some element
  | element, index :: position => element.elements[index]?.bind fun child => child.at? position

variable {layout element : Element} {elements : List Element} {position : List Nat}

theorem at?_cons {index : Nat} :
    layout.at? (index :: position) = some element ↔
      ∃ child, layout.elements[index]? = some child ∧ child.at? position = some element :=
  Option.bind_eq_some_iff

private theorem mem_controlsOfAll {control : Control} :
    control ∈ controlsOfAll elements ↔ ∃ child ∈ elements, control ∈ child.controls := by
  induction elements with
  | nil => simp [controlsOfAll]
  | cons child elements ih => simp [controlsOfAll, ih]

private theorem mem_controls_of_mem_elements {child : Element} {control : Control}
    (member : child ∈ layout.elements) (inside : control ∈ child.controls) :
    control ∈ layout.controls := by
  cases layout with
  | container kind heading elements options => exact mem_controlsOfAll.mpr ⟨child, member, inside⟩
  | _ => cases member

/-- Wherever a control stands, it is listed. -/
theorem mem_controls_of_at? {control : Control} (stands : layout.at? position = some (.control control)) :
    control ∈ layout.controls := by
  induction position generalizing layout with
  | nil =>
    cases stands
    exact List.mem_singleton_self control
  | cons index position ih =>
    obtain ⟨child, found, below⟩ := at?_cons.mp stands
    exact mem_controls_of_mem_elements (List.mem_of_getElem? found) (ih below)

section First

/-- The control at the position is wanted, and none that is wanted stands before it. -/
structure FirstAt (wanted : Control → Prop) (layout : Element) (position : List Nat) (bound : Control) :
    Prop where
  stands : layout.at? position = some (.control bound)
  fits : wanted bound
  first : ∀ other another, List.Lex (· < ·) other position →
    layout.at? other = some (.control another) → ¬wanted another

variable {wanted : Control → Bool}

mutual

/-- The first control in the list that is wanted stands before all others. -/
theorem exists_firstAt_of_find? : ∀ {layout : Element} {picked : Control},
    layout.controls.find? wanted = some picked → ∃ position, FirstAt (wanted ·) layout position picked
  | .container .., picked, found => by
    obtain ⟨index, position, child, inside, below, earlier⟩ := exists_firstAt_of_find?_ofAll found
    refine ⟨index :: position, at?_cons.mpr ⟨child, inside, below.stands⟩, below.fits, ?_⟩
    intro other another before stands fits
    cases before with
    | nil => cases stands
    | cons before =>
      obtain ⟨sibling, among, under⟩ := at?_cons.mp stands
      cases among.symm.trans inside
      exact below.first _ another before under fits
    | rel less =>
      obtain ⟨sibling, among, under⟩ := at?_cons.mp stands
      exact earlier _ sibling less among another (mem_controls_of_at? under) fits
  | .control bound, picked, found => by
    have same : bound = picked := List.mem_singleton.mp (List.mem_of_find?_eq_some found) |>.symm
    subst same
    exact ⟨[], rfl, List.find?_some found, fun _ _ before => nomatch before⟩
  | .label _, _, found => nomatch found

private theorem exists_firstAt_of_find?_ofAll : ∀ {elements : List Element} {picked : Control},
    (controlsOfAll elements).find? wanted = some picked →
      ∃ (index : Nat) (position : List Nat) (child : Element), elements[index]? = some child ∧
        FirstAt (wanted ·) child position picked ∧
        ∀ (earlier : Nat) (sibling : Element), earlier < index → elements[earlier]? = some sibling →
          ∀ another ∈ sibling.controls, ¬wanted another
  | [], _, found => nomatch found
  | child :: elements, picked, found => by
    rw [controlsOfAll, List.find?_append, Option.or_eq_some_iff] at found
    rcases found with inFirst | ⟨absent, inRest⟩
    · obtain ⟨position, below⟩ := exists_firstAt_of_find? inFirst
      exact ⟨0, position, child, rfl, below, fun earlier _ before => absurd before earlier.not_lt_zero⟩
    · obtain ⟨index, position, found, inside, below, before⟩ := exists_firstAt_of_find?_ofAll inRest
      refine ⟨index + 1, position, found, inside, below, fun earlier sibling less among => ?_⟩
      cases earlier with
      | zero =>
        cases among
        exact List.find?_eq_none.mp absent
      | succ earlier => exact before earlier sibling (Nat.lt_of_succ_lt_succ less) among

end

end First

end Intake.Element
