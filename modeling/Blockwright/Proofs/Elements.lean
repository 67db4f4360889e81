import Blockwright.Project.Tree
import Blockwright.Source.Outline

/-!
# Elements as trees

An element may hold further elements, in a list that may also be missing.  The
outline of an element and the utilities it uses are computed by walks over this
tree; here each walk is read as a function of the element's tag and of its
children, and `Element.childInduction` is the induction that goes with it.

`Element.rendered` is the third walk: the elements that reach a source file.
It goes into the children of blocks alone.
-/

namespace Blockwright

/-- The children of an element; children that were never given are none. -/
def Element.childList (element : Element) : List Element :=
  element.children.getD []

theorem Element.sizeOf_lt_of_mem_childList
    {element child : Element}
    (member : child ∈ element.childList) :
    sizeOf child < sizeOf element := by
  rcases element with ⟨id, type, content, properties, children, position⟩
  cases children with
  | none => simp [childList] at member
  | some elements =>
      have smaller : sizeOf child < sizeOf elements :=
        List.sizeOf_lt_of_mem member
      simp only [mk.sizeOf_spec, Option.some.sizeOf_spec]
      omega

/-- A property that passes from the children of every element to the element holds throughout. -/
@[elab_as_elim]
theorem Element.childInduction
    {motive : Element → Prop}
    (step :
      ∀ element : Element,
        (∀ child ∈ element.childList, motive child) →
          motive element)
    (element : Element) :
    motive element :=
  step element fun child _ => childInduction step child
termination_by sizeOf element
decreasing_by exact sizeOf_lt_of_mem_childList ‹_›

theorem Element.block?_eq_some_iff
    (element : Element) (kind : Block) :
    element.block? = some kind ↔
      element.tag? = some (.block kind) := by
  simp only [Element.block?]
  rcases element.tag? with _ | (_ | _ | _) <;> simp [Tag.block?]

/-! ## Outlines -/

theorem elementsOutline_eq_flatMap
    (setting : Outline.Setting) (depth : Int)
    (elements : List Element) :
    elementsOutline setting depth elements =
      elements.flatMap (Element.outline setting depth) := by
  induction elements with
  | nil => rfl
  | cons element others ih =>
      rw [elementsOutline, ih, List.flatMap_cons]

theorem childrenOutline_eq_flatMap
    (setting : Outline.Setting) (depth : Int)
    (element : Element) :
    childrenOutline setting depth element.children =
      element.childList.flatMap (Element.outline setting depth) := by
  cases given : element.children with
  | none => simp [childrenOutline, Element.childList, given]
  | some elements =>
      simp [childrenOutline, Element.childList, given, elementsOutline_eq_flatMap]

/-- The outline of an element, by its tag. -/
theorem Element.outline_eq
    (setting : Outline.Setting) (depth : Int)
    (element : Element) :
    element.outline setting depth =
      match element.tag? with
      | none => [.unknown element.type depth]
      | some (.statement kind) =>
          setting.lines depth
            ((element.fields setting.language).fill
              (setting.language.statement kind))
      | some (.utility kind) => [.call kind depth]
      | some (.block kind) =>
          Outline.block setting (element.fields setting.language) depth
            (element.childList.flatMap
              (Element.outline setting (depth + kind.childDepth)))
            kind := by
  simp only [← childrenOutline_eq_flatMap]
  rcases element with ⟨id, type, content, properties, children, position⟩
  rw [Element.outline]
  rfl

/-! ## Utilities in use -/

theorem elementsUses_eq_flatMap
    (elements : List Element) :
    elementsUses elements = elements.flatMap Element.uses := by
  induction elements with
  | nil => rfl
  | cons element others ih =>
      rw [elementsUses, ih, List.flatMap_cons]

theorem childrenUses_eq_flatMap
    (element : Element) :
    childrenUses element.children =
      element.childList.flatMap Element.uses := by
  cases given : element.children with
  | none => simp [childrenUses, Element.childList, given]
  | some elements =>
      simp [childrenUses, Element.childList, given, elementsUses_eq_flatMap]

/-- The utilities that writing an element uses, by its tag. -/
theorem Element.uses_eq
    (element : Element) :
    element.uses =
      match element.tag? with
      | some (.utility kind) => [kind]
      | some (.block _) => element.childList.flatMap Element.uses
      | _ => [] := by
  simp only [← childrenUses_eq_flatMap]
  rcases element with ⟨id, type, content, properties, children, position⟩
  rw [Element.uses]
  rfl

/-! ## Elements that are written -/

mutual

/-- An element and, inside blocks, the elements below it: all that is written for it. -/
def Element.rendered : Element → List Element
  | ⟨id, type, content, properties, children, position⟩ =>
      ⟨id, type, content, properties, children, position⟩ ::
        match Tag.ofName? type with
        | some (.block _) => childrenRendered children
        | _ => []

/-- The elements that are written for an element's children. -/
def childrenRendered : Option (List Element) → List Element
  | none => []
  | some elements => elementsRendered elements

/-- The elements that are written for the elements of a list. -/
def elementsRendered : List Element → List Element
  | [] => []
  | element :: others => element.rendered ++ elementsRendered others

end

theorem elementsRendered_eq_flatMap
    (elements : List Element) :
    elementsRendered elements = elements.flatMap Element.rendered := by
  induction elements with
  | nil => rfl
  | cons element others ih =>
      rw [elementsRendered, ih, List.flatMap_cons]

theorem childrenRendered_eq_flatMap
    (element : Element) :
    childrenRendered element.children =
      element.childList.flatMap Element.rendered := by
  cases given : element.children with
  | none => simp [childrenRendered, Element.childList, given]
  | some elements =>
      simp [childrenRendered, Element.childList, given, elementsRendered_eq_flatMap]

/-- The elements that are written for an element, by its tag. -/
theorem Element.rendered_eq
    (element : Element) :
    element.rendered =
      element ::
        match element.tag? with
        | some (.block _) => element.childList.flatMap Element.rendered
        | _ => [] := by
  simp only [← childrenRendered_eq_flatMap]
  rcases element with ⟨id, type, content, properties, children, position⟩
  rw [Element.rendered]
  rfl

theorem Element.self_mem_rendered
    (element : Element) :
    element ∈ element.rendered := by
  rw [rendered_eq]
  exact List.mem_cons_self

/-- An element is written itself and, if it is a block, so is what is written below it. -/
theorem Element.mem_rendered_iff
    {element inner : Element} :
    inner ∈ element.rendered ↔
      inner = element ∨
        ∃ kind, element.tag? = some (.block kind) ∧
          ∃ child ∈ element.childList, inner ∈ child.rendered := by
  rw [rendered_eq, List.mem_cons]
  rcases tag : element.tag? with _ | (kind | kind | kind) <;> simp

/-- What is written for a child of a block is written for the block. -/
theorem Element.rendered_subset_of_block
    {element child : Element} {kind : Block}
    (block : element.tag? = some (.block kind))
    (member : child ∈ element.childList) :
    child.rendered ⊆ element.rendered := by
  intro inner written
  exact mem_rendered_iff.2 (.inr ⟨kind, block, child, member, written⟩)

theorem Element.rendered_subset_elementsRendered
    {element : Element} {elements : List Element}
    (member : element ∈ elements) :
    element.rendered ⊆ elementsRendered elements := by
  intro inner written
  rw [elementsRendered_eq_flatMap]
  exact List.mem_flatMap.2 ⟨element, member, written⟩

end Blockwright
