import Blockwright.Proofs.InlineUtilities

/-!
# Collected utilities

The utilities of a project are collected as an ordered set: one element after another is
looked at, and a utility that was not met before is put last.  So the utilities of more
methods are those of the first methods followed by the new ones of the others, and each
is there once.

Which utilities are there depends on the trees alone.  `Occurs` says that an element
stands somewhere in a list of elements, and below which others; it is collected just if
all of these are blocks.  The walk over all elements goes further, and meets the same
utilities if only blocks have children.
-/

namespace Blockwright

/-! ## Ordered sets -/

section OrderedSets

variable {α : Type} [DecidableEq α]

/-- An ordered set with an item put last, unless it is there. -/
def addLast (seen : List α) (item : α) : List α :=
  if item ∈ seen then seen else seen ++ [item]

/-- Adding items in order adds the first occurrences of those that are not there. -/
theorem foldl_addLast
    (items seen : List α) :
    items.foldl addLast seen = seen ++ (firstOccurrences items).filter (· ∉ seen) := by
  induction items generalizing seen with
  | nil => simp [firstOccurrences]
  | cons first others ih =>
      rw [List.foldl_cons, ih, addLast, firstOccurrences]
      by_cases old : first ∈ seen
      · rw [if_pos old, List.filter_cons_of_neg (by simpa using old), List.filter_filter]
        congr 1
        apply List.filter_congr
        intro item _
        by_cases same : item = first <;> simp [same, old]
      · rw [if_neg old, List.filter_cons_of_pos (by simpa using old), List.filter_filter,
          List.append_assoc, List.singleton_append]
        congr 2
        apply List.filter_congr
        intro item _
        simp [not_or]

theorem firstOccurrences_eq_foldl
    (items : List α) :
    firstOccurrences items = items.foldl addLast [] := by
  rw [foldl_addLast]
  simp

/-- What is added after some items is what is new in the others. -/
theorem firstOccurrences_append
    (first second : List α) :
    firstOccurrences (first ++ second) =
      firstOccurrences first ++ (firstOccurrences second).filter (· ∉ firstOccurrences first) := by
  rw [firstOccurrences_eq_foldl, List.foldl_append, ← firstOccurrences_eq_foldl, foldl_addLast]

end OrderedSets

/-! ## Occurrences -/

/-- An element stands in a list of elements, below the given ancestors, the nearest first. -/
inductive Occurs (elements : List Element) : List Element → Element → Prop where
  | listed {element : Element} :
      element ∈ elements → Occurs elements [] element
  | child {ancestors : List Element} {parent child : Element} :
      Occurs elements ancestors parent →
        child ∈ parent.childList →
          Occurs elements (parent :: ancestors) child

theorem Element.isBlock_iff
    (element : Element) :
    element.isBlock = true ↔ ∃ kind, element.tag? = some (.block kind) := by
  simp only [isBlock, Option.isSome_iff_exists, block?_eq_some_iff]

/-- What is written for an element that stands below blocks stands below blocks. -/
theorem Occurs.exists_of_mem_rendered
    {elements ancestors : List Element} {element inner : Element}
    (occurs : Occurs elements ancestors element)
    (blocks : ∀ ancestor ∈ ancestors, ancestor.isBlock)
    (written : inner ∈ element.rendered) :
    ∃ path, Occurs elements path inner ∧ ∀ ancestor ∈ path, ancestor.isBlock := by
  induction element using Element.childInduction generalizing ancestors with
  | step element ih =>
      rcases Element.mem_rendered_iff.1 written with rfl | ⟨kind, tag, child, member, inChild⟩
      · exact ⟨ancestors, occurs, blocks⟩
      · have own : element.isBlock := element.isBlock_iff.2 ⟨kind, tag⟩
        exact ih child member (occurs.child member) (List.forall_mem_cons.2 ⟨own, blocks⟩) inChild

/-- The children of a block that is written are written. -/
theorem Element.child_mem_rendered
    {element parent child : Element}
    (written : parent ∈ element.rendered)
    (block : parent.isBlock)
    (member : child ∈ parent.childList) :
    child ∈ element.rendered := by
  induction element using Element.childInduction with
  | step element ih =>
      rcases mem_rendered_iff.1 written with rfl | ⟨kind, tag, inner, inside, inChild⟩
      · obtain ⟨kind, tag⟩ := parent.isBlock_iff.1 block
        exact rendered_subset_of_block tag member child.self_mem_rendered
      · exact rendered_subset_of_block tag inside (ih inner inside inChild)

/-- What is written stands below blocks alone. -/
theorem mem_elementsRendered_iff
    (elements : List Element) (element : Element) :
    element ∈ elementsRendered elements ↔
      ∃ ancestors,
        Occurs elements ancestors element ∧ ∀ ancestor ∈ ancestors, ancestor.isBlock := by
  constructor
  · intro written
    rw [elementsRendered_eq_flatMap] at written
    obtain ⟨owner, member, inOwner⟩ := List.mem_flatMap.1 written
    exact Occurs.exists_of_mem_rendered (.listed member) (by simp) inOwner
  · rintro ⟨ancestors, occurs, blocks⟩
    induction occurs with
    | listed member =>
        exact Element.rendered_subset_elementsRendered member (Element.self_mem_rendered _)
    | child _ member ih =>
        obtain ⟨own, others⟩ := List.forall_mem_cons.1 blocks
        have parent := ih others
        rw [elementsRendered_eq_flatMap] at parent ⊢
        obtain ⟨owner, among, inOwner⟩ := List.mem_flatMap.1 parent
        exact List.mem_flatMap.2 ⟨owner, among, Element.child_mem_rendered inOwner own member⟩

/-! ## The walk over all elements -/

theorem elementsWalk_eq_flatMap
    (elements : List Element) :
    elementsWalk elements = elements.flatMap Element.walk := by
  induction elements with
  | nil => rfl
  | cons element others ih =>
      rw [elementsWalk, ih, List.flatMap_cons]

theorem Element.walk_eq
    (element : Element) :
    element.walk = element :: element.childList.flatMap Element.walk := by
  rcases element with ⟨id, type, content, properties, children, position⟩
  cases children with
  | none => simp [walk, childrenWalk, childList]
  | some elements => simp [walk, childrenWalk, childList, elementsWalk_eq_flatMap]

/-- If only blocks have children, all elements are written. -/
theorem Element.rendered_eq_walk
    {element : Element}
    (leaves : ∀ inner ∈ element.walk, ¬inner.isBlock → inner.childList = []) :
    element.rendered = element.walk := by
  induction element using Element.childInduction with
  | step element ih =>
      rw [walk_eq] at leaves
      obtain ⟨own, others⟩ := List.forall_mem_cons.1 leaves
      have children :
          element.childList.flatMap Element.rendered = element.childList.flatMap Element.walk :=
        List.flatMap_congr fun child member =>
          ih child member fun inner inside =>
            others inner (List.mem_flatMap.2 ⟨child, member, inside⟩)
      rw [rendered_eq, walk_eq, ← children]
      rcases tag : element.tag? with _ | (kind | kind | kind)
      · simp [own (by simp [isBlock_iff, tag])]
      · simp [own (by simp [isBlock_iff, tag])]
      · rfl
      · simp [own (by simp [isBlock_iff, tag])]

theorem elementsRendered_eq_elementsWalk
    {elements : List Element}
    (leaves : ∀ element ∈ elementsWalk elements, ¬element.isBlock → element.childList = []) :
    elementsRendered elements = elementsWalk elements := by
  rw [elementsWalk_eq_flatMap] at leaves
  rw [elementsRendered_eq_flatMap, elementsWalk_eq_flatMap]
  exact List.flatMap_congr fun element member =>
    Element.rendered_eq_walk fun inner inside =>
      leaves inner (List.mem_flatMap.2 ⟨element, member, inside⟩)

/-! ## Collecting -/

theorem Element.utility?_eq_some_iff
    (element : Element) (utility : Utility) :
    element.utility? = some utility ↔ element.type = utility.name := by
  constructor
  · intro own
    obtain ⟨tag, named, isUtility⟩ := Option.bind_eq_some_iff.1 own
    cases tag with
    | utility kind =>
        obtain rfl : kind = utility := Option.some.inj isUtility
        exact (Tag.name_of_ofName? named).symm
    | statement kind => exact absurd isUtility (Option.some_ne_none utility).symm
    | block kind => exact absurd isUtility (Option.some_ne_none utility).symm
  · intro same
    rw [utility?, tag?, same]
    cases utility <;> rfl

/-- The elements that are written for methods, in the order of the file. -/
def methodsRendered (methods : List Method) : List Element :=
  methods.flatMap fun method => elementsRendered method.elements

/-- What methods use, read off all that is written for them. -/
theorem collectUtilities_eq
    (methods : List Method) :
    collectUtilities methods =
      firstOccurrences ((methodsRendered methods).filterMap Element.utility?) := by
  rw [collectUtilities, methodsRendered, List.filterMap_flatMap]
  congr 1
  exact List.flatMap_congr fun method _ => elementsUses_eq_filterMap_rendered method.elements

/-- The utilities met so far and that of another element, if it is one. -/
def noteUtility (seen : List Utility) (element : Element) : List Utility :=
  match element.utility? with
  | some utility => addLast seen utility
  | none => seen

theorem foldl_noteUtility
    (elements : List Element) (seen : List Utility) :
    elements.foldl noteUtility seen = (elements.filterMap Element.utility?).foldl addLast seen := by
  induction elements generalizing seen with
  | nil => rfl
  | cons element others ih =>
      rw [List.foldl_cons, ih, noteUtility, List.filterMap_cons]
      cases element.utility? <;> rfl

/--
Utilities are collected as an ordered set.  They are met one after another among the
elements that are written; the utilities of more methods are those of the first, followed
by those of the others that are new; none is there twice.  A type is among them just if it
is that of a utility and of an element that stands in a method below blocks alone.  If no
other element has children, they are the utilities among all elements, each at its first
occurrence.
-/
theorem collectUtilities_orderedSet :
    (∀ first second : List Method,
        collectUtilities (first ++ second) =
          collectUtilities first ++
            (collectUtilities second).filter (· ∉ collectUtilities first)) ∧
      ∀ methods : List Method,
        collectUtilities methods = (methodsRendered methods).foldl noteUtility [] ∧
          (collectUtilities methods).Nodup ∧
          (∀ type : String,
            type ∈ (collectUtilities methods).map Utility.name ↔
              (∃ utility : Utility, utility.name = type) ∧
                ∃ method ∈ methods, ∃ ancestors element,
                  Occurs method.elements ancestors element ∧
                    element.type = type ∧
                    ∀ ancestor ∈ ancestors, ancestor.isBlock) ∧
          ((∀ method ∈ methods, ∀ element ∈ elementsWalk method.elements,
              ¬element.isBlock → element.childList = []) →
            collectUtilities methods =
              ((methods.flatMap fun method => elementsWalk method.elements).filterMap
                Element.utility?).eraseDups) := by
  refine ⟨fun first second => ?_, fun methods => ⟨?_, ?_, fun type => ?_, fun leaves => ?_⟩⟩
  · simp only [collectUtilities_eq, methodsRendered, List.flatMap_append, List.filterMap_append]
    exact firstOccurrences_append _ _
  · rw [collectUtilities_eq, foldl_noteUtility, firstOccurrences_eq_foldl]
  · exact nodup_firstOccurrences _
  · simp only [collectUtilities_eq, methodsRendered, List.mem_map, mem_firstOccurrences,
      List.mem_filterMap, List.mem_flatMap, mem_elementsRendered_iff,
      Element.utility?_eq_some_iff]
    constructor
    · rintro ⟨utility, ⟨element, ⟨method, member, ancestors, occurs, blocks⟩, own⟩, rfl⟩
      exact ⟨⟨utility, rfl⟩, method, member, ancestors, element, occurs, own, blocks⟩
    · rintro ⟨⟨utility, rfl⟩, method, member, ancestors, element, occurs, own, blocks⟩
      exact ⟨utility, ⟨element, ⟨method, member, ancestors, occurs, blocks⟩, own⟩, rfl⟩
  · rw [collectUtilities_eq, firstOccurrences_eq_eraseDups]
    congr 2
    exact List.flatMap_congr fun method member =>
      elementsRendered_eq_elementsWalk (leaves method member)

/-- Two methods whose utilities are inside blocks or at the top, some of them twice. -/
def blocksWithUtilities : List Method := [
  { name := "Scan"
    elements := [
      { type := "for", children := some [
          { type := "swap" },
          { type := "if", children := some [{ type := "is-prime" }, { type := "swap" }] }] },
      { type := "return" }] },
  { name := "Check", elements := [{ type := "is-prime" }, { type := "is-even" }] }]

theorem blocksWithUtilities_collected :
    (∀ method ∈ blocksWithUtilities, ∀ element ∈ elementsWalk method.elements,
        ¬element.isBlock → element.childList = []) ∧
      ((blocksWithUtilities.flatMap fun method => elementsWalk method.elements).filterMap
          Element.utility?) = [.swap, .isPrime, .swap, .isPrime, .isEven] ∧
      collectUtilities blocksWithUtilities = [.swap, .isPrime, .isEven] := by
  have leaves :
      ∀ method ∈ blocksWithUtilities, ∀ element ∈ elementsWalk method.elements,
        ¬element.isBlock → element.childList = [] := by
    have each :
        ∀ method ∈ blocksWithUtilities, ∀ element ∈ elementsWalk method.elements,
          element.isBlock ∨ element.childList.isEmpty := by
      decide +kernel
    intro method member element inside leaf
    exact List.isEmpty_iff.1 ((each method member element inside).resolve_left leaf)
  have met :
      ((blocksWithUtilities.flatMap fun method => elementsWalk method.elements).filterMap
          Element.utility?) = [.swap, .isPrime, .swap, .isPrime, .isEven] := by
    decide +kernel
  obtain ⟨_, _, _, collected⟩ := collectUtilities_orderedSet.2 blocksWithUtilities
  refine ⟨leaves, met, ?_⟩
  rw [collected leaves, met]
  decide

end Blockwright
