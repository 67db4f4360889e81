import Blockwright.Project.Basic

/-!
# Walks over a project

Two walks over the elements of a project.  `walk` visits every element, parents
before children.  `uses` visits only what is written to the source file, so it
goes into the children of blocks alone, and keeps the utilities it meets; a
file defines each of them once, in the order of their first use.
-/

namespace Blockwright

mutual

/-- An element and all elements below it, parents first. -/
def Element.walk : Element → List Element
  | ⟨id, type, content, properties, children, position⟩ =>
      ⟨id, type, content, properties, children, position⟩ :: childrenWalk children

/-- All elements below an element. -/
def childrenWalk : Option (List Element) → List Element
  | none => []
  | some elements => elementsWalk elements

/-- The elements of a list and all elements below them. -/
def elementsWalk : List Element → List Element
  | [] => []
  | element :: others => element.walk ++ elementsWalk others

end

/-- Every element of a project in order. -/
def Project.walk (project : Project) : List Element :=
  project.methods.flatMap fun method => elementsWalk method.elements

mutual

/-- The utilities that writing an element uses, in order and with repetitions. -/
def Element.uses : Element → List Utility
  | ⟨_, type, _, _, children, _⟩ =>
      match Tag.ofName? type with
      | some (.utility kind) => [kind]
      | some (.block _) => childrenUses children
      | _ => []

/-- The utilities that writing an element's children uses. -/
def childrenUses : Option (List Element) → List Utility
  | none => []
  | some elements => elementsUses elements

/-- The utilities that writing the elements of a list uses. -/
def elementsUses : List Element → List Utility
  | [] => []
  | element :: others => element.uses ++ elementsUses others

end

/-- The members of a list at their first occurrences. -/
def firstOccurrences {α : Type} [DecidableEq α] : List α → List α
  | [] => []
  | first :: others => first :: (firstOccurrences others).filter (· ≠ first)

theorem mem_firstOccurrences {α : Type} [DecidableEq α] (items : List α) (item : α) :
    item ∈ firstOccurrences items ↔ item ∈ items := by
  induction items with
  | nil => simp [firstOccurrences]
  | cons first others ih =>
      by_cases same : item = first <;> simp [firstOccurrences, ih, same]

/-- The utilities that methods use, each once and in the order of first use. -/
def collectUtilities (methods : List Method) : List Utility :=
  firstOccurrences (methods.flatMap fun method => elementsUses method.elements)

end Blockwright
