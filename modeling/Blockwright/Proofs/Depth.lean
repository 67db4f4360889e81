import Blockwright.Proofs.Reindenting

/-!
# Depth

Depth only shifts what is written.  One level deeper, the lines of an element are
the same lines with one level of spaces before each, and an empty line stays
empty; so it is for the methods and for the whole body of a class, whatever texts
the project contributes.

Lines that are laid out rather than moved are indented even when they are empty,
so the law rests on headers that never are.  Above the outermost level there are
no spaces to add, and depths below zero are left out.
-/

namespace Blockwright

namespace Layout

/-- A line moved one level deeper; an empty line stays empty. -/
def shift (width : Nat) (line : Line) : Line :=
  if line = [] then [] else indent width 1 ++ line

@[simp]
theorem shift_nil
    (width : Nat) :
    shift width [] = [] :=
  rfl

section Deeper

variable (width : Nat) {depth : Int} (within : 0 ≤ depth)

include within

theorem indent_succ :
    indent width (depth + 1) = indent width 1 ++ indent width depth := by
  have levels : (depth + 1).toNat = 1 + depth.toNat := by omega
  rw [indent, indent, indent, levels, List.replicate_append_replicate, Nat.mul_add]
  rfl

theorem indent_succ_append
    {text : Text}
    (written : text ≠ []) :
    indent width (depth + 1) ++ text = shift width (indent width depth ++ text) := by
  have some : indent width depth ++ text ≠ [] := by simp [written]
  rw [shift, if_neg some, indent_succ width within, List.append_assoc]

/-- A line keeps its own nesting at every depth. -/
theorem line_succ
    (raw : Text) :
    line width (depth + 1) raw = shift width (line width depth raw) := by
  simp only [line]
  split
  · rfl
  · next stripped =>
      have own : 0 ≤ ((leadingSpaces raw / nesting : Nat) : Int) := Int.natCast_nonneg _
      have reordered :
          depth + 1 + (leadingSpaces raw / nesting : Nat) =
            depth + (leadingSpaces raw / nesting : Nat) + 1 := by
        omega
      rw [reordered, List.append_assoc, List.append_assoc]
      apply indent_succ_append width (Int.add_nonneg within own)
      intro empty
      exact stripped (List.append_eq_nil_iff.1 empty).2

end Deeper

/-- Lines written one level deeper, behind whatever is not empty. -/
def deepening (width : Nat) : Reindenting width width where
  offset := 1
  Within depth := 0 ≤ depth
  Begins text := text ≠ []
  move := shift width
  within_add within below := Int.add_nonneg within below
  begins_of_flush flush := ((Text.flush_iff _).1 flush).1
  begins_append written rest := List.append_ne_nil_of_left_ne_nil written rest
  move_nil := shift_nil width
  move_indent within written := indent_succ_append width within written
  move_line raw within := line_succ width within raw

end Layout

/-! ## Elements, methods and classes -/

namespace Generator

variable (generator : Generator) {depth : Int} (within : 0 ≤ depth)

/-- A line of the file moved one level deeper. -/
def shift (line : Line) : Line :=
  Layout.shift generator.settings.indentWidth line

include within

/-- One level deeper, an element is the same lines shifted once. -/
theorem elementLines_succ
    (element : Element) :
    generator.elementLines (depth + 1) element =
      (generator.elementLines depth element).map generator.shift :=
  move_elementLines generator.language generator.hoisted
    (Layout.deepening generator.settings.indentWidth) rfl within element

theorem members_succ
    (methods : List Method) :
    generator.members (depth + 1) methods =
      (generator.members depth methods).map generator.shift := by
  apply move_members generator.language generator.hoisted
    (Layout.deepening generator.settings.indentWidth) rfl within
  · intro method _
    exact generator.methodHeader_ne_nil method
  · intro method _ text member
    apply Layout.indent_succ_append _ within
    rintro rfl
    exact generator.nil_not_mem_methodPreamble method member

theorem csharpClass_succ
    (project : Project) :
    generator.csharpClass (depth + 1) project =
      (generator.csharpClass depth project).map generator.shift := by
  have moved (text : Text) :
      generator.lines (depth + 1) text = (generator.lines depth text).map generator.shift :=
    (Layout.deepening generator.settings.indentWidth).move_lines within text
  have deeper : 0 ≤ depth + 1 := Int.add_nonneg within Int.one_nonneg
  rw [csharpClass, csharpClass, moved, moved, moved, generator.members_succ deeper]
  simp only [List.map_append]

end Generator

/--
One level deeper, the lines of an element and those of a class body are the same
lines shifted once; and the lines of a C# class inside a namespace are those of
the class without the namespace, shifted once.
-/
theorem Generator.lines_deeper
    (generator : Generator) (depth : Nat) :
    (∀ element : Element,
        generator.elementLines (depth + 1) element =
          (generator.elementLines depth element).map generator.shift) ∧
      (∀ methods : List Method,
        generator.members (depth + 1) methods =
          (generator.members depth methods).map generator.shift) ∧
      (generator.language = .csharp →
        ∀ project : Project,
          project.namespaceName ≠ "" →
            ∃ classLines : List Line,
              generator.file { project with namespaceName := "" } =
                  csharpPrologue ++ [] :: classLines ∧
                generator.file project =
                  csharpPrologue ++ [] ::
                    ("namespace ".toList ++ project.namespaceName.toList) :: openingBrace ::
                      (classLines.map generator.shift ++ [closingBrace])) := by
  have within : (0 : Int) ≤ depth := Int.natCast_nonneg depth
  refine ⟨generator.elementLines_succ within, generator.members_succ within, ?_⟩
  intro csharp project named
  refine ⟨generator.csharpClass 0 project, ?_, ?_⟩
  · simp only [file, csharp, csharpFile]
    rfl
  · have inside := generator.csharpClass_succ (Int.le_refl 0) project
    rw [Int.zero_add] at inside
    simp [file, csharp, csharpFile, namespaceLine, named, inside]

/-- A class with a method that switches over a value, inside a namespace. -/
def switching : Project where
  namespaceName := "Shop"
  methods := [{ elements := [{ type := "switch", children := some [{ type := "is-odd" }] }] }]

theorem switching_deeper :
    let generator := Generator.make .csharp .standard switching.methods
    generator.language = .csharp ∧
      switching.namespaceName ≠ "" ∧
      ∃ classLines : List Line,
        generator.file { switching with namespaceName := "" } =
            Generator.csharpPrologue ++ [] :: classLines ∧
          generator.file switching =
            Generator.csharpPrologue ++ [] :: "namespace Shop".toList :: ['{'] ::
              (classLines.map generator.shift ++ [['}']]) := by
  intro generator
  have csharp : generator.language = .csharp := rfl
  have named : switching.namespaceName ≠ "" := by decide
  exact ⟨csharp, named, (Generator.lines_deeper generator 0).2.2 csharp switching named⟩

end Blockwright
