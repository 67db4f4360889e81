import Blockwright.Proofs.Blocks
import Mathlib.Data.List.Basic

/-!
# Hoisted utilities

A generator that defines utilities once for the class finds them by a walk of
its own, before any method is written.  Writing the methods is a second walk,
which leaves a call wherever a utility is used.  The two walks meet the same
utilities in the same order, so the definitions that close the class body are
those of the calls, each at its first occurrence and none besides.
-/

namespace Blockwright

/-! ## First occurrences -/

section FirstOccurrences

variable {α : Type} [DecidableEq α]

theorem firstOccurrences_filter
    (keep : α → Bool) (items : List α) :
    firstOccurrences (items.filter keep) = (firstOccurrences items).filter keep := by
  induction items with
  | nil => rfl
  | cons first others ih =>
      cases kept : keep first with
      | true =>
          simp only [List.filter_cons, kept, if_true, firstOccurrences, ih, List.filter_filter]
          simp only [Bool.and_comm]
      | false =>
          have dropped (item : α) (holds : keep item) : item ≠ first := by
            rintro rfl
            simp [kept] at holds
          simp only [List.filter_cons, kept, Bool.false_eq_true, if_false, firstOccurrences, ih,
            List.filter_filter]
          apply List.filter_congr
          intro item _
          cases holds : keep item with
          | true => simp [dropped item holds]
          | false => rfl

/-- Keeping the first occurrences is erasing the later duplicates. -/
theorem firstOccurrences_eq_eraseDups
    (items : List α) :
    firstOccurrences items = items.eraseDups := by
  match items with
  | [] => rfl
  | first :: others =>
      have rest := firstOccurrences_eq_eraseDups (others.filter fun item => !item == first)
      rw [List.eraseDups_cons, ← rest, firstOccurrences_filter, firstOccurrences]
      congr 1
      apply List.filter_congr
      intro item _
      by_cases same : item = first <;> simp [same]
termination_by items.length
decreasing_by
  have shorter := List.length_filter_le (fun item => !item == first) others
  simp only [List.length_cons]
  omega

theorem nodup_firstOccurrences
    (items : List α) :
    (firstOccurrences items).Nodup := by
  induction items with
  | nil => exact List.nodup_nil
  | cons first others ih =>
      rw [firstOccurrences, List.nodup_cons]
      exact ⟨by simp, ih.filter _⟩

end FirstOccurrences

/-! ## Calls -/

/-- The utility that an entry calls. -/
def Entry.utility? : Entry → Option Utility
  | .call utility _ => some utility
  | _ => none

section OpenEntries

variable {β : Type} (read : Entry → Option β)
variable (closed : ∀ text : Line, read (.line text) = none)

include closed

theorem filterMap_map_line
    (lines : List Line) :
    (lines.map Entry.line).filterMap read = [] := by
  simp [closed]

theorem Outline.Setting.filterMap_filled
    (setting : Outline.Setting) (depth : Int)
    (body : List Entry) :
    (setting.filled depth body).filterMap read = body.filterMap read := by
  simp only [filled]
  split
  · next empty => simp [empty.2, closed]
  · rfl

/-- What is read off open entries alone is read off a block's children. -/
theorem Outline.filterMap_block
    (setting : Outline.Setting) (fields : Fields) (depth : Int)
    (body : List Entry) (kind : Block) :
    (Outline.block setting fields depth body kind).filterMap read =
      body.filterMap read := by
  have middle :
      (Outline.blockBody setting depth body kind).filterMap read = body.filterMap read := by
    simp only [Outline.blockBody]
    split
    · rfl
    · exact setting.filterMap_filled read closed _ body
  rw [Outline.block_eq, List.filterMap_append, List.filterMap_append,
    filterMap_map_line read closed, filterMap_map_line read closed, middle,
    List.nil_append, List.append_nil]

variable {own : Element → Option β}
variable
  (stands :
    ∀ element depth,
      own element =
        match element.tag? with
        | none => read (.unknown element.type depth)
        | some (.utility kind) => read (.call kind depth)
        | _ => none)

include stands

/-- What is read off open entries alone is read off the elements that are written. -/
theorem Element.filterMap_outline
    (setting : Outline.Setting) (depth : Int)
    (element : Element) :
    (element.outline setting depth).filterMap read = element.rendered.filterMap own := by
  induction element using Element.childInduction generalizing depth with
  | step element ih =>
      have self := stands element depth
      rw [outline_eq, rendered_eq, List.filterMap_cons]
      rcases tag : element.tag? with _ | (kind | kind | kind)
      · simp only [tag] at self
        rw [self]
        rfl
      · simp only [tag] at self
        rw [self]
        exact filterMap_map_line read closed _
      · simp only [tag] at self
        simp only [self]
        rw [Outline.filterMap_block read closed, List.filterMap_flatMap, List.filterMap_flatMap]
        exact List.flatMap_congr fun child member => ih child member (depth + kind.childDepth)
      · simp only [tag] at self
        rw [self]
        rfl

theorem Generator.filterMap_methodOutline
    (generator : Generator) (depth : Int) (method : Method) :
    (generator.methodOutline depth method).filterMap read =
      (elementsRendered method.elements).filterMap own := by
  rw [methodOutline_eq, List.filterMap_append, List.filterMap_append,
    filterMap_map_line read closed, filterMap_map_line read closed,
    generator.setting.filterMap_filled read closed, List.nil_append, List.append_nil,
    elementsRendered_eq_flatMap, List.filterMap_flatMap, List.filterMap_flatMap]
  exact List.flatMap_congr fun element _ =>
    element.filterMap_outline read closed stands generator.setting (depth + 1)

end OpenEntries

/-- The utility that an element is. -/
def Element.utility? (element : Element) : Option Utility :=
  element.tag?.bind Tag.utility?

/-- The utilities that writing an element uses are those among what is written for it. -/
theorem Element.uses_eq_filterMap_rendered
    (element : Element) :
    element.uses = element.rendered.filterMap Element.utility? := by
  induction element using Element.childInduction with
  | step element ih =>
      rw [uses_eq, rendered_eq, List.filterMap_cons, utility?]
      rcases element.tag? with _ | (kind | kind | kind)
      · rfl
      · rfl
      · simp only [Option.bind_some, Tag.utility?, List.filterMap_flatMap]
        exact List.flatMap_congr fun child member => ih child member
      · rfl

theorem elementsUses_eq_filterMap_rendered
    (elements : List Element) :
    elementsUses elements = (elementsRendered elements).filterMap Element.utility? := by
  rw [elementsUses_eq_flatMap, elementsRendered_eq_flatMap, List.filterMap_flatMap]
  exact List.flatMap_congr fun element _ => element.uses_eq_filterMap_rendered

/-- An element stands in an outline for the utility that it is. -/
theorem Entry.utility?_eq
    (element : Element) (depth : Int) :
    element.utility? =
      match element.tag? with
      | none => utility? (.unknown element.type depth)
      | some (.utility kind) => utility? (.call kind depth)
      | _ => none := by
  rw [Element.utility?]
  rcases element.tag? with _ | (kind | kind | kind) <;> rfl

namespace Generator

variable (generator : Generator)

/-- The utilities that the outlines of methods call, in the order of the file. -/
def calls (depth : Int) (methods : List Method) : List Utility :=
  (methods.flatMap (generator.methodOutline depth)).filterMap Entry.utility?

/-- The calls of methods are what their elements use, at whatever depth they are written. -/
theorem calls_eq_uses
    (depth : Int) (methods : List Method) :
    generator.calls depth methods =
      methods.flatMap fun method => elementsUses method.elements := by
  rw [calls, List.filterMap_flatMap]
  apply List.flatMap_congr
  intro method _
  rw [filterMap_methodOutline _ (fun _ => rfl) Entry.utility?_eq,
    elementsUses_eq_filterMap_rendered]

end Generator

/-! ## Blocks of lines set apart -/

namespace Layout

/-- Lines of which neither the first nor the last is empty. -/
def Trimmed (block : List Line) : Prop :=
  block ≠ [] ∧ block.head? ≠ some [] ∧ block.getLast? ≠ some []

theorem trimmed_of_lines
    {block : List Line}
    (some : block ≠ [])
    (written : [] ∉ block) :
    Trimmed block :=
  ⟨some, fun first => written (List.mem_of_head? first),
    fun last => written (List.mem_of_getLast? last)⟩

theorem line_ne_nil
    {width : Nat} {depth : Int} {raw : Text}
    (written : raw.dropWhile (· = ' ') ≠ []) :
    line width depth raw ≠ [] := by
  unfold line
  split
  · next empty => exact absurd empty written
  · simp [written]

theorem trimmed_append
    {front : List Line} {last : Line}
    (some : front ≠ [])
    (frontWritten : [] ∉ front)
    (middle : List Line)
    (lastWritten : last ≠ []) :
    Trimmed (front ++ middle ++ [last]) := by
  refine ⟨by simp, ?_, by simpa using lastWritten⟩
  cases front with
  | nil => exact absurd rfl some
  | cons first others =>
      have firstWritten : first ≠ [] := fun empty => frontWritten (by simp [empty])
      simpa using firstWritten

end Layout

set_option maxRecDepth 10000 in
/-- No line of a utility's source is empty. -/
theorem Language.written_of_mem_utilitySource
    (language : Language) (utility : Utility) :
    ∀ raw ∈ List.splitOn '\n' (language.utilitySource utility),
      raw.dropWhile (· = ' ') ≠ [] := by
  cases language <;> cases utility
  all_goals
    simp only [utilitySource, utilityLines, Dialect.CSharp.utility, Dialect.Java.utility,
      Dialect.JavaScript.utility, Dialect.Python.utility, List.map_cons, List.map_nil]
    repeat rw [String.toList_ofList]
    decide

namespace Generator

variable (generator : Generator)

theorem nil_not_mem_definition
    (depth : Int) (utility : Utility) :
    [] ∉ generator.definition depth utility := by
  intro empty
  rcases List.mem_map.1 empty with ⟨raw, member, blank⟩
  exact Layout.line_ne_nil
    (generator.language.written_of_mem_utilitySource utility raw member) blank

theorem trimmed_definition
    (depth : Int) (utility : Utility) :
    Layout.Trimmed (generator.definition depth utility) := by
  apply Layout.trimmed_of_lines
  · simp [definition, lines, Layout.lines]
  · exact generator.nil_not_mem_definition depth utility

theorem phrase_ne_nil
    {parts : List Text} {part : Text}
    (member : part ∈ parts)
    (written : part ≠ []) :
    phrase parts ≠ [] := by
  have kept : part ∈ parts.filter (!·.isEmpty) := by simp [member, written]
  simp only [phrase]
  revert kept
  generalize parts.filter (!·.isEmpty) = pieces
  intro kept
  induction pieces using List.intersperse.induct with
  | case1 => simp at kept
  | case2 only => simpa [← List.mem_singleton.1 kept] using written
  | case3 first others more _ => simp [List.intercalate_cons_of_ne_nil more]

theorem signature_ne_nil
    (name : Text) (parameters : List Text) :
    signature name parameters ≠ [] := by
  simp [signature]

theorem methodHeader_ne_nil
    (method : Method) :
    generator.methodHeader method ≠ [] := by
  have typed : generator.typedHeader method ≠ [] := by
    simp only [typedHeader]
    exact phrase_ne_nil (List.mem_of_getLast? rfl) (signature_ne_nil _ _)
  have untyped : untypedHeader method ≠ [] :=
    signature_ne_nil _ _
  have hinted : generator.hintedHeader method ≠ [] := by
    simp [hintedHeader]
  simp only [methodHeader]
  split <;> assumption

theorem nil_not_mem_typeComment
    (method : Method) :
    [] ∉ generator.typeComment method := by
  simp only [typeComment]
  split
  · simp
  · intro member
    rcases List.mem_cons.1 member with opening | member
    · exact absurd opening (by decide)
    · rcases List.mem_append.1 member with parameter | closing
      · rcases List.mem_map.1 parameter with ⟨given, _, text⟩
        simp at text
      · simp at closing

theorem nil_not_mem_methodPreamble
    (method : Method) :
    [] ∉ generator.methodPreamble method := by
  have annotated := generator.nil_not_mem_typeComment method
  simp only [methodPreamble]
  split
  · exact List.not_mem_nil
  · exact List.not_mem_nil
  · exact annotated
  · split <;> simp

theorem trimmed_methodLines
    {kind : Layout.Braces}
    (braces : generator.language.style = .braces kind)
    (depth : Int) (method : Method) :
    Layout.Trimmed (generator.methodLines depth method) := by
  have style : generator.setting.language.style = .braces kind := braces
  have header := generator.methodHeader_ne_nil method
  have preamble :
      [] ∉ (generator.methodPreamble method).map (generator.indent depth ++ ·) := by
    intro empty
    rcases List.mem_map.1 empty with ⟨text, member, blank⟩
    have noText : text = [] := (List.append_eq_nil_iff.1 blank).2
    exact generator.nil_not_mem_methodPreamble method (noText ▸ member)
  have last :
      generator.setting.ending depth none [] =
        [generator.setting.indent depth ++ ['}']] := by
    simp [Outline.Setting.ending, style, Layout.closing]
  rw [methodLines_eq, last]
  apply Layout.trimmed_append
  · simp [generator.setting.opening_ne_nil]
  · rw [List.mem_append, not_or]
    constructor
    · exact preamble
    · cases kind <;> simp [Outline.Setting.opening, style, header]
  · simp

end Generator

theorem Language.ne_python_of_hoists
    {language : Language} {settings : Settings}
    (hoists : language.hoists settings = true) :
    language ≠ .python := by
  rintro rfl
  exact absurd hoists Bool.false_ne_true

/--
The definitions that close a class body are those of the calls that its methods
make.  The hoisted utilities are the called ones with later duplicates erased; the
class body is the methods in order and then one definition for each of them, set
apart by single empty lines; each call is one comment line; and a utility is
defined once if it is called and never otherwise.
-/
theorem Generator.members_hoisted
    {language : Language} {settings : Settings}
    (hoists : language.hoists settings = true)
    (methods : List Method)
    (depth : Int) :
    let generator := Generator.make language settings methods
    let calls := generator.calls depth methods
    let blocks :=
      methods.map (generator.methodLines depth) ++
        calls.eraseDups.map (generator.definition depth)
    generator.hoisted = calls.eraseDups ∧
      generator.members depth methods = [[]].intercalate blocks ∧
      (∀ block ∈ blocks, Layout.Trimmed block) ∧
      (∀ utility place,
        generator.entryLines (.call utility place) =
          [generator.comment place (generator.callText utility)]) ∧
      ∀ utility,
        generator.hoisted.count utility = if utility ∈ calls then 1 else 0 := by
  intro generator calls blocks
  obtain ⟨kind, braces⟩ := Language.exists_braces (Language.ne_python_of_hoists hoists)
  have collected : generator.hoisted = collectUtilities methods := by
    simp [generator, Generator.make, hoists]
  have used : collectUtilities methods = firstOccurrences calls := by
    rw [collectUtilities, ← generator.calls_eq_uses depth]
  have hoisted : generator.hoisted = calls.eraseDups := by
    rw [collected, used, firstOccurrences_eq_eraseDups]
  refine ⟨hoisted, ?_, ?_, ?_, ?_⟩
  · rw [Generator.members, Layout.separated_eq_intercalate, hoisted]
  · intro block member
    rcases List.mem_append.1 member with method | definition
    · rcases List.mem_map.1 method with ⟨written, _, rfl⟩
      exact generator.trimmed_methodLines braces depth written
    · rcases List.mem_map.1 definition with ⟨utility, _, rfl⟩
      exact generator.trimmed_definition depth utility
  · intro utility place
    have defining : generator.hoists = true := hoists
    rw [Generator.entryLines, if_pos defining]
  · intro utility
    have once : generator.hoisted.Nodup := by
      rw [collected, used]
      exact nodup_firstOccurrences calls
    rw [once.count]
    simp [hoisted]

/-- Two methods that use utilities in nested blocks and twice, and hold one that is not written. -/
def nestedUses : List Method := [
  { name := "Report"
    elements := [
      { type := "if-else", children := some [
          { type := "is-odd" },
          { type := "while", children := some [{ type := "factorial" }, { type := "is-odd" }] }] },
      { type := "mystery", children := some [{ type := "swap" }] }] },
  { name := "Check", elements := [{ type := "factorial" }, { type := "is-even" }] }]

theorem nestedUses_hoisted :
    Language.java.hoists .standard = true ∧
      (Generator.make .java .standard nestedUses).hoisted = [.isOdd, .factorial, .isEven] ∧
      (Generator.make .java .standard nestedUses).hoisted.count .swap = 0 := by
  have hoists : Language.java.hoists .standard = true := rfl
  obtain ⟨hoisted, _, _, _, once⟩ := Generator.members_hoisted hoists nestedUses 1
  refine ⟨hoists, ?_, ?_⟩
  · rw [hoisted]
    decide +kernel
  · rw [once]
    decide +kernel

end Blockwright
