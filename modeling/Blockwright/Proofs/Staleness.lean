import Mathlib.Data.List.Nodup
import Blockwright.Project.Edit
import Blockwright.Proofs.Gaps
import Blockwright.Proofs.LineBreaks.Headers

/-!
# Staleness

A generator that is kept while its project is edited writes the methods as they are
and the definitions of utilities as they were needed when it was made.  What it
writes is up to date just if the language does not define utilities for the class, or
the methods use the same utilities, in the same order of first use, as they did then.

That a difference in utilities always shows in the text rests on two facts about
definitions: each begins with a line of its own, and none holds an empty line, which
is what sets them apart.
-/

namespace Blockwright

open Layout

/-! ## Blocks that can be told apart -/

namespace Layout

/-- Lines that stay together in a text: there are some, none is empty and none is broken. -/
structure Compact (block : List Line) : Prop where
  nonempty : block ≠ []
  written : [] ∉ block
  unbroken : Unbroken block

theorem unbroken_flatMap_cons
    {blocks : List (List Line)}
    (compact : ∀ block ∈ blocks, Compact block) :
    Unbroken (blocks.flatMap ([] :: ·)) := by
  rw [unbroken_flatMap]
  intro block member
  exact (unbroken_cons _ _).2 ⟨List.not_mem_nil, (compact block member).unbroken⟩

/-- Blocks without empty lines are found again between the empty lines before them. -/
theorem flatMap_cons_inj
    {first second : List (List Line)}
    (firstCompact : ∀ block ∈ first, Compact block)
    (secondCompact : ∀ block ∈ second, Compact block)
    (same : first.flatMap ([] :: ·) = second.flatMap ([] :: ·)) :
    first = second := by
  have found {blocks : List (List Line)} (compact : ∀ block ∈ blocks, Compact block) :
      (blocks.flatMap ([] :: ·)).splitOn [] = [] :: blocks := by
    have pieces : ∀ block ∈ [] :: blocks, ([] : Line) ∉ block :=
      List.forall_mem_cons.2 ⟨List.not_mem_nil, fun block member => (compact block member).written⟩
    rw [← List.splitOn_intercalate [] pieces (List.cons_ne_nil _ _), ← separated_eq_intercalate,
      separated_cons, List.nil_append]
  have pieces := congrArg (List.splitOn []) same
  rw [found firstCompact, found secondCompact] at pieces
  exact (List.cons.inj pieces).2

/-- Compact blocks behind the same lines are told apart by the text. -/
theorem eq_of_ofLines_separated
    {front first second : List (List Line)}
    (firstCompact : ∀ block ∈ first, Compact block)
    (secondCompact : ∀ block ∈ second, Compact block)
    (same :
      Text.ofLines (separated (front ++ first)) = Text.ofLines (separated (front ++ second))) :
    first = second := by
  cases front with
  | cons block others =>
      simp only [List.cons_append, separated_cons, List.flatMap_append, Text.ofLines_append,
        List.append_cancel_left_eq] at same
      exact flatMap_cons_inj firstCompact secondCompact
        (Text.ofLines_inj (unbroken_flatMap_cons firstCompact)
          (unbroken_flatMap_cons secondCompact) same)
  | nil =>
      have lines : separated first = separated second :=
        Text.ofLines_inj
          ((unbroken_separated first).2 fun block member => (firstCompact block member).unbroken)
          ((unbroken_separated second).2 fun block member => (secondCompact block member).unbroken)
          same
      cases first with
      | nil =>
          cases second with
          | nil => rfl
          | cons block others =>
              rw [separated_cons] at lines
              exact absurd (List.append_eq_nil_iff.1 lines.symm).1
                (secondCompact block List.mem_cons_self).nonempty
      | cons block others =>
          cases second with
          | nil =>
              rw [separated_cons] at lines
              exact absurd (List.append_eq_nil_iff.1 lines).1
                (firstCompact block List.mem_cons_self).nonempty
          | cons other more =>
              rw [separated_cons, separated_cons] at lines
              apply flatMap_cons_inj firstCompact secondCompact
              rw [List.flatMap_cons, List.flatMap_cons, List.cons_append, List.cons_append, lines]

end Layout

theorem infix_separated
    {block : List Line} {blocks : List (List Line)}
    (member : block ∈ blocks) :
    block <:+: separated blocks := by
  fun_induction separated blocks with
  | case1 => exact absurd member List.not_mem_nil
  | case2 only =>
      obtain rfl := List.mem_singleton.1 member
      exact List.infix_refl block
  | case3 first others _ ih =>
      rcases List.mem_cons.1 member with rfl | later
      · exact (List.prefix_append _ _).isInfix
      · have rest : separated others <:+ first ++ [] :: separated others :=
          (List.suffix_cons _ _).trans (List.suffix_append _ _)
        exact (ih later).trans rest.isInfix

/-! ## Definitions -/

theorem Utility.mem_all
    (utility : Utility) :
    utility ∈ Utility.all := by
  cases utility <;> decide

namespace Language

/-- The line that a utility's source begins with. -/
def utilityHeader (language : Language) (utility : Utility) : Option Text :=
  (language.utilityLines utility).head?.map String.toList

theorem flush_utilityHeader
    (language : Language) (utility : Utility) :
    ∃ header ∈ language.utilityHeader utility,
      '\n' ∉ header ∧ header ≠ [] ∧ header.head? ≠ some ' ' := by
  cases language <;> cases utility
  all_goals
    refine ⟨_, rfl, ?_⟩
    rw [String.toList_ofList]
    decide

set_option maxRecDepth 10000 in
/-- No two utilities begin with the same line. -/
theorem nodup_utilityHeaders
    (language : Language) :
    (Utility.all.map language.utilityHeader).Nodup := by
  cases language
  all_goals
    simp only [Utility.all, utilityHeader, utilityLines, Dialect.CSharp.utility,
      Dialect.Java.utility, Dialect.JavaScript.utility, Dialect.Python.utility, List.map_cons,
      List.map_nil, List.head?_cons, Option.map_some]
    repeat rw [String.toList_ofList]
    decide +kernel

end Language

namespace Generator

variable (generator : Generator)

theorem compact_definition
    (depth : Int) (utility : Utility) :
    Compact (generator.definition depth utility) where
  nonempty := by simp [definition, lines, Layout.lines]
  written := generator.nil_not_mem_definition depth utility
  unbroken := unbroken_lines _ depth _

theorem head?_definition
    (depth : Int) (utility : Utility) :
    (generator.definition depth utility).head? =
      (generator.language.utilityHeader utility).map (generator.indent depth ++ ·) := by
  obtain ⟨header, own, unbroken, nonempty, flush⟩ :=
    generator.language.flush_utilityHeader utility
  obtain ⟨opening, begins, spelled⟩ := Option.map_eq_some_iff.1 own
  obtain ⟨others, source⟩ := List.head?_eq_some_iff.1 begins
  have first :
      (List.splitOn '\n' (generator.language.utilitySource utility)).head? = some header := by
    rw [Language.utilitySource, source, List.map_cons, spelled]
    exact Text.head?_splitOn_intercalate unbroken _
  rw [definition, lines, Layout.lines, List.head?_map, first, own, Option.map_some,
    Option.map_some, line_of_flush nonempty flush, indent]

theorem definition_injective
    (depth : Int) :
    Function.Injective (generator.definition depth) := by
  intro first second same
  have heads := congrArg List.head? same
  rw [head?_definition, head?_definition] at heads
  have headers :
      generator.language.utilityHeader first = generator.language.utilityHeader second :=
    Option.map_injective (fun _ _ => List.append_cancel_left) heads
  exact List.inj_on_of_nodup_map generator.language.nodup_utilityHeaders first.mem_all
    second.mem_all headers

/-! ## Files -/

/-- The lines around the class body, and the methods in it, are those of every generator. -/
theorem file_around
    (braces : generator.language ≠ .python)
    (project : Project) :
    ∃ (before after : List Line) (depth : Int),
      ∀ hoisted : List Utility,
        ({ generator with hoisted := hoisted } : Generator).file project =
          before ++
            separated
              (project.methods.map (generator.methodLines depth) ++
                hoisted.map (generator.definition depth)) ++
            after := by
  refine ⟨generator.prologue project, generator.epilogue project,
    generator.language.memberDepth project, fun hoisted => ?_⟩
  have written := ({ generator with hoisted := hoisted } : Generator).file_eq project
  rw [body, if_neg fun none => braces none.1] at written
  exact written

/-- Which utilities are defined, and in which order, can be read off the text. -/
theorem source_eq_iff
    (braces : generator.language ≠ .python)
    (project : Project)
    (first second : List Utility) :
    ({ generator with hoisted := first } : Generator).source project =
        ({ generator with hoisted := second } : Generator).source project ↔
      first = second := by
  constructor
  · intro same
    obtain ⟨before, after, depth, around⟩ := generator.file_around braces project
    rw [source, source, around, around] at same
    simp only [Text.ofLines_append, List.append_cancel_right_eq,
      List.append_cancel_left_eq] at same
    have compact (utilities : List Utility) :
        ∀ block ∈ utilities.map (generator.definition depth), Compact block :=
      List.forall_mem_map.2 fun utility _ => generator.compact_definition depth utility
    have definitions := eq_of_ofLines_separated (compact first) (compact second) same
    exact List.map_injective_iff.2 (generator.definition_injective depth) definitions
  · rintro rfl
    rfl

/-- A utility that is defined for the class is defined in the file of every project. -/
theorem definition_infix_source
    (braces : generator.language ≠ .python)
    (project : Project)
    {utility : Utility}
    (hoisted : utility ∈ generator.hoisted) :
    ∃ depth : Int,
      Text.ofLines (generator.definition depth utility) <:+: generator.source project := by
  obtain ⟨before, after, depth, around⟩ := generator.file_around braces project
  have block :
      generator.definition depth utility <:+:
        separated
          (project.methods.map (generator.methodLines depth) ++
            generator.hoisted.map (generator.definition depth)) :=
    infix_separated (List.mem_append_right _ (List.mem_map_of_mem hoisted))
  have inside : generator.definition depth utility <:+: generator.file project := by
    rw [around generator.hoisted]
    exact block.trans (List.infix_append _ _ _)
  obtain ⟨first, last, written⟩ := inside
  refine ⟨depth, Text.ofLines first, Text.ofLines last, ?_⟩
  rw [source, ← written, Text.ofLines_append, Text.ofLines_append]

end Generator

/--
A generator that was made for other methods writes a project as a generator made for
it does just if no utility is defined for the class, or both use the same utilities in
the same order.
-/
theorem Generator.make_source_eq_iff
    (language : Language) (settings : Settings)
    (made : List Method) (project : Project) :
    (make language settings made).source project = project.sourceIn language settings ↔
      (language.hoists settings = true →
        collectUtilities made = collectUtilities project.methods) := by
  let bare : Generator := ⟨language, settings, []⟩
  by_cases hoists : language.hoists settings = true
  · have braces : bare.language ≠ .python := Language.ne_python_of_hoists hoists
    have law :=
      bare.source_eq_iff braces project (collectUtilities made) (collectUtilities project.methods)
    simpa [make, Project.sourceIn, hoists] using law
  · simp [make, Project.sourceIn, hoists]

/-! ## A generator that is kept -/

/-- A change that is made to the elements and the methods of a project. -/
inductive Change where
  | add (place : Place) (position : Nat) (element : Element)
  | remove (place : Place) (index : Nat)
  | retype (place : Place) (index : Nat) (type : String)
  /-- An element taken out of one list and put into another, which may lie inside a block. -/
  | move (place : Place) (index : Nat) (target : Place) (position : Nat)
  | addMethod (method : Method)
  | removeMethod (index : Nat)

/-- The project after a change; one at a place that does not exist changes nothing. -/
def Change.apply (change : Change) (project : Project) : Project :=
  let put (element : Element) (position : Nat) (elements : List Element) :
      Option (List Element × Unit) :=
    some (insertItem element position elements, ())
  let changed : Option Project :=
    match change with
    | .add place position element => do
        let (project, _) ← project.edit place (put element position)
        return project
    | .remove place index => do
        let (project, _) ← project.remove place index
        return project
    | .retype place index type => do
        let (project, _) ← project.edit place fun elements => do
          let element ← elements[index]?
          return (elements.set index { element with type := type }, ())
        return project
    | .move place index target position => do
        let (project, element) ← project.remove place index
        let (project, _) ← project.edit target (put element position)
        return project
    | .addMethod method => some (project.addMethod method)
    | .removeMethod index => some { project with methods := project.methods.eraseIdx index }
  changed.getD project

/-- A generator with the project that it writes. -/
structure Workbench where
  generator : Generator
  project : Project

/-- What is done at a workbench: the project is changed, or its file is written. -/
inductive WorkStep where
  | change (change : Change)
  | write

/-- The text of a file, and the project as it was when the file was written. -/
structure Written where
  project : Project
  text : Text

namespace Workbench

/-- A workbench with the generator made for the project. -/
def make (language : Language) (settings : Settings) (project : Project) : Workbench :=
  ⟨Generator.make language settings project.methods, project⟩

/-- The workbench after a step; no step touches the generator. -/
def take (step : WorkStep) (bench : Workbench) : Workbench :=
  match step with
  | .change change => { bench with project := change.apply bench.project }
  | .write => bench

/-- The files that are written in the course of steps, in order. -/
def run : List WorkStep → Workbench → List Written
  | [], _ => []
  | .change change :: steps, bench => run steps (bench.take (.change change))
  | .write :: steps, bench =>
      ⟨bench.project, bench.generator.source bench.project⟩ :: run steps (bench.take .write)

theorem generator_take
    (step : WorkStep) (bench : Workbench) :
    (bench.take step).generator = bench.generator := by
  cases step <;> rfl

/-- Every file of a run is written by the generator that the run began with. -/
theorem text_of_mem_run
    {steps : List WorkStep} {bench : Workbench} {written : Written}
    (member : written ∈ bench.run steps) :
    written.text = bench.generator.source written.project := by
  induction steps generalizing bench with
  | nil => exact absurd member List.not_mem_nil
  | cons step steps ih =>
      have later (rest : written ∈ (bench.take step).run steps) :
          written.text = bench.generator.source written.project := by
        rw [ih rest, generator_take]
      cases step with
      | change change => exact later member
      | write =>
          rcases List.mem_cons.1 member with rfl | rest
          · rfl
          · exact later rest

end Workbench

/--
A generator that is kept while its project is changed writes what a generator made for
the changed project writes just if it defines no utility for the class, or the methods
use the same utilities, in the same order, as when it was made.  It goes on defining
the utilities that were used then.
-/
theorem Workbench.text_eq_sourceIn_iff
    (language : Language) (settings : Settings)
    (project : Project)
    (steps : List WorkStep) :
    ∀ written ∈ (Workbench.make language settings project).run steps,
      (written.text = written.project.sourceIn language settings ↔
          (language.hoists settings = true →
            collectUtilities project.methods = collectUtilities written.project.methods)) ∧
        (language.hoists settings = true →
          ∀ utility ∈ collectUtilities project.methods,
            ∃ depth : Int,
              Text.ofLines
                  ((Generator.make language settings project.methods).definition depth utility) <:+:
                written.text) := by
  intro written member
  rw [text_of_mem_run member]
  refine ⟨Generator.make_source_eq_iff language settings project.methods written.project, ?_⟩
  intro hoists utility used
  have hoisted : utility ∈ (Generator.make language settings project.methods).hoisted := by
    simpa [Generator.make, hoists] using used
  exact Generator.definition_infix_source _ (Language.ne_python_of_hoists hoists) _ hoisted

/-- A utility is put into a choice, which is a change that keeps what is used. -/
def nestingUtility : List WorkStep := [.change (.move ⟨0, []⟩ 1 ⟨0, [0]⟩ 0), .write]

/-- A method with a choice and, after it, a utility. -/
def choiceThenUtility : Project where
  methods := [{ elements := [{ type := "if" }, { type := "is-even" }] }]

theorem nestingUtility_fresh :
    ∃ written ∈ (Workbench.make .java .standard choiceThenUtility).run nestingUtility,
      written.project.methods.map (·.elements.map (·.childList.map (·.type))) = [[["is-even"]]] ∧
        written.text = written.project.sourceIn .java .standard := by
  refine ⟨_, List.mem_singleton.2 rfl, by decide, ?_⟩
  have law :=
    Workbench.text_eq_sourceIn_iff .java .standard choiceThenUtility nestingUtility _
      (List.mem_singleton.2 rfl)
  exact law.1.2 fun _ => by decide

/-- A utility comes to be used after the generator was made. -/
def lateUtility : List WorkStep := [.change (.add ⟨0, []⟩ 0 { type := "is-even" }), .write]

theorem lateUtility_undefined :
    ∃ written ∈ (Workbench.make .csharp .standard {}).run lateUtility,
      written.text ≠ written.project.sourceIn .csharp .standard ∧
        "            // IsEven(): utility method defined at class level".toList ∈
          List.splitOn '\n' written.text ∧
        "        public static bool IsEven(int number)".toList ∉
          List.splitOn '\n' written.text := by
  decide +kernel

end Blockwright
