import Blockwright.Proofs.LineBreaks.Texts

/-!
# Module comments

A JavaScript or Python file of a project with a namespace opens with a comment that names
it.  The types of elements outside the vocabulary are flattened before they are written as
comments, but the namespace is not: the comment ends with its first line, and its other
lines stand in the file between the comment and the module.

So two files of a project under two namespaces differ in their comments alone just if the
namespaces agree past their first lines.  This is shown for files that are cut at line
feeds and for files that are cut at every line boundary.
-/

namespace Blockwright

namespace Layout

/-- Two files, cut into lines, that differ at most in their first line, a comment in both. -/
def SameBelowComment (mark : Text) (first second : List Line) : Prop :=
  ∃ (firstComment secondComment : Line) (below : List Line),
    first = firstComment :: below ∧ second = secondComment :: below ∧
      mark <+: firstComment ∧ mark <+: secondComment

/-- Comments that begin alike are all that differs if the same lines follow them. -/
theorem sameBelowComment_cons_iff
    {mark opening : Text}
    (marked : mark <+: opening)
    (firstEnd secondEnd : Text) (first second below : List Line) :
    SameBelowComment mark
        ((opening ++ firstEnd) :: first ++ below) ((opening ++ secondEnd) :: second ++ below) ↔
      first = second := by
  constructor
  · rintro ⟨_, _, rest, firstCut, secondCut, _, _⟩
    have firstRest : first ++ below = rest := (List.cons.inj firstCut).2
    have secondRest : second ++ below = rest := (List.cons.inj secondCut).2
    exact List.append_cancel_right (firstRest.trans secondRest.symm)
  · rintro rfl
    exact ⟨_, _, _, rfl, rfl, marked.trans (List.prefix_append _ _),
      marked.trans (List.prefix_append _ _)⟩

/-- Cut at line feeds, the comments are all that differs if their texts agree past the first one. -/
theorem sameBelowComment_splitOn_iff
    {mark opening : Text}
    (marked : mark <+: opening)
    (whole : '\n' ∉ opening)
    (first second below : Text) :
    SameBelowComment mark
        (List.splitOn '\n' (opening ++ first ++ '\n' :: below))
        (List.splitOn '\n' (opening ++ second ++ '\n' :: below)) ↔
      (List.splitOn '\n' first).tail = (List.splitOn '\n' second).tail := by
  obtain ⟨firstLine, firstOthers, firstPieces, firstCut⟩ := Text.exists_splitOn_append whole first
  obtain ⟨secondLine, secondOthers, secondPieces, secondCut⟩ :=
    Text.exists_splitOn_append whole second
  rw [List.splitOn_append_cons_self, List.splitOn_append_cons_self, firstCut, secondCut,
    firstPieces, secondPieces]
  exact sameBelowComment_cons_iff marked firstLine secondLine firstOthers secondOthers _

/-- The same for texts that are cut at every line boundary. -/
theorem sameBelowComment_lines_iff
    {mark opening : Text}
    (marked : mark <+: opening)
    (whole : opening.all (fun c => !Text.isBreak c))
    (first second below : Text) :
    SameBelowComment mark
        (Text.lines (opening ++ first ++ '\n' :: below))
        (Text.lines (opening ++ second ++ '\n' :: below)) ↔
      (Text.lines (first ++ ['\n'])).tail = (Text.lines (second ++ ['\n'])).tail := by
  have ended (text : Text) : text ++ ['\n'] ≠ [] := by simp
  obtain ⟨firstLine, firstOthers, firstPieces, firstCut⟩ :=
    Text.exists_lines_append whole (ended first)
  obtain ⟨secondLine, secondOthers, secondPieces, secondCut⟩ :=
    Text.exists_lines_append whole (ended second)
  rw [← List.append_assoc] at firstCut secondCut
  rw [Text.lines_append_newline (opening ++ first), Text.lines_append_newline (opening ++ second),
    firstCut, secondCut, firstPieces, secondPieces]
  exact sameBelowComment_cons_iff marked firstLine secondLine firstOthers secondOthers _

end Layout

/-- The languages whose files may open with a comment on the module, and the line below it. -/
def Language.commentedModules : List (Language × Line) := [
  (.javascript, "\"use strict\";"),
  (.python, "from __future__ import annotations")]

/-- The comment that opens the file of a project with a namespace, up to the namespace. -/
def Language.moduleComment (language : Language) : Line :=
  language.commentMark ++ " Module: "

theorem Generator.namespaceLine_of_ne
    {name : String}
    (named : name ≠ "")
    (project : Project) (before : String) :
    namespaceLine { project with namespaceName := name } before "" =
      [before.toList ++ name.toList] := by
  simp [namespaceLine, named]

namespace Language

variable (language : Language)

theorem commentMark_prefix_moduleComment :
    language.commentMark <+: language.moduleComment :=
  List.prefix_append _ _

theorem breakFree_moduleComment :
    language.moduleComment.all (fun c => !Text.isBreak c) := by
  cases language <;> decide

theorem newline_not_mem_moduleComment :
    '\n' ∉ language.moduleComment := by
  cases language <;> decide

end Language

/-- Below its comment, a file does not depend on the namespace. -/
theorem Generator.exists_file_eq_moduleComment_cons
    (generator : Generator)
    {prologue : Line}
    (commented : (generator.language, prologue) ∈ Language.commentedModules)
    (project : Project) :
    ∃ below : List Line,
      ∀ name : String, name ≠ "" →
        generator.file { project with namespaceName := name } =
          (generator.language.moduleComment ++ name.toList) :: prologue :: below := by
  have cases :
      (generator.language = .javascript ∧ prologue = "\"use strict\";".toList) ∨
        (generator.language = .python ∧
          prologue = "from __future__ import annotations".toList) := by
    simpa [Language.commentedModules] using commented
  rcases cases with ⟨javascript, rfl⟩ | ⟨python, rfl⟩
  · let exported : Line := "module.exports = " ++ project.className.toList ++ ";"
    refine ⟨[] :: (generator.outermostClass "class " project ++ [[], exported]),
      fun name named => ?_⟩
    simp only [file, javascript, javascriptFile, namespaceLine_of_ne named]
    rfl
  · let header : Line := "class " ++ project.className.toList ++ ":"
    let members := generator.members 1 project.methods
    refine ⟨pythonPrologue.tail ++ [] :: [] :: header ::
      if members.isEmpty then generator.lines 1 "pass" else members, fun name named => ?_⟩
    simp only [file, python, pythonFile, namespaceLine_of_ne named]
    rfl

namespace Project

variable
  {language : Language} {prologue : Line}
  (settings : Settings) (project : Project)

/-- The file of a project with a namespace is a comment above what does not depend on it. -/
theorem exists_sourceIn_eq_moduleComment_append
    (commented : (language, prologue) ∈ Language.commentedModules) :
    ∃ below : Text,
      prologue ++ ['\n'] <+: below ∧
        ∀ name : String, name ≠ "" →
          ({ project with namespaceName := name } : Project).sourceIn language settings =
            language.moduleComment ++ name.toList ++ '\n' :: below := by
  obtain ⟨lines, written⟩ :=
    (Generator.make language settings project.methods).exists_file_eq_moduleComment_cons
      commented project
  refine ⟨Text.ofLines (prologue :: lines), ?_, fun name named => ?_⟩
  · exact List.prefix_append _ _
  · have file := congrArg Text.ofLines (written name named)
    exact file.trans (List.append_assoc _ ['\n'] _)

/--
The files of a project under two namespaces differ in their comments alone just if the
namespaces agree past their first lines, whichever boundaries the files are cut at.
-/
theorem moduleComment_confined_iff
    (commented : (language, prologue) ∈ Language.commentedModules) :
    let source (name : String) : Text :=
      ({ project with namespaceName := name } : Project).sourceIn language settings
    (∃ below : Text,
      prologue ++ ['\n'] <+: below ∧
        ∀ name : String, name ≠ "" →
          source name = language.moduleComment ++ name.toList ++ '\n' :: below) ∧
      ∀ first second : String, first ≠ "" → second ≠ "" →
        (Layout.SameBelowComment language.commentMark
            (List.splitOn '\n' (source first)) (List.splitOn '\n' (source second)) ↔
          (List.splitOn '\n' first.toList).tail = (List.splitOn '\n' second.toList).tail) ∧
        (Layout.SameBelowComment language.commentMark
            (Text.lines (source first)) (Text.lines (source second)) ↔
          (Text.lines (first.toList ++ ['\n'])).tail =
            (Text.lines (second.toList ++ ['\n'])).tail) := by
  intro source
  obtain ⟨below, opened, written⟩ :=
    exists_sourceIn_eq_moduleComment_append settings project commented
  refine ⟨⟨below, opened, written⟩, fun first second firstNamed secondNamed => ?_⟩
  have marked := language.commentMark_prefix_moduleComment
  have firstSource : source first = _ := written first firstNamed
  have secondSource : source second = _ := written second secondNamed
  rw [firstSource, secondSource]
  exact ⟨
    Layout.sameBelowComment_splitOn_iff marked language.newline_not_mem_moduleComment _ _ below,
    Layout.sameBelowComment_lines_iff marked language.breakFree_moduleComment _ _ below⟩

/-- Two namespaces without line boundaries give files that agree below their comments. -/
theorem plainNamespace_confined :
    (.javascript, "\"use strict\";".toList) ∈ Language.commentedModules ∧
      "Shop" ≠ "" ∧ "Accounts.Ledger" ≠ "" ∧
      Layout.SameBelowComment "//"
        (Text.lines (({ namespaceName := "Shop" } : Project).sourceIn .javascript .standard))
        (Text.lines
          (({ namespaceName := "Accounts.Ledger" } : Project).sourceIn .javascript .standard)) := by
  have commented :
      (.javascript, "\"use strict\";".toList) ∈ Language.commentedModules := List.mem_cons_self
  have confined :=
    (moduleComment_confined_iff .standard {} commented).2 "Shop" "Accounts.Ledger"
      (by decide) (by decide)
  exact ⟨commented, by decide, by decide, confined.2.2 (by decide)⟩

/-- The second line of a namespace stands in the file as a line of its own. -/
theorem brokenNamespace_unconfined :
    ¬Layout.SameBelowComment "#"
        (List.splitOn '\n'
          (({ namespaceName := "Shop\nimport os" } : Project).sourceIn .python .standard))
        (List.splitOn '\n' (({ namespaceName := "Shop" } : Project).sourceIn .python .standard)) ∧
      ∃ below : Text,
        ({ namespaceName := "Shop\nimport os" } : Project).sourceIn .python .standard =
          "# Module: Shop\nimport os\nfrom __future__ import annotations\n".toList ++ below := by
  obtain ⟨below, ⟨rest, opened⟩, written⟩ :=
    exists_sourceIn_eq_moduleComment_append .standard {}
      (List.mem_cons_of_mem _ List.mem_cons_self : (.python, _) ∈ Language.commentedModules)
  have broken := written "Shop\nimport os" (by decide)
  have plain := written "Shop" (by decide)
  constructor
  · rw [broken, plain]
    have below_iff := Layout.sameBelowComment_splitOn_iff
      Language.python.commentMark_prefix_moduleComment
      Language.python.newline_not_mem_moduleComment "Shop\nimport os" "Shop" below
    exact fun same => absurd (below_iff.1 same) (by decide)
  · refine ⟨rest, broken.trans ?_⟩
    rw [← opened]
    rfl

end Project

end Blockwright
