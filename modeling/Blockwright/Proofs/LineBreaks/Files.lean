import Blockwright.Proofs.Depth
import Blockwright.Proofs.LineBreaks.Headers
import Blockwright.Proofs.Suites.Tree

/-!
# Line breaks in files

The lines of a file are the lines of its class around those of its methods, and the
texts that a project contributes to them stand in headers.  With the condition on
blocks this says exactly when no line of a file holds a line feed: when what a
reader of the text takes for its lines are the lines that were indented.
-/

namespace Blockwright

open Layout

/-! ## Headers of methods -/

/-- The texts of a method that stand in the lines above its body. -/
def Language.headerTexts (language : Language) (method : Method) : List Text :=
  (match language with
  | .csharp | .java => [method.visibility.toList]
  | .javascript | .python => []) ++
    [method.returnType.toList, method.name.toList] ++
    method.parameters.flatMap fun parameter =>
      [parameter.name.toList, parameter.type.toList]

theorem Language.newline_mem_headerTexts_iff
    (language : Language) (method : Method) :
    (∃ text ∈ language.headerTexts method, '\n' ∈ text) ↔
      (language = .csharp ∨ language = .java) ∧ '\n' ∈ method.visibility.toList ∨
        '\n' ∈ method.returnType.toList ∨ '\n' ∈ method.name.toList ∨
        ∃ parameter ∈ method.parameters,
          '\n' ∈ parameter.name.toList ∨ '\n' ∈ parameter.type.toList := by
  have parameters :
      (∃ text ∈ method.parameters.flatMap fun parameter =>
          [parameter.name.toList, parameter.type.toList], '\n' ∈ text) ↔
        ∃ parameter ∈ method.parameters,
          '\n' ∈ parameter.name.toList ∨ '\n' ∈ parameter.type.toList := by
    constructor
    · rintro ⟨text, shown, broken⟩
      obtain ⟨parameter, member, shown⟩ := List.mem_flatMap.1 shown
      rcases List.mem_pair.1 shown with rfl | rfl
      · exact ⟨parameter, member, .inl broken⟩
      · exact ⟨parameter, member, .inr broken⟩
    · rintro ⟨parameter, member, broken | broken⟩
      · exact ⟨_, List.mem_flatMap.2 ⟨parameter, member, List.mem_cons_self⟩, broken⟩
      · exact ⟨_, List.mem_flatMap.2 ⟨parameter, member, by simp⟩, broken⟩
  cases language
  all_goals
    simp [headerTexts, or_and_right, exists_or, -List.mem_flatMap, parameters]

namespace Generator

variable (generator : Generator)

theorem newline_mem_phrase_iff
    (parts : List Text) :
    '\n' ∈ phrase parts ↔ ∃ part ∈ parts, '\n' ∈ part := by
  rw [phrase, Text.mem_intercalate_iff (by decide)]
  simp only [List.mem_filter]
  constructor
  · rintro ⟨part, ⟨member, _⟩, broken⟩
    exact ⟨part, member, broken⟩
  · rintro ⟨part, member, broken⟩
    have some : part ≠ [] := List.ne_nil_of_mem broken
    exact ⟨part, ⟨member, by simpa using some⟩, broken⟩

theorem newline_mem_signature_iff
    (name : Text) (parameters : List Text) :
    '\n' ∈ signature name parameters ↔
      '\n' ∈ name ∨ ∃ parameter ∈ parameters, '\n' ∈ parameter := by
  have opening : '\n' ∉ "(".toList := by decide
  have closing : '\n' ∉ ")".toList := by decide
  have comma : '\n' ∉ ", ".toList := by decide
  simp only [signature, List.mem_append, opening, closing, Text.mem_intercalate_iff comma, or_false]

theorem newline_mem_typedHeader_iff
    (method : Method) :
    '\n' ∈ generator.typedHeader method ↔
      '\n' ∈ method.visibility.toList ∨ '\n' ∈ method.returnType.toList ∨
        '\n' ∈ method.name.toList ∨
        ∃ parameter ∈ method.parameters,
          '\n' ∈ parameter.name.toList ∨ '\n' ∈ parameter.type.toList := by
  have space : '\n' ∉ " ".toList := by decide
  have static : '\n' ∉ (if method.isStatic then "static".toList else "".toList) := by
    split <;> decide
  simp only [typedHeader, newline_mem_phrase_iff, List.mem_cons, List.not_mem_nil, or_false,
    exists_eq_or_imp, exists_eq_left, static, false_or, newline_mem_typeName_iff,
    newline_mem_signature_iff, List.mem_map, exists_exists_and_eq_and, List.mem_append, space]
  simp only [or_comm]

theorem newline_mem_untypedHeader_iff
    (method : Method) :
    '\n' ∈ untypedHeader method ↔
      '\n' ∈ method.name.toList ∨
        ∃ parameter ∈ method.parameters, '\n' ∈ parameter.name.toList := by
  have static : '\n' ∉ "static ".toList := by decide
  have mark : '\n' ≠ '#' := by decide
  simp only [untypedHeader, newline_mem_signature_iff, List.mem_map, exists_exists_and_eq_and]
  refine or_congr_left ?_
  split <;> split
  all_goals simp only [List.mem_append, List.mem_cons, static, mark, false_or]

theorem newline_mem_hintedHeader_iff
    (method : Method) :
    '\n' ∈ generator.hintedHeader method ↔
      '\n' ∈ method.returnType.toList ∨ '\n' ∈ method.name.toList ∨
        ∃ parameter ∈ method.parameters,
          '\n' ∈ parameter.name.toList ∨ '\n' ∈ parameter.type.toList := by
  have keyword : '\n' ∉ "def ".toList := by decide
  have arrow : '\n' ∉ " -> ".toList := by decide
  have colon : '\n' ∉ ": ".toList := by decide
  have self : '\n' ∉ "self".toList := by decide
  have mark : '\n' ≠ '_' := by decide
  have marked :
      '\n' ∈
          (if method.visibility = "private" then '_' :: method.name.toList
          else method.name.toList) ↔
        '\n' ∈ method.name.toList := by
    split
    · simp only [List.mem_cons, mark, false_or]
    · exact Iff.rfl
  have hints (hints : List Text) :
      (∃ hint ∈ (if method.isStatic then hints else "self".toList :: hints), '\n' ∈ hint) ↔
        ∃ hint ∈ hints, '\n' ∈ hint := by
    split
    · exact Iff.rfl
    · simp only [List.mem_cons, exists_eq_or_imp, self, false_or]
  simp only [hintedHeader, List.mem_append, keyword, arrow, false_or, or_false,
    newline_mem_signature_iff, marked, hints, List.mem_map, exists_exists_and_eq_and, colon,
    newline_mem_typeName_iff]
  exact or_comm

theorem newline_mem_typeComment_iff
    (method : Method) :
    (∃ text ∈ generator.typeComment method, '\n' ∈ text) ↔
      '\n' ∈ method.returnType.toList ∨
        ∃ parameter ∈ method.parameters,
          '\n' ∈ parameter.name.toList ∨ '\n' ∈ parameter.type.toList := by
  simp only [typeComment]
  split
  · next plain =>
      -- Nothing is said of a method that takes nothing and returns nothing.
      rw [Bool.and_eq_true, decide_eq_true_eq, List.isEmpty_iff] at plain
      have returned : '\n' ∉ method.returnType.toList := by
        rw [← generator.newline_mem_typeName_iff, plain.2]
        decide
      simp [plain.1, returned]
  · have opening : '\n' ∉ "/**".toList := by decide
    have closing : '\n' ∉ " */".toList := by decide
    have parameter : '\n' ∉ " * @param \x7b".toList := by decide
    have returns : '\n' ∉ " * @returns \x7b".toList := by decide
    have typed : '\n' ∉ "\x7d ".toList := by decide
    have ended : '\n' ∉ "\x7d".toList := by decide
    simp only [List.mem_cons, List.mem_append, List.mem_map, List.not_mem_nil, or_false,
      or_and_right, exists_or, exists_exists_and_eq_and, exists_eq_left,
      opening, closing, parameter, returns, typed, ended, false_or, newline_mem_typeName_iff]
    simp only [or_comm]

/-- A line above the body of a method is broken by one of the texts that it shows. -/
theorem newline_mem_headers_iff
    (method : Method) :
    '\n' ∈ generator.methodHeader method ∨
        (∃ text ∈ generator.methodPreamble method, '\n' ∈ text) ↔
      ∃ text ∈ generator.language.headerTexts method, '\n' ∈ text := by
  rw [Language.newline_mem_headerTexts_iff]
  rcases generator with ⟨language, settings, hoisted⟩
  cases language with
  | csharp | java =>
      simp only [methodHeader, methodPreamble, newline_mem_typedHeader_iff]
      simp
  | javascript =>
      simp only [methodHeader, methodPreamble, newline_mem_untypedHeader_iff,
        newline_mem_typeComment_iff]
      simp only [reduceCtorEq, or_self, false_and, false_or]
      constructor
      · rintro ((broken | ⟨parameter, member, broken⟩) | broken | typed)
        · exact .inr (.inl broken)
        · exact .inr (.inr ⟨parameter, member, .inl broken⟩)
        · exact .inl broken
        · exact .inr (.inr typed)
      · rintro (broken | broken | typed)
        · exact .inr (.inl broken)
        · exact .inl (.inl broken)
        · exact .inr (.inr typed)
  | python =>
      have static :
          ¬∃ text ∈ (if method.isStatic then ["@staticmethod".toList] else []), '\n' ∈ text := by
        split <;> decide
      simp only [methodHeader, methodPreamble, newline_mem_hintedHeader_iff, static, or_false]
      simp

/-! ## Methods and files -/

/-- The lines of a method are broken by its headers and by those of the blocks in its body. -/
theorem unbroken_methodLines_iff
    (depth : Int) (method : Method) :
    Unbroken (generator.methodLines depth method) ↔
      (∀ text ∈ generator.language.headerTexts method, '\n' ∉ text) ∧
        ∀ inner ∈ elementsRendered method.elements,
          inner.HeadersUnbroken generator.language := by
  have preamble :
      Unbroken ((generator.methodPreamble method).map (generator.indent depth ++ ·)) ↔
        Unbroken (generator.methodPreamble method) := by
    simp [Unbroken, indent]
  have header := generator.setting.unbroken_opening_iff depth (generator.methodHeader method)
  have closed : Unbroken (generator.setting.ending depth none []) := by
    simp [generator.setting.unbroken_ending_iff]
  have body :
      Unbroken
          (if generator.language = .python ∧ method.elements = [] then
            [generator.indent (depth + 1) ++ "pass"]
          else
            method.elements.flatMap (generator.elementLines (depth + 1))) ↔
        ∀ inner ∈ elementsRendered method.elements,
          inner.HeadersUnbroken generator.language := by
    rw [elementsRendered_eq_flatMap, List.forall_mem_flatMap]
    split
    · next empty => simp [empty.2, indent]
    · rw [unbroken_flatMap]
      exact forall₂_congr fun element _ => generator.unbroken_elementLines_iff _ element
  have headers := not_congr (generator.newline_mem_headers_iff method)
  simp only [not_or, not_exists, not_and] at headers
  rw [methodLines_eq, unbroken_append, unbroken_append, unbroken_append, preamble, header, body,
    ← headers]
  simp only [closed, and_true]
  exact and_congr_left fun _ => and_comm

theorem unbroken_members_iff
    (depth : Int) (methods : List Method) :
    Unbroken (generator.members depth methods) ↔
      ∀ method ∈ methods,
        (∀ text ∈ generator.language.headerTexts method, '\n' ∉ text) ∧
          ∀ inner ∈ elementsRendered method.elements,
            inner.HeadersUnbroken generator.language := by
  have definitions :
      ∀ block ∈ generator.hoisted.map (generator.definition depth), Unbroken block :=
    List.forall_mem_map.2 fun utility _ => unbroken_lines _ depth _
  rw [members, unbroken_separated, List.forall_mem_append, and_iff_left definitions,
    List.forall_mem_map]
  exact forall₂_congr fun method _ => generator.unbroken_methodLines_iff depth method

theorem unbroken_prologues :
    Unbroken csharpPrologue ∧ Unbroken javaPrologue ∧ Unbroken pythonPrologue := by
  decide

theorem unbroken_namespaceLine_iff
    (project : Project)
    {before after : String}
    (whole : '\n' ∉ before.toList ∧ '\n' ∉ after.toList) :
    Unbroken (namespaceLine project before after) ↔ '\n' ∉ project.namespaceName.toList := by
  rw [namespaceLine]
  split
  · next unnamed => simp [unnamed]
  · simp [whole]

theorem unbroken_csharpClass_iff
    (depth : Int) (project : Project) :
    Unbroken (generator.csharpClass depth project) ↔
      Unbroken (generator.members (depth + 1) project.methods) := by
  simp [csharpClass, lines]

theorem unbroken_outermostClass_iff
    {keyword : String}
    (whole : '\n' ∉ keyword.toList)
    (project : Project) :
    Unbroken (generator.outermostClass keyword project) ↔
      '\n' ∉ project.className.toList ∧
        Unbroken (generator.members 1 project.methods) := by
  simp [outermostClass, closingBrace, whole]

end Generator

/--
No text that a project contributes to a header holds a line feed.  The name of a C#
class is moved like a statement.
-/
structure Project.HeadersUnbroken (language : Language) (project : Project) : Prop where
  namespaceName : '\n' ∉ project.namespaceName.toList
  className : language ≠ .csharp → '\n' ∉ project.className.toList
  methods :
    ∀ method ∈ project.methods,
      (∀ text ∈ language.headerTexts method, '\n' ∉ text) ∧
        ∀ inner ∈ elementsRendered method.elements, inner.HeadersUnbroken language

namespace Generator

variable (generator : Generator)

theorem unbroken_file_iff
    (project : Project) :
    Unbroken (generator.file project) ↔ project.HeadersUnbroken generator.language := by
  have members (depth : Int) := generator.unbroken_members_iff depth project.methods
  obtain ⟨csharp, java, python⟩ := unbroken_prologues
  have conditions :
      project.HeadersUnbroken generator.language ↔
        '\n' ∉ project.namespaceName.toList ∧
          (generator.language = .csharp ∨ '\n' ∉ project.className.toList) ∧
          Unbroken (generator.members 1 project.methods) := by
    rw [members]
    constructor
    · rintro ⟨namespaceName, className, methods⟩
      exact ⟨namespaceName, or_iff_not_imp_left.2 className, methods⟩
    · rintro ⟨namespaceName, className, methods⟩
      exact ⟨namespaceName, or_iff_not_imp_left.1 className, methods⟩
  have outermost {keyword : String} (whole : '\n' ∉ keyword.toList) :=
    generator.unbroken_outermostClass_iff whole project
  have named {before after : String} (whole : '\n' ∉ before.toList ∧ '\n' ∉ after.toList) :=
    unbroken_namespaceLine_iff project whole
  rw [conditions]
  rcases language : generator.language with _ | _ | _ | _
  · have deeper :
        Unbroken (generator.members 2 project.methods) ↔
          Unbroken (generator.members 1 project.methods) :=
      (members 2).trans (members 1).symm
    simp only [file, language, csharpFile, unbroken_append, csharp, unbroken_cons]
    split
    · next unnamed => simp [unnamed, unbroken_csharpClass_iff]
    · simp [named, unbroken_csharpClass_iff, openingBrace, closingBrace, deeper]
  · simp only [file, language, javaFile, unbroken_append, java, unbroken_cons,
      outermost (by decide : '\n' ∉ "public class ".toList)]
    have package := named (by decide : '\n' ∉ "package ".toList ∧ '\n' ∉ ";".toList)
    split
    · next unnamed =>
        rw [List.isEmpty_iff] at unnamed
        rw [unnamed] at package
        simp [← package]
    · simp [package]
  · have strict : '\n' ∉ "\"use strict\";".toList := by decide
    have exported :
        '\n' ∉ "module.exports = ".toList ++ project.className.toList ++ ";".toList ↔
          '\n' ∉ project.className.toList := by
      simp
    simp only [file, language, javascriptFile, unbroken_append, unbroken_cons, unbroken_nil,
      strict, exported, outermost (by decide : '\n' ∉ "class ".toList),
      named (by decide : '\n' ∉ "// Module: ".toList ∧ '\n' ∉ "".toList)]
    simp +contextual only [List.not_mem_nil, not_false_eq_true, reduceCtorEq, false_or, true_and,
      and_true, and_congr_right_iff, and_iff_left_iff_imp, implies_true]
  · simp only [file, language, pythonFile, unbroken_append, unbroken_cons, python,
      named (by decide : '\n' ∉ "# Module: ".toList ∧ '\n' ∉ "".toList)]
    split
    · next none =>
        rw [List.isEmpty_iff] at none
        simp [none, lines]
    · simp

/-- A line of an element begins with the spaces of the element's depth, unless it is empty. -/
theorem indented_of_mem_elementLines
    (depth : Int) (element : Element) :
    ∀ line ∈ generator.elementLines depth element,
      line = [] ∨ generator.indent depth <+: line := by
  rcases Int.lt_or_le depth 0 with above | within
  · intro line _
    have none : generator.indent depth = [] := by
      simp [indent, Layout.indent, Int.toNat_of_nonpos (Int.le_of_lt above)]
    exact .inr (none ▸ List.nil_prefix)
  · obtain ⟨level, rfl⟩ := Int.eq_ofNat_of_zero_le within
    induction level with
    | zero =>
        intro line _
        exact .inr List.nil_prefix
    | succ level ih =>
        intro line member
        have within : (0 : Int) ≤ level := Int.natCast_nonneg level
        rw [Int.natCast_succ] at member ⊢
        rw [generator.elementLines_succ within] at member
        obtain ⟨inner, inside, rfl⟩ := List.mem_map.1 member
        rcases ih within inner inside with rfl | indented
        · exact .inl rfl
        · simp only [shift, Layout.shift]
          split
          · exact .inl rfl
          · right
            rw [indent, Layout.indent_succ _ within]
            exact (List.prefix_append_right_inj _).2 indented

end Generator

/--
The lines of an element hold no line feed, and are the lines that a reader of its text
finds, just if no property in a header of a block that is written for it holds one; each
of them begins with the spaces of the depth, unless it is empty.  So it is for a file:
a reader finds the lines that were laid out just if no header shows a line feed.
-/
theorem Generator.lines_unbroken_iff
    (generator : Generator) :
    (∀ (depth : Int) (element : Element),
        let lines := generator.elementLines depth element
        let found := List.splitOn '\n' (generator.elementText depth element)
        (Unbroken lines ↔
            ∀ inner ∈ element.rendered, inner.HeadersUnbroken generator.language) ∧
          (found = lines ↔ Unbroken lines) ∧
          (∀ line ∈ lines, line = [] ∨ generator.indent depth <+: line)) ∧
      ∀ project : Project,
        let lines := generator.file project
        (Unbroken lines ↔ project.HeadersUnbroken generator.language) ∧
          (List.splitOn '\n' (generator.source project) = lines ++ [[]] ↔ Unbroken lines) := by
  constructor
  · intro depth element lines found
    refine ⟨generator.unbroken_elementLines_iff depth element, ?_,
      generator.indented_of_mem_elementLines depth element⟩
    constructor
    · intro same line member
      rw [← same] at member
      exact Text.not_mem_of_mem_splitOn member
    · intro unbroken
      exact List.splitOn_intercalate '\n' unbroken (generator.elementLines_ne_nil depth element)
  · intro project lines
    refine ⟨generator.unbroken_file_iff project, ?_⟩
    constructor
    · intro same line member
      have piece : line ∈ lines ++ [[]] := List.mem_append_left _ member
      rw [← same] at piece
      exact Text.not_mem_of_mem_splitOn piece
    · exact Text.splitOn_ofLines

/-- A choice whose condition is written over two lines. -/
def brokenCondition : Element where
  type := "if"
  properties := [("condition", .text "a\nb")]

theorem brokenCondition_unindented :
    let generator := Generator.make .csharp .standard []
    ("    if (a\nb)" : Text) ∈ generator.elementLines 1 brokenCondition ∧
      ∃ line ∈ List.splitOn '\n' (generator.elementText 1 brokenCondition),
        line = "b)".toList ∧ ¬generator.indent 1 <+: line := by
  decide +kernel

end Blockwright
