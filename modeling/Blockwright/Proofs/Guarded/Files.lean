import Blockwright.Proofs.Guarded.Blocks

/-!
# Guarded files

The guarded writer of whole files.  It looks up the generator of the project's
language, the sources of utilities and the names of types, and takes each step
from the nearest class that provides it.  `Project.guardedSource_complete` shows that it
never stops, so that nothing it guards against can happen while a file is written,
and that no slot of any template is left without a text.
-/

namespace Blockwright

theorem mapM_ok
    {α β : Type} {guarded : α → Except Lack β} {plain : α → β}
    (each : ∀ value, guarded value = .ok (plain value))
    (values : List α) :
    values.mapM guarded = .ok (values.map plain) := by
  obtain rfl : guarded = fun value => pure (plain value) := funext each
  exact List.mapM_pure

namespace Generator

section Steps

variable (generator : Generator)

/-- How the classes of writers name utilities. -/
def utilityNameOf : Writer → Option (Utility → Text)
  | .own language => some language.utilityName
  | _ => none

def guardedDefinition (depth : Int) (utility : Utility) : Except Lack (List Line) := do
  return generator.lines depth (← lookUp generator.language.utilityTable utility.name)

def guardedEntryLines : Entry → Except Lack (List Line)
  | .line text => return [text]
  | .call utility depth => do
      if generator.hoists then
        let name ← generator.language.provided .utilityName utilityNameOf
        return [generator.comment depth
          (name utility ++ "(): utility method defined at class level")]
      else
        generator.guardedDefinition depth utility
  | .unknown type depth => return [generator.comment depth type.toList]

def guardedRender (outline : List Entry) : Except Lack (List Line) :=
  return (← outline.mapM generator.guardedEntryLines).flatten

def guardedTypeName (name : String) : Except Lack Text :=
  TypeName.guardedSpell generator.language false name.toList

/-- The names of a method's parameters with the spellings of their types. -/
def guardedParameters (method : Method) : Except Lack (List (Text × Text)) :=
  method.parameters.mapM fun parameter =>
    return (parameter.name.toList, ← generator.guardedTypeName parameter.type)

/-- The outline of a method whose header and what stands before it are known. -/
def guardedMethodBelow (depth : Int) (preamble : List Text) (header : Text) (method : Method) :
    Except Lack (List Entry) := do
  let body ← elementsGuardedOutline generator.setting (depth + 1) method.elements
  let clauses ← generator.setting.guardedClauses depth none [⟨header, body⟩]
  return preamble.map (fun text => .line (generator.indent depth ++ text)) ++ clauses

def typedMethod (depth : Int) (method : Method) : Except Lack (List Entry) := do
  let parameters ← generator.guardedParameters method
  let returnType ← generator.guardedTypeName method.returnType
  let header := phrase [
    method.visibility.toList,
    if method.isStatic then "static" else "",
    returnType,
    signature method.name.toList (parameters.map fun (name, type) => type ++ " " ++ name)]
  generator.guardedMethodBelow depth [] header method

def annotatedMethod (depth : Int) (method : Method) : Except Lack (List Entry) := do
  let parameters ← generator.guardedParameters method
  let returnType ← generator.guardedTypeName method.returnType
  let typeComment : List Text :=
    if parameters.isEmpty && returnType = "void" then
      []
    else
      ("/**" : Text) ::
        (parameters.map (fun (name, type) => " * @param \x7b" ++ type ++ "\x7d " ++ name) ++
          [" * @returns \x7b" ++ returnType ++ "\x7d", " */"])
  generator.guardedMethodBelow depth typeComment (untypedHeader method) method

def hintedMethod (depth : Int) (method : Method) : Except Lack (List Entry) := do
  let parameters ← generator.guardedParameters method
  let returnType ← generator.guardedTypeName method.returnType
  let hints : List Text := parameters.map fun (name, type) => name ++ ": " ++ type
  let name : Text :=
    if method.visibility = "private" then '_' :: method.name.toList else method.name.toList
  let header : Text :=
    "def " ++ signature name (if method.isStatic then hints else "self" :: hints) ++ " -> " ++
      returnType
  generator.guardedMethodBelow depth (if method.isStatic then ["@staticmethod"] else [])
    header method

/-- How the classes of writers write methods. -/
def methodOf : Writer → Option (Int → Method → Except Lack (List Entry))
  | .braces => some generator.typedMethod
  | .own .javascript => some generator.annotatedMethod
  | .own .python => some generator.hintedMethod
  | _ => none

def guardedMethodLines (depth : Int) (method : Method) : Except Lack (List Line) := do
  let run ← generator.language.provided .method generator.methodOf
  generator.guardedRender (← run depth method)

def guardedMembers (depth : Int) (methods : List Method) : Except Lack (List Line) := do
  let written ← methods.mapM (generator.guardedMethodLines depth)
  let defined ← generator.hoisted.mapM (generator.guardedDefinition depth)
  return Layout.separated (written ++ defined)

def guardedCsharpClass (depth : Int) (project : Project) : Except Lack (List Line) := do
  let members ← generator.guardedMembers (depth + 1) project.methods
  return generator.lines depth ("public class " ++ project.className.toList) ++
    generator.lines depth openingBrace ++ members ++ generator.lines depth closingBrace

def guardedCsharpFile (project : Project) : Except Lack (List Line) := do
  if project.namespaceName = "" then
    return csharpPrologue ++ [] :: (← generator.guardedCsharpClass 0 project)
  else
    return csharpPrologue ++ [] ::
      (namespaceLine project "namespace " "" ++ openingBrace ::
        ((← generator.guardedCsharpClass 1 project) ++ [closingBrace]))

def guardedOutermostClass (keyword : String) (project : Project) :
    Except Lack (List Line) := do
  let members ← generator.guardedMembers 1 project.methods
  return (keyword.toList ++ project.className.toList ++ [' ', '{']) ::
    (members ++ [closingBrace])

def guardedJavaFile (project : Project) : Except Lack (List Line) := do
  let package := namespaceLine project "package " ";"
  return (if package.isEmpty then [] else package ++ [[]]) ++
    javaPrologue ++ [] :: (← generator.guardedOutermostClass "public class " project)

def guardedJavascriptFile (project : Project) : Except Lack (List Line) := do
  let strict : Line := "\"use strict\";"
  let exported : Line := "module.exports = " ++ project.className.toList ++ ";"
  return namespaceLine project "// Module: " "" ++ strict :: [] ::
    ((← generator.guardedOutermostClass "class " project) ++ [[], exported])

def guardedPythonFile (project : Project) : Except Lack (List Line) := do
  let members ← generator.guardedMembers 1 project.methods
  let header : Line := "class " ++ project.className.toList ++ ":"
  return namespaceLine project "# Module: " "" ++ pythonPrologue ++ [] :: [] :: header ::
    if members.isEmpty then generator.lines 1 "pass" else members

/-- How the classes of writers write files. -/
def fileOf : Writer → Option (Project → Except Lack (List Line))
  | .own .csharp => some generator.guardedCsharpFile
  | .own .java => some generator.guardedJavaFile
  | .own .javascript => some generator.guardedJavascriptFile
  | .own .python => some generator.guardedPythonFile
  | _ => none

def guardedFile (project : Project) : Except Lack (List Line) := do
  let run ← generator.language.provided .file generator.fileOf
  run project

end Steps

/-! ## Nothing stops it -/

variable (generator : Generator)

theorem guardedDefinition_eq
    (depth : Int) (utility : Utility) :
    generator.guardedDefinition depth utility = .ok (generator.definition depth utility) := by
  rw [guardedDefinition, Language.lookUp_utilityTable, ok_bind]
  rfl

theorem provided_utilityName
    (language : Language) :
    language.provided .utilityName utilityNameOf = .ok language.utilityName := by
  cases language <;> rfl

theorem guardedEntryLines_eq
    (entry : Entry) :
    generator.guardedEntryLines entry = .ok (generator.entryLines entry) := by
  cases entry with
  | line text => rfl
  | call utility depth =>
      rw [guardedEntryLines, entryLines, provided_utilityName, guardedDefinition_eq]
      split <;> rfl
  | unknown type depth => rfl

theorem guardedRender_eq
    (outline : List Entry) :
    generator.guardedRender outline = .ok (generator.render outline) := by
  rw [guardedRender, mapM_ok generator.guardedEntryLines_eq, ok_bind, render]
  rfl

theorem guardedTypeName_eq
    (name : String) :
    generator.guardedTypeName name = .ok (generator.typeName name) :=
  TypeName.guardedSpell_eq ..

theorem guardedParameters_eq
    (method : Method) :
    generator.guardedParameters method =
      .ok (method.parameters.map fun parameter =>
        (parameter.name.toList, generator.typeName parameter.type)) := by
  apply mapM_ok
  intro parameter
  rw [guardedTypeName_eq]
  rfl

theorem guardedMethodBelow_eq
    (depth : Int) (preamble : List Text) (header : Text) (method : Method) :
    generator.guardedMethodBelow depth preamble header method =
      .ok (preamble.map (fun text => .line (generator.indent depth ++ text)) ++
        generator.setting.clauses depth none
          [⟨header, elementsOutline generator.setting (depth + 1) method.elements⟩]) := by
  rw [guardedMethodBelow, elementsGuardedOutline_eq, ok_bind,
    Outline.Setting.guardedClauses_eq _ _ _ (List.cons_ne_nil _ _), ok_bind]
  rfl

theorem typedMethod_eq
    (depth : Int) (method : Method) :
    generator.typedMethod depth method =
      .ok (generator.setting.clauses depth none
        [⟨generator.typedHeader method,
          elementsOutline generator.setting (depth + 1) method.elements⟩]) := by
  rw [typedMethod, guardedParameters_eq, ok_bind, guardedTypeName_eq, ok_bind,
    guardedMethodBelow_eq, List.map_map]
  rfl

theorem annotatedMethod_eq
    (depth : Int) (method : Method) :
    generator.annotatedMethod depth method =
      .ok ((generator.typeComment method).map
          (fun text => .line (generator.indent depth ++ text)) ++
        generator.setting.clauses depth none
          [⟨untypedHeader method,
            elementsOutline generator.setting (depth + 1) method.elements⟩]) := by
  rw [annotatedMethod, guardedParameters_eq, ok_bind, guardedTypeName_eq, ok_bind,
    guardedMethodBelow_eq, List.map_map, List.isEmpty_map]
  rfl

theorem hintedMethod_eq
    (depth : Int) (method : Method) :
    generator.hintedMethod depth method =
      .ok ((if method.isStatic then ["@staticmethod"] else [] : List Text).map
          (fun text => .line (generator.indent depth ++ text)) ++
        generator.setting.clauses depth none
          [⟨generator.hintedHeader method,
            elementsOutline generator.setting (depth + 1) method.elements⟩]) := by
  rw [hintedMethod, guardedParameters_eq, ok_bind, guardedTypeName_eq, ok_bind,
    guardedMethodBelow_eq, List.map_map]
  rfl

theorem guardedMethodLines_eq
    (depth : Int) (method : Method) :
    generator.guardedMethodLines depth method =
      .ok (generator.methodLines depth method) := by
  have typed := generator.typedMethod_eq depth method
  have annotated := generator.annotatedMethod_eq depth method
  have hinted := generator.hintedMethod_eq depth method
  have rendered {written : Except Lack (List Entry)} {outline : List Entry}
      (same : written = .ok outline) :
      written >>= generator.guardedRender = .ok (generator.render outline) := by
    rw [same, ok_bind, guardedRender_eq]
  rcases generator with ⟨language, settings, hoisted⟩
  cases language with
  | csharp | java => exact rendered typed
  | javascript => exact rendered annotated
  | python => exact rendered hinted

theorem guardedMembers_eq
    (depth : Int) (methods : List Method) :
    generator.guardedMembers depth methods = .ok (generator.members depth methods) := by
  rw [guardedMembers, mapM_ok (generator.guardedMethodLines_eq depth), ok_bind,
    mapM_ok (generator.guardedDefinition_eq depth), ok_bind]
  rfl

theorem guardedCsharpClass_eq
    (depth : Int) (project : Project) :
    generator.guardedCsharpClass depth project = .ok (generator.csharpClass depth project) := by
  rw [guardedCsharpClass, guardedMembers_eq, ok_bind]
  rfl

theorem guardedOutermostClass_eq
    (keyword : String) (project : Project) :
    generator.guardedOutermostClass keyword project =
      .ok (generator.outermostClass keyword project) := by
  rw [guardedOutermostClass, guardedMembers_eq, ok_bind]
  rfl

theorem guardedFile_eq
    (project : Project) :
    generator.guardedFile project = .ok (generator.file project) := by
  have csharp : generator.guardedCsharpFile project = .ok (generator.csharpFile project) := by
    rw [guardedCsharpFile, guardedCsharpClass_eq, guardedCsharpClass_eq, csharpFile]
    split <;> rfl
  have java : generator.guardedJavaFile project = .ok (generator.javaFile project) := by
    rw [guardedJavaFile, guardedOutermostClass_eq]
    rfl
  have javascript :
      generator.guardedJavascriptFile project = .ok (generator.javascriptFile project) := by
    rw [guardedJavascriptFile, guardedOutermostClass_eq]
    rfl
  have python : generator.guardedPythonFile project = .ok (generator.pythonFile project) := by
    rw [guardedPythonFile, guardedMembers_eq]
    rfl
  rcases generator with ⟨language, settings, hoisted⟩
  cases language with
  | csharp => exact csharp
  | java => exact java
  | javascript => exact javascript
  | python => exact python

end Generator

/-- The text of a project's file, written by the generator of its language. -/
def Project.guardedSource (settings : Settings) (project : Project) : Except Lack Text := do
  let language ← lookUp (Language.table id) project.target.name
  let lines ← (Generator.make language settings project.methods).guardedFile project
  return Text.ofLines lines

/--
A file is always written, whatever the project: no look-up misses, no template has
a dollar sign that introduces nothing, no step is left open and no line is written
over where there is none.  Of the slots of all templates, only a quoted one may be
filled by the empty text, whatever an element sets or leaves open.
-/
theorem Project.guardedSource_complete
    (settings : Settings) (project : Project) :
    project.guardedSource settings = .ok (project.source settings) ∧
      ∀ (language : Language) (element : Element) (tag : Tag),
        element.tag? = some tag →
          ∀ template ∈ language.templates tag, ∀ slot ∈ template.slots,
            (∀ property, slot ≠ .quoted property) →
              let fields := element.fields language
              fields.slotWith (fields.extraTexts tag) slot ≠ [] := by
  constructor
  · rw [guardedSource, Language.lookUp_table, ok_bind, Generator.guardedFile_eq, ok_bind]
    rfl
  · intro language element tag known template written slot asked unquoted
    have raw : slot.raw?.isSome := by
      cases slot with
      | quoted property => exact absurd rfl (unquoted property)
      | field name | native name | boxed name => rfl
    have named : Tag.ofName? (element.fields language).type = some tag := known
    exact Fields.slotWith_ne_nil named written asked raw

/-- A counting loop with a null start, an empty step and a limit that is not set. -/
def openLoop : Element where
  type := "for"
  properties := [("start", .null), ("increment", .text "")]
  children := some [{ type := "mystery" }, { type := "is-odd" }]

theorem openLoop_complete :
    let project : Project := { language := "cobol", methods := [{ elements := [openLoop] }] }
    let fields := openLoop.fields .java
    project.guardedSource .standard = .ok (project.source .standard) ∧
      openLoop.tag? = some (.block .counting) ∧
      Language.java.headers.counting ∈ Language.java.templates (.block .counting) ∧
      .field "step" ∈ Language.java.headers.counting.slots ∧
      (∀ property, Slot.field "step" ≠ .quoted property) ∧
      fields.slotWith (fields.extraTexts (.block .counting)) (.field "step") ≠ [] := by
  intro project fields
  have known : openLoop.tag? = some (.block .counting) := by decide
  have written : Language.java.headers.counting ∈ Language.java.templates (.block .counting) :=
    List.mem_cons_self
  have asked : Slot.field "step" ∈ Language.java.headers.counting.slots := by decide
  have unquoted : ∀ property, Slot.field "step" ≠ .quoted property := by
    intro property
    exact Slot.noConfusion
  have complete := Project.guardedSource_complete .standard project
  exact ⟨complete.1, known, written, asked, unquoted,
    complete.2 .java openLoop (.block .counting) known _ written _ asked unquoted⟩

end Blockwright
