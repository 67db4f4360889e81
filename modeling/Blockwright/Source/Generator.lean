import Blockwright.Project.Tree
import Blockwright.Settings
import Blockwright.Source.Outline
import Blockwright.Source.Record

/-!
# Generators

The second half of writing a file.  A generator is made for a project; it fixes
the language, the settings and the utilities that are defined for the class.
With it the open entries of an outline become lines, methods become blocks of
lines, and a project becomes a source file.
-/

namespace Blockwright

/-- What is fixed when the writing of a project begins. -/
structure Generator where
  language : Language
  settings : Settings
  /-- The utilities that are defined for the class. -/
  hoisted : List Utility

/-- Whether utilities are defined once for the class rather than where they are used. -/
def Language.hoists : Language → Settings → Bool
  | .csharp, _ => true
  | .java, settings => !settings.inlineUtilities
  | .javascript, _ => true
  | .python, _ => false

namespace Generator

/-- The generator that writes a project's methods in a language. -/
def make (language : Language) (settings : Settings) (methods : List Method) : Generator :=
  { language := language
    settings := settings
    hoisted := if language.hoists settings then collectUtilities methods else [] }

variable (generator : Generator)

/-- The setting of the generator's outlines. -/
def setting : Outline.Setting :=
  ⟨generator.language, generator.settings.indentWidth⟩

/-- Whether the generator defines utilities for the class. -/
def hoists : Bool :=
  generator.language.hoists generator.settings

/-- The spaces that open a line at a depth. -/
def indent (depth : Int) : Text :=
  Layout.indent generator.settings.indentWidth depth

/-- The lines of a text moved to a depth. -/
def lines (depth : Int) (text : Text) : List Line :=
  Layout.lines generator.settings.indentWidth depth text

/-- A comment line at a depth. -/
def comment (depth : Int) (text : Text) : Line :=
  Layout.comment generator.language.commentMark generator.settings.indentWidth depth text

/-- The lines that define a utility at a depth. -/
def definition (depth : Int) (utility : Utility) : List Line :=
  generator.lines depth (generator.language.utilitySource utility)

/-- What is written where a utility is used and defined for the class. -/
def callText (utility : Utility) : Text :=
  generator.language.utilityName utility ++ "(): utility method defined at class level"

/-- The lines of an entry. -/
def entryLines : Entry → List Line
  | .line text => [text]
  | .call utility depth =>
      if generator.hoists then
        [generator.comment depth (generator.callText utility)]
      else
        generator.definition depth utility
  | .unknown type depth => [generator.comment depth type.toList]

/-- The lines of an outline. -/
def render (outline : List Entry) : List Line :=
  outline.flatMap generator.entryLines

/-- The lines of an element at a depth. -/
def elementLines (depth : Int) (element : Element) : List Line :=
  generator.render (element.outline generator.setting depth)

/-- The text of an element at a depth. -/
def elementText (depth : Int) (element : Element) : Text :=
  List.intercalate ['\n'] (generator.elementLines depth element)

/-- The types outside the vocabulary that an outline leaves open, in order. -/
def unknownTypesIn (outline : List Entry) : List String :=
  outline.filterMap fun
    | .unknown type _ => some type
    | _ => none

/-- The records of writing an element: the types in it that are outside the vocabulary. -/
def elementRecords (depth : Int) (element : Element) : List Record :=
  (unknownTypesIn (element.outline generator.setting depth)).map fun type =>
    .noRenderer type.toList

/-- The spelling of a type in the generator's language. -/
def typeName (name : String) : Text :=
  TypeName.spell generator.language false name.toList

/-- The parts of a text that are not empty, set apart by spaces. -/
def phrase (parts : List Text) : Text :=
  List.intercalate [' '] (parts.filter (!·.isEmpty))

/-- A name with its parameters in parentheses. -/
def signature (name : Text) (parameters : List Text) : Text :=
  name ++ "(" ++ List.intercalate ", " parameters ++ ")"

/-- The header of a method with types, as C# and Java write it. -/
def typedHeader (method : Method) : Text :=
  phrase [
    method.visibility.toList,
    if method.isStatic then "static" else "",
    generator.typeName method.returnType,
    signature method.name.toList
      (method.parameters.map fun parameter =>
        generator.typeName parameter.type ++ " " ++ parameter.name.toList)]

/-- The lines of the comment that gives the types of a JavaScript method, if it needs one. -/
def typeComment (method : Method) : List Text :=
  let returnType := generator.typeName method.returnType
  if method.parameters.isEmpty && returnType = "void" then
    []
  else
    let parameterLine (parameter : Parameter) : Text :=
      " * @param \x7b" ++ generator.typeName parameter.type ++ "\x7d " ++
        parameter.name.toList
    let returnLine : Text := " * @returns \x7b" ++ returnType ++ "\x7d"
    ("/**" : Text) :: (method.parameters.map parameterLine ++ [returnLine, " */"])

/-- The header of a JavaScript method; a private name begins with a number sign. -/
def untypedHeader (method : Method) : Text :=
  let name : Text :=
    if method.visibility = "private" then '#' :: method.name.toList else method.name.toList
  let name : Text := if method.isStatic then "static " ++ name else name
  signature name (method.parameters.map (·.name.toList))

/-- The header of a Python method; a private name begins with an underscore. -/
def hintedHeader (method : Method) : Text :=
  let name : Text :=
    if method.visibility = "private" then '_' :: method.name.toList else method.name.toList
  let parameters : List Text := method.parameters.map fun parameter =>
    parameter.name.toList ++ ": " ++ generator.typeName parameter.type
  let parameters : List Text := if method.isStatic then parameters else "self" :: parameters
  "def " ++ signature name parameters ++ " -> " ++ generator.typeName method.returnType

/-- The header of a method. -/
def methodHeader (method : Method) : Text :=
  match generator.language with
  | .csharp => generator.typedHeader method
  | .java => generator.typedHeader method
  | .javascript => untypedHeader method
  | .python => generator.hintedHeader method

/-- The lines that stand before the header of a method, before they are indented. -/
def methodPreamble (method : Method) : List Text :=
  match generator.language with
  | .csharp => []
  | .java => []
  | .javascript => generator.typeComment method
  | .python => if method.isStatic then ["@staticmethod"] else []

/-- The outline of a method at a depth. -/
def methodOutline (depth : Int) (method : Method) : List Entry :=
  (generator.methodPreamble method).map (fun text => .line (generator.indent depth ++ text)) ++
    generator.setting.clauses depth none
      [⟨generator.methodHeader method,
        elementsOutline generator.setting (depth + 1) method.elements⟩]

/-- The lines of a method at a depth. -/
def methodLines (depth : Int) (method : Method) : List Line :=
  generator.render (generator.methodOutline depth method)

/-- The lines of the class body: the methods and then the definitions, set apart by empty lines. -/
def members (depth : Int) (methods : List Method) : List Line :=
  Layout.separated
    (methods.map (generator.methodLines depth) ++
      generator.hoisted.map (generator.definition depth))

/-- The types outside the vocabulary that writing methods meets, in order. -/
def unknownTypes (methods : List Method) : List String :=
  unknownTypesIn (methods.flatMap fun method => generator.methodOutline 0 method)

/-- The lines that open a C# file. -/
def csharpPrologue : List Line := [
  "using System;",
  "using System.Collections.Generic;",
  "using System.Diagnostics;",
  "using System.Linq;",
  "using System.Text.RegularExpressions;"]

/-- The lines that open a Java file after its package. -/
def javaPrologue : List Line := [
  "import java.math.BigDecimal;",
  "import java.util.*;"]

/-- The lines that open a Python file. -/
def pythonPrologue : List Line := [
  "from __future__ import annotations",
  "",
  "import math",
  "import random",
  "import re",
  "import sys",
  "from datetime import datetime",
  "from decimal import Decimal"]

/-- A line that opens the body of the class or of the namespace. -/
def openingBrace : Line := ['{']

/-- A line that closes the body of the class or of the namespace. -/
def closingBrace : Line := ['}']

/-- The lines of a C# class at a depth. -/
def csharpClass (depth : Int) (project : Project) : List Line :=
  generator.lines depth ("public class " ++ project.className.toList) ++
    generator.lines depth openingBrace ++
    generator.members (depth + 1) project.methods ++
    generator.lines depth closingBrace

/-- A line about the namespace that opens a file, if the project has a namespace. -/
def namespaceLine (project : Project) (before after : String) : List Line :=
  if project.namespaceName = "" then
    []
  else
    [before.toList ++ project.namespaceName.toList ++ after.toList]

/-- The lines of a C# file; a namespace encloses the class. -/
def csharpFile (project : Project) : List Line :=
  csharpPrologue ++ [] ::
    if project.namespaceName = "" then
      generator.csharpClass 0 project
    else
      namespaceLine project "namespace " "" ++ openingBrace ::
        (generator.csharpClass 1 project ++ [closingBrace])

/-- The lines of a class in braces that stands at the outermost level. -/
def outermostClass (keyword : String) (project : Project) : List Line :=
  (keyword.toList ++ project.className.toList ++ [' ', '{']) ::
    (generator.members 1 project.methods ++ [closingBrace])

/-- The lines of a Java file. -/
def javaFile (project : Project) : List Line :=
  let package := namespaceLine project "package " ";"
  (if package.isEmpty then [] else package ++ [[]]) ++
    javaPrologue ++ [] :: generator.outermostClass "public class " project

/-- The lines of a JavaScript file. -/
def javascriptFile (project : Project) : List Line :=
  let strict : Line := "\"use strict\";"
  let exported : Line := "module.exports = " ++ project.className.toList ++ ";"
  namespaceLine project "// Module: " "" ++ strict :: [] ::
    (generator.outermostClass "class " project ++ [[], exported])

/-- The lines of a Python file; a class without members holds a statement that does nothing. -/
def pythonFile (project : Project) : List Line :=
  let members := generator.members 1 project.methods
  let header : Line := "class " ++ project.className.toList ++ ":"
  namespaceLine project "# Module: " "" ++ pythonPrologue ++ [] :: [] :: header ::
    if members.isEmpty then generator.lines 1 "pass" else members

/-- The lines of a project's file. -/
def file (project : Project) : List Line :=
  match generator.language with
  | .csharp => generator.csharpFile project
  | .java => generator.javaFile project
  | .javascript => generator.javascriptFile project
  | .python => generator.pythonFile project

/-- The text of a project's file. -/
def source (project : Project) : Text :=
  Text.ofLines (generator.file project)

/-- The records of writing a project's class: the unknown types, then the hoisted utilities. -/
def records (methods : List Method) : List Record :=
  (generator.unknownTypes methods).map (fun type => .noRenderer type.toList) ++
    if generator.hoisted.isEmpty then
      []
    else
      [.hoisting (generator.hoisted.map fun utility => utility.name.toList)]

end Generator

namespace Project

/-- The text of a project's file in a language. -/
def sourceIn (language : Language) (settings : Settings) (project : Project) : Text :=
  (Generator.make language settings project.methods).source project

/-- The text of a project's file. -/
def source (settings : Settings) (project : Project) : Text :=
  project.sourceIn project.target settings

/-- The records of writing a project's file in a language. -/
def recordsIn (language : Language) (settings : Settings) (project : Project) : List Record :=
  (Generator.make language settings project.methods).records project.methods

/-- The records of writing a project's file. -/
def records (settings : Settings) (project : Project) : List Record :=
  let target := project.target
  (if project.language = target.name then
    []
  else
    [.unknownLanguage project.language.toList target.name.toList]) ++
    [.generating target.name.toList project.className.toList project.methods.length] ++
    project.recordsIn target settings

end Project

end Blockwright
