import Blockwright.Proofs.Blocks
import Blockwright.Proofs.Braces.Templates

/-!
# Braces in source files

In the languages that delimit blocks by braces, the braces of a generated file
are nested: none closes before it opens and none stays open.  The lines that
open a block raise the count of open braces by one and the lines that end it
lower the count by one, in both styles, so by induction an element leads back to
where it began; methods, utilities and the class are put together from these.

Quoted texts may be anything.  Of the texts that a project contributes without
quotes, `Project.PlainTexts` asks that they hold no brace and no double quote.
-/

namespace Blockwright

/-! ## Blocks -/

namespace Outline.Setting

variable {setting : Setting} {kind : Layout.Braces}

theorem climbs_opening
    (style : setting.language.style = .braces kind)
    {header : Text}
    (headerClimbs : Balanced header)
    (depth : Int) (level : Nat) :
    Climbs (Text.ofLines (setting.opening depth header)) level (level + 1) := by
  have pad {level : Nat} : Climbs (setting.indent depth) level level :=
    Climbs.indent setting.width depth
  simp only [opening]
  rw [style]
  cases kind with
  | ownLine =>
      exact Climbs.ofLines_cons (pad.append (headerClimbs.climbs level))
        (Climbs.ofLines_singleton (pad.append Climbs.openingBrace))
  | headerLine =>
      exact Climbs.ofLines_singleton ((pad.append (headerClimbs.climbs level)).append
        Climbs.spacedOpening)

theorem climbs_closing
    {trailer : Option Text}
    (trailerClimbs : ∀ text ∈ trailer, Balanced text)
    (depth : Int) (level : Nat) :
    Climbs (Layout.closing (setting.indent depth) trailer) (level + 1) level := by
  have pad {level : Nat} : Climbs (setting.indent depth) level level :=
    Climbs.indent setting.width depth
  simp only [Layout.closing]
  split
  · next c rest =>
      exact (pad.append Climbs.closingSpaced).append
        ((trailerClimbs (c :: rest) rfl).climbs level)
  · exact pad.append Climbs.closingBrace

/-- What follows the body of the first clause closes one brace more than it opens. -/
theorem climbs_ending
    (style : setting.language.style = .braces kind)
    {trailer : Option Text}
    (trailerClimbs : ∀ text ∈ trailer, Balanced text)
    {headers : List Text}
    (headersClimb : ∀ header ∈ headers, Balanced header)
    (depth : Int) (level : Nat) :
    Climbs (Text.ofLines (setting.ending depth trailer headers)) (level + 1) level := by
  have pad {level : Nat} : Climbs (setting.indent depth) level level :=
    Climbs.indent setting.width depth
  induction headers with
  | nil =>
      rw [ending, style]
      exact Climbs.ofLines_singleton (climbs_closing trailerClimbs depth level)
  | cons header others ih =>
      have first := (headersClimb header List.mem_cons_self).climbs level
      have rest := ih fun header member => headersClimb header (List.mem_cons_of_mem _ member)
      rw [ending, style]
      refine Climbs.ofLines_append ?_ rest
      cases kind with
      | ownLine =>
          exact Climbs.ofLines_cons (pad.append Climbs.closingBrace)
            (Climbs.ofLines_cons (pad.append first)
              (Climbs.ofLines_singleton (pad.append Climbs.openingBrace)))
      | headerLine =>
          exact Climbs.ofLines_singleton
            (((pad.append Climbs.closingSpaced).append first).append Climbs.spacedOpening)

end Outline.Setting

/-! ## Elements -/

namespace Element

variable {language : Language} {element : Element}

theorem climbs_statement
    (braces : language ≠ .python)
    (plain : element.PlainTexts language)
    {kind : Statement}
    (tag : element.tag? = some (.statement kind)) :
    Balanced ((element.fields language).fill (language.statement kind)) := by
  apply Template.climbs_fill (language.level_statement braces kind)
  intro slot member
  apply Fields.climbs_slot braces
  intro property raw
  exact plain.properties _ tag property (List.mem_filterMap.2 ⟨slot, member, raw⟩)

/-- The header templates of any block but a counting loop, filled. -/
theorem climbs_template
    (braces : language ≠ .python)
    (plain : element.PlainTexts language)
    {kind : Block}
    (tag : element.tag? = some (.block kind))
    (fixed : kind ≠ .counting)
    {template : Template}
    (member : template ∈ language.headers.templates kind) :
    Balanced ((element.fields language).fill template) := by
  apply Template.climbs_fill (language.level_templates braces kind template member)
  intro slot inside
  apply Fields.climbs_slot braces
  intro property raw
  have listed : property ∈ language.rawProperties (.block kind) := by
    have written :
        property ∈ (language.headers.templates kind).flatMap Template.rawProperties :=
      List.mem_flatMap.2 ⟨template, member, List.mem_filterMap.2 ⟨slot, inside, raw⟩⟩
    cases kind with
    | counting => exact absurd rfl fixed
    | forEach | whileLoop | doWhile | conditional | ifElse | ifElseIf | switch => exact written
  exact plain.properties _ tag property listed

theorem climbs_countingHeader
    (braces : language ≠ .python)
    (plain : element.PlainTexts language)
    (tag : element.tag? = some (.block .counting)) :
    Balanced
      (language.headers.counting.fill
        ((element.fields language).slotWith (element.fields language).loopTexts)) := by
  have property (name : Text)
      (listed : name ∈ [("variable" : Text), "start", "end", "increment"]) :
      (element.fields language).PlainProperty name :=
    plain.properties _ tag name listed
  have field (name : Text)
      (listed : name ∈ [("variable" : Text), "start", "end", "increment"])
      (notStep : ("step" : Text) ≠ name) (notRange : ("range" : Text) ≠ name) :
      Balanced
        ((element.fields language).slotWith (element.fields language).loopTexts
          (.field name)) := by
    rw [Fields.slotWith_loopTexts_field notStep notRange]
    exact Fields.climbs_text braces (property name listed)
  apply Template.climbs_fill
    (language.level_templates braces .counting _ List.mem_cons_self)
  intro slot member
  have known := language.mem_countingSlots braces slot member
  simp only [List.mem_cons, List.not_mem_nil, or_false] at known
  rcases known with rfl | rfl | rfl | rfl
  · exact field "variable" (by decide) (by decide) (by decide)
  · exact field "start" (by decide) (by decide) (by decide)
  · exact field "end" (by decide) (by decide) (by decide)
  · exact Fields.climbs_stepText braces
      (property "variable" (by decide)) (property "increment" (by decide))

theorem climbs_blockHeader
    {setting : Outline.Setting}
    (braces : setting.language ≠ .python)
    (plain : element.PlainTexts setting.language)
    {kind : Block}
    (tag : element.tag? = some (.block kind)) :
    Balanced (Outline.blockHeader setting (element.fields setting.language) kind) := by
  cases kind with
  | counting => exact climbs_countingHeader braces plain tag
  | doWhile => exact Language.climbs_doOpening braces
  | forEach | whileLoop | conditional | ifElse | ifElseIf | switch =>
      exact climbs_template braces plain tag (by decide) List.mem_cons_self

theorem climbs_blockOpening
    (setting : Outline.Setting)
    (braces : setting.language ≠ .python)
    (plain : element.PlainTexts setting.language)
    {kind : Block}
    (tag : element.tag? = some (.block kind))
    (depth : Int) (level : Nat) :
    Climbs
      (Text.ofLines
        (Outline.blockOpening setting (element.fields setting.language) depth kind))
      level (level + 1) := by
  obtain ⟨_, style⟩ := Language.exists_braces braces
  have opened :=
    Outline.Setting.climbs_opening style (climbs_blockHeader braces plain tag) depth level
  refine Climbs.ofLines_append opened ?_
  cases kind with
  | switch =>
      have case : Balanced ((element.fields setting.language).fill setting.language.headers.case) :=
        climbs_template braces plain tag (by decide) (by simp [Headers.templates])
      simp only [Outline.caseOpening, style]
      exact (case.climbs (level + 1)).lines _ _
  | counting | forEach | whileLoop | doWhile | conditional | ifElse | ifElseIf =>
      exact Climbs.nil

theorem climbs_blockEnding
    (setting : Outline.Setting)
    (braces : setting.language ≠ .python)
    (plain : element.PlainTexts setting.language)
    {kind : Block}
    (tag : element.tag? = some (.block kind))
    (depth : Int) (level : Nat) :
    Climbs
      (Text.ofLines
        (Outline.blockEnding setting (element.fields setting.language) depth kind))
      (level + 1) level := by
  obtain ⟨_, style⟩ := Language.exists_braces braces
  have noTrailer : ∀ text ∈ (none : Option Text), Balanced text := by simp
  have otherwise := Language.climbs_otherwise braces
  cases kind with
  | counting | forEach | whileLoop | conditional =>
      exact Outline.Setting.climbs_ending style noTrailer (by simp) depth level
  | doWhile =>
      have condition :
          Balanced ((element.fields setting.language).fill setting.language.headers.doClosing) :=
        climbs_template braces plain tag (by decide) List.mem_cons_self
      simp only [Outline.blockEnding, style]
      exact Outline.Setting.climbs_ending style (by simpa using condition) (by simp) depth level
  | ifElse =>
      exact Outline.Setting.climbs_ending style noTrailer (by simpa using otherwise) depth level
  | ifElseIf =>
      have second :
          Balanced
            ((element.fields setting.language).fill setting.language.headers.secondCondition) :=
        climbs_template braces plain tag (by decide) (by simp [Headers.templates])
      exact Outline.Setting.climbs_ending style noTrailer (by simpa using ⟨second, otherwise⟩)
        depth level
  | switch =>
      have leave : Climbs ("break;" : Text) (level + 1) (level + 1) :=
        Climbs.of_plain (by decide)
      have others : Climbs ("default:" : Text) (level + 1) (level + 1) :=
        Climbs.of_plain (by decide)
      simp only [Outline.blockEnding, style]
      exact Climbs.ofLines_append
        (Climbs.ofLines_append
          (Climbs.ofLines_append (leave.lines _ _) (others.lines _ _)) (leave.lines _ _))
        (Outline.Setting.climbs_ending style noTrailer (by simp) depth level)

end Element

/-! ## Comments -/

theorem Text.climbs_flatten
    {text : Text}
    (plain : text.Plain) :
    Balanced (flatten text) := by
  apply Climbs.intercalate (Climbs.of_plain (by decide))
  intro line inside
  exact Climbs.of_plain fun c member => plain c (mem_of_mem_lines inside member)

namespace Generator

variable {generator : Generator}

theorem climbs_comment
    {text : Text}
    (plain : text.Plain)
    (depth : Int) :
    Balanced (generator.comment depth text) := by
  have mark : Balanced generator.language.commentMark := by
    cases generator.language <;> decide
  have space : Balanced [' '] := by decide
  exact (((Climbs.indent _ depth).append mark).append space).append (Text.climbs_flatten plain)

theorem plain_callText
    (utility : Utility) :
    (generator.callText utility).Plain := by
  intro c member
  rcases List.mem_append.1 member with name | rest
  · exact generator.language.plain_utilityName utility c name
  · have plain : Text.Plain "(): utility method defined at class level" := by
      rw [String.toList_ofList]
      decide
    exact plain c rest

theorem climbs_definition
    (braces : generator.language ≠ .python)
    (depth : Int) (utility : Utility) :
    Balanced (Text.ofLines (generator.definition depth utility)) :=
  (Language.climbs_utilitySource braces utility).lines _ depth

/-! ## Elements and methods -/

/-- The lines of an element lead back to where they began. -/
theorem climbs_elementLines
    (braces : generator.language ≠ .python)
    (element : Element)
    (plain : ∀ inner ∈ element.rendered, inner.PlainTexts generator.language)
    (depth : Int) :
    Balanced (Text.ofLines (generator.elementLines depth element)) := by
  induction element using Element.childInduction generalizing depth with
  | step element ih =>
      have own := plain element element.self_mem_rendered
      have outline := element.outline_eq generator.setting depth
      rcases tag : element.tag? with _ | (kind | kind | kind)
      · rw [tag] at outline
        rw [elementLines, outline]
        exact Climbs.ofLines_singleton (climbs_comment (own.type tag) depth)
      · rw [tag] at outline
        rw [elementLines, outline]
        simp only [Outline.Setting.lines, render_map_line]
        exact (Element.climbs_statement braces own tag).lines _ depth
      · have notPython :
            ¬(generator.language = .python ∧ kind ≠ .doWhile ∧ element.childList = []) :=
          fun all => braces all.1
        have opened := Element.climbs_blockOpening generator.setting braces own tag depth 0
        have ended := Element.climbs_blockEnding generator.setting braces own tag depth 0
        have body :
            Balanced
              (Text.ofLines
                (element.childList.flatMap
                  (generator.elementLines (depth + kind.childDepth)))) := by
          apply Climbs.ofLines_flatMap
          intro child member
          apply ih child member
          intro inner written
          exact plain inner (Element.rendered_subset_of_block tag member written)
        -- between opening and ending, the children are read with one brace more open
        rw [generator.elementLines_of_block depth tag, if_neg notPython]
        exact Climbs.ofLines_append (Climbs.ofLines_append opened (body.climbs 1)) ended
      · rw [tag] at outline
        rw [elementLines, outline]
        simp only [render, List.flatMap_cons, List.flatMap_nil, List.append_nil, entryLines]
        split
        · exact Climbs.ofLines_singleton (climbs_comment (plain_callText kind) depth)
        · exact climbs_definition braces depth kind

end Generator

/-- The texts that a method contributes to a file without quotes are plain. -/
structure Method.PlainTexts (language : Language) (method : Method) : Prop where
  /-- A language that marks private methods by their names does not write the visibility. -/
  visibility : language ≠ .javascript → Text.Plain method.visibility.toList
  returnType : Text.Plain method.returnType.toList
  name : Text.Plain method.name.toList
  parameters :
    ∀ parameter ∈ method.parameters,
      Text.Plain parameter.name.toList ∧ Text.Plain parameter.type.toList
  elements : ∀ element ∈ elementsRendered method.elements, element.PlainTexts language

/-- The texts that a project contributes to a file without quotes are plain. -/
structure Project.PlainTexts (language : Language) (project : Project) : Prop where
  namespaceName : Text.Plain project.namespaceName.toList
  className : Text.Plain project.className.toList
  methods : ∀ method ∈ project.methods, method.PlainTexts language

instance (language : Language) (method : Method) :
    Decidable (method.PlainTexts language) :=
  decidable_of_iff
    ((language ≠ .javascript → Text.Plain method.visibility.toList) ∧
      Text.Plain method.returnType.toList ∧
      Text.Plain method.name.toList ∧
      (∀ parameter ∈ method.parameters,
        Text.Plain parameter.name.toList ∧ Text.Plain parameter.type.toList) ∧
      ∀ element ∈ elementsRendered method.elements, element.PlainTexts language)
    ⟨fun ⟨visibility, returnType, name, parameters, elements⟩ =>
        ⟨visibility, returnType, name, parameters, elements⟩,
      fun plain =>
        ⟨plain.visibility, plain.returnType, plain.name, plain.parameters, plain.elements⟩⟩

instance (language : Language) (project : Project) :
    Decidable (project.PlainTexts language) :=
  decidable_of_iff
    (Text.Plain project.namespaceName.toList ∧
      Text.Plain project.className.toList ∧
      ∀ method ∈ project.methods, method.PlainTexts language)
    ⟨fun ⟨namespaceName, className, methods⟩ => ⟨namespaceName, className, methods⟩,
      fun plain => ⟨plain.namespaceName, plain.className, plain.methods⟩⟩

namespace Generator

variable {generator : Generator}

theorem climbs_typeName
    {name : String}
    (plain : Text.Plain name.toList) :
    Balanced (generator.typeName name) :=
  TypeName.climbs_spell (Climbs.of_plain plain) generator.language false

theorem climbs_signature
    {name : Text} {parameters : List Text}
    (nameClimbs : Balanced name)
    (parametersClimb : ∀ parameter ∈ parameters, Balanced parameter) :
    Balanced (signature name parameters) := by
  have separated : Balanced (List.intercalate ", " parameters) :=
    Climbs.intercalate (Climbs.of_plain (by decide)) parametersClimb
  exact ((nameClimbs.append (by decide)).append separated).append (by decide)

theorem climbs_phrase
    {parts : List Text}
    (partsClimb : ∀ part ∈ parts, Balanced part) :
    Balanced (phrase parts) := by
  apply Climbs.intercalate (Climbs.of_plain (by decide))
  intro part member
  exact partsClimb part (List.mem_filter.1 member).1

theorem climbs_typedHeader
    {method : Method}
    (written : generator.language ≠ .javascript)
    (plain : method.PlainTexts generator.language) :
    Balanced (generator.typedHeader method) := by
  have static : Balanced (if method.isStatic then ("static" : Text) else "") := by
    split <;> decide
  have parameters :
      ∀ text ∈ method.parameters.map (fun parameter =>
          generator.typeName parameter.type ++ " " ++ parameter.name.toList),
        Balanced text := by
    intro text member
    rcases List.mem_map.1 member with ⟨parameter, given, rfl⟩
    obtain ⟨name, type⟩ := plain.parameters parameter given
    exact ((climbs_typeName type).append (by decide)).append (Climbs.of_plain name)
  apply climbs_phrase
  simp only [List.forall_mem_cons]
  exact ⟨Climbs.of_plain (plain.visibility written), static, climbs_typeName plain.returnType,
    climbs_signature (Climbs.of_plain plain.name) parameters, by simp⟩

theorem climbs_untypedHeader
    {language : Language} {method : Method}
    (plain : method.PlainTexts language) :
    Balanced (untypedHeader method) := by
  have parameters :
      ∀ text ∈ method.parameters.map (·.name.toList), Balanced text := by
    intro text member
    rcases List.mem_map.1 member with ⟨parameter, given, rfl⟩
    exact Climbs.of_plain (plain.parameters parameter given).1
  have marked :
      Balanced
        (if method.visibility = "private" then '#' :: method.name.toList
          else method.name.toList) := by
    have name : Balanced method.name.toList := Climbs.of_plain plain.name
    split
    · have mark : Balanced ['#'] := by decide
      exact mark.append name
    · exact name
  simp only [untypedHeader]
  refine climbs_signature ?_ parameters
  split
  · have static : Balanced "static " := by decide
    exact static.append marked
  · exact marked

theorem climbs_methodHeader
    (braces : generator.language ≠ .python)
    {method : Method}
    (plain : method.PlainTexts generator.language) :
    Balanced (generator.methodHeader method) := by
  cases language : generator.language with
  | csharp | java =>
      simp only [methodHeader, language]
      exact climbs_typedHeader (by simp [language]) plain
  | javascript =>
      simp only [methodHeader, language]
      exact climbs_untypedHeader plain
  | python => exact absurd language braces

/-- The braces around the types in a type comment are closed on their lines. -/
theorem climbs_typeComment
    {method : Method}
    (plain : method.PlainTexts generator.language) :
    ∀ text ∈ generator.typeComment method, Balanced text := by
  have parameterLine (parameter : Parameter) (given : parameter ∈ method.parameters) :
      Balanced
        (" * @param \x7b" ++ generator.typeName parameter.type ++ "\x7d "
          ++ parameter.name.toList) := by
    obtain ⟨name, type⟩ := plain.parameters parameter given
    have opened : Climbs (" * @param \x7b" : Text) 0 1 := by decide
    have closed : Climbs ("\x7d " : Text) 1 0 := by decide
    exact ((opened.append ((climbs_typeName type).climbs 1)).append closed).append
      (Climbs.of_plain name)
  have returnLine :
      Balanced (" * @returns \x7b" ++ generator.typeName method.returnType ++ "\x7d") := by
    have opened : Climbs (" * @returns \x7b" : Text) 0 1 := by decide
    have closed : Climbs ("\x7d" : Text) 1 0 := by decide
    exact (opened.append ((climbs_typeName plain.returnType).climbs 1)).append closed
  have first : Balanced "/**" := by decide
  have last : Balanced " */" := by decide
  simp only [typeComment]
  split
  · simp
  · simp only [List.forall_mem_cons, List.forall_mem_append, List.forall_mem_map]
    exact ⟨first, parameterLine, returnLine, last, by simp⟩

theorem climbs_methodPreamble
    (braces : generator.language ≠ .python)
    {method : Method}
    (plain : method.PlainTexts generator.language) :
    ∀ text ∈ generator.methodPreamble method, Balanced text := by
  cases language : generator.language with
  | csharp | java => simp [methodPreamble, language]
  | javascript =>
      simp only [methodPreamble, language]
      exact climbs_typeComment plain
  | python => exact absurd language braces

/-- The lines of a method lead back to where they began. -/
theorem climbs_methodLines
    (braces : generator.language ≠ .python)
    {method : Method}
    (plain : method.PlainTexts generator.language)
    (depth : Int) :
    Balanced (Text.ofLines (generator.methodLines depth method)) := by
  obtain ⟨kind, style⟩ := Language.exists_braces braces
  have setStyle : generator.setting.language.style = .braces kind := style
  have preamble :
      Balanced
        (Text.ofLines
          ((generator.methodPreamble method).map (generator.indent depth ++ ·))) := by
    apply Climbs.ofLines_of_forall
    rw [List.forall_mem_map]
    intro text member
    exact (Climbs.indent _ depth).append (climbs_methodPreamble braces plain text member)
  have opened :=
    Outline.Setting.climbs_opening setStyle (climbs_methodHeader braces plain) depth 0
  have ended : Climbs (Text.ofLines (generator.setting.ending depth none [])) 1 0 :=
    Outline.Setting.climbs_ending setStyle (by simp) (by simp) depth 0
  have body :
      Balanced
        (Text.ofLines (method.elements.flatMap (generator.elementLines (depth + 1)))) := by
    apply Climbs.ofLines_flatMap
    intro element member
    apply climbs_elementLines braces element
    intro inner rendered
    exact plain.elements inner (Element.rendered_subset_elementsRendered member rendered)
  rw [methodLines_eq, if_neg fun all => braces all.1]
  exact Climbs.ofLines_append
    (Climbs.ofLines_append (Climbs.ofLines_append preamble opened) (body.climbs 1)) ended

theorem climbs_separated
    {blocks : List (List Line)}
    (each : ∀ block ∈ blocks, Balanced (Text.ofLines block)) :
    Balanced (Text.ofLines (Layout.separated blocks)) := by
  fun_induction Layout.separated blocks with
  | case1 => exact Climbs.nil
  | case2 block => exact each block List.mem_cons_self
  | case3 block others _ ih =>
      refine Climbs.ofLines_append (each block List.mem_cons_self) ?_
      exact Climbs.ofLines_cons Climbs.nil
        (ih fun block member => each block (List.mem_cons_of_mem _ member))

/-- The lines of the class body lead back to where they began. -/
theorem climbs_members
    (braces : generator.language ≠ .python)
    {methods : List Method}
    (plain : ∀ method ∈ methods, method.PlainTexts generator.language)
    (depth : Int) :
    Balanced (Text.ofLines (generator.members depth methods)) := by
  apply climbs_separated
  intro block member
  rcases List.mem_append.1 member with method | definition
  · rcases List.mem_map.1 method with ⟨written, given, rfl⟩
    exact climbs_methodLines braces (plain written given) depth
  · rcases List.mem_map.1 definition with ⟨utility, _, rfl⟩
    exact climbs_definition braces depth utility

/-! ## Files -/

theorem climbs_lines
    (generator : Generator)
    {text : Text} {low high : Nat}
    (climbs : Climbs text low high)
    (depth : Int) :
    Climbs (Text.ofLines (generator.lines depth text)) low high :=
  climbs.lines _ depth

theorem climbs_csharpPrologue : Balanced (Text.ofLines csharpPrologue) := by
  apply Climbs.ofLines_of_forall
  simp only [csharpPrologue, List.forall_mem_cons]
  repeat rw [String.toList_ofList]
  decide

theorem climbs_javaPrologue : Balanced (Text.ofLines javaPrologue) := by
  apply Climbs.ofLines_of_forall
  simp only [javaPrologue, List.forall_mem_cons]
  repeat rw [String.toList_ofList]
  decide

theorem climbs_namespaceLine
    {project : Project} {before after : String}
    (plain : Text.Plain project.namespaceName.toList)
    (beforeClimbs : Balanced before.toList)
    (afterClimbs : Balanced after.toList) :
    Balanced (Text.ofLines (namespaceLine project before after)) := by
  simp only [namespaceLine]
  split
  · exact Climbs.nil
  · exact Climbs.ofLines_singleton
      ((beforeClimbs.append (Climbs.of_plain plain)).append afterClimbs)

theorem climbs_csharpClass
    (braces : generator.language ≠ .python)
    {project : Project}
    (plain : project.PlainTexts generator.language)
    (depth : Int) :
    Balanced (Text.ofLines (generator.csharpClass depth project)) := by
  have keyword : Balanced "public class " := by decide
  have header := generator.climbs_lines (keyword.append (Climbs.of_plain plain.className)) depth
  have opened : Climbs (Text.ofLines (generator.lines depth openingBrace)) 0 1 :=
    generator.climbs_lines Climbs.openingBrace depth
  have closed : Climbs (Text.ofLines (generator.lines depth closingBrace)) 1 0 :=
    generator.climbs_lines Climbs.closingBrace depth
  have body := (climbs_members braces plain.methods (depth + 1)).climbs 1
  exact Climbs.ofLines_append
    (Climbs.ofLines_append (Climbs.ofLines_append header opened) body) closed

theorem climbs_csharpFile
    (braces : generator.language ≠ .python)
    {project : Project}
    (plain : project.PlainTexts generator.language) :
    Balanced (Text.ofLines (generator.csharpFile project)) := by
  simp only [csharpFile]
  refine Climbs.ofLines_append climbs_csharpPrologue (Climbs.ofLines_cons Climbs.nil ?_)
  split
  · exact climbs_csharpClass braces plain 0
  · have name : Balanced (Text.ofLines (namespaceLine project "namespace " "")) :=
      climbs_namespaceLine plain.namespaceName (by decide) (by decide)
    have body := (climbs_csharpClass braces plain 1).climbs 1
    exact Climbs.ofLines_append name
      (Climbs.ofLines_cons Climbs.openingBrace
        (Climbs.ofLines_append body (Climbs.ofLines_singleton Climbs.closingBrace)))

theorem climbs_outermostClass
    (braces : generator.language ≠ .python)
    (keyword : String)
    (keywordClimbs : Balanced keyword.toList)
    {project : Project}
    (plain : project.PlainTexts generator.language) :
    Balanced (Text.ofLines (generator.outermostClass keyword project)) := by
  have opened : Climbs [' ', '{'] 0 1 := by decide
  have header := (keywordClimbs.append (Climbs.of_plain plain.className)).append opened
  have body := (climbs_members braces plain.methods 1).climbs 1
  exact Climbs.ofLines_cons header
    (Climbs.ofLines_append body (Climbs.ofLines_singleton Climbs.closingBrace))

theorem climbs_javaFile
    (braces : generator.language ≠ .python)
    {project : Project}
    (plain : project.PlainTexts generator.language) :
    Balanced (Text.ofLines (generator.javaFile project)) := by
  have package : Balanced (Text.ofLines (namespaceLine project "package " ";")) :=
    climbs_namespaceLine plain.namespaceName (by decide) (by decide)
  have body := climbs_outermostClass braces "public class " (by decide) plain
  have opening :
      Balanced
        (Text.ofLines
          (if (namespaceLine project "package " ";").isEmpty then
            []
          else
            namespaceLine project "package " ";" ++ [[]])) := by
    split
    · exact Climbs.nil
    · exact Climbs.ofLines_append package (Climbs.ofLines_singleton Climbs.nil)
  exact Climbs.ofLines_append (Climbs.ofLines_append opening climbs_javaPrologue)
    (Climbs.ofLines_cons Climbs.nil body)

theorem climbs_javascriptFile
    (braces : generator.language ≠ .python)
    {project : Project}
    (plain : project.PlainTexts generator.language) :
    Balanced (Text.ofLines (generator.javascriptFile project)) := by
  have module : Balanced (Text.ofLines (namespaceLine project "// Module: " "")) :=
    climbs_namespaceLine plain.namespaceName (by decide) (by decide)
  have strict : Balanced "\"use strict\";" := by decide
  have exports : Balanced "module.exports = " := by decide
  have exported : Balanced ("module.exports = " ++ project.className.toList ++ ";") :=
    (exports.append (Climbs.of_plain plain.className)).append (by decide)
  have body := climbs_outermostClass braces "class " (by decide) plain
  exact Climbs.ofLines_append module
    (Climbs.ofLines_cons strict
      (Climbs.ofLines_cons Climbs.nil
        (Climbs.ofLines_append body
          (Climbs.ofLines_cons Climbs.nil (Climbs.ofLines_singleton exported)))))

theorem climbs_source
    (braces : generator.language ≠ .python)
    {project : Project}
    (plain : project.PlainTexts generator.language) :
    Balanced (generator.source project) := by
  simp only [source, file]
  split
  · exact climbs_csharpFile braces plain
  · exact climbs_javaFile braces plain
  · exact climbs_javascriptFile braces plain
  · next python => exact absurd python braces

end Generator

/--
The braces of every file in a language of braces are nested, whatever texts the
project has quoted, if none of its other texts holds a brace or a double quote.
-/
theorem Project.bracesNested_sourceIn
    {language : Language} {settings : Settings} {project : Project}
    (braces : language ≠ .python)
    (plain : project.PlainTexts language) :
    (project.sourceIn language settings).BracesNested :=
  Text.BracesNested.of_balanced (Generator.climbs_source braces plain)

/-- A project that writes braces, quotes and line breaks inside quoted texts of nested blocks. -/
def quotedBraces : Project where
  methods := [
    { returnType := "int"
      parameters := [⟨"count", "int"⟩]
      elements := [
        { type := "if-else", children := some [
            { type := "do-while", children := some [
                { type := "console.writeline",
                  properties := [("message", .text "\x7d\"\\\x7d\n\x7b")] }] }] },
        { type := "switch", children := some [{ type := "mystery" }, { type := "factorial" }] }] }]

theorem quotedBraces_bracesNested :
    Language.java ≠ .python ∧
      quotedBraces.PlainTexts .java ∧
      (quotedBraces.sourceIn .java .standard).BracesNested := by
  have braces : Language.java ≠ .python := by decide
  have plain : quotedBraces.PlainTexts .java := by decide +kernel
  exact ⟨braces, plain, Project.bracesNested_sourceIn braces plain⟩

end Blockwright
