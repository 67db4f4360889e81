import Blockwright.Proofs.Blocks
import Blockwright.Proofs.Properties.Declared
import Mathlib.Data.List.Basic

/-!
# Normal projects

Much of a project is data of the editor: identifiers, contents, positions,
children that no body is written for, properties that were never filled in or
that the element's type does not declare, and a language name that means C#
because it names nothing.  `Project.normal` drops all of it.  The main statement
says that none of it can be seen in a source file: a project and its normal form
have the same text under all settings, and the text in a given language does not
depend on the language that the project names.
-/

namespace Blockwright

/-- The names of the properties that elements of a type declare. -/
def declaredNames (type : String) : List String :=
  ((Tag.ofName? type).elim [] Tag.defaults).map (·.1)

/-- The value of a property that is in force, which is neither null nor empty. -/
def Properties.inForce? (properties : Properties) (property : Text) : Option Document :=
  (properties.get? property).filter (!·.isOpen)

/-- The properties that an element's type declares and that are in force. -/
def Properties.normal (type : String) (properties : Properties) : Properties :=
  properties.filter fun entry =>
    (declaredNames type).contains entry.1 && (properties.inForce? entry.1.toList).isSome

mutual

/-- An element without the data of the editor. -/
def Element.normal : Element → Element
  | ⟨_, type, _, properties, children, _⟩ => {
      type := type
      properties := properties.normal type
      children :=
        match Tag.ofName? type with
        | some (.block _) => some (childrenNormal children)
        | _ => none }

/-- The children of a block without the data of the editor. -/
def childrenNormal : Option (List Element) → List Element
  | none => []
  | some elements => elementsNormal elements

/-- Elements in order without the data of the editor. -/
def elementsNormal : List Element → List Element
  | [] => []
  | element :: others => element.normal :: elementsNormal others

end

/-- A method without the data of the editor. -/
def Method.normal (method : Method) : Method :=
  { method with elements := elementsNormal method.elements }

/-- A project without the data of the editor. -/
def Project.normal (project : Project) : Project :=
  { project with
    language := project.target.name
    methods := project.methods.map Method.normal }

/-! ## Normal properties -/

theorem mem_declaredNames_iff
    {type name : String} {tag : Tag}
    (known : Tag.ofName? type = some tag) :
    name ∈ declaredNames type ↔ name.toList ∈ tag.properties := by
  simp only [declaredNames, Tag.properties, known, Option.elim_some, List.mem_map]
  constructor
  · rintro ⟨entry, member, rfl⟩
    exact ⟨entry, member, rfl⟩
  · rintro ⟨entry, member, same⟩
    exact ⟨entry, member, String.toList_inj.1 same⟩

namespace Properties

/-- Among the normal properties a declared property has the value that was in force before. -/
theorem get?_normal
    {type : String} {tag : Tag}
    (known : Tag.ofName? type = some tag)
    (properties : Properties)
    {property : Text}
    (declared : property ∈ tag.properties) :
    (properties.normal type).get? property = properties.inForce? property := by
  have found :
      (properties.normal type).find? (fun entry => entry.1.toList = property) =
        properties.find? fun entry =>
          (properties.inForce? property).isSome && decide (entry.1.toList = property) := by
    rw [normal, List.find?_filter]
    congr 1
    funext entry
    by_cases named : entry.1.toList = property
    · have member : entry.1 ∈ declaredNames type := by
        rwa [mem_declaredNames_iff known, named]
      simp [named, member]
    · simp [named]
  have read :
      (properties.normal type).get? property =
        ((properties.normal type).find? fun entry => entry.1.toList = property).map (·.2) :=
    rfl
  rw [read, found]
  cases force : properties.inForce? property with
  | none =>
      have nothing : properties.find? (fun _ => false) = none := by simp
      simp [nothing]
  | some value =>
      simp only [Option.isSome_some, Bool.true_and]
      exact (Option.filter_eq_some_iff.1 force).1

theorem inForce?_normal
    {type : String} {tag : Tag}
    (known : Tag.ofName? type = some tag)
    (properties : Properties)
    {property : Text}
    (declared : property ∈ tag.properties) :
    (properties.normal type).inForce? property = properties.inForce? property := by
  rw [inForce?, get?_normal known properties declared, inForce?, Option.filter_filter]
  simp

theorem get?_of_mem
    {properties : Properties}
    (once : (properties.map (·.1)).Nodup)
    {entry : String × Document}
    (member : entry ∈ properties) :
    properties.get? entry.1.toList = some entry.2 := by
  induction properties with
  | nil => exact absurd member List.not_mem_nil
  | cons first others ih =>
      rw [List.map_cons, List.nodup_cons] at once
      rcases List.mem_cons.1 member with rfl | later
      · simp [get?]
      · have different : first.1 ≠ entry.1 := by
          intro same
          exact once.1 (same ▸ List.mem_map_of_mem later)
        have rest := ih once.2 later
        simpa [get?, different, String.toList_inj] using rest

/-- Where every name is set once, the normal properties are the declared ones that are not open. -/
theorem normal_eq_filter
    (type : String) {properties : Properties}
    (once : (properties.map (·.1)).Nodup) :
    properties.normal type =
      properties.filter fun entry =>
        (declaredNames type).contains entry.1 && !entry.2.isOpen := by
  rw [normal]
  apply List.filter_congr
  intro entry member
  rw [inForce?, get?_of_mem once member]
  cases isOpen : entry.2.isOpen <;> simp [isOpen]

end Properties

theorem Template.fill_congr
    {first second : Slot → Text} {template : Template}
    (agree : ∀ slot ∈ template.slots, first slot = second slot) :
    template.fill first = template.fill second := by
  apply List.flatMap_congr
  intro piece member
  cases piece with
  | literal text => rfl
  | slot slot => exact agree slot (mem_slots member)

namespace Fields

/-- What the properties of an element are read from when it is without the data of the editor. -/
def normal (fields : Fields) : Fields :=
  { fields with properties := fields.properties.normal fields.type }

variable {fields : Fields} {tag : Tag} (known : Tag.ofName? fields.type = some tag)

include known

theorem text_normal
    {property : Text}
    (declared : property ∈ tag.properties) :
    fields.normal.text property = fields.text property := by
  have same : fields.normal.set? property = fields.set? property :=
    Properties.inForce?_normal known fields.properties declared
  simp only [text, same]
  rfl

theorem slot_normal
    {slot : Slot}
    (declared : slot.property ∈ tag.properties) :
    fields.normal.slot slot = fields.slot slot := by
  have same := text_normal known declared
  cases slot with
  | field name => exact same
  | quoted name => exact congrArg Text.quote same
  | native name => exact congrArg (TypeName.spell fields.language false) same
  | boxed name => exact congrArg (TypeName.spell fields.language true) same

theorem extraTexts_normal :
    fields.normal.extraTexts tag = fields.extraTexts tag := by
  simp only [extraTexts]
  split
  · have declared (property : Text) (member : property ∈ (Tag.block .counting).properties) :=
      text_normal known member
    have name := declared "variable" (by decide)
    have first := declared "start" (by decide)
    have last := declared "end" (by decide)
    have increment := declared "increment" (by decide)
    have step : fields.normal.stepText = fields.stepText :=
      congrArg₂
        (fun name increment : Text =>
          if increment = "1" then name ++ "++" else name ++ " += " ++ increment)
        name increment
    have range : fields.normal.rangeText = fields.rangeText :=
      congrArg₂
        (fun (bounds increment : Text) =>
          "range(" ++ (if increment = "1" then bounds else bounds ++ ", " ++ increment) ++ ")")
        (congrArg₂ (fun first last : Text => first ++ ", " ++ last) first last) increment
    rw [loopTexts, loopTexts, step, range]
  · rfl

/-- A template of an element's tag is filled the same without the data of the editor. -/
theorem fill_normal
    {template : Template}
    (written : template ∈ fields.language.templates tag) :
    template.fill (fields.normal.slotWith (fields.normal.extraTexts tag)) =
      template.fill (fields.slotWith (fields.extraTexts tag)) := by
  apply Template.fill_congr
  intro slot asked
  rw [extraTexts_normal known]
  simp only [slotWith]
  split
  · rfl
  · next ordinary =>
      rcases Language.declares_slot written asked with declared | ⟨rfl, extra⟩
      · exact slot_normal known declared
      · exact absurd ordinary (fields.find?_loopTexts_ne_none extra)

theorem fill_normal_of_ordinary
    {template : Template}
    (written : template ∈ fields.language.templates tag)
    (ordinary : fields.extraTexts tag = []) :
    fields.normal.fill template = fields.fill template := by
  have filled := fill_normal known written
  rw [extraTexts_normal known, ordinary] at filled
  exact filled

end Fields

/-! ## Normal elements -/

/-- The outline of a block is the same without the data of the editor. -/
theorem Outline.block_normal
    {setting : Setting} {fields : Fields} {kind : Block}
    (known : Tag.ofName? fields.type = some (.block kind))
    (own : fields.language = setting.language)
    (depth : Int) (body : List Entry) :
    block setting fields.normal depth body kind = block setting fields depth body kind := by
  have filled
      (template : Template)
      (written : template ∈ setting.language.headers.templates kind)
      (ordinary : fields.extraTexts (.block kind) = []) :
      fields.normal.fill template = fields.fill template := by
    rw [← own] at written
    exact Fields.fill_normal_of_ordinary known written ordinary
  cases kind with
  | counting =>
      have written :
          setting.language.headers.counting ∈ fields.language.templates (.block .counting) := by
        rw [own]
        exact List.mem_cons_self
      have header := Fields.fill_normal known written
      exact congrArg (fun text => setting.clauses depth none [⟨text, body⟩]) header
  | forEach =>
      have header := filled setting.language.headers.forEach (by simp [Headers.templates]) rfl
      simp only [block, header]
  | whileLoop =>
      have header := filled setting.language.headers.whileLoop (by simp [Headers.templates]) rfl
      simp only [block, header]
  | doWhile =>
      have condition :=
        filled setting.language.headers.doClosing (by simp [Headers.templates]) rfl
      simp only [block, doWhile, condition]
  | conditional =>
      have header :=
        filled setting.language.headers.conditional (by simp [Headers.templates]) rfl
      simp only [block, header]
  | ifElse =>
      have header :=
        filled setting.language.headers.conditional (by simp [Headers.templates]) rfl
      simp only [block, header]
  | ifElseIf =>
      have first :=
        filled setting.language.headers.firstCondition (by simp [Headers.templates]) rfl
      have second :=
        filled setting.language.headers.secondCondition (by simp [Headers.templates]) rfl
      simp only [block, first, second]
  | switch =>
      have header := filled setting.language.headers.switch (by simp [Headers.templates]) rfl
      have case := filled setting.language.headers.case (by simp [Headers.templates]) rfl
      simp only [block, switch, header, case]

namespace Element

@[simp]
theorem tag?_normal
    (element : Element) :
    element.normal.tag? = element.tag? := by
  rcases element with ⟨id, type, content, properties, children, position⟩
  rw [normal]
  rfl

theorem fields_normal
    (language : Language) (element : Element) :
    element.normal.fields language = (element.fields language).normal := by
  rcases element with ⟨id, type, content, properties, children, position⟩
  rw [normal]
  rfl

end Element

theorem elementsNormal_eq_map
    (elements : List Element) :
    elementsNormal elements = elements.map Element.normal := by
  induction elements with
  | nil => rfl
  | cons element others ih => rw [elementsNormal, ih, List.map_cons]

theorem Element.type_normal
    (element : Element) :
    element.normal.type = element.type := by
  rcases element with ⟨id, type, content, properties, children, position⟩
  rw [normal]

theorem Element.childList_normal
    {element : Element} {kind : Block}
    (block : element.tag? = some (.block kind)) :
    element.normal.childList = element.childList.map Element.normal := by
  rcases element with ⟨id, type, content, properties, children, position⟩
  have known : Tag.ofName? type = some (.block kind) := block
  rw [normal, known]
  cases children with
  | none => rfl
  | some elements => exact elementsNormal_eq_map elements

/-- The outline of an element is the same without the data of the editor. -/
theorem Element.outline_normal
    (setting : Outline.Setting) (depth : Int)
    (element : Element) :
    element.normal.outline setting depth = element.outline setting depth := by
  induction element using Element.childInduction generalizing depth with
  | step element ih =>
      rw [outline_eq, outline_eq, tag?_normal, type_normal, fields_normal]
      rcases tag : element.tag? with _ | (kind | kind | kind)
      · rfl
      · have known : Tag.ofName? (element.fields setting.language).type = some _ := tag
        have filled :
            (element.fields setting.language).normal.fill (setting.language.statement kind) =
              (element.fields setting.language).fill (setting.language.statement kind) :=
          Fields.fill_normal_of_ordinary known List.mem_cons_self rfl
        simp only [filled]
      · have children :
            element.normal.childList.flatMap
                (Element.outline setting (depth + kind.childDepth)) =
              element.childList.flatMap
                (Element.outline setting (depth + kind.childDepth)) := by
          rw [childList_normal tag, List.flatMap_map]
          apply List.flatMap_congr
          intro child member
          exact ih child member (depth + kind.childDepth)
        have known : Tag.ofName? (element.fields setting.language).type = some _ := tag
        simp only [children]
        exact Outline.block_normal known rfl depth _
      · rfl

/-- An element uses the same utilities without the data of the editor. -/
theorem Element.uses_normal
    (element : Element) :
    element.normal.uses = element.uses := by
  induction element using Element.childInduction with
  | step element ih =>
      rw [uses_eq, uses_eq, tag?_normal]
      rcases tag : element.tag? with _ | (kind | kind | kind)
      · rfl
      · rfl
      · simp only [childList_normal tag, List.flatMap_map]
        apply List.flatMap_congr
        intro child member
        exact ih child member
      · rfl

theorem elementsOutline_normal
    (setting : Outline.Setting) (depth : Int)
    (elements : List Element) :
    elementsOutline setting depth (elementsNormal elements) =
      elementsOutline setting depth elements := by
  rw [elementsOutline_eq_flatMap, elementsOutline_eq_flatMap, elementsNormal_eq_map,
    List.flatMap_map]
  apply List.flatMap_congr
  intro element _
  exact element.outline_normal setting depth

theorem elementsUses_normal
    (elements : List Element) :
    elementsUses (elementsNormal elements) = elementsUses elements := by
  rw [elementsUses_eq_flatMap, elementsUses_eq_flatMap, elementsNormal_eq_map,
    List.flatMap_map]
  apply List.flatMap_congr
  intro element _
  exact element.uses_normal

/-! ## Normal projects -/

theorem collectUtilities_normal
    (methods : List Method) :
    collectUtilities (methods.map Method.normal) = collectUtilities methods := by
  rw [collectUtilities, collectUtilities, List.flatMap_map]
  congr 1
  apply List.flatMap_congr
  intro method _
  exact elementsUses_normal method.elements

namespace Generator

variable (generator : Generator)

/-- The generator of methods is the same without the data of the editor. -/
theorem make_normal
    (language : Language) (settings : Settings) (methods : List Method) :
    make language settings (methods.map Method.normal) = make language settings methods := by
  rw [make, make, collectUtilities_normal]

theorem methodLines_normal
    (depth : Int) (method : Method) :
    generator.methodLines depth method.normal = generator.methodLines depth method := by
  have body := elementsOutline_normal generator.setting (depth + 1) method.elements
  have outline :
      generator.methodOutline depth method.normal = generator.methodOutline depth method := by
    simp only [methodOutline]
    rw [← body]
    rfl
  rw [methodLines, methodLines, outline]

theorem members_normal
    (depth : Int) (methods : List Method) :
    generator.members depth (methods.map Method.normal) = generator.members depth methods := by
  have lines :
      (methods.map Method.normal).map (generator.methodLines depth) =
        methods.map (generator.methodLines depth) := by
    rw [List.map_map]
    apply List.map_congr_left
    intro method _
    exact generator.methodLines_normal depth method
  rw [members, members, lines]

theorem source_normal
    (project : Project) :
    generator.source project.normal = generator.source project := by
  have members (depth : Int) :
      generator.members depth project.normal.methods =
        generator.members depth project.methods :=
    generator.members_normal depth project.methods
  have file : generator.file project.normal = generator.file project := by
    simp only [file, csharpFile, csharpClass, javaFile, javascriptFile, outermostClass,
      pythonFile, members]
    rfl
  rw [source, source, file]

end Generator

theorem Project.target_normal
    (project : Project) :
    project.normal.target = project.target :=
  Language.resolve_name project.target

/--
The data of the editor cannot be seen in a source file: without it, a project has
the same text under all settings, and the text in a given language is the same
whatever language the project names.
-/
theorem Project.normal_source_eq
    (settings : Settings) (project : Project) :
    project.normal.source settings = project.source settings ∧
      ∀ (language : Language) (name : String),
        (project.withLanguage name).sourceIn language settings =
          project.sourceIn language settings := by
  constructor
  · have made :
        Generator.make project.target settings project.normal.methods =
          Generator.make project.target settings project.methods :=
      Generator.make_normal project.target settings project.methods
    rw [source, source, target_normal, sourceIn, sourceIn, made, Generator.source_normal]
  · intro language name
    rfl

end Blockwright
