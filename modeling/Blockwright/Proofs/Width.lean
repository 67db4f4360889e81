import Blockwright.Proofs.Reindenting
import Blockwright.Proofs.Braces.Templates

/-!
# Width

The width of a level changes nothing but the spaces that lines open with.  A line
written at the library's own width opens with some whole levels and some spaces
more; at any other width it is the same line with the levels rescaled and the
spaces more kept.

Texts that are moved to a depth keep what they have beyond whole levels, which is
less than a level of the library's own.  Lines that are laid out directly would
lend the spaces a header begins with to their levels, so the law rests on headers
that begin at once: those of blocks always do, and those of methods do if the
texts of the project that may open them do.
-/

namespace Blockwright

theorem Text.Flush.leadingSpaces_lt
    {text : Text}
    (flush : text.Flush) :
    Layout.leadingSpaces text < Layout.nesting := by
  have none : Layout.leadingSpaces text = 0 :=
    Layout.leadingSpaces_replicate_append 0 (text.flush_iff.1 flush).2
  rw [none]
  decide

namespace Layout

/-- A line written at the library's own width, with levels of another width. -/
def rescale (width : Nat) (line : Line) : Line :=
  List.replicate
      (width * (leadingSpaces line / nesting) + leadingSpaces line % nesting) ' ' ++
    line.dropWhile (· = ' ')

@[simp]
theorem rescale_nil
    (width : Nat) :
    rescale width [] = [] := by
  simp [rescale, leadingSpaces]

variable (width : Nat) (depth : Int)

/-- Rescaling keeps the spaces beyond whole levels. -/
theorem indent_rescaled
    {text : Text}
    (below : leadingSpaces text < nesting) :
    indent width depth ++ text = rescale width (indent nesting depth ++ text) := by
  have begins := head?_dropWhile_ne_space text
  have spelled := replicate_leadingSpaces_append text
  have levels : (nesting * depth.toNat + leadingSpaces text) / nesting = depth.toNat := by
    rw [Nat.mul_add_div (by decide), Nat.div_eq_of_lt below, Nat.add_zero]
  have beyond : (nesting * depth.toNat + leadingSpaces text) % nesting = leadingSpaces text := by
    rw [Nat.mul_add_mod, Nat.mod_eq_of_lt below]
  have written (width : Nat) :
      indent width depth ++ text =
        List.replicate (width * depth.toNat + leadingSpaces text) ' ' ++
          text.dropWhile (· = ' ') := by
    rw [indent, ← List.replicate_append_replicate, List.append_assoc, spelled]
  rw [written, written, rescale, leadingSpaces_replicate_append _ begins,
    dropWhile_replicate_append _ begins, levels, beyond]

theorem line_rescaled
    (raw : Text) :
    line width depth raw = rescale width (line nesting depth raw) := by
  have beyond : leadingSpaces raw % nesting < nesting := Nat.mod_lt _ (by decide)
  have own :
      leadingSpaces
          (List.replicate (leadingSpaces raw % nesting) ' ' ++ raw.dropWhile (· = ' ')) =
        leadingSpaces raw % nesting :=
    leadingSpaces_replicate_append _ (head?_dropWhile_ne_space raw)
  simp only [line]
  split
  · exact (rescale_nil width).symm
  · next stripped =>
      simp only [List.append_assoc]
      exact indent_rescaled width _ (Nat.lt_of_le_of_lt (Nat.le_of_eq own) beyond)

/-- Lines of the library's own width written with levels of another. -/
def rescaling : Reindenting width nesting where
  offset := 0
  Within _ := True
  Begins := Text.Flush
  move := rescale width
  within_add _ _ := trivial
  begins_of_flush flush := flush
  begins_append flush rest := flush.append rest
  move_nil := rescale_nil width
  move_indent _ flush := by
    rw [Int.add_zero]
    exact indent_rescaled width _ flush.leadingSpaces_lt
  move_line raw _ := by
    rw [Int.add_zero]
    exact line_rescaled width _ raw

end Layout

/-! ## Elements -/

/-- The same choices with levels of the library's own width. -/
def Settings.unscaled (settings : Settings) : Settings :=
  { settings with
    indentWidth := Layout.nesting
    one_le_indentWidth := by decide }

theorem Language.hoists_unscaled
    (language : Language) (settings : Settings) :
    language.hoists settings.unscaled = language.hoists settings := by
  cases language <;> rfl

namespace Generator

/-- The same generator with levels of the library's own width. -/
def unscaled (generator : Generator) : Generator :=
  { generator with settings := generator.settings.unscaled }

theorem make_unscaled
    (language : Language) (settings : Settings) (methods : List Method) :
    make language settings.unscaled methods = (make language settings methods).unscaled := by
  rw [make, make, language.hoists_unscaled]
  rfl

variable (generator : Generator)

/-- A line of the library's own width, with levels of the generator's width. -/
def rescale (line : Line) : Line :=
  Layout.rescale generator.settings.indentWidth line

/-- The lines of an element are those of the library's own width, rescaled. -/
theorem elementLines_rescaled
    (depth : Int) (element : Element) :
    generator.elementLines depth element =
      (generator.unscaled.elementLines depth element).map generator.rescale := by
  have moved :
      generator.elementLines (depth + 0) element =
        (generator.unscaled.elementLines depth element).map generator.rescale :=
    move_elementLines generator.language generator.hoisted
      (Layout.rescaling generator.settings.indentWidth)
      (generator.language.hoists_unscaled generator.settings).symm trivial element
  rwa [Int.add_zero] at moved

end Generator

/-! ## Methods and classes -/

theorem TypeName.begins_of_mem_table
    (language : Language) (boxed : Bool) :
    ∀ entry ∈ table language boxed, entry.2.toList.head? ≠ some ' ' := by
  cases language <;> cases boxed <;> decide

/-- No text of a method that may open its header begins with a space. -/
structure Method.Flush (method : Method) : Prop where
  visibility : method.visibility.toList.head? ≠ some ' '
  returnType : method.returnType.toList.head? ≠ some ' '
  name : method.name.toList.head? ≠ some ' '

namespace Generator

variable (generator : Generator)

theorem begins_typeName
    {name : String}
    (begins : name.toList.head? ≠ some ' ') :
    (generator.typeName name).head? ≠ some ' ' := by
  rw [typeName]
  rcases TypeName.spell_eq_or_mem generator.language false name.toList with
    same | ⟨entry, member, spelled⟩
  · rwa [same]
  · rw [spelled]
    exact TypeName.begins_of_mem_table generator.language false entry member

theorem begins_phrase
    {parts : List Text}
    (each : ∀ part ∈ parts, part.head? ≠ some ' ') :
    (phrase parts).head? ≠ some ' ' := by
  rw [phrase]
  cases kept : parts.filter (!·.isEmpty) with
  | nil => simp
  | cons first others =>
      have member : first ∈ parts.filter (!·.isEmpty) := kept ▸ List.mem_cons_self
      rw [List.mem_filter] at member
      have some : first ≠ [] := by simpa using member.2
      have begins := each first member.1
      cases others with
      | nil => rwa [List.intercalate_singleton]
      | cons second more =>
          rwa [List.intercalate_cons_cons, List.append_assoc, List.head?_append_of_ne_nil _ some]

theorem begins_signature
    {name : Text}
    (begins : name.head? ≠ some ' ')
    (parameters : List Text) :
    (signature name parameters).head? ≠ some ' ' := by
  cases name with
  | nil => simp [signature]
  | cons c rest => exact begins

theorem flush_methodHeader
    {method : Method}
    (flush : method.Flush) :
    (generator.methodHeader method).Flush := by
  have typed : (generator.typedHeader method).head? ≠ some ' ' := by
    apply begins_phrase
    intro part member
    simp only [List.mem_cons, List.not_mem_nil, or_false] at member
    rcases member with rfl | rfl | rfl | rfl
    · exact flush.visibility
    · split <;> decide
    · exact generator.begins_typeName flush.returnType
    · exact begins_signature flush.name _
  have untyped : (untypedHeader method).head? ≠ some ' ' := by
    apply begins_signature
    split
    · simp
    · split
      · simp
      · exact flush.name
  have hinted : (generator.hintedHeader method).head? ≠ some ' ' := by
    simp [hintedHeader]
  refine (Text.flush_iff _).2 ⟨generator.methodHeader_ne_nil method, ?_⟩
  simp only [methodHeader]
  split <;> assumption

theorem leadingSpaces_lt_of_mem_typeComment
    {method : Method} {text : Text}
    (member : text ∈ generator.typeComment method) :
    Layout.leadingSpaces text < Layout.nesting := by
  -- the inner lines of a documentation comment open with one space before a star
  have starred (rest : Text) : Layout.leadingSpaces (' ' :: '*' :: rest) < Layout.nesting :=
    (by decide : 1 < Layout.nesting)
  simp only [typeComment] at member
  split at member
  · exact absurd member List.not_mem_nil
  · simp only [List.mem_cons, List.mem_append, List.mem_map, List.not_mem_nil,
      or_false] at member
    rcases member with rfl | ⟨parameter, _, rfl⟩ | rfl | rfl
    · decide
    · exact starred _
    · exact starred _
    · exact starred _

/-- What stands above a method's header opens with less than a level. -/
theorem leadingSpaces_lt_of_mem_methodPreamble
    {method : Method} {text : Text}
    (member : text ∈ generator.methodPreamble method) :
    Layout.leadingSpaces text < Layout.nesting := by
  simp only [methodPreamble] at member
  split at member
  · exact absurd member List.not_mem_nil
  · exact absurd member List.not_mem_nil
  · exact generator.leadingSpaces_lt_of_mem_typeComment member
  · split at member
    · rw [List.mem_singleton.1 member]
      decide
    · exact absurd member List.not_mem_nil

theorem members_rescaled
    (depth : Int)
    {methods : List Method}
    (flush : ∀ method ∈ methods, method.Flush) :
    generator.members depth methods =
      (generator.unscaled.members depth methods).map generator.rescale := by
  have moved :
      generator.members (depth + 0) methods =
        (generator.unscaled.members depth methods).map generator.rescale := by
    apply move_members generator.language generator.hoisted
      (Layout.rescaling generator.settings.indentWidth)
      (generator.language.hoists_unscaled generator.settings).symm trivial
    · intro method member
      exact generator.flush_methodHeader (flush method member)
    · intro method _ text member
      have below := generator.leadingSpaces_lt_of_mem_methodPreamble member
      exact (Int.add_zero depth).symm ▸ Layout.indent_rescaled _ depth below
  rwa [Int.add_zero] at moved

end Generator

/--
The width of a level changes nothing but leading spaces.  The lines of an element,
and those of a class body whose method headers begin with no space, are the lines of
the library's own width with their levels rescaled, whatever texts the project
contributes.
-/
theorem Generator.lines_eq_map_rescale
    (language : Language) (settings : Settings)
    (methods : List Method)
    (depth : Int) :
    let generator := make language settings methods
    let unscaled := make language settings.unscaled methods
    (∀ element : Element,
        generator.elementLines depth element =
          (unscaled.elementLines depth element).map
            (Layout.rescale settings.indentWidth)) ∧
      ((∀ method ∈ methods, method.Flush) →
        generator.members depth methods =
          (unscaled.members depth methods).map (Layout.rescale settings.indentWidth)) := by
  intro generator unscaled
  have own : unscaled = generator.unscaled := make_unscaled language settings methods
  rw [own]
  exact ⟨generator.elementLines_rescaled depth, generator.members_rescaled depth⟩

/-- An annotated method whose loop breaks off in a text of two lines, above a definition. -/
def raggedText : List Method := [
  { visibility := "private"
    parameters := [{ name := "limit", type := "int" }]
    elements := [
      { type := "while", children := some [
          { type := "variable", properties := [("value", .text "[
      1]")] },
          { type := "swap" }] }] }]

theorem raggedText_rescaled :
    let narrow : Settings := { indentWidth := 3 }
    let scaled := Generator.make .javascript narrow raggedText
    let unscaled := Generator.make .javascript narrow.unscaled raggedText
    (∀ method ∈ raggedText, method.Flush) ∧
      List.replicate 14 ' ' ++ "1];".toList ∈ scaled.members 1 raggedText ∧
      scaled.members 1 raggedText =
        (unscaled.members 1 raggedText).map (Layout.rescale 3) := by
  intro narrow scaled unscaled
  have flush : ∀ method ∈ raggedText, method.Flush := by
    rw [raggedText, List.forall_mem_singleton]
    exact ⟨by decide, by decide, by decide⟩
  refine ⟨flush, by decide +kernel, ?_⟩
  exact (Generator.lines_eq_map_rescale .javascript narrow raggedText 1).2 flush

end Blockwright
