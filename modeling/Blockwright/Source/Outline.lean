import Blockwright.Dialect.Table
import Blockwright.Property.Value

/-!
# Outlines

The first half of writing an element: its outline, a list of entries in the
order of the source file.  Most entries are finished lines.  Two are left open,
because what is written for them is decided for the whole file: the call of a
utility, and an element whose type is outside the vocabulary.
-/

namespace Blockwright

/-- An entry of an outline. -/
inductive Entry where
  /-- A finished line. -/
  | line (text : Line)
  /-- The use of a utility at a depth. -/
  | call (utility : Utility) (depth : Int)
  /-- An element of a type outside the vocabulary at a depth. -/
  | unknown (type : String) (depth : Int)
  deriving DecidableEq, Repr

namespace Outline

/-- Where blocks are laid out: the language, and the width of an indentation level. -/
structure Setting where
  language : Language
  width : Nat

namespace Setting

variable (setting : Setting)

/-- The spaces that open a line at a depth. -/
def indent (depth : Int) : Text :=
  Layout.indent setting.width depth

/-- The entries of a text moved to a depth. -/
def lines (depth : Int) (text : Text) : List Entry :=
  (Layout.lines setting.width depth text).map .line

/-- The entries of clauses at a depth, the last of which may be followed by a trailer. -/
def clauses
    (depth : Int) (trailer : Option Text) (clauses : List (Layout.Clause Entry)) :
    List Entry :=
  match setting.language.style with
  | .braces kind =>
      Layout.bracedClauses .line (setting.indent depth) kind trailer clauses
  | .indentation =>
      Layout.indentedClauses .line (setting.indent depth)
        (Layout.line setting.width (depth + 1) "pass") clauses

end Setting

end Outline

/-- How many levels deeper than its header the children of a block stand. -/
def Block.childDepth : Block → Int
  | .switch => 2
  | _ => 1

namespace Outline

/-- The entries of a loop that runs its body before it tests its condition. -/
def doWhile
    (setting : Setting) (fields : Fields) (depth : Int) (body : List Entry) :
    List Entry :=
  let headers := setting.language.headers
  let condition := fields.fill headers.doClosing
  match setting.language.style with
  | .braces _ => setting.clauses depth (some condition) [⟨headers.doOpening, body⟩]
  | .indentation =>
      setting.clauses depth none
        [⟨headers.doOpening,
          body ++ setting.lines (depth + 1) condition ++ setting.lines (depth + 2) "break"⟩]

/-- The entries of a choice between one case and all others. -/
def switch
    (setting : Setting) (fields : Fields) (depth : Int) (body : List Entry) :
    List Entry :=
  let headers := setting.language.headers
  let header := fields.fill headers.switch
  let case := fields.fill headers.case
  match setting.language.style with
  | .braces _ =>
      setting.clauses depth none
        [⟨header,
          setting.lines (depth + 1) case ++ body ++
            setting.lines (depth + 2) "break;" ++
            setting.lines (depth + 1) "default:" ++
            setting.lines (depth + 2) "break;"⟩]
  | .indentation =>
      setting.clauses depth none
        [⟨header, setting.clauses (depth + 1) none [⟨case, body⟩, ⟨"case _", []⟩]⟩]

/-- The entries of a block whose children have the given entries. -/
def block
    (setting : Setting) (fields : Fields) (depth : Int) (body : List Entry) :
    Block → List Entry
  | .counting =>
      let header := setting.language.headers.counting.fill (fields.slotWith fields.loopTexts)
      setting.clauses depth none [⟨header, body⟩]
  | .forEach =>
      setting.clauses depth none [⟨fields.fill setting.language.headers.forEach, body⟩]
  | .whileLoop =>
      setting.clauses depth none [⟨fields.fill setting.language.headers.whileLoop, body⟩]
  | .doWhile => doWhile setting fields depth body
  | .conditional =>
      setting.clauses depth none [⟨fields.fill setting.language.headers.conditional, body⟩]
  | .ifElse =>
      setting.clauses depth none
        [⟨fields.fill setting.language.headers.conditional, body⟩,
          ⟨setting.language.headers.otherwise, []⟩]
  | .ifElseIf =>
      setting.clauses depth none
        [⟨fields.fill setting.language.headers.firstCondition, body⟩,
          ⟨fields.fill setting.language.headers.secondCondition, []⟩,
          ⟨setting.language.headers.otherwise, []⟩]
  | .switch => switch setting fields depth body

end Outline

mutual

/-- The outline of an element at a depth. -/
def Element.outline (setting : Outline.Setting) (depth : Int) : Element → List Entry
  | ⟨_, type, _, properties, children, _⟩ =>
      let fields : Fields := ⟨setting.language, type, properties⟩
      match Tag.ofName? type with
      | none => [.unknown type depth]
      | some (.statement kind) =>
          setting.lines depth (fields.fill (setting.language.statement kind))
      | some (.utility kind) => [.call kind depth]
      | some (.block kind) =>
          Outline.block setting fields depth
            (childrenOutline setting (depth + kind.childDepth) children) kind

/-- The outline of an element's children; children that were never given are none. -/
def childrenOutline
    (setting : Outline.Setting) (depth : Int) : Option (List Element) → List Entry
  | none => []
  | some elements => elementsOutline setting depth elements

/-- The outline of elements in order. -/
def elementsOutline
    (setting : Outline.Setting) (depth : Int) : List Element → List Entry
  | [] => []
  | element :: others =>
      element.outline setting depth ++ elementsOutline setting depth others

end

end Blockwright
