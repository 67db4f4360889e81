import Blockwright.Proofs.Blocks
import Blockwright.Proofs.Meaning.Tokens

/-!
# Expressions in slots

A slot of a template is filled with a text, and the text may be an expression of more than
one term.  What such an expression is worth where it is written depends on the operators
around its slot.

Java and JavaScript draw a random number from a width, which they write as the difference of
two properties.  `Expression` are the integer expressions of literals, names, `+` and `-`,
read from left to right, and `Generator.drawnWidth?` reads the width off an element.  The
minus of the template reaches the first term of the lower bound alone: the width is the
difference of the bounds just where the lower bound is worth its first term.
-/

namespace Blockwright

namespace Expression

/-- An operand without a sign. -/
inductive Atom where
  | literal (n : Nat)
  | name (text : Text) (isName : text.isName = true)
  deriving DecidableEq

/-- An operand, which may have a minus sign in front. -/
structure Term where
  negated : Bool
  atom : Atom
  deriving DecidableEq

/-- An operator between two operands. -/
inductive Operator where
  | plus
  | minus
  deriving DecidableEq

/-- An operator with the operand behind it. -/
structure Step where
  operator : Operator
  term : Term
  deriving DecidableEq

end Expression

/-- An integer expression: an operand, and steps that go on from it from left to right. -/
structure Expression where
  first : Expression.Term
  steps : List Expression.Step
  deriving DecidableEq

namespace Expression

/-! ## Values -/

section Values

variable (environment : Text → Int)

/-- What an operand without a sign is worth. -/
def Atom.value : Atom → Int
  | .literal n => n
  | .name text _ => environment text

/-- What an operand is worth. -/
def Term.value (term : Term) : Int :=
  if term.negated then -term.atom.value environment else term.atom.value environment

/-- What a value becomes by a step. -/
def Step.apply (value : Int) (step : Step) : Int :=
  match step.operator with
  | .plus => value + step.term.value environment
  | .minus => value - step.term.value environment

/-- What an expression is worth. -/
def value (expression : Expression) : Int :=
  expression.steps.foldl (Step.apply environment) (expression.first.value environment)

variable {environment}

/-- Steps change every value by the same amount. -/
theorem Step.foldl_apply
    (steps : List Step) (value : Int) :
    steps.foldl (Step.apply environment) value =
      value + steps.foldl (Step.apply environment) 0 := by
  induction steps generalizing value with
  | nil => simp
  | cons step steps ih =>
      have shifted : Step.apply environment value step = value + Step.apply environment 0 step := by
        cases operator : step.operator with
        | plus => simp [apply, operator]
        | minus =>
            simp only [apply, operator]
            omega
      rw [List.foldl_cons, List.foldl_cons, ih, ih (Step.apply environment 0 step), shifted]
      omega

end Values

/-- An expression with a minus and another one written behind it. -/
def minus (left right : Expression) : Expression :=
  ⟨left.first, left.steps ++ ⟨.minus, right.first⟩ :: right.steps⟩

/-- A minus reaches the first operand behind it and leaves the steps from there as they are. -/
theorem value_minus
    (left right : Expression) (environment : Text → Int) :
    (left.minus right).value environment =
      left.value environment - right.first.value environment +
        right.steps.foldl (Step.apply environment) 0 := by
  have reached (value : Int) :
      Step.apply environment value ⟨.minus, right.first⟩ =
        value - right.first.value environment :=
    rfl
  rw [value, minus, List.foldl_append, List.foldl_cons, Step.foldl_apply right.steps, reached]
  rfl

theorem value_minus_eq_iff
    (left right : Expression) (environment : Text → Int) :
    (left.minus right).value environment =
        left.value environment - right.value environment ↔
      right.value environment = right.first.value environment := by
  have spelled : right.value environment =
      right.first.value environment + right.steps.foldl (Step.apply environment) 0 :=
    Step.foldl_apply right.steps _
  rw [value_minus]
  omega

/-! ## Tokens of expressions -/

/-- The token of an operand without a sign. -/
def Atom.token : Atom → Text
  | .literal n => Nat.toDigits 10 n
  | .name text _ => text

/-- The tokens of an operand. -/
def Term.tokens (term : Term) : List Text :=
  if term.negated then [['-'], term.atom.token] else [term.atom.token]

/-- The token of an operator. -/
def Operator.token : Operator → Text
  | .plus => ['+']
  | .minus => ['-']

/-- The tokens of a step. -/
def Step.tokens (step : Step) : List Text :=
  step.operator.token :: step.term.tokens

/-- The tokens of an expression. -/
def tokens (expression : Expression) : List Text :=
  expression.first.tokens ++ expression.steps.flatMap Step.tokens

theorem tokens_minus
    (left right : Expression) :
    (left.minus right).tokens = left.tokens ++ ['-'] :: right.tokens := by
  simp [tokens, minus, Step.tokens, Operator.token]

/-- The operand without a sign that a token is. -/
def Atom.read? (token : Text) : Option Atom :=
  if isName : token.isName then some (.name token isName) else (token.numeral?).map .literal

/-- The operator that a token is. -/
def Operator.read? : Text → Option Operator
  | ['+'] => some .plus
  | ['-'] => some .minus
  | _ => none

/-- The steps that tokens are. -/
def Step.read? : List Text → Option (List Step)
  | [] => some []
  | operator :: ['-'] :: atom :: rest => do
      let operator ← Operator.read? operator
      let atom ← Atom.read? atom
      let steps ← read? rest
      return ⟨operator, ⟨true, atom⟩⟩ :: steps
  | operator :: atom :: rest => do
      let operator ← Operator.read? operator
      let atom ← Atom.read? atom
      let steps ← read? rest
      return ⟨operator, ⟨false, atom⟩⟩ :: steps
  | [_] => none

/-- The expression that tokens are. -/
def read? (tokens : List Text) : Option Expression :=
  match Step.read? (Operator.plus.token :: tokens) with
  | some (first :: steps) => some ⟨first.term, steps⟩
  | _ => none

theorem Atom.token_isWord (atom : Atom) : atom.token.isWord = true := by
  cases atom with
  | literal n => exact Text.isWord_toDigits n
  | name text isName => exact Text.isWord_of_isName isName

theorem Atom.read?_token (atom : Atom) : Atom.read? atom.token = some atom := by
  cases atom with
  | literal n =>
      have digits := Text.isName_toDigits n
      rw [token, read?, dif_neg (by simp [digits]), Text.numeral?_toDigits, Option.map_some]
  | name text isName => exact dif_pos isName

theorem Atom.token_ne_singleton
    (atom : Atom)
    {c : Char}
    (outside : Template.continuesName c = false) :
    atom.token ≠ [c] := by
  have word := atom.token_isWord
  intro same
  rw [same] at word
  exact absurd word (by simp [Text.isWord, outside])

theorem Operator.read?_token (operator : Operator) : read? operator.token = some operator := by
  cases operator <;> rfl

/-- The tokens of steps are read as those steps. -/
theorem Step.read?_tokens (steps : List Step) : read? (steps.flatMap tokens) = some steps := by
  induction steps with
  | nil => rfl
  | cons step steps ih =>
      obtain ⟨operator, negated, atom⟩ := step
      cases negated with
      | true =>
          simp [tokens, Term.tokens, read?, Operator.read?_token, Atom.read?_token, ih]
      | false =>
          have unsigned : atom.token ≠ ['-'] := atom.token_ne_singleton (by decide)
          simp only [List.flatMap_cons, tokens, Term.tokens, List.cons_append, Bool.false_eq_true,
            if_false, List.nil_append]
          rw [read?]
          · simp [Operator.read?_token, Atom.read?_token, ih]
          · intro _ _ sign _
            exact unsigned sign

theorem read?_tokens (expression : Expression) :
    read? expression.tokens = some expression := by
  have steps := Step.read?_tokens (⟨.plus, expression.first⟩ :: expression.steps)
  rw [read?, tokens]
  rw [List.flatMap_cons, Step.tokens, List.cons_append] at steps
  rw [steps]

/-- An expression has no parenthesis. -/
theorem closing_not_mem_tokens (expression : Expression) :
    [')'] ∉ expression.tokens := by
  have operand (term : Term) : [')'] ∉ term.tokens := by
    have other : [')'] ≠ term.atom.token := (term.atom.token_ne_singleton (by decide)).symm
    rw [Term.tokens]
    split <;> simp [other]
  have operator (operator : Operator) : [')'] ≠ operator.token := by
    cases operator <;> decide
  simp [tokens, Step.tokens, operand, operator]

end Expression

/-! ## Drawing a random number -/

/-- What stands in front of the width from which a random number is drawn. -/
def Language.drawing? : Language → Option Text
  | .java => some "Random rand = new Random();\nint randomNumber = rand.nextInt("
  | .javascript => some "const randomNumber = Math.floor(Math.random() * ("
  | _ => none

/-- The width from which an element draws a random number: what it writes up to a parenthesis. -/
def Generator.drawnWidth? (generator : Generator) (depth : Int) (element : Element) :
    Option Expression := do
  let drawing ← generator.language.drawing?
  let (_, behind) ← Reader.literal drawing (Text.tokens (generator.elementText depth element))
  Expression.read? (behind.takeWhile (· ≠ [')']))

/-- The statement that draws a random number, up to what stands in front of the width. -/
theorem Language.random_of_drawing
    {language : Language} {drawing : Text}
    (draws : language.drawing? = some drawing) :
    ∃ closing : Text,
      language.statement .random = [
        .literal drawing, Template.field "max", " - ", Template.field "min",
        .literal (')' :: closing), Template.field "min", ";"] ∧
          Template.keepsApart (language.statement .random) = true := by
  cases language with
  | csharp => cases draws
  | java =>
      cases draws
      exact ⟨" + ", rfl, by decide⟩
  | javascript =>
      cases draws
      exact ⟨") + ", rfl, by decide⟩
  | python => cases draws

/-- Moved to its depth, a statement keeps its tokens. -/
theorem Generator.tokens_elementText
    (generator : Generator) (depth : Int)
    {element : Element} {kind : Statement}
    (statement : element.tag? = some (.statement kind)) :
    Text.tokens (generator.elementText depth element) =
      Text.tokens ((element.fields generator.language).fill
        (generator.language.statement kind)) := by
  have lines :
      generator.elementLines depth element =
        generator.lines depth ((element.fields generator.language).fill
          (generator.language.statement kind)) := by
    have outline := element.outline_eq generator.setting depth
    simp only [statement] at outline
    rw [elementLines, outline]
    exact generator.render_map_line _
  rw [elementText, lines]
  exact Layout.tokens_lines _ depth _

section Drawing

variable {generator : Generator} {drawing : Text} {element : Element} {low high : Expression}

/-- The width is written as the upper bound, a minus and the lower bound. -/
theorem Generator.drawnWidth?_eq
    (draws : generator.language.drawing? = some drawing)
    (random : element.tag? = some (.statement .random))
    (lowText : Text.tokens ((element.fields generator.language).text "min") = low.tokens)
    (highText : Text.tokens ((element.fields generator.language).text "max") = high.tokens)
    (depth : Int) :
    generator.drawnWidth? depth element = some (high.minus low) := by
  obtain ⟨closing, template, apart⟩ := Language.random_of_drawing draws
  have dash : Text.tokens " - " = [['-']] := by decide
  have close : Text.tokens (')' :: closing) = [')'] :: Text.tokens closing :=
    Text.tokens_cons fun next _ => Text.joins_opened_of_not_isSticky (by decide) next
  have written :
      Text.tokens (generator.elementText depth element) =
        Text.tokens drawing ++ ((high.minus low).tokens ++ [')'] ::
          (Text.tokens closing ++ (low.tokens ++ Text.tokens ";"))) := by
    rw [generator.tokens_elementText depth random, Fields.fill, Template.tokens_fill apart,
      template]
    have pieces :
        List.flatMap
            (fun piece =>
              Text.tokens (Template.fillPiece (element.fields generator.language).slot piece))
            [.literal drawing, Template.field "max", " - ", Template.field "min",
              .literal (')' :: closing), Template.field "min", ";"] =
          Text.tokens drawing ++
            (Text.tokens ((element.fields generator.language).text "max") ++
              (Text.tokens " - " ++
                (Text.tokens ((element.fields generator.language).text "min") ++
                  (Text.tokens (')' :: closing) ++
                    (Text.tokens ((element.fields generator.language).text "min") ++
                      (Text.tokens ";" ++ [])))))) :=
      rfl
    rw [pieces, dash, close, lowText, highText, Expression.tokens_minus]
    simp only [List.append_assoc, List.cons_append, List.nil_append, List.append_nil]
  have width (rest : List Text) :
      ((high.minus low).tokens ++ [')'] :: rest).takeWhile (· ≠ [')']) =
        (high.minus low).tokens := by
    have before : ∀ token ∈ (high.minus low).tokens, decide (token ≠ [')']) = true := by
      intro token member
      exact decide_eq_true (ne_of_mem_of_not_mem member (high.minus low).closing_not_mem_tokens)
    rw [List.takeWhile_append_of_pos before, List.takeWhile_cons_of_neg (by simp),
      List.append_nil]
  have taken := Reader.takes_literal drawing
  rw [drawnWidth?, draws, written]
  simp only [Option.bind_eq_bind, Option.bind_some, taken _, width, Expression.read?_tokens]

/--
The width from which Java and JavaScript draw is the difference of the bounds just where the
lower bound is worth its first operand: the minus in front of it does not reach its steps.
-/
theorem Generator.drawnWidth_value_iff
    (language : generator.language = .java ∨ generator.language = .javascript)
    (random : element.tag? = some (.statement .random))
    (lowText : Text.tokens ((element.fields generator.language).text "min") = low.tokens)
    (highText : Text.tokens ((element.fields generator.language).text "max") = high.tokens)
    (depth : Int) :
    ∃ width, generator.drawnWidth? depth element = some width ∧
      ∀ environment,
        width.value environment = high.value environment - low.value environment ↔
          low.value environment = low.first.value environment := by
  have ⟨drawing, draws⟩ : ∃ drawing, generator.language.drawing? = some drawing := by
    rcases language with java | javascript
    · exact ⟨_, by rw [java]; rfl⟩
    · exact ⟨_, by rw [javascript]; rfl⟩
  exact ⟨high.minus low, generator.drawnWidth?_eq draws random lowText highText depth,
    high.value_minus_eq_iff low⟩

end Drawing

/-- A number drawn from one up to an expression. -/
def drawBelow : Element :=
  { type := "random", properties := [("min", .integer 1), ("max", .text "limit + 10")] }

theorem drawBelow_width :
    ∃ width, (Generator.make .javascript .standard []).drawnWidth? 1 drawBelow = some width ∧
      ∀ environment, width.value environment = environment "limit" + 10 - 1 := by
  let low : Expression := ⟨⟨false, .literal 1⟩, []⟩
  let high : Expression :=
    ⟨⟨false, .name "limit" (by decide)⟩, [⟨.plus, ⟨false, .literal 10⟩⟩]⟩
  let fields := drawBelow.fields .javascript
  have lowText : Text.tokens (fields.text "min") = low.tokens := by decide
  have highText : Text.tokens (fields.text "max") = high.tokens := by decide
  have language : (Generator.make .javascript .standard []).language = .javascript := rfl
  obtain ⟨width, drawn, worth⟩ :=
    Generator.drawnWidth_value_iff (.inr language) (by decide) lowText highText 1
  exact ⟨width, drawn, fun environment => (worth environment).2 rfl⟩

/-- A number drawn from a difference up to a name. -/
def drawAboveDifference : Element :=
  { type := "random", properties := [("min", .text "a - b"), ("max", .text "c")] }

/-- With one for `b` and nothing for the other names, the width should be one. -/
theorem drawAboveDifference_width_wrong :
    let environment : Text → Int := fun name => if name = "b" then 1 else 0
    ∃ low high width : Expression,
      Text.tokens "a - b" = low.tokens ∧ Text.tokens "c" = high.tokens ∧
        (Generator.make .java .standard []).drawnWidth? 0 drawAboveDifference = some width ∧
          high.value environment - low.value environment = 1 ∧
            width.value environment = -1 := by
  intro environment
  let low : Expression :=
    ⟨⟨false, .name "a" (by decide)⟩, [⟨.minus, ⟨false, .name "b" (by decide)⟩⟩]⟩
  let high : Expression := ⟨⟨false, .name "c" (by decide)⟩, []⟩
  let fields := drawAboveDifference.fields .java
  have lowText : Text.tokens (fields.text "min") = low.tokens := by decide
  have highText : Text.tokens (fields.text "max") = high.tokens := by decide
  have draws : (Generator.make .java .standard []).language.drawing? = some _ := rfl
  have drawn := Generator.drawnWidth?_eq draws (by decide) lowText highText 0
  exact ⟨low, high, high.minus low, by decide, by decide, drawn, by decide, by decide⟩

end Blockwright
