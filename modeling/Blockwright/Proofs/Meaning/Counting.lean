import Blockwright.Proofs.Blocks
import Blockwright.Proofs.Meaning.Tokens

/-!
# Counting loops

A counting loop is written in one of two ways.  The brace languages give it a variable that
is compared with a bound before every round and advanced behind it; Python gives it a range
of values.  `Counter` is what a header of either way says, `Generator.counter?` reads it off
the first line of an element, and `Counter.compared` and `Counter.ranged` are the values that
the two ways visit.

The main statement reads the headers of one element in a brace language and in Python.  They
say the same, but the comparison is with `<` whatever the sign of the step, while a range
turns around: the two loops visit the same values just if the step leads upwards or the loop
starts at its bound.
-/

namespace Blockwright

/-- What the header of a counting loop says. -/
structure Counter where
  name : Text
  start : Int
  bound : Int
  step : Int
  deriving DecidableEq

namespace Counter

variable (counter : Counter)

/--
The value with which the body of a loop with a comparison begins in a round: the variable is
advanced behind every round, and there is no round unless it is below the bound.
-/
def compared : Nat → Option Int
  | 0 => if counter.start < counter.bound then some counter.start else none
  | round + 1 =>
      (compared round).bind fun value =>
        if value + counter.step < counter.bound then some (value + counter.step) else none

/-- Whether a value lies before the end of a range, seen in the direction of the step. -/
def reaches (value : Int) : Prop :=
  (0 < counter.step ∧ value < counter.bound) ∨ (counter.step < 0 ∧ counter.bound < value)

instance decidableReaches (value : Int) : Decidable (counter.reaches value) :=
  inferInstanceAs (Decidable (_ ∨ _))

/-- The value with which the body of a loop over a range begins in a round. -/
def ranged (round : Nat) : Option Int :=
  let value := counter.start + round * counter.step
  if counter.reaches value then some value else none

theorem start_add_succ_mul (round : Nat) :
    counter.start + (round + 1 : Nat) * counter.step =
      counter.start + round * counter.step + counter.step := by
  rw [Int.natCast_succ, Int.add_mul, Int.one_mul, Int.add_assoc]

variable {counter}

theorem compared_of_step_pos
    (upwards : 0 < counter.step)
    (round : Nat) :
    counter.compared round =
      if counter.start + round * counter.step < counter.bound then
        some (counter.start + round * counter.step)
      else
        none := by
  induction round with
  | zero => simp [compared]
  | succ round ih =>
      rw [compared, ih, counter.start_add_succ_mul]
      by_cases inside : counter.start + round * counter.step < counter.bound
      · rw [if_pos inside, Option.bind_some]
      · -- a loop that has ended stays ended, since the variable would only have grown
        rw [if_neg inside, Option.bind_none, if_neg (by omega)]

/-- Upwards, a comparison with the bound and a range admit the same values. -/
theorem compared_eq_ranged_of_step_pos
    (upwards : 0 < counter.step) :
    counter.compared = counter.ranged := by
  funext round
  have same (value : Int) : counter.reaches value ↔ value < counter.bound := by
    rw [reaches]
    omega
  rw [compared_of_step_pos upwards, ranged]
  simp only [same]

/-- Downwards, a loop with a comparison never ends, unless its first comparison fails. -/
theorem compared_of_step_neg
    (downwards : counter.step < 0)
    (round : Nat) :
    counter.compared round =
      if counter.start < counter.bound then
        some (counter.start + round * counter.step)
      else
        none := by
  induction round with
  | zero => simp [compared]
  | succ round ih =>
      have shrunk : (round : Int) * counter.step ≤ 0 :=
        Int.mul_nonpos_of_nonneg_of_nonpos (Int.natCast_nonneg round) (Int.le_of_lt downwards)
      rw [compared, ih, counter.start_add_succ_mul]
      by_cases begins : counter.start < counter.bound
      · rw [if_pos begins, if_pos begins, Option.bind_some, if_pos (by omega)]
      · rw [if_neg begins, if_neg begins, Option.bind_none]

/-- A range that starts at its bound has no values. -/
theorem ranged_of_start_eq_bound
    (empty : counter.start = counter.bound)
    (round : Nat) :
    counter.ranged round = none := by
  have outside : ¬counter.reaches (counter.start + round * counter.step) := by
    rintro (⟨upwards, below⟩ | ⟨downwards, above⟩)
    · have grown : 0 ≤ (round : Int) * counter.step :=
        Int.mul_nonneg (Int.natCast_nonneg round) (Int.le_of_lt upwards)
      omega
    · have shrunk : (round : Int) * counter.step ≤ 0 :=
        Int.mul_nonpos_of_nonneg_of_nonpos (Int.natCast_nonneg round) (Int.le_of_lt downwards)
      omega
  rw [ranged, if_neg outside]

/-- Downwards, the two ways of counting differ in their first round already. -/
theorem compared_zero_ne_ranged_zero
    (downwards : counter.step < 0)
    (apart : counter.start ≠ counter.bound) :
    counter.compared 0 ≠ counter.ranged 0 := by
  have first : counter.start + (0 : Nat) * counter.step = counter.start := by simp
  have admitted : counter.reaches counter.start ↔ counter.bound < counter.start := by
    rw [reaches]
    omega
  rw [compared, ranged, first]
  simp only [admitted]
  split <;> split <;> simp <;> omega

theorem compared_eq_ranged_iff
    (moves : counter.step ≠ 0) :
    counter.compared = counter.ranged ↔
      0 < counter.step ∨ counter.start = counter.bound := by
  constructor
  · intro same
    by_contra neither
    rw [not_or] at neither
    exact compared_zero_ne_ranged_zero (by omega) neither.2 (congrFun same 0)
  · intro either
    by_cases upwards : 0 < counter.step
    · exact compared_eq_ranged_of_step_pos upwards
    · have empty : counter.start = counter.bound := either.resolve_left upwards
      funext round
      rw [compared_of_step_neg (by omega), if_neg (by omega), ranged_of_start_eq_bound empty]

end Counter

/-! ## Reading headers -/

namespace Reader

/-- How a statement behind a name advances it: by one, or by an integer. -/
def advance : Reader Int
  | ['+', '+'] :: rest => some (1, rest)
  | ['+'] :: ['='] :: rest => integer rest
  | _ => none

/-- What closes a range behind its bounds, with the integer that it advances by before it or not. -/
def stride : Reader Int
  | [')'] :: rest => some (1, rest)
  | [','] :: rest => integer.followedBy ")" rest
  | _ => none

/-- A loop header with a variable, a comparison and a statement that advances the variable. -/
def comparison : Reader Counter := do
  literal "for ("
  let _ ← name
  let counter ← name
  literal " = "
  let start ← integer
  literal "; "
  skip [counter]
  literal " < "
  let bound ← integer
  literal "; "
  skip [counter]
  let step ← advance
  literal ")"
  return ⟨counter, start, bound, step⟩

/-- A loop header over a range. -/
def range : Reader Counter := do
  literal "for "
  let counter ← name
  literal " in "
  literal "range("
  let start ← integer
  literal ", "
  let bound ← integer
  let step ← stride
  return ⟨counter, start, bound, step⟩

end Reader

/-- What a line that opens a block ends with. -/
def Layout.Style.mark : Layout.Style → Text
  | .braces .ownLine => []
  | .braces .headerLine => [' ', '{']
  | .indentation => [':']

theorem Outline.Setting.head?_opening
    (setting : Outline.Setting) (depth : Int) (header : Text) :
    (setting.opening depth header).head? =
      some (setting.indent depth ++ (header ++ setting.language.style.mark)) := by
  rw [opening]
  split
  all_goals
    next style => simp [style, Layout.Style.mark]

/-- How the header of a counting loop is read. -/
def Layout.Style.counting : Layout.Style → Reader Counter
  | .braces _ => Reader.comparison
  | .indentation => Reader.range

/-- The values that a counting loop visits, round by round. -/
def Layout.Style.visits : Layout.Style → Counter → Nat → Option Int
  | .braces _ => Counter.compared
  | .indentation => Counter.ranged

/-- What the first line of an element says as the header of a counting loop. -/
def Generator.counter? (generator : Generator) (depth : Int) (element : Element) :
    Option Counter := do
  let header ← (generator.elementLines depth element).head?
  let style := generator.language.style
  (style.counting.followedBy style.mark).whole header

/-- The values that an element visits as a counting loop. -/
def Generator.visits? (generator : Generator) (depth : Int) (element : Element) :
    Option (Nat → Option Int) :=
  (generator.counter? depth element).map generator.language.style.visits

/-! ## Properties that are integers -/

/-- The integer that a property's value is: given as one, or by a text that is one. -/
def Document.integer? : Document → Option Int
  | .integer n => some n
  | .text value => Reader.integer.whole value.toList
  | _ => none

/-- The integer that the project sets for a property of an element. -/
def Element.integer? (element : Element) (property : Text) : Option Int :=
  (element.properties.get? property).bind Document.integer?

theorem Reader.takes_integerText (n : Int) :
    Reader.integer.Takes (Text.tokens (Document.integerText n)) n := by
  intro rest
  have word := Text.isWord_toDigits n.natAbs
  have value := Text.numeral?_toDigits n.natAbs
  rw [Document.integerText]
  by_cases negative : n < 0
  · have minus :
        Text.tokens ('-' :: Nat.toDigits 10 n.natAbs) = [['-'], Nat.toDigits 10 n.natAbs] :=
      Text.tokens_cons_word (by decide) word
    have same : -(n.natAbs : Int) = n := by omega
    rw [if_pos negative, minus]
    simp only [List.cons_append, List.nil_append, Reader.integer, value, Option.map_some, same]
  · have same : (n.natAbs : Int) = n := by omega
    rw [if_neg negative, Text.tokens_word word, List.singleton_append,
      Reader.integer_numeral value, same]

theorem Document.isOpen_of_integer?
    {value : Document} {n : Int}
    (read : value.integer? = some n) :
    value.isOpen = false := by
  cases value with
  | null => exact absurd read (Option.some_ne_none n).symm
  | text value =>
      have given : value ≠ "" := by
        rintro rfl
        exact absurd read (Option.some_ne_none n).symm
      simpa [isOpen] using given
  | _ => rfl

theorem Document.whole_scalarText
    {value : Document} {n : Int}
    (read : value.integer? = some n)
    (language : Language) :
    Reader.integer.whole (value.scalarText language) = some n := by
  cases value with
  | integer m =>
      cases read
      exact (Reader.takes_integerText n).whole_eq
  | text value => exact read
  | _ => exact absurd read (Option.some_ne_none n).symm

/-- An integer that the project sets is read off the property's text in every language. -/
theorem Element.whole_text
    {element : Element} {property : Text} {n : Int}
    (read : element.integer? property = some n)
    (language : Language) :
    Reader.integer.whole ((element.fields language).text property) = some n := by
  obtain ⟨value, given, integer⟩ := Option.bind_eq_some_iff.1 read
  have set : (element.fields language).set? property = some value := by
    simp [Fields.set?, fields, given, Document.isOpen_of_integer? integer]
  rw [Fields.text, set]
  exact Document.whole_scalarText integer language

/-- An element that counts from an integer to an integer by an integer. -/
structure Element.Counts (element : Element) (counter : Counter) : Prop where
  tag : element.tag? = some (.block .counting)
  isName : counter.name.isName = true
  named : ∀ language, (element.fields language).text "variable" = counter.name
  start : element.integer? "start" = some counter.start
  bound : element.integer? "end" = some counter.bound
  step : element.integer? "increment" = some counter.step

/-! ## Headers that are written -/

theorem Language.counting_keepsApart (language : Language) :
    language.headers.counting.keepsApart = true := by
  cases language <;> decide

/-- The header of the brace languages behind the text that declares its variable. -/
def Template.comparison (declaration : Text) : Template := [
  .literal declaration, field "variable", " = ", field "start", "; ",
  field "variable", " < ", field "end", "; ", field "step", ")"]

/-- The brace languages share a header up to the type that they give the variable. -/
theorem Language.counting_of_braces
    {language : Language}
    (braces : language ≠ .python) :
    ∃ declaration type : Text,
      type.isName = true ∧ Text.tokens declaration = Text.tokens "for (" ++ [type] ∧
        language.headers.counting = Template.comparison declaration := by
  cases language with
  | csharp => exact ⟨"for (int ", "int", by decide, by decide, rfl⟩
  | java => exact ⟨"for (int ", "int", by decide, by decide, rfl⟩
  | javascript => exact ⟨"for (let ", "let", by decide, by decide, rfl⟩
  | python => exact absurd rfl braces

namespace Fields

variable (fields : Fields)

/-- The header of a counting loop. -/
def countingHeader : Text :=
  fields.language.headers.counting.fill (fields.slotWith fields.loopTexts)

theorem tokens_stepText
    (isName : (fields.text "variable").isName = true) :
    Text.tokens fields.stepText =
      fields.text "variable" ::
        if fields.text "increment" = "1" then
          Text.tokens "++"
        else
          Text.tokens " += " ++ Text.tokens (fields.text "increment") := by
  have word := Text.isWord_of_isName isName
  have apart : Text.endsApart " += " = true := by decide
  rw [stepText]
  split
  · exact Text.tokens_word_append word (by rfl)
  · rw [List.append_assoc, Text.tokens_word_append word (by rfl),
      Text.tokens_append_of_endsApart apart]

theorem tokens_rangeText :
    Text.tokens fields.rangeText =
      Text.tokens "range(" ++ (Text.tokens (fields.text "start") ++ (Text.tokens ", " ++
        (Text.tokens (fields.text "end") ++
          ((if fields.text "increment" = "1" then
              []
            else
              Text.tokens ", " ++ Text.tokens (fields.text "increment")) ++
            Text.tokens ")")))) := by
  have comma (front back : Text) :
      Text.tokens (front ++ (", " ++ back)) =
        Text.tokens front ++ (Text.tokens ", " ++ Text.tokens back) := by
    rw [Text.tokens_append (by rfl), Text.tokens_append_of_endsApart (by decide)]
  have apart : Text.startsApart ")" = true := by decide
  unfold rangeText
  rw [Text.tokens_append apart, Text.tokens_append_of_endsApart (by decide)]
  split
  · simp only [List.append_assoc, comma, List.nil_append]
  · simp only [List.append_assoc, comma]

theorem tokens_countingHeader_of_braces
    (braces : fields.language ≠ .python) :
    ∃ type : Text, type.isName = true ∧ Text.tokens fields.countingHeader =
      Text.tokens "for (" ++ ([type] ++ (Text.tokens (fields.text "variable") ++
        (Text.tokens " = " ++ (Text.tokens (fields.text "start") ++
          (Text.tokens "; " ++ (Text.tokens (fields.text "variable") ++
            (Text.tokens " < " ++ (Text.tokens (fields.text "end") ++
              (Text.tokens "; " ++ (Text.tokens fields.stepText ++ Text.tokens ")")))))))))) := by
  obtain ⟨declaration, type, isName, begins, header⟩ := Language.counting_of_braces braces
  refine ⟨type, isName, ?_⟩
  rw [countingHeader, Template.tokens_fill fields.language.counting_keepsApart, header]
  have pieces :
      (Template.comparison declaration).flatMap
          (fun piece => Text.tokens (Template.fillPiece (fields.slotWith fields.loopTexts) piece)) =
        Text.tokens declaration ++ (Text.tokens (fields.text "variable") ++
          (Text.tokens " = " ++ (Text.tokens (fields.text "start") ++
            (Text.tokens "; " ++ (Text.tokens (fields.text "variable") ++
              (Text.tokens " < " ++ (Text.tokens (fields.text "end") ++
                (Text.tokens "; " ++ (Text.tokens fields.stepText ++
                  (Text.tokens ")" ++ [])))))))))) :=
    rfl
  rw [pieces, begins, List.append_nil, List.append_assoc]

theorem tokens_countingHeader_of_indentation
    (indented : fields.language = .python) :
    Text.tokens fields.countingHeader =
      Text.tokens "for " ++ (Text.tokens (fields.text "variable") ++
        (Text.tokens " in " ++ Text.tokens fields.rangeText)) := by
  rw [countingHeader, Template.tokens_fill fields.language.counting_keepsApart, indented]
  have pieces :
      (Language.headers .python).counting.flatMap
          (fun piece => Text.tokens (Template.fillPiece (fields.slotWith fields.loopTexts) piece)) =
        Text.tokens "for " ++ (Text.tokens (fields.text "variable") ++
          (Text.tokens " in " ++ (Text.tokens fields.rangeText ++ []))) :=
    rfl
  rw [pieces, List.append_nil]

end Fields

namespace Reader

theorem takes_advance
    {increment : Text} {step : Int}
    (read : integer.whole increment = some step) :
    advance.Takes
      (if increment = "1" then
        Text.tokens "++"
      else
        Text.tokens " += " ++ Text.tokens increment)
      step := by
  intro rest
  by_cases one : increment = "1"
  · subst one
    cases read
    rfl
  · rw [if_neg one]
    exact takes_integer read rest

theorem takes_stride
    {increment : Text} {step : Int}
    (read : integer.whole increment = some step) :
    stride.Takes
      ((if increment = "1" then [] else Text.tokens ", " ++ Text.tokens increment) ++
        Text.tokens ")")
      step := by
  intro rest
  by_cases one : increment = "1"
  · subst one
    cases read
    rfl
  · rw [if_neg one]
    exact (takes_integer read).followedBy ")" rest

end Reader

section Headers

variable {element : Element} {counter : Counter} (counts : element.Counts counter)

include counts

theorem Element.Counts.isName_variable
    (language : Language) :
    Text.isName ((element.fields language).text "variable") = true := by
  rw [counts.named, counts.isName]

theorem Element.Counts.tokens_variable
    (language : Language) :
    Text.tokens ((element.fields language).text "variable") = [counter.name] := by
  rw [counts.named, Text.tokens_word (Text.isWord_of_isName counts.isName)]

theorem Element.Counts.takes_comparison
    {language : Language}
    (braces : language ≠ .python) :
    Reader.comparison.Takes (Text.tokens (element.fields language).countingHeader) counter := by
  obtain ⟨type, isName, header⟩ :=
    (element.fields language).tokens_countingHeader_of_braces braces
  have taken : Reader.comparison.Takes _ counter :=
    (Reader.takes_literal _).bind <|
    (Reader.takes_name isName).bind <|
    (Reader.takes_name counts.isName).bind <|
    (Reader.takes_literal _).bind <|
    (Reader.takes_integer (Element.whole_text counts.start language)).bind <|
    (Reader.takes_literal _).bind <|
    (Reader.takes_skip _).bind <|
    (Reader.takes_literal _).bind <|
    (Reader.takes_integer (Element.whole_text counts.bound language)).bind <|
    (Reader.takes_literal _).bind <|
    (Reader.takes_skip _).bind <|
    (Reader.takes_advance (Element.whole_text counts.step language)).bind <|
    (Reader.takes_literal _).bind <|
    Reader.takes_pure counter
  rw [header, (element.fields language).tokens_stepText (counts.isName_variable language),
    counts.tokens_variable, counts.named]
  simpa only [List.append_nil, List.cons_append, List.nil_append] using taken

theorem Element.Counts.takes_range :
    Reader.range.Takes (Text.tokens (element.fields .python).countingHeader) counter := by
  have header := (element.fields .python).tokens_countingHeader_of_indentation rfl
  have taken : Reader.range.Takes _ counter :=
    (Reader.takes_literal _).bind <|
    (Reader.takes_name counts.isName).bind <|
    (Reader.takes_literal _).bind <|
    (Reader.takes_literal _).bind <|
    (Reader.takes_integer (Element.whole_text counts.start .python)).bind <|
    (Reader.takes_literal _).bind <|
    (Reader.takes_integer (Element.whole_text counts.bound .python)).bind <|
    (Reader.takes_stride (Element.whole_text counts.step .python)).bind <|
    Reader.takes_pure counter
  rw [header, Fields.tokens_rangeText, counts.tokens_variable]
  simpa only [List.append_nil] using taken

/-- The header of the loop is read as the loop's counter. -/
theorem Element.Counts.takes_header
    (language : Language) :
    language.style.counting.Takes
      (Text.tokens (element.fields language).countingHeader) counter := by
  cases language with
  | csharp => exact counts.takes_comparison (by decide)
  | java => exact counts.takes_comparison (by decide)
  | javascript => exact counts.takes_comparison (by decide)
  | python => exact counts.takes_range

theorem Element.Counts.counter?_eq
    (generator : Generator) (depth : Int) :
    generator.counter? depth element = some counter := by
  let mark := generator.language.style.mark
  let header := (element.fields generator.language).countingHeader
  have first :
      (generator.elementLines depth element).head? =
        some (generator.indent depth ++ (header ++ mark)) := by
    have opening := generator.setting.head?_opening depth header
    have lines :
        Outline.blockOpening generator.setting (element.fields generator.language) depth .counting =
          generator.setting.opening depth header :=
      List.append_nil _
    rw [generator.elementLines_of_block depth counts.tag, lines, List.append_assoc,
      List.head?_append, opening]
    rfl
  have apart : Text.startsApart mark = true := by
    cases language : generator.language <;> simp only [mark, language] <;> decide
  have tokens :
      Text.tokens (generator.indent depth ++ (header ++ mark)) =
        Text.tokens header ++ Text.tokens mark :=
    (Text.tokens_replicate_append _ _).trans (Text.tokens_append apart _)
  have taken := (counts.takes_header generator.language).followedBy mark
  rw [← tokens] at taken
  rw [Generator.counter?, first]
  exact taken.whole_eq

/--
A counting loop in braces and the one over a range say the same in their headers; they visit
the same values just if the step leads upwards or the loop starts at its bound.
-/
theorem Generator.counting_visits_iff
    {braced indented : Generator}
    (braces : braced.language ≠ .python) (python : indented.language = .python)
    (moves : counter.step ≠ 0)
    (outer inner : Int) :
    braced.visits? outer element = some counter.compared ∧
      indented.visits? inner element = some counter.ranged ∧
        (counter.compared = counter.ranged ↔
          0 < counter.step ∨ counter.start = counter.bound) := by
  obtain ⟨kind, style⟩ := Language.exists_braces braces
  refine ⟨?_, ?_, Counter.compared_eq_ranged_iff moves⟩
  · rw [visits?, counts.counter?_eq, style]
    rfl
  · rw [visits?, counts.counter?_eq, python]
    rfl

end Headers

/-- A loop that counts upwards, its bounds given as an integer and as a text. -/
def countUp : Element :=
  { type := "for"
    properties := [("start", .integer 2), ("end", .text "10"), ("increment", .text "3")] }

theorem countUp_counts : countUp.Counts ⟨"i", 2, 10, 3⟩ where
  tag := by decide
  isName := by decide
  named := by
    intro language
    cases language <;> decide
  start := by decide
  bound := by decide
  step := by decide

theorem countUp_visits :
    let counter : Counter := ⟨"i", 2, 10, 3⟩
    (Generator.make .java .standard []).visits? 0 countUp = some counter.compared ∧
      (Generator.make .python .standard []).visits? 1 countUp = some counter.ranged ∧
        counter.compared = counter.ranged := by
  have braces : (Generator.make .java .standard []).language ≠ .python := by decide
  have python : (Generator.make .python .standard []).language = .python := rfl
  have visits := Generator.counting_visits_iff countUp_counts braces python (by decide) 0 1
  exact ⟨visits.1, visits.2.1, visits.2.2.2 (.inl (by decide))⟩

/-- A loop that counts down from ten. -/
def countDown : Element :=
  { type := "for"
    properties := [("start", .integer 10), ("end", .integer 0), ("increment", .integer (-1))] }

theorem countDown_counts : countDown.Counts ⟨"i", 10, 0, -1⟩ where
  tag := by decide
  isName := by decide
  named := by
    intro language
    cases language <;> decide
  start := by decide
  bound := by decide
  step := by decide

/-- In braces the loop has no round, over the range it begins with ten. -/
theorem countDown_visits_apart :
    ∃ compared ranged,
      (Generator.make .csharp .standard []).visits? 0 countDown = some compared ∧
        (Generator.make .python .standard []).visits? 0 countDown = some ranged ∧
          compared 0 = none ∧ ranged 0 = some 10 := by
  refine ⟨Counter.compared ⟨"i", 10, 0, -1⟩, Counter.ranged ⟨"i", 10, 0, -1⟩, ?_, ?_,
    by decide, by decide⟩
  · rw [Generator.visits?, countDown_counts.counter?_eq]
    rfl
  · rw [Generator.visits?, countDown_counts.counter?_eq]
    rfl

end Blockwright
