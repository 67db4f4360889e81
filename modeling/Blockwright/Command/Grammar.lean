import Blockwright.Text.Inspected

/-!
# Command-line grammars

How a list of arguments is read: options that may stand anywhere, in full or
shortened to a prefix that no other option shares, with their value in the same
argument or in the next one; and positional arguments among them.  A grammar
says which options there are and what each option and positional argument does
to a state.  Reading stops at the first fault, or at a request for help.
-/

namespace Blockwright.Command

/-- What is wrong with a list of arguments. -/
inductive UsageFault where
  | ambiguous (argument : Text) (matching : List Text)
  | missingValue (option : Text)
  | unusedValue (option value : Text)
  | invalidChoice (argument value : Text) (choices : List Text)
  | conflict (option other : Text)
  | missingArguments (names : List Text)
  | unrecognized (arguments : List Text)
  deriving DecidableEq, Repr

/-- The report of a fault. -/
def UsageFault.message : UsageFault → Text
  | .ambiguous argument matching =>
      "ambiguous option: " ++ argument ++ " could match " ++ List.intercalate ", " matching
  | .missingValue option => "argument " ++ option ++ ": expected one argument"
  | .unusedValue option value =>
      "argument " ++ option ++ ": ignored explicit argument " ++ Text.inspect value
  | .invalidChoice argument value choices =>
      "argument " ++ argument ++ ": invalid choice: " ++ Text.inspect value ++
        " (choose from " ++ List.intercalate ", " (choices.map Text.inspect) ++ ")"
  | .conflict option other =>
      "argument " ++ option ++ ": not allowed with argument " ++ other
  | .missingArguments names =>
      "the following arguments are required: " ++ List.intercalate ", " names
  | .unrecognized arguments => "unrecognized arguments: " ++ List.intercalate " " arguments

/-- Why reading stops before the end. -/
inductive Stop where
  | help
  | usage (fault : UsageFault)
  deriving DecidableEq, Repr

/-- An option: its spellings, whether it takes a value, and what it is for. -/
structure OptionSpec (κ : Type) where
  spellings : List String
  takesValue : Bool
  key : κ

/-- The name of an option in reports: all its spellings. -/
def OptionSpec.display {κ : Type} (option : OptionSpec κ) : Text :=
  List.intercalate ['/'] (option.spellings.map String.toList)

/-- How many arguments a positional argument takes. -/
inductive Arity where
  | none
  | one
  /-- One argument and everything after it. -/
  | rest
  deriving DecidableEq

/-- A grammar over options of some kinds and states of some type. -/
structure Grammar (κ σ : Type) where
  /-- The options in the order in which their spellings are tried. -/
  options : List (OptionSpec κ)
  /-- What an option does, with its value or an empty text. -/
  onOption : OptionSpec κ → Text → σ → Except Stop σ
  arity : Arity
  /-- What the positional arguments do. -/
  onPositional : List Text → σ → Except Stop σ

/-- A value in the same argument as its option, behind an equals sign or directly. -/
structure Attached where
  behindEquals : Bool
  text : Text
  deriving DecidableEq

/-- How an argument is seen before its place is considered. -/
inductive Word (κ : Type) where
  | positional
  /-- Two dashes, after which nothing is an option. -/
  | separator
  /-- An option with the spelling that was found and the value that the argument holds. -/
  | option (spec : OptionSpec κ) (spelling : Text) (value : Option Attached)
  /-- An option that the grammar does not have. -/
  | unknown

namespace Word

variable {κ : Type}

/-- Whether a word is an option, known or not. -/
def isOption : Word κ → Bool
  | .option .. => true
  | .unknown => true
  | _ => false

/-- Whether a word is a separator. -/
def isSeparator : Word κ → Bool
  | .separator => true
  | _ => false

end Word

/-- Whether a text is a negative number, which is never taken for an option. -/
def isNegativeNumber (argument : Text) : Bool :=
  match argument with
  | '-' :: rest =>
      let (whole, fraction) := Text.cut '.' rest
      match fraction with
      | none => !whole.isEmpty && whole.all Char.isDigit
      | some places =>
          whole.all Char.isDigit && !places.isEmpty && places.all Char.isDigit
  | _ => false

namespace Grammar

variable {κ σ : Type} (grammar : Grammar κ σ)

/-- Every spelling with its option. -/
def spellings : List (Text × OptionSpec κ) :=
  grammar.options.flatMap fun option =>
    option.spellings.map fun spelling => (spelling.toList, option)

/-- The option of a spelling. -/
def spelled? (spelling : Text) : Option (OptionSpec κ) :=
  (grammar.spellings.find? (·.1 = spelling)).map (·.2)

/-- The options that a shortened or joined argument may mean, as words. -/
def candidates (argument : Text) : List (Text × Word κ) :=
  match argument with
  | '-' :: '-' :: _ =>
      let (front, value) := Text.cut '=' argument
      grammar.spellings.filterMap fun (spelling, option) =>
        if front.isPrefixOf spelling then
          some (spelling, .option option spelling (value.map (⟨true, ·⟩)))
        else
          none
  | _ =>
      grammar.spellings.filterMap fun (spelling, option) =>
        if spelling = argument.take 2 then
          some (spelling, .option option spelling (some ⟨false, argument.drop 2⟩))
        else if argument.isPrefixOf spelling then
          some (spelling, .option option spelling none)
        else
          none

/-- How an argument before any separator is seen. -/
def classify (argument : Text) : Except Stop (Word κ) :=
  if argument.head? != some '-' then
    .ok .positional
  else
    match grammar.spelled? argument with
    | some option => .ok (.option option argument none)
    | none =>
        if argument.length = 1 then
          .ok .positional
        else
          let (front, value) := Text.cut '=' argument
          match value, grammar.spelled? front with
          | some value, some option => .ok (.option option front (some ⟨true, value⟩))
          | _, _ =>
              match grammar.candidates argument with
              | [(_, word)] => .ok word
              | [] =>
                  if isNegativeNumber argument || argument.contains ' ' then
                    .ok .positional
                  else
                    .ok .unknown
              | several => .error (.usage (.ambiguous argument (several.map (·.1))))

/-- How arguments are seen; behind a separator all of them are positional. -/
def classifyAll : List Text → Except Stop (List (Word κ × Text))
  | [] => .ok []
  | argument :: rest =>
      if argument = ['-', '-'] then
        .ok ((.separator, argument) :: rest.map fun other => (.positional, other))
      else do
        let word ← grammar.classify argument
        let words ← classifyAll rest
        return (word, argument) :: words

/-- The options that one argument spells, with their values, and what is left of it unread. -/
structure Joined (κ : Type) where
  settled : List (OptionSpec κ × Text)
  /-- An option at the end of the argument that has no value yet. -/
  pending : Option (OptionSpec κ)
  unread : Option Text

/-- The value that the letters behind a one-letter option hold for it. -/
def attached? (letters : Text) : Option Attached :=
  match letters with
  | [] => none
  | '=' :: rest => some ⟨true, rest⟩
  | rest => some ⟨false, rest⟩

/--
The options of an argument in which a value is attached to its first option.
The letters behind a one-letter option that takes no value are one-letter
options themselves.
-/
def joined (option : OptionSpec κ) (spelling : Text) :
    Nat → Attached → Except Stop (Joined κ)
  | 0, value => .error (.usage (.unusedValue option.display value.text))
  | fuel + 1, value =>
      let unused : Except Stop (Joined κ) :=
        .error (.usage (.unusedValue option.display value.text))
      if option.takesValue then
        .ok ⟨[(option, value.text)], none, none⟩
      else
        match value.text with
        | [] => unused
        | letter :: others =>
            if (spelling.drop 1).head? = some '-' || value.behindEquals || letter = '-' then
              unused
            else
              match grammar.spelled? ['-', letter] with
              | none => .ok ⟨[(option, [])], none, some ('-' :: letter :: others)⟩
              | some next =>
                  match attached? others with
                  | none => .ok ⟨[(option, [])], some next, none⟩
                  | some value =>
                      (joined next ['-', letter] fuel value).map fun later =>
                        { later with settled := (option, []) :: later.settled }

/-- What taking the options of an argument leaves: the options and the arguments after it. -/
structure Taken (κ : Type) where
  options : List (OptionSpec κ × Text)
  unread : List Text
  rest : List (Word κ × Text)

/-- The options of an argument with their values; the last may take the next argument. -/
def takeOption
    (option : OptionSpec κ) (spelling : Text) (value : Option Attached)
    (rest : List (Word κ × Text)) : Except Stop (Taken κ) := do
  let parts : Joined κ ←
    match value with
    | none => pure ⟨[], some option, none⟩
    | some value => grammar.joined option spelling (value.text.length + 1) value
  let unread := parts.unread.toList
  match parts.pending with
  | none => return ⟨parts.settled, unread, rest⟩
  | some last =>
      if last.takesValue then
        match rest with
        | (.positional, argument) :: others =>
            return ⟨parts.settled ++ [(last, argument)], unread, others⟩
        | _ => .error (.usage (.missingValue last.display))
      else
        return ⟨parts.settled ++ [(last, [])], unread, rest⟩

/-- The positional arguments at the front, and what is left, if their number fits. -/
def positionals? (words : List (Word κ × Text)) :
    Option (List Text × List (Word κ × Text)) :=
  let separators := words.takeWhile (·.1.isSeparator)
  match words.drop separators.length with
  | (.positional, argument) :: rest =>
      match grammar.arity with
      | .none => none
      | .one =>
          let trailing := rest.takeWhile (·.1.isSeparator)
          some ([argument], rest.drop trailing.length)
      | .rest =>
          let separator := separators.map (·.2)
          some (separator ++ argument :: rest.map (·.2), [])
  | _ => none

/--
The state after all arguments, with the arguments that nothing in the grammar
takes.  The flag says whether the positional arguments are still to come.
-/
def consume :
    Nat → Bool → List (Word κ × Text) → List Text → σ → Except Stop (σ × List Text)
  | 0, _, words, extras, state => .ok (state, extras ++ words.map (·.2))
  | fuel + 1, awaited, words, extras, state =>
      match words with
      | [] => .ok (state, extras)
      | (.option option spelling value, _) :: rest => do
          let taken ← grammar.takeOption option spelling value rest
          let state ← taken.options.foldlM
            (fun state (part : OptionSpec κ × Text) => grammar.onOption part.1 part.2 state)
            state
          consume fuel awaited taken.rest (extras ++ taken.unread) state
      | (.unknown, argument) :: rest =>
          consume fuel awaited rest (extras ++ [argument]) state
      | words =>
          match if awaited then grammar.positionals? words else none with
          | some (arguments, rest) => do
              let state ← grammar.onPositional arguments state
              consume fuel false rest extras state
          | none =>
              let untaken := words.takeWhile (!·.1.isOption)
              consume fuel awaited (words.drop untaken.length)
                (extras ++ untaken.map (·.2)) state

/-- The state after a list of arguments, with the arguments that nothing takes. -/
def run (arguments : List Text) (state : σ) : Except Stop (σ × List Text) := do
  let words ← grammar.classifyAll arguments
  grammar.consume (2 * words.length + 1) true words [] state

end Grammar

end Blockwright.Command
