import Blockwright.Layout
import Blockwright.Document.Basic
import Blockwright.Template
import Mathlib.Data.List.Basic

/-!
# Tokens of written text

What a text means to its language is decided by its tokens: words, which are runs of
letters, digits and underscores, doubled signs, and single other characters.  Spaces and
line ends only set tokens apart, so moving a text to a depth does not change its tokens.

A template that keeps its slots apart from what stands around them is read piece by piece:
its tokens are those of its literals and of the texts that fill its slots, in order.
-/

namespace Blockwright

namespace Text

/-- A character that makes one token with another of its kind behind it. -/
def isSign (c : Char) : Bool :=
  c = '+' || c = '-'

/-- Whether a character goes on with a token. -/
def joins (token : Text) (c : Char) : Bool :=
  (token.getLast?.any Template.continuesName && Template.continuesName c) ||
    (isSign c && token = [c])

/-- The token that a character begins; a space and a line end begin none. -/
def opened (c : Char) : Text :=
  if c = ' ' ∨ c = '\n' then [] else [c]

/-- A token that is over, as a list; without characters there is none. -/
def closed (token : Text) : List Text :=
  if token.isEmpty then [] else [token]

/-- The tokens of a text that may go on with a token. -/
def tokensAfter (token : Text) : Text → List Text
  | [] => closed token
  | c :: rest =>
      if joins token c then
        tokensAfter (token ++ [c]) rest
      else
        closed token ++ tokensAfter (opened c) rest

/-- The tokens of a text. -/
def tokens (text : Text) : List Text :=
  tokensAfter [] text

theorem tokens_cons_eq_tokensAfter
    (c : Char) (rest : Text) :
    tokens (c :: rest) = tokensAfter (opened c) rest := by
  simp [tokens, tokensAfter, joins, closed]

/-- A token that the next character does not join is over. -/
theorem tokensAfter_of_not_joins
    {token rest : Text}
    (stops : ∀ c ∈ rest.head?, joins token c = false) :
    tokensAfter token rest = closed token ++ tokens rest := by
  cases rest with
  | nil => simp [tokensAfter, tokens, closed]
  | cons c rest =>
      have alone : joins token c = false := stops c (by simp)
      rw [tokensAfter, if_neg (by simp [alone]), tokens_cons_eq_tokensAfter]

theorem tokens_cons
    {c : Char} {rest : Text}
    (stops : ∀ next ∈ rest.head?, joins (opened c) next = false) :
    tokens (c :: rest) = closed (opened c) ++ tokens rest := by
  rw [tokens_cons_eq_tokensAfter, tokensAfter_of_not_joins stops]

/-! ## Texts next to each other -/

/-- Whether a character may be a part of a longer token. -/
def isSticky (c : Char) : Bool :=
  Template.continuesName c || isSign c

/-- Whether no token goes on into a text. -/
def startsApart (text : Text) : Bool :=
  text.head?.all (!isSticky ·)

/-- Whether no token of a text goes on behind it. -/
def endsApart (text : Text) : Bool :=
  text.getLast?.all (!isSticky ·)

theorem joins_of_not_isSticky
    {c : Char}
    (alone : isSticky c = false)
    (token : Text) :
    joins token c = false := by
  rw [isSticky, Bool.or_eq_false_iff] at alone
  simp [joins, alone]

theorem joins_opened_of_not_isSticky
    {c : Char}
    (alone : isSticky c = false)
    (next : Char) :
    joins (opened c) next = false := by
  rw [isSticky, Bool.or_eq_false_iff] at alone
  rw [joins, opened]
  split
  · simp
  · have other : isSign next = true → c ≠ next := by
      rintro sign rfl
      exact absurd sign (by simp [alone.2])
    simpa [alone.1] using other

theorem tokensAfter_append
    {rest : Text}
    (apart : rest.startsApart = true)
    (token front : Text) :
    tokensAfter token (front ++ rest) = tokensAfter token front ++ tokens rest := by
  induction front generalizing token with
  | nil =>
      apply tokensAfter_of_not_joins
      intro c begins
      rw [startsApart, ← List.nil_append rest, Option.mem_def.1 begins] at apart
      exact joins_of_not_isSticky (by simpa using apart) token
  | cons c front ih =>
      rw [List.cons_append, tokensAfter, tokensAfter]
      split
      · exact ih (token ++ [c])
      · rw [ih, List.append_assoc]

/-- Tokens in front of a text into which none goes on. -/
theorem tokens_append
    {rest : Text}
    (apart : rest.startsApart = true)
    (front : Text) :
    tokens (front ++ rest) = tokens front ++ tokens rest :=
  tokensAfter_append apart [] front

theorem tokens_append_cons
    {c : Char}
    (alone : isSticky c = false)
    (front rest : Text) :
    tokens (front ++ c :: rest) = tokens front ++ (closed (opened c) ++ tokens rest) := by
  rw [tokens_append (by simpa [startsApart] using alone),
    tokens_cons fun next _ => joins_opened_of_not_isSticky alone next]

/-- Tokens behind a text that none goes on behind. -/
theorem tokens_append_of_endsApart
    {front : Text}
    (apart : front.endsApart = true)
    (rest : Text) :
    tokens (front ++ rest) = tokens front ++ tokens rest := by
  rcases List.eq_nil_or_concat' front with rfl | ⟨before, last, rfl⟩
  · rfl
  · have alone : isSticky last = false := by simpa [endsApart] using apart
    rw [List.append_assoc, List.singleton_append, tokens_append_cons alone,
      tokens_append_cons alone]
    simp [tokens, tokensAfter, closed]

/-! ## Words and numerals -/

/-- Whether a text is a name: letters, digits and underscores, the first no digit. -/
def isName (text : Text) : Bool :=
  text.head?.any (!·.isDigit) && text.all Template.continuesName

/-- Whether a text is all of letters, digits and underscores, and has some. -/
def isWord (text : Text) : Bool :=
  !text.isEmpty && text.all Template.continuesName

theorem isWord_of_isName
    {text : Text}
    (name : text.isName = true) :
    text.isWord = true := by
  cases text with
  | nil => exact absurd name Bool.false_ne_true
  | cons c rest =>
      rw [isName, Bool.and_eq_true] at name
      rw [isWord, Bool.and_eq_true]
      exact ⟨rfl, name.2⟩

theorem tokensAfter_append_of_all
    {front : Text}
    (inside : front.all Template.continuesName = true)
    {token : Text}
    (goes : token.getLast?.any Template.continuesName = true)
    (rest : Text) :
    tokensAfter token (front ++ rest) = tokensAfter (token ++ front) rest := by
  induction front generalizing token with
  | nil => rw [List.nil_append, List.append_nil]
  | cons c front ih =>
      rw [List.all_cons, Bool.and_eq_true] at inside
      rw [List.cons_append, tokensAfter, if_pos (by simp [joins, goes, inside.1]),
        ih inside.2 (by simpa using inside.1), List.append_assoc, List.singleton_append]

/-- A word is one token, unless it goes on. -/
theorem tokens_word_append
    {word rest : Text}
    (isWord : word.isWord = true)
    (stops : rest.head?.any Template.continuesName = false) :
    tokens (word ++ rest) = word :: tokens rest := by
  cases word with
  | nil => exact absurd isWord Bool.false_ne_true
  | cons c word =>
      obtain ⟨-, inside⟩ := Bool.and_eq_true_iff.1 isWord
      obtain ⟨begins, goesOn⟩ := Bool.and_eq_true_iff.1 (List.all_cons ▸ inside)
      have token : opened c = [c] := by
        refine if_neg ?_
        rintro (rfl | rfl) <;> exact absurd begins (by decide)
      have ends (next : Char) (behind : next ∈ rest.head?) : joins (c :: word) next = false := by
        have outside : Template.continuesName next = false := by
          rwa [Option.mem_def.1 behind] at stops
        have other : c ≠ next := by
          rintro rfl
          exact absurd begins (by simp [outside])
        simp [joins, outside, other]
      rw [List.cons_append, tokens_cons_eq_tokensAfter, token,
        tokensAfter_append_of_all goesOn (by simpa using begins), List.singleton_append,
        tokensAfter_of_not_joins ends]
      rfl

theorem tokens_word
    {word : Text}
    (isWord : word.isWord = true) :
    tokens word = [word] := by
  have alone : tokens (word ++ []) = word :: tokens [] := tokens_word_append isWord rfl
  rwa [List.append_nil] at alone

theorem isSign_of_continuesName
    {c : Char}
    (inside : Template.continuesName c = true) :
    isSign c = false := by
  by_contra sign
  rw [Bool.not_eq_false, isSign, Bool.or_eq_true, decide_eq_true_eq, decide_eq_true_eq] at sign
  rcases sign with rfl | rfl <;> exact absurd inside (by decide)

/-- A word behind a character that belongs to none. -/
theorem tokens_cons_word
    {c : Char} {word : Text}
    (outside : Template.continuesName c = false)
    (isWord : word.isWord = true) :
    tokens (c :: word) = closed (opened c) ++ [word] := by
  rw [tokens_cons, tokens_word isWord]
  intro next begins
  obtain ⟨-, inside⟩ := Bool.and_eq_true_iff.1 isWord
  have unsigned : isSign next = false :=
    isSign_of_continuesName (List.all_eq_true.1 inside next (List.mem_of_mem_head? begins))
  rw [joins, opened, unsigned]
  split <;> simp [outside]

/-- The number that a word is the decimal text of; a needless zero in front makes it none. -/
def numeral? (word : Text) : Option Nat :=
  let n := Nat.ofDigitChars 10 word 0
  if Nat.toDigits 10 n = word then some n else none

theorem numeral?_toDigits (n : Nat) :
    numeral? (Nat.toDigits 10 n) = some n := by
  rw [numeral?, Nat.ofDigitChars_toDigits (by decide) (by decide), if_pos rfl]

theorem isWord_toDigits (n : Nat) :
    isWord (Nat.toDigits 10 n) = true := by
  have digits : (Nat.toDigits 10 n).all Template.continuesName = true := by
    rw [List.all_eq_true]
    intro c member
    have digit : c.isDigit = true := Nat.isDigit_of_mem_toDigits (by decide) (by decide) member
    simp [Template.continuesName, digit]
  simp [isWord, digits, Nat.toDigits_ne_nil]

theorem isName_toDigits (n : Nat) :
    isName (Nat.toDigits 10 n) = false := by
  cases digits : Nat.toDigits 10 n with
  | nil => rfl
  | cons c rest =>
      have digit : c.isDigit = true :=
        Nat.isDigit_of_mem_toDigits (n := n) (b := 10) (by decide) (by decide) (by simp [digits])
      simp [isName, digit]

/-! ## Lines -/

theorem tokens_replicate_append
    (spaces : Nat) (text : Text) :
    tokens (List.replicate spaces ' ' ++ text) = tokens text := by
  induction spaces with
  | zero => rfl
  | succ spaces ih =>
      have blank : closed (opened ' ') = [] := rfl
      rw [List.replicate_succ, List.cons_append,
        tokens_cons fun next _ => joins_opened_of_not_isSticky (by decide) next, ih, blank,
        List.nil_append]

/-- The tokens of lines are those of each line in turn. -/
theorem tokens_intercalate_newline
    (lines : List Text) :
    tokens (List.intercalate ['\n'] lines) = lines.flatMap tokens := by
  induction lines using List.intersperse.induct with
  | case1 => rfl
  | case2 only => simp
  | case3 first others more ih =>
      rw [List.intercalate_cons_of_ne_nil more, List.append_assoc, List.singleton_append,
        tokens_append_cons (by decide), ih, List.flatMap_cons]
      rfl

end Text

namespace Layout

theorem tokens_line
    (width : Nat) (depth : Int) (raw : Text) :
    (line width depth raw).tokens = raw.tokens := by
  have spelled := congrArg Text.tokens (replicate_leadingSpaces_append raw)
  rw [Text.tokens_replicate_append] at spelled
  rw [← spelled, line]
  split
  · next blank => rw [blank]
  · next stripped _ => rw [List.append_assoc, indent, Text.tokens_replicate_append,
      Text.tokens_replicate_append]

/-- Moving a text to a depth keeps its tokens. -/
theorem tokens_lines
    (width : Nat) (depth : Int) (text : Text) :
    Text.tokens (List.intercalate ['\n'] (lines width depth text)) = text.tokens := by
  have pieces := congrArg Text.tokens (@List.intercalate_splitOn _ text _ _ '\n')
  rw [Text.tokens_intercalate_newline] at pieces
  rw [Text.tokens_intercalate_newline, lines, List.flatMap_map, ← pieces]
  exact List.flatMap_congr fun raw _ => tokens_line width depth raw

end Layout

/-! ## Templates -/

namespace Template

/-- Whether no token goes on into what a template is filled to. -/
def startsApart : Template → Bool
  | [] => true
  | .literal text :: _ => !text.isEmpty && text.startsApart
  | .slot _ :: _ => false

/-- Whether no token of a template is a part of a slot's, nor of the next literal's. -/
def keepsApart : Template → Bool
  | [] => true
  | .literal text :: rest => (text.endsApart || startsApart rest) && keepsApart rest
  | .slot _ :: rest => startsApart rest && keepsApart rest

theorem startsApart_fill
    {template : Template}
    (apart : startsApart template = true)
    (value : Slot → Text) :
    (template.fill value).startsApart = true := by
  match template with
  | [] => rfl
  | .literal [] :: rest => exact absurd apart Bool.false_ne_true
  | .literal (c :: text) :: rest => exact apart
  | .slot slot :: rest => exact absurd apart Bool.false_ne_true

/-- A template that keeps its slots apart is read piece by piece. -/
theorem tokens_fill
    {template : Template}
    (apart : keepsApart template = true)
    (value : Slot → Text) :
    (template.fill value).tokens =
      template.flatMap fun piece => (fillPiece value piece).tokens := by
  induction template with
  | nil => rfl
  | cons piece rest ih =>
      have filled : fill value (piece :: rest) = fillPiece value piece ++ fill value rest := rfl
      have behind (begins : startsApart rest = true) (front : Text) :
          (front ++ fill value rest).tokens = front.tokens ++ (fill value rest).tokens :=
        Text.tokens_append (startsApart_fill begins value) front
      rw [filled, List.flatMap_cons]
      cases piece with
      | literal text =>
          rw [keepsApart, Bool.and_eq_true, Bool.or_eq_true] at apart
          rw [← ih apart.2, fillPiece]
          rcases apart.1 with ends | begins
          · exact Text.tokens_append_of_endsApart ends _
          · exact behind begins text
      | slot slot =>
          rw [keepsApart, Bool.and_eq_true] at apart
          rw [← ih apart.2, fillPiece]
          exact behind apart.1 (value slot)

end Template

/-! ## Readers -/

/-- A reader takes tokens from the front and leaves the rest, or fails. -/
abbrev Reader (α : Type) := StateT (List Text) Option α

namespace Reader

variable {α β : Type}

/-- Takes tokens that must stand in front. -/
def skip (expected : List Text) : Reader Unit :=
  fun tokens =>
    if expected.isPrefixOf tokens then some ((), tokens.drop expected.length) else none

/-- Takes the tokens of a text that must stand in front. -/
def literal (text : Text) : Reader Unit :=
  skip text.tokens

/-- Takes a name. -/
def name : Reader Text
  | token :: rest => if token.isName then some (token, rest) else none
  | [] => none

/-- Takes an integer, which may have a sign. -/
def integer : Reader Int
  | ['-'] :: digits :: rest => (Text.numeral? digits).map fun n : Nat => (-(n : Int), rest)
  | ['+'] :: digits :: rest => (Text.numeral? digits).map fun n : Nat => ((n : Int), rest)
  | digits :: rest => (Text.numeral? digits).map fun n : Nat => ((n : Int), rest)
  | [] => none

/-- Takes a text behind what a reader takes. -/
def followedBy (reader : Reader α) (text : Text) : Reader α := do
  let value ← reader
  literal text
  return value

/-- What a reader makes of a text of which it takes everything. -/
def whole (reader : Reader α) (text : Text) : Option α :=
  match reader text.tokens with
  | some (value, []) => some value
  | _ => none

/-- A reader takes just the given tokens, whatever follows them. -/
def Takes (reader : Reader α) (front : List Text) (value : α) : Prop :=
  ∀ rest : List Text, reader (front ++ rest) = some (value, rest)

theorem takes_pure (value : α) :
    (pure value : Reader α).Takes [] value :=
  fun _ => rfl

theorem takes_skip (expected : List Text) :
    (skip expected).Takes expected () := by
  intro rest
  simp [skip]

theorem takes_literal (text : Text) :
    (literal text).Takes text.tokens () :=
  takes_skip text.tokens

theorem takes_name
    {text : Text}
    (isName : text.isName = true) :
    name.Takes [text] text :=
  fun _ => if_pos isName

/-- One reader after another takes what both take. -/
theorem Takes.bind
    {first : Reader α} {next : α → Reader β} {front back : List Text} {value : α} {result : β}
    (taken : first.Takes front value)
    (later : (next value).Takes back result) :
    (first >>= next).Takes (front ++ back) result := by
  intro rest
  have step : (first >>= next) (front ++ back ++ rest) =
      (first (front ++ back ++ rest)).bind fun read => next read.1 read.2 :=
    rfl
  rw [step, List.append_assoc, taken, Option.bind_some, later]

theorem Takes.followedBy
    {reader : Reader α} {front : List Text} {value : α}
    (taken : reader.Takes front value)
    (text : Text) :
    (reader.followedBy text).Takes (front ++ text.tokens) value := by
  have rest : Takes (do literal text; return value : Reader α) (text.tokens ++ []) value :=
    (takes_literal text).bind (takes_pure value)
  rw [List.append_nil] at rest
  exact taken.bind rest

theorem Takes.whole_eq
    {reader : Reader α} {text : Text} {value : α}
    (taken : reader.Takes text.tokens value) :
    reader.whole text = some value := by
  have all := taken []
  rw [List.append_nil] at all
  rw [whole, all]

theorem integer_numeral
    {digits : Text} {n : Nat}
    (value : Text.numeral? digits = some n)
    (rest : List Text) :
    integer (digits :: rest) = some ((n : Int), rest) := by
  have unsigned (sign : Char) (none : Text.numeral? [sign] = none) : digits ≠ [sign] := by
    rintro rfl
    exact absurd (value.symm.trans none) (Option.some_ne_none n)
  have minus := unsigned '-' (by decide)
  have plus := unsigned '+' (by decide)
  rw [integer]
  · rw [value, Option.map_some]
  · intro _ _ same _
    exact minus same
  · intro _ _ same _
    exact plus same

/-- A text that is an integer is read as it in front of any other tokens. -/
theorem takes_integer
    {text : Text} {n : Int}
    (read : integer.whole text = some n) :
    integer.Takes text.tokens n := by
  intro rest
  revert read
  rw [whole]
  generalize text.tokens = tokens
  fun_cases integer tokens with
  | case1 digits behind | case2 digits behind =>
      cases value : Text.numeral? digits with
      | none => simp
      | some m => cases behind <;> simp [integer, value]
  | case3 digits behind =>
      cases value : Text.numeral? digits with
      | none => simp
      | some m => cases behind <;> simp [integer_numeral value]
  | case4 => simp

end Reader

end Blockwright
