import Blockwright.Layout
import Blockwright.Text.Quoted

/-!
# Counting braces

A reader goes through source text and counts the opening braces less the
closing ones.  It skips double-quoted literals, inside which a backslash takes
the next character along.  `Text.BracesNested` says that the count is never
negative and ends at zero.

`Climbs text low high` is the part of this that composes: read from the count
`low` outside any literal, the text is left at the count `high` outside any
literal, no brace closes more than was open, and no line ends inside a literal.
The last condition is what re-indentation needs, since it changes the spaces
that lines open with.
-/

namespace Blockwright

/-- Where a reader of source text stands. -/
inductive Reading where
  /-- Outside any literal. -/
  | code
  /-- Inside a double-quoted literal. -/
  | literal
  /-- Inside a literal, right after a backslash. -/
  | escaped
  deriving DecidableEq, Repr

/-- A count of braces, and where its reader stands. -/
structure BraceCount where
  count : Int
  reading : Reading
  deriving DecidableEq, Repr

namespace BraceCount

/-- The count after one more character. -/
def step (state : BraceCount) (c : Char) : BraceCount :=
  match state.reading with
  | .code =>
      if c = '{' then ⟨state.count + 1, .code⟩
      else if c = '}' then ⟨state.count - 1, .code⟩
      else if c = '"' then ⟨state.count, .literal⟩
      else state
  | .literal =>
      if c = '\\' then ⟨state.count, .escaped⟩
      else if c = '"' then ⟨state.count, .code⟩
      else state
  | .escaped => ⟨state.count, .literal⟩

/-- The count after a text that is read from its beginning. -/
def after (text : Text) : BraceCount :=
  text.foldl step ⟨0, .code⟩

/-- One step of reading, unless a brace closes nothing or a line ends in a literal. -/
def stepStrictly (state : BraceCount) (c : Char) : Option BraceCount :=
  match state.reading with
  | .code => if c = '}' ∧ state.count ≤ 0 then none else some (state.step c)
  | _ => if c = '\n' then none else some (state.step c)

/-- The count after a text, unless a brace closes nothing or a line ends in a literal. -/
def read (state : BraceCount) (text : Text) : Option BraceCount :=
  text.foldlM stepStrictly state

@[simp]
theorem read_nil (state : BraceCount) : state.read [] = some state :=
  rfl

@[simp]
theorem read_cons
    (state : BraceCount) (c : Char) (rest : Text) :
    state.read (c :: rest) = (state.stepStrictly c).bind (·.read rest) :=
  rfl

theorem read_append
    (state : BraceCount) (first second : Text) :
    state.read (first ++ second) = (state.read first).bind (·.read second) :=
  List.foldlM_append

end BraceCount

/-- Braces open before they close, and all are closed at the end. -/
structure Text.BracesNested (text : Text) : Prop where
  neverNegative : ∀ front, front <+: text → 0 ≤ (BraceCount.after front).count
  zeroAtEnd : (BraceCount.after text).count = 0

namespace BraceCount

theorem step_of_stepStrictly
    {state next : BraceCount} {c : Char}
    (taken : state.stepStrictly c = some next) :
    state.step c = next := by
  simp only [stepStrictly] at taken
  split at taken <;> split at taken <;> simp_all

theorem count_nonneg_of_stepStrictly
    {state next : BraceCount} {c : Char}
    (nonneg : 0 ≤ state.count)
    (taken : state.stepStrictly c = some next) :
    0 ≤ next.count := by
  have moved := step_of_stepStrictly taken
  rcases state with ⟨count, reading⟩
  subst moved
  cases reading with
  | code =>
      simp only [stepStrictly] at taken
      split at taken
      · simp at taken
      · next possible =>
          simp only [step]
          grind
  | literal =>
      simp only [step]
      grind
  | escaped => exact nonneg

/-- A strict reading is a reading, and its count is never negative on the way. -/
theorem foldl_of_read
    {state last : BraceCount} {text : Text}
    (nonneg : 0 ≤ state.count)
    (done : state.read text = some last) :
    text.foldl step state = last ∧
      ∀ front, front <+: text → 0 ≤ (front.foldl step state).count := by
  induction text generalizing state with
  | nil =>
      constructor
      · exact Option.some.inj done
      · intro front shorter
        rw [List.prefix_nil.1 shorter]
        exact nonneg
  | cons c rest ih =>
      obtain ⟨next, taken, remaining⟩ := Option.bind_eq_some_iff.1 done
      have moved := step_of_stepStrictly taken
      obtain ⟨ends, fronts⟩ := ih (count_nonneg_of_stepStrictly nonneg taken) remaining
      constructor
      · rw [List.foldl_cons, moved, ends]
      · intro front shorter
        rcases List.prefix_cons_iff.1 shorter with rfl | ⟨tail, rfl, inner⟩
        · exact nonneg
        · rw [List.foldl_cons, moved]
          exact fronts tail inner

/-- A strict reading does not mind more braces being open around the text. -/
theorem read_shift
    {state last : BraceCount} {text : Text}
    (extra : Nat)
    (done : state.read text = some last) :
    (⟨state.count + extra, state.reading⟩ : BraceCount).read text =
      some ⟨last.count + extra, last.reading⟩ := by
  induction text generalizing state with
  | nil =>
      have same : state = last := Option.some.inj done
      rw [same, read_nil]
  | cons c rest ih =>
      obtain ⟨next, taken, remaining⟩ := Option.bind_eq_some_iff.1 done
      have shifted :
          (⟨state.count + extra, state.reading⟩ : BraceCount).stepStrictly c =
            some ⟨next.count + extra, next.reading⟩ := by
        rcases state with ⟨count, reading⟩
        cases reading <;> simp only [stepStrictly, step] at taken ⊢ <;> grind
      rw [read_cons, shifted]
      exact ih remaining

end BraceCount

/-! ## Texts that lead from one count to another -/

/-- Read outside a literal, the text leads from one count of open braces to another. -/
def Climbs (text : Text) (low high : Nat) : Prop :=
  (⟨low, .code⟩ : BraceCount).read text = some ⟨high, .code⟩

instance (text : Text) (low high : Nat) : Decidable (Climbs text low high) :=
  inferInstanceAs (Decidable (_ = _))

/-- The text leads back to the count it began with. -/
abbrev Balanced (text : Text) : Prop :=
  Climbs text 0 0

/-- The text holds no brace and no double quote. -/
def Text.Plain (text : Text) : Prop :=
  ∀ c ∈ text, c ≠ '{' ∧ c ≠ '}' ∧ c ≠ '"'

instance (text : Text) : Decidable text.Plain :=
  List.decidableBAll _ text

namespace Climbs

variable {first second text : Text} {low middle high : Nat}

theorem nil : Climbs [] low low :=
  rfl

theorem append
    (before : Climbs first low middle)
    (after : Climbs second middle high) :
    Climbs (first ++ second) low high := by
  simp only [Climbs] at *
  rw [BraceCount.read_append, before]
  exact after

theorem shift
    (climbs : Climbs text low high) (extra : Nat) :
    Climbs text (low + extra) (high + extra) := by
  have shifted := BraceCount.read_shift extra climbs
  simpa [Climbs] using shifted

theorem openingBrace : Climbs ['{'] low (low + 1) := by
  simp [Climbs, BraceCount.stepStrictly, BraceCount.step]

theorem closingBrace : Climbs ['}'] (low + 1) low := by
  have counted : ¬((low : Int) + 1 ≤ 0) := by omega
  simp [Climbs, BraceCount.stepStrictly, BraceCount.step, counted]

theorem spacedOpening : Climbs [' ', '{'] low (low + 1) := by
  simp [Climbs, BraceCount.stepStrictly, BraceCount.step]

theorem closingSpaced : Climbs ['}', ' '] (low + 1) low := by
  have counted : ¬((low : Int) + 1 ≤ 0) := by omega
  simp [Climbs, BraceCount.stepStrictly, BraceCount.step, counted]

theorem of_plain
    (plain : text.Plain) :
    Climbs text low low := by
  induction text with
  | nil => exact nil
  | cons c rest ih =>
      obtain ⟨notOpening, notClosing, notQuote⟩ := plain c List.mem_cons_self
      have kept :
          (⟨low, .code⟩ : BraceCount).stepStrictly c = some ⟨low, .code⟩ := by
        simp [BraceCount.stepStrictly, BraceCount.step, notOpening, notClosing, notQuote]
      have others : Text.Plain rest := fun c member => plain c (List.mem_cons_of_mem _ member)
      simp only [Climbs]
      rw [BraceCount.read_cons, kept]
      exact ih others

end Climbs

theorem Balanced.climbs
    {text : Text}
    (balanced : Balanced text) (level : Nat) :
    Climbs text level level := by
  simpa using balanced.shift level

theorem Text.BracesNested.of_balanced
    {text : Text}
    (balanced : Balanced text) :
    text.BracesNested := by
  obtain ⟨ends, fronts⟩ := BraceCount.foldl_of_read (Int.le_refl 0) balanced
  constructor
  · exact fronts
  · show (text.foldl BraceCount.step ⟨(0 : Nat), .code⟩).count = 0
    rw [ends]
    rfl

/-! ## Quoted literals -/

theorem BraceCount.read_flatMap_escape
    (count : Int) (text : Text) :
    (⟨count, .literal⟩ : BraceCount).read (text.flatMap Text.escape) =
      some ⟨count, .literal⟩ := by
  induction text with
  | nil => rfl
  | cons c rest ih =>
      have escaped :
          (⟨count, .literal⟩ : BraceCount).read (Text.escape c) = some ⟨count, .literal⟩ := by
        simp only [Text.escape]
        split
        · simp [stepStrictly, step]
        · simp [stepStrictly, step]
        · simp [stepStrictly, step]
        · simp [stepStrictly, step]
        · next notEscape notQuote notBreak _ =>
            have ordinary : c ≠ '\\' ∧ c ≠ '"' ∧ c ≠ '\n' :=
              ⟨notEscape, notQuote, notBreak⟩
            simp [stepStrictly, step, ordinary]
      rw [List.flatMap_cons, read_append, escaped]
      exact ih

/-- A quoted literal leads back to where it began, whatever text it quotes. -/
theorem Climbs.quote
    (text : Text) (level : Nat) :
    Climbs (Text.quote text) level level := by
  have opened :
      (⟨level, .code⟩ : BraceCount).stepStrictly '"' = some ⟨level, .literal⟩ := by
    simp [BraceCount.stepStrictly, BraceCount.step]
  have closed :
      (⟨level, .literal⟩ : BraceCount).read ['"'] = some ⟨level, .code⟩ := by
    simp [BraceCount.stepStrictly, BraceCount.step]
  simp only [Climbs, Text.quote]
  rw [BraceCount.read_cons, opened, Option.bind_some, BraceCount.read_append,
    BraceCount.read_flatMap_escape]
  exact closed

/-! ## Lines -/

namespace Climbs

variable {first second text line : Text} {low middle high : Nat} {lines others : List Line}

theorem ofLines_append
    (before : Climbs (Text.ofLines lines) low middle)
    (after : Climbs (Text.ofLines others) middle high) :
    Climbs (Text.ofLines (lines ++ others)) low high := by
  simp only [Text.ofLines] at *
  rw [List.flatMap_append]
  exact before.append after

theorem ofLines_cons
    (before : Climbs line low middle)
    (after : Climbs (Text.ofLines others) middle high) :
    Climbs (Text.ofLines (line :: others)) low high := by
  have ended : Climbs ['\n'] middle middle := of_plain (by decide)
  exact (before.append ended).append after

theorem ofLines_singleton
    (climbs : Climbs line low high) :
    Climbs (Text.ofLines [line]) low high :=
  ofLines_cons climbs nil

theorem ofLines_flatMap
    {α : Type} {items : List α} {write : α → List Line}
    (each : ∀ item ∈ items, Climbs (Text.ofLines (write item)) low low) :
    Climbs (Text.ofLines (items.flatMap write)) low low := by
  induction items with
  | nil => exact nil
  | cons item rest ih =>
      rw [List.flatMap_cons]
      exact ofLines_append (each item List.mem_cons_self)
        (ih fun item member => each item (List.mem_cons_of_mem _ member))

theorem ofLines_of_forall
    (each : ∀ line ∈ lines, Climbs line low low) :
    Climbs (Text.ofLines lines) low low := by
  induction lines with
  | nil => exact nil
  | cons line others ih =>
      exact ofLines_cons (each line List.mem_cons_self)
        (ih fun line member => each line (List.mem_cons_of_mem _ member))

theorem intercalate
    {separator : Text} {pieces : List Text}
    (apart : Climbs separator low low)
    (each : ∀ piece ∈ pieces, Climbs piece low low) :
    Climbs (List.intercalate separator pieces) low low := by
  induction pieces using List.intersperse.induct with
  | case1 => exact nil
  | case2 only =>
      rw [List.intercalate_singleton]
      exact each only List.mem_cons_self
  | case3 first others more ih =>
      rw [List.intercalate_cons_of_ne_nil more]
      exact ((each first List.mem_cons_self).append apart).append
        (ih fun piece member => each piece (List.mem_cons_of_mem _ member))

theorem spaces
    (count : Nat) :
    Climbs (List.replicate count ' ') low low := by
  apply of_plain
  intro c member
  rw [List.eq_of_mem_replicate member]
  decide

theorem indent
    (width : Nat) (depth : Int) :
    Climbs (Layout.indent width depth) low low :=
  spaces _

end Climbs

/-! ## Texts moved to a depth -/

namespace BraceCount

variable {state last : BraceCount}

theorem read_spaces
    (outside : state.reading = .code)
    (count : Nat) :
    state.read (List.replicate count ' ') = some state := by
  induction count with
  | zero => rfl
  | succ count ih =>
      have kept : state.stepStrictly ' ' = some state := by
        simp [stepStrictly, step, outside]
      rw [List.replicate_succ, read_cons, kept]
      exact ih

/-- Outside a literal a line counts the same at every depth. -/
theorem read_line
    (outside : state.reading = .code)
    (width : Nat) (depth : Int) (raw : Text) :
    state.read (Layout.line width depth raw) = state.read raw := by
  have unmoved :
      state.read raw = state.read (raw.dropWhile (· = ' ')) := by
    calc
      state.read raw =
          state.read
            (List.replicate (Layout.leadingSpaces raw) ' ' ++ raw.dropWhile (· = ' ')) := by
        rw [Layout.replicate_leadingSpaces_append]
      _ = state.read (raw.dropWhile (· = ' ')) := by
        rw [read_append, read_spaces outside, Option.bind_some]
  rw [unmoved]
  simp only [Layout.line]
  split
  · next blank => rw [blank]
  · simp only [Layout.indent]
    rw [read_append, read_append, read_spaces outside, Option.bind_some,
      read_spaces outside, Option.bind_some]

theorem read_lineEnd
    (outside : state.reading = .code) :
    state.read ['\n'] = some state := by
  simp [stepStrictly, step, outside]

/-- A line that a strict reading gets past ends outside any literal. -/
theorem reading_of_lineEnd
    {next : BraceCount}
    (taken : state.stepStrictly '\n' = some next) :
    state.reading = .code ∧ next = state := by
  rcases state with ⟨count, reading⟩
  cases reading with
  | code => simpa [stepStrictly, step, eq_comm] using taken
  | literal => simp [stepStrictly] at taken
  | escaped => simp [stepStrictly] at taken

theorem read_ofLines_map_line
    (width : Nat) (depth : Int) (pieces : List Text)
    (outside : state.reading = .code)
    (lastOutside : last.reading = .code)
    (done : state.read (List.intercalate ['\n'] pieces) = some last) :
    state.read (Text.ofLines (pieces.map (Layout.line width depth))) = some last := by
  induction pieces generalizing state with
  | nil => exact done
  | cons first others ih =>
      have moved :
          state.read
              (Text.ofLines ((first :: others).map (Layout.line width depth))) =
            ((state.read first).bind (·.read ['\n'])).bind
              (·.read (Text.ofLines (others.map (Layout.line width depth)))) := by
        rw [← read_line outside width depth first, ← read_append, ← read_append]
        rfl
      rw [moved]
      cases others with
      | nil =>
          rw [List.intercalate_singleton] at done
          rw [done, Option.bind_some, read_lineEnd lastOutside]
          rfl
      | cons second more =>
          rw [List.intercalate_cons_cons, List.append_assoc, read_append] at done
          obtain ⟨between, read, remaining⟩ := Option.bind_eq_some_iff.1 done
          obtain ⟨next, ended, rest⟩ := Option.bind_eq_some_iff.1 remaining
          -- no line ends inside a literal, so the spaces that follow are code
          obtain ⟨inCode, rfl⟩ := reading_of_lineEnd ended
          rw [read, Option.bind_some, read_lineEnd inCode, Option.bind_some]
          exact ih inCode rest

end BraceCount

/-- A text counts the same when its lines are moved to a depth. -/
theorem Climbs.lines
    {text : Text} {low high : Nat}
    (climbs : Climbs text low high)
    (width : Nat) (depth : Int) :
    Climbs (Text.ofLines (Layout.lines width depth text)) low high := by
  apply BraceCount.read_ofLines_map_line width depth _ rfl rfl
  rw [List.intercalate_splitOn]
  exact climbs

end Blockwright
