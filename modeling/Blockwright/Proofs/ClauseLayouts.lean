import Blockwright.Proofs.Guarded.Blocks

/-!
# Clauses in two layouts

The braces of a clause stand on lines of their own, or at the ends of the lines of its
header and of the next one.  In both layouts the bodies stay as they are and in order:
what is written before the first of them, between two and after the last is determined
by the headers and the trailer.  The two layouts hold the same words there, set apart by
other spaces and line ends, so they are the same text to a reader of words.
-/

namespace Blockwright

/-! ## Words -/

namespace Text

/-- The characters that set words apart. -/
def isWhitespace (c : Char) : Bool :=
  ['\t', '\n', '\x0b', '\x0c', '\r', '\x1c', '\x1d', '\x1e', '\x1f', ' ', '\x85', '\xa0',
    '\u1680', '\u2028', '\u2029', '\u202f', '\u205f', '\u3000'].contains c ||
    ('\u2000' ≤ c && c ≤ '\u200a')

/-- The words of a text. -/
def spacedWords (text : Text) : List Text :=
  (text.splitOnP isWhitespace).filter (!·.isEmpty)

theorem spacedWords_append_cons
    {c : Char}
    (space : isWhitespace c = true)
    (front rest : Text) :
    spacedWords (front ++ c :: rest) = spacedWords front ++ spacedWords rest := by
  rw [spacedWords, List.splitOnP_append_cons front rest space, List.filter_append, spacedWords,
    spacedWords]

theorem spacedWords_cons
    {c : Char}
    (space : isWhitespace c = true)
    (rest : Text) :
    spacedWords (c :: rest) = spacedWords rest :=
  spacedWords_append_cons space [] rest

theorem spacedWords_indent_append
    (width : Nat) (depth : Int) (text : Text) :
    spacedWords (Layout.indent width depth ++ text) = spacedWords text := by
  rw [Layout.indent]
  induction width * depth.toNat with
  | zero => rfl
  | succ spaces ih => rw [List.replicate_succ, List.cons_append, spacedWords_cons (by decide), ih]

/-- The words of lines are those of each line in turn. -/
theorem spacedWords_intercalate_newline
    (lines : List Text) :
    spacedWords (List.intercalate ['\n'] lines) = lines.flatMap spacedWords := by
  induction lines using List.intersperse.induct with
  | case1 => rfl
  | case2 only => simp
  | case3 first others more ih =>
      rw [List.intercalate_cons_of_ne_nil more, List.append_assoc, List.singleton_append,
        spacedWords_append_cons (by decide), ih, List.flatMap_cons]

end Text

namespace Layout

/-! ## The lines between bodies -/

section Between

variable {α : Type} (write : Line → α) (pad : Text)

/-- The lines before the first body. -/
def opened (kind : Braces) (header : Text) : List α :=
  match kind with
  | .ownLine => [write (pad ++ header), write (pad ++ ['{'])]
  | .headerLine => [write (pad ++ header ++ [' ', '{'])]

/-- The lines between a body and the next, which has the given header. -/
def joint (kind : Braces) (header : Text) : List α :=
  match kind with
  | .ownLine => write (pad ++ ['}']) :: opened write pad kind header
  | .headerLine => [write (pad ++ ['}', ' '] ++ header ++ [' ', '{'])]

/-- The lines after each body, given the headers of all bodies but the first. -/
def following (kind : Braces) (trailer : Option Text) (headers : List Text) : List (List α) :=
  headers.map (joint write pad kind) ++ [[write (closing pad trailer)]]

/-- Bodies, each with the lines that follow it. -/
def interleaved (bodies after : List (List α)) : List α :=
  (List.zipWith (· ++ ·) bodies after).flatten

theorem ownLineClauses_eq_interleaved
    (trailer : Option Text) (first : Clause α) (others : List (Clause α)) :
    ownLineClauses write pad trailer (first :: others) =
      opened write pad .ownLine first.header ++
        interleaved ((first :: others).map (·.body))
          (following write pad .ownLine trailer (others.map (·.header))) := by
  induction others generalizing first with
  | nil => simp [ownLineClauses, opened, following, interleaved]
  | cons second more ih =>
      rw [ownLineClauses, ih second]
      · simp [opened, joint, following, interleaved]
      · simp

theorem append_headerLineRest
    (trailer : Option Text) (body : List α) (others : List (Clause α)) :
    body ++ headerLineRest write pad trailer others =
      interleaved (body :: others.map (·.body))
        (following write pad .headerLine trailer (others.map (·.header))) := by
  induction others generalizing body with
  | nil => simp [headerLineRest, following, interleaved]
  | cons second more ih =>
      have later := ih second.body
      rw [headerLineRest, List.cons_append, later]
      simp [joint, following, interleaved]

/-- The bodies of clauses stay as they are between lines that do not depend on them. -/
theorem bracedClauses_eq_interleaved
    (kind : Braces) (trailer : Option Text) (first : Clause α) (others : List (Clause α)) :
    bracedClauses write pad kind trailer (first :: others) =
      opened write pad kind first.header ++
        interleaved ((first :: others).map (·.body))
          (following write pad kind trailer (others.map (·.header))) := by
  cases kind with
  | ownLine => exact ownLineClauses_eq_interleaved write pad trailer first others
  | headerLine =>
      rw [bracedClauses, headerLineClauses, List.map_cons,
        ← append_headerLineRest write pad trailer first.body others]
      rfl

theorem length_interleaved
    {bodies after : List (List α)}
    (paired : bodies.length = after.length) :
    (interleaved bodies after).length = bodies.flatten.length + after.flatten.length := by
  induction bodies generalizing after with
  | nil =>
      obtain rfl := List.eq_nil_of_length_eq_zero paired.symm
      rfl
  | cons body bodies ih =>
      cases after with
      | nil => simp at paired
      | cons lines after =>
          have rest := ih (Nat.succ.inj paired)
          simp only [interleaved, List.zipWith_cons_cons, List.flatten_cons, List.length_append]
            at rest ⊢
          omega

theorem length_following
    (kind : Braces) (between : Nat)
    (each : ∀ header, (joint write pad kind header).length = between)
    (trailer : Option Text) (headers : List Text) :
    (following write pad kind trailer headers).flatten.length = between * headers.length + 1 := by
  induction headers with
  | nil => simp [following]
  | cons header headers ih =>
      have rest : following write pad kind trailer (header :: headers) =
          joint write pad kind header :: following write pad kind trailer headers :=
        rfl
      rw [rest, List.flatten_cons, List.length_append, each, ih, List.length_cons, Nat.mul_succ]
      omega

theorem length_bracedClauses
    (kind : Braces) (between : Nat)
    (each : ∀ header, (joint write pad kind header).length = between)
    (trailer : Option Text) (first : Clause α) (others : List (Clause α)) :
    (bracedClauses write pad kind trailer (first :: others)).length =
      (opened write pad kind first.header).length +
        (((first :: others).flatMap (·.body)).length + (between * others.length + 1)) := by
  have rest := length_following write pad kind between each trailer (others.map (·.header))
  rw [List.length_map] at rest
  rw [bracedClauses_eq_interleaved, List.length_append, length_interleaved, rest,
    List.flatMap_def]
  simp [following]

end Between

/-! ## Words of the two layouts -/

variable (width : Nat) (depth : Int)

theorem spacedWords_opened
    (header : Text) :
    (opened id (indent width depth) .ownLine header).flatMap Text.spacedWords =
      (opened id (indent width depth) .headerLine header).flatMap Text.spacedWords := by
  simp [opened, Text.spacedWords_indent_append, Text.spacedWords_append_cons (c := ' ') rfl]

theorem spacedWords_joint
    (header : Text) :
    (joint id (indent width depth) .ownLine header).flatMap Text.spacedWords =
      (joint id (indent width depth) .headerLine header).flatMap Text.spacedWords := by
  have brace : Text.spacedWords ('}' :: ' ' :: (header ++ [' ', '{'])) =
      Text.spacedWords ['}'] ++ (Text.spacedWords header ++ Text.spacedWords ['{']) := by
    rw [← Text.spacedWords_append_cons (c := ' ') rfl header ['{']]
    exact Text.spacedWords_append_cons (c := ' ') rfl ['}'] (header ++ [' ', '{'])
  simp [joint, opened, Text.spacedWords_indent_append, brace]

theorem spacedWords_following
    (trailer : Option Text) (headers : List Text) :
    (following id (indent width depth) .ownLine trailer headers).map
        (·.flatMap Text.spacedWords) =
      (following id (indent width depth) .headerLine trailer headers).map
        (·.flatMap Text.spacedWords) := by
  simp [following, spacedWords_joint]

theorem flatMap_interleaved
    {α β : Type} (read : α → List β) (bodies after : List (List α)) :
    (interleaved bodies after).flatMap read =
      interleaved (bodies.map (·.flatMap read)) (after.map (·.flatMap read)) := by
  induction bodies generalizing after with
  | nil => rfl
  | cons body bodies ih =>
      cases after with
      | nil => rfl
      | cons lines after =>
          have rest := ih after
          simp only [interleaved] at rest
          simp [interleaved, rest]

/--
Clauses in braces are the same words in both layouts.  Laying them out clause by clause, with
headers and a trailer that write over the last line, comes to the same lines.  In both the
bodies stand in order and as they are, between lines that only the headers, the trailer and
the depth determine; there are three such lines to a clause when braces stand on lines of
their own, and one to a clause and one more when they do not.
-/
theorem bracedClauses_sameWords
    (trailer : Option Text) (first : Clause Line) (others : List (Clause Line)) :
    let pad := indent width depth
    let clauses := first :: others
    let bodyLines := (clauses.flatMap (·.body)).length
    let laidOut (kind : Braces) : List Line := bracedClauses id pad kind trailer clauses
    Text.spacedWords (List.intercalate ['\n'] (laidOut .ownLine)) =
        Text.spacedWords (List.intercalate ['\n'] (laidOut .headerLine)) ∧
      (∀ kind, guardedBraces id pad kind trailer clauses = .ok (laidOut kind)) ∧
      (∀ kind,
        let after := following id pad kind trailer (others.map (·.header))
        after.length = clauses.length ∧
          laidOut kind =
            opened id pad kind first.header ++ interleaved (clauses.map (·.body)) after) ∧
      (laidOut .ownLine).length = 3 * clauses.length + bodyLines ∧
      (laidOut .headerLine).length = clauses.length + 1 + bodyLines := by
  intro pad clauses bodyLines laidOut
  refine ⟨?_, ?_, ?_, ?_, ?_⟩
  · simp only [laidOut, clauses, Text.spacedWords_intercalate_newline, bracedClauses_eq_interleaved,
      List.flatMap_append, flatMap_interleaved]
    rw [spacedWords_opened, spacedWords_following]
  · exact fun kind => guardedBraces_eq id pad kind trailer (List.cons_ne_nil first others)
  · intro kind after
    exact ⟨by simp [after, clauses, following],
      bracedClauses_eq_interleaved id pad kind trailer first others⟩
  · have lines := length_bracedClauses id pad .ownLine 3 (fun _ => rfl) trailer first others
    simp only [opened, List.length_cons, List.length_nil] at lines
    simp only [laidOut, clauses, bodyLines, List.length_cons]
    omega
  · have lines := length_bracedClauses id pad .headerLine 1 (fun _ => rfl) trailer first others
    simp only [opened, List.length_cons, List.length_nil] at lines
    simp only [laidOut, clauses, bodyLines, List.length_cons]
    omega

end Layout

end Blockwright
