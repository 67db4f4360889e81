import Blockwright.Number.Shortest
import Blockwright.Text.Inspected

/-!
# Documents

The values that project files, settings files and element properties are made
of.  A mapping keeps its entries in the order of their keys' first appearance;
putting an entry under a key that is already there replaces the value in place.
Keys are compared as values: a truth value, an integer and a floating-point
number that denote the same number are one key.
-/

namespace Blockwright

/-- A document: a scalar, a list, or a mapping between documents. -/
inductive Document where
  | null
  | bool (value : Bool)
  | integer (value : Int)
  | number (value : Binary64)
  | text (value : String)
  | list (items : List Document)
  | mapping (entries : List (Document × Document))
  deriving Inhabited

namespace Document

/-- The number that a scalar counts as when it is compared with another scalar. -/
def numeric? : Document → Option Int
  | .bool value => some (if value then 1 else 0)
  | .integer value => some value
  | .number value => value.toInt?
  | _ => none

/-- Whether two documents are the same mapping key; lists and mappings are no keys. -/
def sameKey (left right : Document) : Bool :=
  match left, right with
  | .null, .null => true
  | .text first, .text second => first = second
  | .number first, .number second =>
      match first.toInt?, second.toInt? with
      | some m, some n => m = n
      | _, _ => first = second && first != .nan
  | first, second =>
      match first.numeric?, second.numeric? with
      | some m, some n => m = n
      | _, _ => false

/-- Whether a document may stand as a mapping key. -/
def isKey : Document → Bool
  | .list _ => false
  | .mapping _ => false
  | _ => true

/-- Entries with a value put under a key, in the key's place if it has one and else last. -/
def put (key value : Document) :
    List (Document × Document) → List (Document × Document)
  | [] => [(key, value)]
  | (present, old) :: rest =>
      if present.sameKey key then
        (present, value) :: rest
      else
        (present, old) :: put key value rest

/-- The mapping of a list of entries, later entries replacing earlier ones of their key. -/
def ofEntries (entries : List (Document × Document)) : Document :=
  .mapping (entries.foldl (fun built (key, value) => put key value built) [])

/-- Whether a document is the given text. -/
def isText (name : String) : Document → Bool
  | .text value => value = name
  | _ => false

/-- The value under a textual key. -/
def valueOf? (name : String) : List (Document × Document) → Option Document
  | [] => none
  | (key, value) :: rest => if key.isText name then some value else valueOf? name rest

/-- The value under a textual key of a mapping; other documents have none. -/
def get? (document : Document) (name : String) : Option Document :=
  match document with
  | .mapping entries => valueOf? name entries
  | _ => none

/-- The decimal text of an integer. -/
def integerText (n : Int) : Text :=
  let digits := Nat.toDigits 10 n.natAbs
  if n < 0 then '-' :: digits else digits

mutual

/-- A document written so that every value can be told from every other. -/
def inspect : Document → Text
  | .null => "None"
  | .bool value => if value then "True" else "False"
  | .integer value => integerText value
  | .number value => value.text
  | .text value => Text.inspect value.toList
  | .list items => '[' :: (inspectItems items ++ [']'])
  | .mapping entries => '{' :: (inspectEntries entries ++ ['}'])

/-- The items of a list, set apart by commas. -/
def inspectItems : List Document → Text
  | [] => []
  | [item] => inspect item
  | item :: next :: rest => inspect item ++ [',', ' '] ++ inspectItems (next :: rest)

/-- The entries of a mapping, set apart by commas. -/
def inspectEntries : List (Document × Document) → Text
  | [] => []
  | [(key, value)] => inspect key ++ [':', ' '] ++ inspect value
  | (key, value) :: next :: rest =>
      inspect key ++ [':', ' '] ++ inspect value ++ [',', ' '] ++ inspectEntries (next :: rest)

end

/-- A document as it reads in running text: a text stands for itself. -/
def plain : Document → Text
  | .text value => value.toList
  | other => inspect other

end Document

end Blockwright
