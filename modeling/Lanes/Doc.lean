import Lanes.Text.Quote

/-!
Structured documents: what scenarios are written in and what reports are made of.

A document is null, a truth value, a number, a text, a list of documents or a record of named
documents. A number keeps the text it was written with, so that a reader can take it as a
64-bit whole number or as a binary64 value by the reading rules of either, exactly.
-/

namespace Lanes

/-- A structured document. -/
inductive Doc where
  | null
  | bool (b : Bool)
  | num (text : String)
  | str (s : String)
  | list (items : List Doc)
  | record (fields : List (String × Doc))
  deriving Inhabited, Repr

namespace Doc

/-- A whole number. -/
def int (i : Int) : Doc := .num (toString i)

/-- A count. -/
def nat (n : Nat) : Doc := .num (toString n)

/-- The field of a record with a name; `none` for a missing field and for what is no record. -/
def field? (d : Doc) (k : String) : Option Doc :=
  match d with
  | .record fields => (fields.find? (·.1 == k)).map (·.2)
  | _ => none

/-- Whether a record has a field of a name that is not null. -/
def has (d : Doc) (k : String) : Bool :=
  match d.field? k with
  | some .null => false
  | some _ => true
  | none => false

/-- The text of a text or of a number. -/
def text? : Doc → Option String
  | .str s => some s
  | .num s => some s
  | _ => none

/-- The items of a list; nothing for what is no list. -/
def items : Doc → List Doc
  | .list xs => xs
  | _ => []

/-- The fields of a record; nothing for what is no record. -/
def fields : Doc → List (String × Doc)
  | .record fs => fs
  | _ => []

/-- Adds fields to a record. -/
def extend (d : Doc) (more : List (String × Doc)) : Doc := .record (d.fields ++ more)

mutual

/-- How deeply a document nests lists and records. -/
def depth : Doc → Nat
  | .list xs => 1 + depthList xs
  | .record fs => 1 + depthFields fs
  | _ => 0

/-- The greatest depth in a list of documents. -/
def depthList : List Doc → Nat
  | [] => 0
  | d :: ds => Nat.max (depth d) (depthList ds)

/-- The greatest depth among the documents of a record's fields. -/
def depthFields : List (String × Doc) → Nat
  | [] => 0
  | (_, d) :: fs => Nat.max (depth d) (depthFields fs)

end

end Doc

end Lanes
