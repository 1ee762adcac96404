import Lanes.Config.Number
import Lanes.Config.Ty

/-!
Values of the configuration language, and how a value is turned into the type a setting or an
expression asks for.

A value is null or not yet known, each of some type, or a boolean, a number, a string, a tuple,
an object, a list or a map. A literal `null` and a value that could not be worked out have the
dynamic type, which turns into any other.

Turning a value into another type first asks whether the two types allow it at all
(`Ty.converts`); when they do not, the message says why (`Ty.mismatch`). Otherwise the value is
turned piece by piece: numbers and booleans become their text, strings are read as numbers or
booleans, objects keep the attributes the new type names, and the elements of tuples, objects,
lists and maps are turned into the new element types. A map turned into an object must have
every attribute the object type names. A null or unknown value turns into a null or unknown
value of the new type.

Main statement: a value already of the type asked for is kept as it is (`convert_same`).
-/

namespace Lanes.Config

/-- A value. Attributes of objects and keys of maps are kept sorted. -/
inductive Value where
  | null (ty : Ty)
  | unknown (ty : Ty)
  | bool (b : Bool)
  | num (n : Number)
  | str (s : String)
  | tuple (items : List Value)
  | object (fields : List (String × Value))
  | list (elem : Ty) (items : List Value)
  | map (elem : Ty) (entries : List (String × Value))
deriving Inhabited

namespace Value

mutual
/-- The type of a value. -/
def ty : Value → Ty
  | .null t => t
  | .unknown t => t
  | .bool _ => .bool
  | .num _ => .number
  | .str _ => .string
  | .tuple items => .tuple (tyList items)
  | .object fields => .object (tyFields fields)
  | .list e _ => .list e
  | .map e _ => .map e

/-- The types of values. -/
def tyList : List Value → List Ty
  | [] => []
  | v :: vs => v.ty :: tyList vs

/-- The types of named values. -/
def tyFields : List (String × Value) → List (String × Ty)
  | [] => []
  | (k, v) :: rest => (k, v.ty) :: tyFields rest
end

/-- Whether a value is null. -/
def isNull : Value → Bool
  | .null _ => true
  | _ => false

/-- Whether a value is known. -/
def isKnown : Value → Bool
  | .unknown _ => false
  | _ => true

/-- A boolean as text. -/
def boolText (b : Bool) : String := if b then "true" else "false"

/-- A string read as a boolean: `true` and `1`, `false` and `0`. -/
def readBool (s : String) : Except String Bool :=
  if s == "true" || s == "1" then .ok true
  else if s == "false" || s == "0" then .ok false
  else if s.toLower == "true" then
    .error "a bool is required; to convert from string, use lowercase \"true\""
  else if s.toLower == "false" then
    .error "a bool is required; to convert from string, use lowercase \"false\""
  else .error "a bool is required"

/-- Turns a value into a type its type allows; the failure says why the value itself could not.
The fuel bounds the depth of the value. -/
def convertValueF : Nat → Value → Ty → Except String Value
  | 0, v, _ => .ok v
  | fuel + 1, v, t =>
    let each (x : Value) (e : Ty) : Except String Value :=
      if x.ty == e then .ok x else convertValueF fuel x e
    let entry (e : Ty) (p : String × Value) : Except String (String × Value) :=
      (p.1, ·) <$> each p.2 e
    if t == .dynamic then .ok v
    else match v with
      | .null _ => .ok (.null t)
      | .unknown _ => .ok (.unknown t)
      | _ =>
        if v.ty == t then .ok v
        else match v, t with
          | .num n, .string => .ok (.str n.text)
          | .bool b, .string => .ok (.str (boolText b))
          | .str s, .number =>
            match Number.parse s with
            | some n => .ok (.num n)
            | none => .error "a number is required"
          | .str s, .bool => (readBool s).map Value.bool
          | .object fs, .object ts =>
            (ts.mapM fun (k, e) =>
              match fs.find? (fun (p : String × Value) => p.1 == k) with
              | some (_, x) => (k, ·) <$> each x e
              | none => .error ("attribute " ++ Text.quote k ++ " is required")).map Value.object
          | .tuple items, .tuple ts =>
            ((items.zip ts).mapM fun (x, e) => each x e).map Value.tuple
          | .tuple items, .list e =>
            if items.isEmpty then .ok (.list e [])
            else match Ty.seqElem (tyList items) e with
              | some u => (items.mapM fun x => each x u).map (Value.list u)
              | none => .error (Ty.mismatch v.ty t)
          | .list _ items, .list e => (items.mapM fun x => each x e).map (Value.list e)
          | .map _ entries, .map e =>
            (entries.mapM (entry e)).map (Value.map e)
          | .object fs, .map e =>
            if fs.isEmpty then .ok (.map e [])
            else match Ty.seqElem ((tyFields fs).map (·.2)) e with
              | some u => (fs.mapM (entry u)).map (Value.map u)
              | none => .error (Ty.mismatch v.ty t)
          | .map _ entries, .object ts =>
            (ts.mapM fun (k, e) =>
              match entries.find? (fun (p : String × Value) => p.1 == k) with
              | some (_, x) => (k, ·) <$> each x e
              | none => .error ("map has no element for required attribute " ++ Text.quote k)).map
              Value.object
          | _, _ => .error (Ty.mismatch v.ty t)

/-- Turns a value into a type: kept when it has the type, refused when the types do not allow
it, and converted otherwise. -/
def convert (v : Value) (want : Ty) : Except String Value :=
  if v.ty == want then .ok v
  else if !Ty.converts v.ty want then .error (Ty.mismatch v.ty want)
  else convertValueF (v.ty.depth + 2) v want

theorem convert_same (v : Value) (want : Ty) (h : (v.ty == want) = true) :
    convert v want = .ok v := by
  simp [convert, h]

/-! ### Reading values into settings -/

/-- The failure of a null value where one is needed. -/
def nullRefused : String := "null value is not allowed"

/-- The failure of a value that is not known. -/
def unknownRefused : String := "value must be known"

/-- The failure of a number that is not a 64-bit whole number. -/
def notWhole : String :=
  "value must be a whole number, between -9223372036854775808 and 9223372036854775807"

/-- A string setting. -/
def asText : Value → Except String String
  | .null _ => .error nullRefused
  | .unknown _ => .error unknownRefused
  | .str s => .ok s
  | v => .error (Ty.mismatch v.ty .string)

/-- An optional string setting: null leaves it unset. -/
def asOptText : Value → Except String (Option String)
  | .null _ => .ok none
  | v => some <$> asText v

/-- A boolean setting. -/
def asBool : Value → Except String Bool
  | .null _ => .error nullRefused
  | .unknown _ => .error unknownRefused
  | .bool b => .ok b
  | v => .error (Ty.mismatch v.ty .bool)

/-- An optional whole-number setting: null leaves it unset. -/
def asOptInt : Value → Except String (Option Int)
  | .null _ => .ok none
  | .unknown _ => .error unknownRefused
  | .num n =>
    match n.toInt64? with
    | some i => .ok (some i)
    | none => .error notWhole
  | v => .error (Ty.mismatch v.ty .number)

/-- A setting of a list of strings: null gives no strings, and each element must be a known
string. -/
def asTexts : Value → Except String (List String)
  | .null _ => .ok []
  | .unknown _ => .error unknownRefused
  | .list _ items => items.mapM asText
  | v => .error (Ty.mismatch v.ty (.list .string))

end Value

end Lanes.Config
