import Lanes.Text.Quote

/-!
The types of the configuration language's values, and the rules on types alone: which types a
value may be turned into, the one type several types can all become, and why a turning is
refused.

A value turns into the dynamic type unchanged, and a value of the dynamic type into any type.
Numbers and booleans become strings, and strings become numbers or booleans. An object becomes
an object type whose attributes it has, dropping the others; a tuple becomes a tuple type of its
length; a tuple becomes a list and an object a map when each element becomes the element type,
and when that type is dynamic the elements' types are first unified into one. A map becomes an
object type when its element type becomes each attribute's type.

Unifying types looks first at their kinds. Maps unify element types into a map, lists into a
list. Objects with the same attribute names unify attribute by attribute, and otherwise all
their attributes into a map; tuples of one length unify element by element, and otherwise all
their elements into a list; objects and tuples never unify. Failing those, the types are put in
order of preference (strings before other primitives, lists before tuples, maps before objects,
the dynamic type last) and the first that every type can become is chosen.

Every rule recurses into element types, so each takes fuel. Turning types looks at their
elements, which may mean unifying the elements and turning each into the result, so one level of
nesting costs three steps, and the fuel given is three per level and four more.

Main statement: every type may be turned into the dynamic type (`converts_dynamic`).
-/

namespace Lanes.Config

/-- The types of values. -/
inductive Ty where
  | dynamic
  | bool
  | number
  | string
  | tuple (elems : List Ty)
  | object (fields : List (String × Ty))
  | list (elem : Ty)
  | map (elem : Ty)
deriving Inhabited

namespace Ty

mutual
/-- Whether two types are the same, element by element. -/
def beq : Ty → Ty → Bool
  | .dynamic, .dynamic | .bool, .bool | .number, .number | .string, .string => true
  | .tuple as, .tuple bs => beqList as bs
  | .object fs, .object gs => beqFields fs gs
  | .list a, .list b | .map a, .map b => beq a b
  | _, _ => false

/-- Whether two lists of types are the same. -/
def beqList : List Ty → List Ty → Bool
  | [], [] => true
  | a :: as, b :: bs => beq a b && beqList as bs
  | _, _ => false

/-- Whether two lists of attributes are the same, names and types. -/
def beqFields : List (String × Ty) → List (String × Ty) → Bool
  | [], [] => true
  | (k, a) :: fs, (l, b) :: gs => k == l && beq a b && beqFields fs gs
  | _, _ => false
end

instance : BEq Ty := ⟨beq⟩

/-- How a type is named when a value of it is required. -/
def friendly : Ty → String
  | .dynamic => "any type"
  | .bool => "bool"
  | .number => "number"
  | .string => "string"
  | .tuple _ => "tuple"
  | .object _ => "object"
  | .list .dynamic => "list of any single type"
  | .list e => "list of " ++ e.friendly
  | .map .dynamic => "map of any single type"
  | .map e => "map of " ++ e.friendly

/-- How a type is named when it is described. -/
def name : Ty → String
  | .dynamic => "dynamic"
  | .bool => "bool"
  | .number => "number"
  | .string => "string"
  | .tuple _ => "tuple"
  | .object _ => "object"
  | .list e => "list of " ++ e.name
  | .map e => "map of " ++ e.name

mutual
/-- How deeply a type nests. -/
def depth : Ty → Nat
  | .tuple ts => depthList ts + 1
  | .object fs => depthFields fs + 1
  | .list e | .map e => e.depth + 1
  | _ => 0

/-- How deeply the deepest of some types nests. -/
def depthList : List Ty → Nat
  | [] => 0
  | t :: ts => max t.depth (depthList ts)

/-- How deeply the deepest of some attribute types nests. -/
def depthFields : List (String × Ty) → Nat
  | [] => 0
  | (_, t) :: fs => max t.depth (depthFields fs)
end

/-- Whether a type is a boolean, a number or a string. -/
def isPrimitive : Ty → Bool
  | .bool | .number | .string => true
  | _ => false

/-- The element type of a list or a map. -/
def elemOf : Ty → Ty
  | .list e | .map e => e
  | _ => .dynamic

/-- The attribute types of an object. -/
def attrsOf : Ty → List (String × Ty)
  | .object fs => fs
  | _ => []

/-- The element types of a tuple. -/
def elemsOf : Ty → List Ty
  | .tuple ts => ts
  | _ => []

/-- The type of an attribute. -/
def lookup (k : String) (fs : List (String × Ty)) : Option Ty := (fs.find? (·.1 == k)).map (·.2)

/-- Which of two types is preferred as a unification result: negative when the first, positive
when the second, zero when neither. -/
def prefer : Ty → Ty → Int
  | .dynamic, .dynamic => 0
  | .dynamic, _ => 1
  | _, .dynamic => -1
  | .string, .string => 0
  | .string, b => if b.isPrimitive then -1 else 0
  | a, .string => if a.isPrimitive then 1 else 0
  | .list x, .list y => prefer x y
  | .map x, .map y => prefer x y
  | .tuple _, .list _ => 1
  | .list _, .tuple _ => -1
  | .object _, .map _ => 1
  | .map _, .object _ => -1
  | _, _ => 0

/-- The positions a position is preferred to: the earlier ones it beats, then the later ones. -/
def beats (tys : List Ty) (x : Nat) : List Nat :=
  let t := tys.getD x .dynamic
  ((List.range x).filter fun i => prefer (tys.getD i .dynamic) t > 0) ++
    ((List.range tys.length).filter fun j => x < j && prefer t (tys.getD j .dynamic) < 0)

/-- The rest of a topological order: positions whose every better type is placed wait until it
is, taken first come first served. -/
def placeFrom (tys : List Ty) : Nat → List Nat → Array Nat → List Nat → List Nat
  | 0, _, _, out => out
  | _ + 1, [], _, out => out
  | fuel + 1, x :: queue, waits, out =>
    let (queue, waits) := (beats tys x).foldl (fun (q, w) j =>
      let w := w.modify j (· - 1)
      (if w.getD j 0 = 0 then q ++ [j] else q, w)) (queue, waits)
    placeFrom tys fuel queue waits (out ++ [x])

/-- The types in order of preference: a type before every type it is preferred to, ties in their
given order; the types as given when the preferences go round in a circle. -/
def sortTypes (tys : List Ty) : List Ty :=
  let n := tys.length
  let waits := (List.range n).foldl (fun (w : Array Nat) x =>
    (beats tys x).foldl (fun w j => w.modify j (· + 1)) w) (Array.replicate n 0)
  let queue := (List.range n).filter fun x => waits.getD x 0 = 0
  let order := placeFrom tys (n + 1) queue waits []
  if order.length = n then order.map fun x => tys.getD x .dynamic else tys

mutual
/-- Whether a value of type `a` may be turned into type `b`, perhaps failing on some values. -/
def convertsF : Nat → Ty → Ty → Bool
  | 0, _, _ => false
  | fuel + 1, a, b =>
    if a == b then true
    else match a, b with
      | _, .dynamic => true
      | .dynamic, _ => true
      | .number, .string | .bool, .string | .string, .number | .string, .bool => true
      | .object fa, .object fb => fb.all fun (k, t) =>
        match lookup k fa with
        | some s => convertsF fuel s t
        | none => false
      | .tuple ta, .tuple tb =>
        ta.length == tb.length && (ta.zip tb).all fun (s, t) => convertsF fuel s t
      | .list x, .list y => convertsF fuel x y
      | .map x, .map y => convertsF fuel x y
      | .tuple ts, .list e => (seqElemF fuel ts e).isSome
      | .object fs, .map e => (seqElemF fuel (fs.map (·.2)) e).isSome
      | .map x, .object fs => fs.all fun (_, t) => convertsF fuel x t
      | _, _ => false

/-- The element type that elements of types `ts` take in a list or map of element type `e`: `e`,
or when `e` is dynamic the type they unify to, which may stay dynamic only when they all are;
none when some element cannot take it. -/
def seqElemF : Nat → List Ty → Ty → Option Ty
  | 0, _, _ => none
  | fuel + 1, ts, e =>
    if ts.isEmpty then some e
    else
      let target := if e == .dynamic then
          match unifyF fuel ts with
          | some .dynamic => if ts.all (· == .dynamic) then some .dynamic else none
          | u => u
        else some e
      match target with
      | none => none
      | some u => if ts.all fun t => convertsF fuel t u then some u else none

/-- The type all of `tys` can become, when there is one. -/
def unifyF : Nat → List Ty → Option Ty
  | 0, _ => none
  | fuel + 1, tys =>
    let count (p : Ty → Bool) : Nat := (tys.filter p).length
    let n := tys.length
    let dyn := count (· == .dynamic)
    let maps := count fun | .map _ => true | _ => false
    let lists := count fun | .list _ => true | _ => false
    let objects := count fun | .object _ => true | _ => false
    let tuples := count fun | .tuple _ => true | _ => false
    let reach (want : Ty) : Option Ty :=
      if tys.all fun t => t == want || convertsF fuel t want then some want else none
    let attrTypes := tys.flatMap fun t => (attrsOf t).map (·.2)
    let asMap : Option Ty := (unifyF fuel (attrTypes ++ (tys.filter fun
        | .map _ => true
        | _ => false).map elemOf)).bind fun u => reach (.map u)
    let general : Option Ty := (sortTypes tys).find? fun want =>
      tys.all fun t => t == want || convertsF fuel t want
    if n = 0 then none
    else if maps > 0 && maps + dyn = n then
      if dyn > 0 then some .dynamic
      else (unifyF fuel (tys.map elemOf)).bind fun u => reach (.map u)
    else if maps > 0 && maps + objects + dyn = n then
      match asMap with
      | some (.map u) => some (.map u)
      | _ => general
    else if lists > 0 && lists + dyn = n then
      if dyn > 0 then some .dynamic
      else (unifyF fuel (tys.map elemOf)).bind fun u => reach (.list u)
    else if objects > 0 && objects + dyn = n then
      if dyn > 0 then some .dynamic
      else
        let first := attrsOf (tys.headD .dynamic)
        let sameNames := tys.all fun t =>
          (attrsOf t).length == first.length && (attrsOf t).all fun (k, _) => first.any (·.1 == k)
        let toMap := (unifyF fuel attrTypes).bind fun u => reach (.map u)
        if !sameNames then toMap
        else
          let attrs := first.map fun (k, _) => (k, unifyF fuel (tys.map fun t => (lookup k (attrsOf t)).getD .dynamic))
          if attrs.any (·.2.isNone) then none
          else match reach (.object (attrs.map fun (k, u) => (k, u.getD .dynamic))) with
            | some r => some r
            | none => toMap
    else if tuples > 0 && tuples + dyn = n then
      if dyn > 0 then some .dynamic
      else
        let first := elemsOf (tys.headD .dynamic)
        let toList := (unifyF fuel (tys.flatMap elemsOf)).bind fun u => reach (.list u)
        if !(tys.all fun t => (elemsOf t).length == first.length) then toList
        else
          let elems := (List.range first.length).map fun i =>
            unifyF fuel (tys.map fun t => (elemsOf t).getD i .dynamic)
          if elems.any (·.isNone) then none
          else match reach (.tuple (elems.map (·.getD .dynamic))) with
            | some r => some r
            | none => toList
    else if objects > 0 && tuples > 0 then none
    else general
end

/-- Fuel enough for the rules on some types: three per level of their depth and four more. -/
def fuelFor (tys : List Ty) : Nat := 3 * depthList tys + 4

/-- Whether a value of type `a` may be turned into type `b`. -/
def converts (a b : Ty) : Bool := convertsF (fuelFor [a, b]) a b

/-- The element type that elements of types `ts` take in a list or map of element type `e`. -/
def seqElem (ts : List Ty) (e : Ty) : Option Ty := seqElemF (fuelFor (e :: ts)) ts e

/-- The type all of `tys` can become, when there is one. -/
def unify (tys : List Ty) : Option Ty := unifyF (fuelFor tys) tys

/-- Names quoted and joined for a message: `"a"`, `"a" and "b"`, or `"a", "b", and "c"`. -/
def quoteNames : List String → String
  | [a] => Text.quote a
  | [a, b] => Text.quote a ++ " and " ++ Text.quote b
  | names =>
    String.intercalate ", " ((names.dropLast).map Text.quote) ++ ", and " ++
      Text.quote (names.getLastD "")

/-- Why a value of type `got` cannot become type `want`. -/
def mismatchF : Nat → Ty → Ty → String
  | 0, _, want => want.friendly ++ " required"
  | fuel + 1, got, want =>
    match got, want with
    | .object ga, .object wa =>
      let missing := (wa.filter fun (k, _) => (lookup k ga).isNone).map (·.1)
      let bad := wa.findSome? fun (k, t) =>
        match lookup k ga with
        | some s => if s == t || convertsF fuel s t then none
          else some ("attribute " ++ Text.quote k ++ ": " ++ mismatchF fuel s t)
        | none => none
      if !missing.isEmpty then
        (if missing.length = 1 then "attribute " else "attributes ") ++ quoteNames missing ++
          (if missing.length = 1 then " is required" else " are required")
      else bad.getD "object required"
    | .tuple _, .list .dynamic => "all list elements must have the same type"
    | .object _, .map .dynamic => "all map elements must have the same type"
    | .tuple ts, .list e =>
      let i := ts.findIdx? fun t => !(t == e || convertsF fuel t e)
      match i with
      | some i => "element " ++ toString i ++ ": " ++ mismatchF fuel (ts.getD i .dynamic) e
      | none => "all elements must be " ++ e.friendly
    | .object fs, .map e =>
      match fs.find? fun (_, t) => !(t == e || convertsF fuel t e) with
      | some (k, t) => "element " ++ Text.quote k ++ ": " ++ mismatchF fuel t e
      | none => "all elements must be " ++ e.friendly
    | .list x, .list y => "incorrect list element type: " ++ mismatchF fuel x y
    | .map x, .map y => "incorrect map element type: " ++ mismatchF fuel x y
    | _, w => w.friendly ++ " required"

/-- Why a value of type `got` cannot become type `want`. -/
def mismatch (got want : Ty) : String := mismatchF (fuelFor [got, want]) got want

theorem converts_dynamic (t : Ty) : converts t .dynamic = true := by
  unfold converts fuelFor
  simp only [convertsF]
  split <;> simp_all

end Ty

end Lanes.Config
