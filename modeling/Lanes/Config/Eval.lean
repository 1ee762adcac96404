import Lanes.Config.Syntax
import Lanes.Config.Literal
import Lanes.Config.Hint
import Lanes.Text.Canonical

/-!
Evaluating expressions against named variables. No functions are defined, so every call is an
error.

Evaluation returns a value together with its diagnostics; after an error the value is unknown,
and operations on unknown values give unknown values quietly, so one mistake is reported once.
Operands are first turned into the types an operator takes (numbers for arithmetic and
comparisons, booleans for `&&`, `||` and `!`); a null operand makes the operation fail.

A splat evaluates the steps after its star once per element of its source, with the element
in the scope's `item`.

A `for` expression evaluates its value expression, and its key and condition if it has them,
once per element of its collection, with the element's key and value bound to its names.

A conditional evaluates both branches, finds a type both can take (strings win over numbers
and booleans) and converts the chosen branch to it. A template turns each part into a string;
a null part is an error, and an unknown part makes the whole string unknown. A template's `for`
directive joins the strings of its iterations. Every string a template or a key builds is put in
normalization form C, as literal strings are when read.

Main statement: a literal evaluates to itself with nothing to report (`eval_literal`).
-/

namespace Lanes.Config

/-- What evaluation sees: the variables by name, and the element a splat expression is
visiting. -/
structure Scope where
  vars : List (String × Value)
  item : Value := .unknown .dynamic
deriving Inhabited

/-! ### Steps into values -/

/-- A number of a sequence's position, or the reason it is not one. -/
def indexOf (n : Number) (len : Nat) : Except String Nat :=
  match n with
  | .inf .. => .error "past"
  | .finite .. =>
    if n.isFraction then .error "fractional"
    else if n.isNeg && !n.isZero then .error "negative"
    else match n.whole? 64 with
      | some i => if i.toNat < len then .ok i.toNat else .error (if i.toNat = len then "at" else "past")
      | none => .error "past"

/-- The failure of an index that names no element. -/
def invalidIndex (detail : String) (sp : Span) : Value × List Diagnostic :=
  (.unknown .dynamic, [⟨"Invalid index", detail, sp⟩])

/-- The element of a value at a key. -/
def indexValue (coll key : Value) (sp : Span) : Value × List Diagnostic :=
  let noElement := "The given key does not identify an element in this collection value"
  if coll.isNull then
    (.unknown .dynamic, [⟨"Attempt to index null value",
      "This value is null, so it does not have any indices.", sp⟩])
  else if key.isNull then invalidIndex "Can't use a null value as an indexing key." sp
  else if key.ty == .dynamic || coll.ty == .dynamic then (.unknown .dynamic, [])
  else match coll with
    | .tuple items | .list _ items =>
      match Value.convert key .number with
      | .error e => invalidIndex (noElement ++ ": " ++ e ++ ".") sp
      | .ok (.num n) =>
        match indexOf n items.length with
        | .ok i => (items.getD i default, [])
        | .error "fractional" => invalidIndex (noElement ++ ": indexing a sequence requires a " ++
            "whole number, but the given index has a fractional part.") sp
        | .error "negative" => invalidIndex (noElement ++
            ": a negative number is not a valid index for a sequence.") sp
        | .error "at" =>
          if items.isEmpty then invalidIndex (noElement ++ ": the collection has no elements.") sp
          else invalidIndex (noElement ++
            ": the given index is greater than or equal to the length of the collection.") sp
        | .error _ => invalidIndex (noElement ++ ".") sp
      | .ok _ => (.unknown .dynamic, [])
    | .object fields =>
      match Value.convert key .string with
      | .error e => invalidIndex (noElement ++ ": " ++ e ++ ".") sp
      | .ok (.str k) =>
        match fields.find? (·.1 == k) with
        | some (_, v) => (v, [])
        | none =>
          let hint := if key.ty == .number then
              " An object only supports looking up attributes by name, not by numeric index."
            else ""
          invalidIndex (noElement ++ "." ++ hint) sp
      | .ok _ => (.unknown .dynamic, [])
    | .map _ entries =>
      match Value.convert key .string with
      | .error e => invalidIndex (noElement ++ ": " ++ e ++ ".") sp
      | .ok (.str k) =>
        match entries.find? (·.1 == k) with
        | some (_, v) => (v, [])
        | none => invalidIndex (noElement ++ ".") sp
      | .ok _ => (.unknown .dynamic, [])
    | .unknown _ => (.unknown .dynamic, [])
    | _ => invalidIndex "This value does not have any indices." sp

/-- The attribute of a value. -/
def attrValue (v : Value) (name : String) (sp : Span) : Value × List Diagnostic :=
  let unsupported (detail : String) : Value × List Diagnostic :=
    (.unknown .dynamic, [⟨"Unsupported attribute", detail, sp⟩])
  match v with
  | .null _ => (.unknown .dynamic, [⟨"Attempt to get attribute from null value",
      "This value is null, so it does not have any attributes.", sp⟩])
  | .object fields =>
    match fields.find? (·.1 == name) with
    | some (_, a) => (a, [])
    | none => unsupported ("This object does not have an attribute named " ++ Text.quote name ++ ".")
  | .map _ entries =>
    match entries.find? (·.1 == name) with
    | some (_, a) => (a, [])
    | none => (.unknown .dynamic, [⟨"Missing map element",
        "This map does not have an element with the key " ++ Text.quote name ++ ".", sp⟩])
  | .unknown .dynamic => (.unknown .dynamic, [])
  | .unknown (.object _) => (.unknown .dynamic, [])
  | .unknown (.map e) => (.unknown e, [])
  | .bool _ | .unknown .bool => unsupported "Can't access attributes on a primitive-typed value (bool)."
  | .num _ | .unknown .number =>
    unsupported "Can't access attributes on a primitive-typed value (number)."
  | .str _ | .unknown .string =>
    unsupported "Can't access attributes on a primitive-typed value (string)."
  | _ => unsupported "This value does not have any attributes."

/-- Takes steps into a value; the first step that fails stops, and the value is unknown. -/
def walkSteps : Value → List Step → List Diagnostic → Value × List Diagnostic
  | v, [], ds => (v, ds)
  | v, s :: rest, ds =>
    let (v', sds) := match s with
      | .attr name sp => attrValue v name sp
      | .index key sp => indexValue v key sp
    if sds.isEmpty then walkSteps v' rest ds else (.unknown .dynamic, ds ++ sds)

/-! ### Operators -/

/-- The type an operator takes its operands as. -/
def BinOp.operandTy : BinOp → Ty
  | .or | .and => .bool
  | .eq | .ne => .dynamic
  | _ => .number

/-- The type of an operator's result. -/
def BinOp.resultTy : BinOp → Ty
  | .add | .sub | .mul | .div | .mod => .number
  | _ => .bool

mutual
/-- Whether two known values are equal; `none` when unknown values decide it. -/
def valueEq : Value → Value → Option Bool
  | .unknown _, _ | _, .unknown _ => none
  | .null _, .null _ => some true
  | .null _, _ | _, .null _ => some false
  | .bool a, .bool b => some (a == b)
  | .num a, .num b => some (a.eq b)
  | .str a, .str b => some (a == b)
  | .tuple as, .tuple bs => if as.length == bs.length then itemsEq as bs else some false
  | .list _ as, .list _ bs => if as.length == bs.length then itemsEq as bs else some false
  | .object as, .object bs =>
    if as.map (·.1) == bs.map (·.1) then fieldsEq as bs else some false
  | .map _ as, .map _ bs =>
    if as.map (·.1) == bs.map (·.1) then fieldsEq as bs else some false
  | _, _ => some false

/-- Whether two lists of values are equal, element by element from the first: the first pair
that is unequal or undecided settles it. -/
def itemsEq : List Value → List Value → Option Bool
  | a :: as, b :: bs =>
    match valueEq a b with
    | some true => itemsEq as bs
    | r => r
  | _, _ => some true

/-- Whether two lists of named values are equal, value by value. -/
def fieldsEq : List (String × Value) → List (String × Value) → Option Bool
  | (_, a) :: as, (_, b) :: bs =>
    match valueEq a b with
    | some false => some false
    | some true => fieldsEq as bs
    | none => match fieldsEq as bs with
      | some false => some false
      | _ => none
  | _, _ => some true
end

/-- An operator applied to operands already of its operand type. -/
def applyBin (op : BinOp) (a b : Value) : Except String Value :=
  match op with
  | .eq => .ok (match valueEq a b with | some r => .bool r | none => .unknown .bool)
  | .ne => .ok (match valueEq a b with | some r => .bool !r | none => .unknown .bool)
  | _ =>
    if a.isNull || b.isNull then .error "argument must not be null"
    else if !a.isKnown || !b.isKnown then .ok (.unknown op.resultTy)
    else match op, a, b with
      | .or, .bool x, .bool y => .ok (.bool (x || y))
      | .and, .bool x, .bool y => .ok (.bool (x && y))
      | .gt, .num x, .num y => .ok (.bool (y.lt x))
      | .ge, .num x, .num y => .ok (.bool !(x.lt y))
      | .lt, .num x, .num y => .ok (.bool (x.lt y))
      | .le, .num x, .num y => .ok (.bool !(y.lt x))
      | .add, .num x, .num y => Value.num <$> x.add y
      | .sub, .num x, .num y => Value.num <$> x.sub y
      | .mul, .num x, .num y => Value.num <$> x.mul y
      | .div, .num x, .num y => Value.num <$> x.div y
      | .mod, .num x, .num y => Value.num <$> x.modulo y
      | _, _, _ => .ok (.unknown op.resultTy)

/-- A binary operation on evaluated operands. -/
def binaryValue (op : BinOp) (lhs rhs : Expr) (sp : Span) (lv rv : Value)
    (ds : List Diagnostic) : Value × List Diagnostic :=
  let want := op.operandTy
  let (l, ds) : Value × List Diagnostic := match Value.convert lv want with
    | .ok v => (v, ds)
    | .error e => (Value.unknown want, ds ++ [⟨"Invalid operand",
        "Unsuitable value for left operand: " ++ e ++ ".", lhs.span⟩])
  let (r, ds) : Value × List Diagnostic := match Value.convert rv want with
    | .ok v => (v, ds)
    | .error e => (Value.unknown want, ds ++ [⟨"Invalid operand",
        "Unsuitable value for right operand: " ++ e ++ ".", rhs.span⟩])
  if !ds.isEmpty then (.unknown op.resultTy, ds)
  else match applyBin op l r with
    | .ok v => (v, ds)
    | .error e => (.unknown op.resultTy, [⟨"Operation failed", "Error during operation: " ++ e ++ ".", sp⟩])

/-- A unary operation on an evaluated operand. -/
def unaryValue (op : UnOp) (operand : Expr) (sp : Span) (v : Value) (ds : List Diagnostic) :
    Value × List Diagnostic :=
  let want : Ty := match op with
    | .neg => .number
    | .not => .bool
  match Value.convert v want with
  | .error e => (.unknown want, ds ++ [⟨"Invalid operand",
      "Unsuitable value for unary operand: " ++ e ++ ".", operand.span⟩])
  | .ok v =>
    if !ds.isEmpty then (.unknown want, ds)
    else if v.isNull then
      (.unknown want, [⟨"Operation failed", "Error during operation: argument must not be null.", sp⟩])
    else match op, v with
      | .neg, .num n => (.num n.neg, [])
      | .not, .bool b => (.bool !b, [])
      | _, _ => (.unknown want, [])

/-! ### Conditionals -/

mutual
/-- Why the types of a conditional's branches do not unify: the first attribute (by name) or
element where two object or tuple types part, or else the two types' names. The fuel bounds the
depth of the types. -/
def branchMismatchF : Nat → Ty → Ty → String
  | fuel + 1, .object ya, .object na =>
    let ys := (ya.map (·.1)).mergeSort fun a b => decide (a ≤ b)
    let ns := (na.map (·.1)).mergeSort fun a b => decide (a ≤ b)
    match attrMismatchF fuel ya na ys with
    | some m => m
    | none =>
      match ns.find? fun k => (Ty.lookup k ya).isNone with
      | some k => "The 'false' value includes object attribute " ++ Text.quote k ++
          ", which is absent in the 'true' value"
      | none => "The 'true' value is object, but the 'false' value is object"
  | fuel + 1, .tuple ys, .tuple ns =>
    if ys.length != ns.length then
      "The 'true' tuple has length " ++ toString ys.length ++ ", but the 'false' tuple has length " ++
        toString ns.length
    else match elemMismatchF fuel ys ns 0 with
      | some m => m
      | none => "The 'true' value is tuple, but the 'false' value is tuple"
  | _, a, b => "The 'true' value is " ++ a.name ++ ", but the 'false' value is " ++ b.name

/-- The first of the named attributes of the true branch's object type that the false branch's
lacks or types differently, described. -/
def attrMismatchF (fuel : Nat) (ya na : List (String × Ty)) : List String → Option String
  | [] => none
  | k :: ks =>
    match Ty.lookup k ya, Ty.lookup k na with
    | some y, some n =>
      if y == n then attrMismatchF fuel ya na ks
      else some ("Type mismatch for object attribute " ++ Text.quote k ++ ": " ++
        branchMismatchF fuel y n)
    | _, none => some ("The 'true' value includes object attribute " ++ Text.quote k ++
        ", which is absent in the 'false' value")
    | none, _ => attrMismatchF fuel ya na ks

/-- The first element where two tuple types of one length differ, counted from `i`,
described. -/
def elemMismatchF (fuel : Nat) : List Ty → List Ty → Nat → Option String
  | y :: ys, n :: ns, i =>
    if y == n then elemMismatchF fuel ys ns (i + 1)
    else some ("Mismatched tuple element types at index " ++ toString i ++ ": " ++
      branchMismatchF fuel y n)
  | _, _, _ => none
end

/-- Why the types of a conditional's branches do not unify. -/
def branchMismatch (a b : Ty) : String := branchMismatchF (Ty.depthList [a, b] + 1) a b

/-- A conditional on evaluated parts. -/
def conditionalValue (cond yes no : Expr) (c : Value × List Diagnostic)
    (y : Value × List Diagnostic) (n : Value × List Diagnostic) : Value × List Diagnostic :=
  let (yv, yds) := y
  let (nv, nds) := n
  let resultTy : Option Ty :=
    if yv.isNull && yv.ty == .dynamic then some nv.ty
    else if nv.isNull && nv.ty == .dynamic then some yv.ty
    else if yv.ty == .dynamic || nv.ty == .dynamic then some .dynamic
    else Ty.unify [yv.ty, nv.ty]
  match resultTy with
  | none => (.unknown .dynamic, [⟨"Inconsistent conditional result types",
      "The true and false result expressions must have consistent types. " ++
        branchMismatch yv.ty nv.ty ++ ".", yes.span.between no.span⟩])
  | some rt =>
    let (cv, cds) := c
    if cv.isNull then
      (.unknown rt, cds ++ [⟨"Null condition",
        "The condition value is null. Conditions must either be true or false.", cond.span⟩])
    else if !cv.isKnown then (.unknown rt, cds)
    else match Value.convert cv .bool with
      | .error _ => (.unknown rt, cds ++ [⟨"Incorrect condition type",
          "The condition expression must be of type bool.", cond.span⟩])
      | .ok (.bool b) =>
        let (v, vds, which) := if b then (yv, yds, "true") else (nv, nds, "false")
        if v.ty == rt then (v, cds ++ vds)
        else match Value.convert v rt with
          | .ok v' => (v', cds ++ vds)
          | .error e => (.unknown rt, cds ++ vds ++ [⟨"Inconsistent conditional result types",
              "The " ++ which ++ " result value has the wrong type: " ++ e ++ ".",
              (if b then yes else no).span⟩])
      | .ok _ => (.unknown rt, cds)

/-! ### Templates -/

/-- A template's string from its evaluated parts. -/
def templateValue : List (Expr × Value × List Diagnostic) → String → Bool → List Diagnostic →
    Value × List Diagnostic
  | [], out, known, ds => (if known then .str (Text.compose out) else .unknown .string, ds)
  | (e, v, pds) :: rest, out, known, ds =>
    let ds := ds ++ pds
    if v.isNull then
      templateValue rest out known (ds ++ [⟨"Invalid template interpolation value",
        "The expression result is null. Cannot include a null value in a string template.", e.span⟩])
    else if !v.isKnown then templateValue rest out false ds
    else match Value.convert v .string with
      | .error err => templateValue rest out known (ds ++ [⟨"Invalid template interpolation value",
          "Cannot include the given value in a string template: " ++ err ++ ".", e.span⟩])
      | .ok s =>
        let piece := match s with
          | .str t => t
          | _ => ""
        templateValue rest (if ds.isEmpty then out ++ piece else out) known ds

/-- The string a template's `for` directive gives: the strings of its iterations joined. An
iteration that is null or cannot be a string is reported at `sp`; one that is not known makes the
string unknown. -/
def joinItems (sp : Span) : List Value → String → List Diagnostic → Value × List Diagnostic
  | [], out, ds => (.str (Text.compose out), ds)
  | v :: rest, out, ds =>
    if v.isNull then
      joinItems sp rest out (ds ++ [⟨"Invalid template interpolation value",
        "An iteration result is null. Cannot include a null value in a string template.", sp⟩])
    else if v.ty == .dynamic then (.unknown .string, ds)
    else match Value.convert v .string with
      | .error e => joinItems sp rest out (ds ++ [⟨"Invalid template interpolation value",
          "Cannot include one of the interpolation results into the string template: " ++ e ++ ".",
          sp⟩])
      | .ok (.str t) => if v.isKnown then joinItems sp rest (out ++ t) ds else (.unknown .string, ds)
      | .ok _ => (.unknown .string, ds)

/-- The joined string of a `for` directive's tuple of iterations; unknown when the tuple is. -/
def joinValue (sp : Span) : Value × List Diagnostic → Value × List Diagnostic
  | (.tuple items, ds) => joinItems sp items "" ds
  | (_, ds) => (.unknown .string, ds)

/-! ### Splats -/

/-- Whether a value's type is a sequence a splat visits element by element. -/
def Ty.isSequence : Ty → Bool
  | .tuple _ | .list _ => true
  | _ => false

/-- The value of a splat from its source's value and diagnostics, where `visit` evaluates the
steps after the star for one element. A source that is not a sequence counts as a tuple of
itself, or as an empty tuple when null; a null sequence is an error. When visiting an element
fails, or the source is not known, the result is unknown, of the type the steps give for
unknown elements. -/
def splatValue (srcSpan : Span) (sv : Value) (sds : List Diagnostic)
    (visit : Value → Value × List Diagnostic) : Value × List Diagnostic :=
  if !sds.isEmpty then (.unknown .dynamic, sds)
  else if sv.isNull then
    if sv.ty.isSequence then
      (.unknown .dynamic, [⟨"Splat of null value",
        "Splat expressions (with the * symbol) cannot be applied to null sequences.", srcSpan⟩])
    else (.tuple [], [])
  else
    let sv := if sv.ty.isSequence then sv else .tuple [sv]
    let resultTy : Ty × List Diagnostic := match sv.ty with
      | .list e => let (v, ds) := visit (.unknown e); (.list v.ty, ds)
      | .tuple ts =>
        let rs := ts.map fun t => visit (.unknown t)
        (.tuple (rs.map (·.1.ty)), (rs.map (·.2)).flatten)
      | _ => (.dynamic, [])
    let visitAll (items : List Value) : Option (List Value) × List Diagnostic :=
      let rs := items.map visit
      (if rs.any (!·.2.isEmpty) then none else some (rs.map (·.1)), (rs.map (·.2)).flatten)
    match sv with
    | .tuple items =>
      match visitAll items with
      | (some vals, ds) => (.tuple vals, ds)
      | (none, ds) => (.unknown resultTy.1, ds)
    | .list _ items =>
      match visitAll items with
      | (some [], _) =>
        (.list (match resultTy.1 with | .list e => e | t => t) [], resultTy.2)
      | (some (v :: vs), ds) => (.list v.ty (v :: vs), ds)
      | (none, ds) => (.unknown resultTy.1, ds)
    | _ => (.unknown resultTy.1, resultTy.2)

/-! ### Evaluation -/

/-- An object's value from its evaluated keys and values: unknown when a key failed. A null key
is reported at the value it would name. -/
def objectValue : List ((Expr × Value × List Diagnostic) × (Expr × Value × List Diagnostic)) →
    List (String × Value) → Bool → List Diagnostic → Value × List Diagnostic
  | [], fields, known, ds => (if known then .object fields else .unknown .dynamic, ds)
  | ((kexpr, kv, kds), (vexpr, vv, vds)) :: rest, fields, known, ds =>
    let ds := ds ++ kds ++ vds
    if !kds.isEmpty then objectValue rest fields false ds
    else if kv.isNull then
      objectValue rest fields false (ds ++ [⟨"Null value as key", "Can't use a null value as a key.",
        vexpr.span⟩])
    else match Value.convert kv .string with
      | .error e => objectValue rest fields false (ds ++ [⟨"Incorrect key type",
          "Can't use this value as a key: " ++ e ++ ".", kexpr.span⟩])
      | .ok (.str k) =>
        let kept := fields.filter (·.1 != k)
        let fields := (kept ++ [(k, vv)]).mergeSort fun a b => decide (a.1 ≤ b.1)
        objectValue rest fields known ds
      | .ok _ => objectValue rest fields false ds

/-! ### `for` expressions -/

/-- Whether a `for` expression can visit the elements of a value of a type. -/
def Ty.iterable : Ty → Bool
  | .tuple _ | .object _ | .list _ | .map _ => true
  | _ => false

/-- The elements a `for` expression visits, each with its key: a position in a sequence, or an
attribute name of an object, in name order. -/
def forElements : Value → List (Value × Value)
  | .tuple items | .list _ items => items.zipIdx.map fun (v, i) => (.num (Number.ofInt i), v)
  | .object fields | .map _ fields => fields.map fun (k, v) => (.str k, v)
  | _ => []

/-- One element of a `for` expression, evaluated: its condition, its key and its value. -/
abbrev ForItem := Option (Value × List Diagnostic) × Option (Value × List Diagnostic) ×
  (Value × List Diagnostic)

/-- What one element gives: whether everything so far is known, its diagnostics, and the entry
it adds with its key when building an object; none when the element is left out. A problem is
reported only while everything before it was known. -/
def forItem (condSp keySp : Span) (known : Bool) (item : ForItem) :
    Bool × List Diagnostic × Option (Option String × Value) :=
  let (c?, k?, (v, vds)) := item
  let invalidCond (detail : String) : List Diagnostic :=
    if known then [⟨"Invalid 'for' condition", detail, condSp⟩] else []
  let invalidKey (detail : String) : List Diagnostic :=
    if known then [⟨"Invalid object key", detail, keySp⟩] else []
  let afterCond : Except (Bool × List Diagnostic) (List Diagnostic) :=
    match c? with
    | none => .ok []
    | some (c, cds) =>
      if c.isNull then .error (false, cds ++ invalidCond "The value of the 'if' clause must not be null.")
      else if !c.isKnown then .error (false, cds)
      else match Value.convert c .bool with
        | .error e => .error (false, cds ++ invalidCond ("The 'if' clause value is invalid: " ++ e ++ "."))
        | .ok (.bool true) => .ok cds
        | .ok (.bool false) => .error (known, cds)
        | .ok _ => .error (false, cds)
  match afterCond with
  | .error (known', ds) => (known', ds, none)
  | .ok ds =>
    match k? with
    | none => (known, ds ++ vds, some (none, v))
    | some (kraw, kds) =>
      let ds := ds ++ kds
      if kraw.isNull then
        (false, ds ++ invalidKey "Key expression in 'for' expression must not produce a null value.", none)
      else if !kraw.isKnown then (false, ds, none)
      else match Value.convert kraw .string with
        | .error e => (false, ds ++ invalidKey ("The key expression produced an invalid result: " ++ e ++ "."), none)
        | .ok (.str k) => (known, ds ++ vds, some (some k, v))
        | .ok _ => (false, ds, none)

/-- Adds a value to the group of its key. -/
def addToGroup (groups : List (String × List Value)) (k : String) (v : Value) :
    List (String × List Value) :=
  if groups.any (·.1 == k) then groups.map fun (g, vs) => if g == k then (g, vs ++ [v]) else (g, vs)
  else groups ++ [(k, [v])]

/-- Visits the elements of a `for` expression in order: whether all were known, the
diagnostics, the values of a tuple and the values of an object by key. -/
def forLoop (condSp keySp : Span) (group : Bool) : List ForItem → Bool → List Diagnostic →
    List Value → List (String × List Value) → Bool × List Diagnostic × List Value × List (String × List Value)
  | [], known, ds, vals, fields => (known, ds, vals, fields)
  | item :: rest, known, ds, vals, fields =>
    let (known, ids, entry) := forItem condSp keySp known item
    let ds := ds ++ ids
    match entry with
    | none => forLoop condSp keySp group rest known ds vals fields
    | some (none, v) => forLoop condSp keySp group rest known ds (vals ++ [v]) fields
    | some (some k, v) =>
      if group then forLoop condSp keySp group rest known ds vals (addToGroup fields k v)
      else if fields.any (·.1 == k) then
        forLoop condSp keySp group rest known (ds ++ [⟨"Duplicate object key",
          "Two different items produced the key " ++ Text.quote k ++ " in this 'for' expression. " ++
            "If duplicates are expected, use the ellipsis (...) after the value expression to " ++
            "enable grouping by key.", keySp⟩]) vals fields
      else forLoop condSp keySp group rest known ds vals (fields ++ [(k, [v])])

/-- The value of a `for` expression from its evaluated collection, its condition evaluated with
both names unknown (checked once before the elements), and its evaluated elements. A null or
non-iterable collection is an error; an unknown collection makes the result unknown before the
condition is looked at, and so does an element whose condition or key is not known. -/
def forValue (collSpan : Span) (condSpan keySpan : Option Span) (group : Bool)
    (coll : Value × List Diagnostic) (early : Option (Value × List Diagnostic))
    (items : List ForItem) : Value × List Diagnostic :=
  let (cv, ds) := coll
  let dyn : Value := .unknown .dynamic
  let condSp := condSpan.getD collSpan
  let keySp := keySpan.getD collSpan
  if cv.isNull then
    (dyn, ds ++ [⟨"Iteration over null value",
      "A null value cannot be used as the collection in a 'for' expression.", collSpan⟩])
  else if cv.ty == .dynamic then (dyn, ds)
  else if !cv.ty.iterable then
    (dyn, ds ++ [⟨"Iteration over non-iterable value", "A value of type " ++ cv.ty.name ++
      " cannot be used as the collection in a 'for' expression.", collSpan⟩])
  else if !cv.isKnown then (dyn, ds)
  else
    let stop : Option (List Diagnostic) := match early with
      | none => none
      | some (r, eds) =>
        if r.isNull then some (ds ++ eds ++ [⟨"Condition is null",
          "The value of the 'if' clause must not be null.", condSp⟩])
        else match Value.convert r .bool with
          | .error e => some (ds ++ eds ++ [⟨"Invalid 'for' condition",
              "The 'if' clause value is invalid: " ++ e ++ ".", condSp⟩])
          | .ok _ => if eds.isEmpty then none else some (ds ++ eds)
    match stop with
    | some ds => (dyn, ds)
    | none =>
      let (known, ds, vals, fields) := forLoop condSp keySp group items true ds [] []
      if !known then (dyn, ds)
      else if keySpan.isSome then
        let entries := fields.map fun (k, vs) => (k, if group then Value.tuple vs else vs.headD dyn)
        (.object (entries.mergeSort fun a b => decide (a.1 ≤ b.1)), ds)
      else (.tuple vals, ds)

mutual
/-- The value of an expression and its diagnostics. -/
def eval (scope : Scope) : Expr → Value × List Diagnostic
  | .literal v _ => (v, [])
  | .template parts _ =>
    let rs := evalList scope parts
    templateValue (parts.zip rs |>.map fun (e, v, ds) => (e, v, ds)) "" true []
  | .wrap inner _ => eval scope inner
  | .scope name steps _ rootSpan =>
    match scope.vars.find? (·.1 == name) with
    | some (_, v) => walkSteps v steps []
    | none =>
      (.unknown .dynamic, [⟨"Unknown variable", "There is no variable named " ++ Text.quote name ++
        "." ++ didYouMean name (scope.vars.map (·.1)), rootSpan⟩])
  | .relative src steps _ =>
    let (v, ds) := eval scope src
    walkSteps v steps ds
  | .call _ _ _ _ sp =>
    (.unknown .dynamic, [⟨"Function calls not allowed", "Functions may not be called here.", sp⟩])
  | .tuple items _ _ =>
    let rs := evalList scope items
    (.tuple (rs.map (·.1)), (rs.map (·.2)).flatten)
  | .object items _ _ =>
    let rs := evalPairs scope items
    objectValue (items.zip rs |>.map fun ((k, v), (kr, vr)) => ((k, kr), (v, vr))) [] true []
  | .key inner force =>
    match inner, force with
    | .scope name [] _ _, false => (.str (Text.compose name), [])
    | .scope _ (_ :: _) sp _, false => (.unknown .dynamic, [⟨"Ambiguous attribute key",
        "If this expression is intended to be a reference, wrap it in parentheses. If it's " ++
          "instead intended as a literal name containing periods, wrap it in quotes to create a " ++
          "string literal.", sp⟩])
    | .literal (.null _) _, false => (.str "null", [])
    | .literal (.bool b) _, false => (.str (if b then "true" else "false"), [])
    | _, _ => eval scope inner
  | .unary op operand sp _ =>
    let (v, ds) := eval scope operand
    unaryValue op operand sp v ds
  | .binary op lhs rhs sp =>
    let (lv, lds) := eval scope lhs
    let (rv, rds) := eval scope rhs
    binaryValue op lhs rhs sp lv rv (lds ++ rds)
  | .conditional c y n _ =>
    conditionalValue c y n (eval scope c) (eval scope y) (eval scope n)
  | .parens inner _ => eval scope inner
  | .index coll key _ _ brackets =>
    let (cv, cds) := eval scope coll
    let (kv, kds) := eval scope key
    let (v, ids) := indexValue cv kv brackets
    (v, cds ++ kds ++ ids)
  | .forExpr kv vv coll key val cond group _ _ =>
    let (cv, cds) := eval scope coll
    -- the value's name is looked up first, so it wins when both names are the same
    let bind (k v : Value) : Scope :=
      { scope with vars := (vv, v) :: ((match kv with
        | some n => [(n, k)]
        | none => []) ++ scope.vars) }
    let dyn : Value := .unknown .dynamic
    let early := match cond with
      | some c => some (eval (bind dyn dyn) c)
      | none => none
    let items : List ForItem := (forElements cv).map fun (k, v) =>
      ((match cond with
        | some c => some (eval (bind k v) c)
        | none => none),
       (match key with
        | some ke => some (eval (bind k v) ke)
        | none => none),
       eval (bind k v) val)
    forValue coll.span (cond.map Expr.span) (key.map Expr.span) group (cv, cds) early items
  | .join t => joinValue t.span (eval scope t)
  | .item _ => (scope.item, [])
  | .splat src each _ _ =>
    let (sv, sds) := eval scope src
    splatValue src.span sv sds fun v => eval { scope with item := v } each

/-- The values of a list of expressions. -/
def evalList (scope : Scope) : List Expr → List (Value × List Diagnostic)
  | [] => []
  | e :: es => eval scope e :: evalList scope es

/-- The values of pairs of expressions. -/
def evalPairs (scope : Scope) : List (Expr × Expr) → List ((Value × List Diagnostic) × (Value × List Diagnostic))
  | [] => []
  | (k, v) :: rest => (eval scope k, eval scope v) :: evalPairs scope rest
end

theorem eval_literal (scope : Scope) (v : Value) (sp : Span) :
    eval scope (.literal v sp) = (v, []) := by
  simp [eval]

end Lanes.Config
