import Lanes.Config.Eval
import Lanes.Config.ParseExpr

/-!
Reading a body against a schema, and settings out of attributes.

A schema names the attributes a body may have, which of them it must have, and the block types
it may hold with the labels each takes. Checking a body reports, in this order: required
attributes that are missing, blocks with too many or too few labels, attributes the schema does
not name, and blocks of types it does not name. A misspelled name gets a hint when it is within
two edits of one the schema has.

A setting is read by evaluating its attribute, turning the value into the setting's type and
taking it out; either failure is reported at the start of the expression.
-/

namespace Lanes.Config

/-- An attribute a schema names, and whether a body must have it. -/
structure AttrSchema where
  name : String
  required : Bool

/-- A block type a schema names, with the names of its labels. -/
structure BlockSchema where
  type : String
  labels : List String

/-- What a body may hold; attributes and block types sorted by name. -/
structure Schema where
  attrs : List AttrSchema
  blocks : List BlockSchema

/-- What a body holds that its schema names. -/
structure Content where
  attrs : List Attribute
  blocks : List (BlockHead × Body)

/-- The label diagnostics of a block, or none when its labels fit. -/
def labelCheck (bs : BlockSchema) (head : BlockHead) : Option Diagnostic :=
  let n := bs.labels.length
  let names := ", ".intercalate bs.labels
  if head.labels.length > n then
    if n = 0 then
      some (diag ("Extraneous label for " ++ head.type)
        ("No labels are expected for " ++ head.type ++ " blocks.") (head.labelSpans.headD head.typeSpan))
    else
      some (diag ("Extraneous label for " ++ head.type)
        ("Only " ++ toString n ++ " labels (" ++ names ++ ") are expected for " ++ head.type ++
          " blocks.") (head.labelSpans.getD n head.typeSpan))
  else if head.labels.length < n then
    some (diag ("Missing " ++ bs.labels.getD head.labels.length "" ++ " for " ++ head.type)
      ("All " ++ head.type ++ " blocks must have " ++ toString n ++ " labels (" ++ names ++ ").")
      head.openSpan)
  else none

/-- The content of a body under a schema, and its diagnostics. -/
def content (schema : Schema) (b : Body) : Content × List Diagnostic :=
  let present (name : String) := b.attrs.any (·.name == name)
  let missing := schema.attrs.filterMap fun a =>
    if a.required && !present a.name then
      some (diag "Missing required argument"
        ("The argument " ++ Text.quote a.name ++ " is required, but no definition was found.")
        b.missingSpan)
    else none
  let labelled := b.blocks.filterMap fun (head, body) =>
    (schema.blocks.find? (·.type == head.type)).map fun bs => (head, body, labelCheck bs head)
  let labelDiags := labelled.filterMap (·.2.2)
  let blocks := labelled.filterMap fun (head, body, d) => if d.isSome then none else some (head, body)
  let attrs := b.attrs.filter fun a => schema.attrs.any (·.name == a.name)
  let unset := (schema.attrs.filter fun a => !present a.name).map (·.name)
  let unsupportedAttrs := (b.attrs.filter fun a => !schema.attrs.any (·.name == a.name)).map fun a =>
    let hint := match suggestion a.name unset with
      | some s => " Did you mean " ++ Text.quote s ++ "?"
      | none =>
        if schema.blocks.any (·.type == a.name) then
          " Did you mean to define a block of type " ++ Text.quote a.name ++ "?"
        else ""
    diag "Unsupported argument"
      ("An argument named " ++ Text.quote a.name ++ " is not expected here." ++ hint) a.nameSpan
  let unsupportedBlocks := (b.blocks.filter fun (h, _) => !schema.blocks.any (·.type == h.type)).map
    fun (h, _) =>
      let hint := match suggestion h.type (schema.blocks.map (·.type)) with
        | some s => " Did you mean " ++ Text.quote s ++ "?"
        | none =>
          if schema.attrs.any (·.name == h.type) then
            " Did you mean to define argument " ++ Text.quote h.type ++
              "? If so, use the equals sign to assign it a value."
          else ""
      diag "Unsupported block type"
        ("Blocks of type " ++ Text.quote h.type ++ " are not expected here." ++ hint) h.typeSpan
  (⟨attrs, blocks⟩, missing ++ labelDiags ++ unsupportedAttrs ++ unsupportedBlocks)

/-- The attribute of a name in some content. -/
def Content.attr? (c : Content) (name : String) : Option Attribute := c.attrs.find? (·.name == name)

/-- The blocks of a type in some content. -/
def Content.blocksOf (c : Content) (type : String) : List (BlockHead × Body) :=
  c.blocks.filter (·.1.type == type)

/-- A setting read from an attribute, if there is one: its value turned into `want` and taken
out by `take`; `fallback` when there is no attribute or it cannot be read. -/
def setting {α : Type} (scope : Scope) (a : Option Attribute) (want : Ty)
    (take : Value → Except String α) (fallback : α) : α × List Diagnostic :=
  match a with
  | none => (fallback, [])
  | some a =>
    let (v, ds) := eval scope a.expr
    let unsuitable (e : String) := diag "Unsuitable value type" ("Unsuitable value: " ++ e) a.expr.startSpan
    match Value.convert v want with
    | .error e => (fallback, ds ++ [unsuitable e])
    | .ok v' =>
      match take v' with
      | .ok x => (x, ds)
      | .error e => (fallback, ds ++ [unsuitable e])

end Lanes.Config
