import Lanes.Config.Value
import Lanes.Config.Span

/-!
The syntax tree of the configuration language.

A file is a body: attributes `name = expression` and blocks `type "label" … { body }`.
Expressions are literals, templates (quoted strings and heredocs, with `${…}` sequences),
variables with attribute and index steps after them, function calls, tuples `[…]`, objects
`{…}`, `for` expressions building either from a collection, unary and binary operators, the
conditional `c ? a : b`, parentheses, indexing and splats `xs[*].name` and `xs.*.name`. A
template's `%{if}` directive is a conditional, and its `%{for}` directive a `for` expression
whose strings are joined.

Each expression knows its whole span and the span where it starts; diagnostics about a value
point at the latter.
-/

namespace Lanes.Config

/-- The binary operators, from the loosest binding to the tightest. -/
inductive BinOp where
  | or | and | eq | ne | gt | ge | lt | le | add | sub | mul | div | mod
deriving DecidableEq, Repr, Inhabited

/-- The unary operators. -/
inductive UnOp where
  | neg | not
deriving DecidableEq, Repr, Inhabited

/-- A step after a variable or an expression: an attribute or a constant index. -/
inductive Step where
  | attr (name : String) (span : Span)
  | index (key : Value) (span : Span)
deriving Inhabited

/-- Expressions. -/
inductive Expr where
  | literal (v : Value) (span : Span)
  /-- A string built from parts: literal strings and the values of sequences. -/
  | template (parts : List Expr) (span : Span)
  /-- A template that is one sequence and nothing else, standing for its value. -/
  | wrap (inner : Expr) (span : Span)
  /-- A variable and the steps after it; the last span is the variable's name alone. -/
  | scope (name : String) (steps : List Step) (span rootSpan : Span)
  /-- Steps after an expression that is not a variable. -/
  | relative (source : Expr) (steps : List Step) (span : Span)
  | call (name : String) (args : List Expr) (nameSpan openSpan span : Span)
  | tuple (items : List Expr) (span openSpan : Span)
  | object (items : List (Expr × Expr)) (span openSpan : Span)
  /-- An object key; a bare name stands for itself unless it was written in parentheses. -/
  | key (inner : Expr) (forceNonLiteral : Bool)
  | unary (op : UnOp) (operand : Expr) (span symbolSpan : Span)
  | binary (op : BinOp) (lhs rhs : Expr) (span : Span)
  | conditional (cond yes no : Expr) (span : Span)
  | parens (inner : Expr) (span : Span)
  /-- Indexing by a key that is not constant: the spans of the whole, of `[` and of the brackets
  with what they hold. -/
  | index (coll key : Expr) (span openSpan bracketSpan : Span)
  /-- A `for` expression: the names given to each element's key and value, the collection, the
  key expression of an object, the value expression, the condition, whether values are grouped
  by key, and the spans of the whole and of its opening bracket. -/
  | forExpr (keyVar : Option String) (valVar : String) (coll : Expr) (key : Option Expr)
      (val : Expr) (cond : Option Expr) (group : Bool) (span openSpan : Span)
  /-- The strings a `for` expression builds, joined into one: a template's `for` directive. -/
  | join (tuple : Expr)
  /-- The element a splat expression is visiting. -/
  | item (span : Span)
  /-- A splat: the steps after the star, taken from each element of the source; the spans of
  the whole and of the star with its brackets or dot. -/
  | splat (source each : Expr) (span markerSpan : Span)
deriving Inhabited

namespace Expr

/-- The whole span of an expression. -/
def span : Expr → Span
  | .literal _ s | .template _ s | .wrap _ s | .scope _ _ s _ | .relative _ _ s => s
  | .call _ _ _ _ s | .tuple _ s _ | .object _ s _ => s
  | .key inner _ => inner.span
  | .unary _ _ s _ | .binary _ _ _ s | .conditional _ _ _ s | .parens _ s | .index _ _ s _ _ => s
  | .forExpr _ _ _ _ _ _ _ s _ => s
  | .join t => t.span
  | .item s | .splat _ _ s _ => s

/-- The span where an expression starts. -/
def startSpan : Expr → Span
  | .literal _ s => s
  | .template (p :: _) _ => p.startSpan
  | .template [] s => s
  | .wrap _ s | .scope _ _ s _ | .relative _ _ s => s
  | .call _ _ n o _ => n.between o
  | .tuple _ _ o | .object _ _ o => o
  | .key inner _ => inner.startSpan
  | .unary _ _ _ sym => sym
  | .binary _ lhs _ _ => lhs.startSpan
  | .conditional c _ _ _ => c.startSpan
  | .parens _ s => s
  | .index _ _ _ o _ => o
  | .forExpr _ _ _ _ _ _ _ _ o => o
  | .join t => t.startSpan
  | .item s => s
  | .splat src _ _ _ => src.startSpan

end Expr

/-- An attribute: a name given an expression. -/
structure Attribute where
  name : String
  expr : Expr
  span : Span
  nameSpan : Span
deriving Inhabited

/-- A block's header: its type, its labels and where each stands. -/
structure BlockHead where
  type : String
  labels : List String
  typeSpan : Span
  labelSpans : List Span
  openSpan : Span
deriving Inhabited

/-- A body: its attributes, its blocks with their bodies, and its span. -/
inductive Body where
  | mk (attrs : List Attribute) (blocks : List (BlockHead × Body)) (span : Span)
deriving Inhabited

namespace Body

/-- The attributes of a body. -/
def attrs : Body → List Attribute
  | .mk a _ _ => a

/-- The blocks of a body. -/
def blocks : Body → List (BlockHead × Body)
  | .mk _ b _ => b

/-- The span of a body. -/
def span : Body → Span
  | .mk _ _ s => s

/-- Where something missing from a body is reported: the start of the body. -/
def missingSpan (b : Body) : Span := b.span.atStart

end Body

end Lanes.Config
