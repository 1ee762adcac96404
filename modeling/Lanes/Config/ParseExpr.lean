import Lanes.Config.Syntax
import Lanes.Config.Stream
import Lanes.Config.Literal
import Lanes.Config.Hint
import Lanes.Text.Canonical

/-!
Parsing expressions.

An expression is a conditional over binary operators of six binding levels, loosest first:
`||`; `&&`; `==` and `!=`; the four comparisons; `+` and `-`; `*`, `/` and `%`. Operators of one
level group to the left. Below them come terms with the steps after them: `.name`, `.0` and
`[key]`, and the splats `[*]`, which takes every step after it from each element, and `.*`,
which takes the `.name` and `.0` steps right after it. A term is a parenthesized expression, a number, `true`, `false`, `null`, a variable, a
function call, a template, a negation `-` or `!` of a term, a tuple or an object.

A template collects literal text and `${…}` sequences; `~` beside a brace trims the white space
on that side, and a heredoc opened with `<<-` loses the indentation its lines share. Consecutive
literal pieces are joined, and a template that is one sequence alone stands for that sequence's
value. A `%{if c}…%{else}…%{endif}` directive chooses between its branches and a
`%{for x in xs}…%{endfor}` directive repeats its body once per element; their pieces are read
first and nested afterwards, so a directive left open or closed twice is reported where the
nesting breaks.

Every parsing function takes fuel that bounds its depth of nested calls; the fuel given is
always more than the number of tokens allows.

When an error is met the parser enters recovery: it skips to the end of the bracket it is in,
and the places that would report follow-on errors stay silent.
-/

namespace Lanes.Config

/-- A result with the diagnostics found while producing it. -/
abbrev Parsed (α : Type) := α × List Diagnostic

/-- A diagnostic. -/
def diag (summary detail : String) (subject : Span) : Diagnostic := ⟨summary, detail, subject⟩

/-- The operator of a token at a binding level, loosest level first. -/
def levelOp : Nat → TokenKind → Option BinOp
  | 0, .or => some .or
  | 1, .and => some .and
  | 2, .equalOp => some .eq
  | 2, .notEqual => some .ne
  | 3, .greaterThan => some .gt
  | 3, .greaterThanEq => some .ge
  | 3, .lessThan => some .lt
  | 3, .lessThanEq => some .le
  | 4, .plus => some .add
  | 4, .minus => some .sub
  | 5, .star => some .mul
  | 5, .slash => some .div
  | 5, .percent => some .mod
  | _, _ => none

/-- Adds a step after an expression: a variable or an expression with steps takes one more. -/
def addStep (e : Expr) (s : Step) (sp : Span) : Expr :=
  match e with
  | .scope name steps span root => .scope name (steps ++ [s]) (span.between sp) root
  | .relative src steps span => .relative src (steps ++ [s]) (span.between sp)
  | _ => .relative e [s] (e.span.between sp)

/-- The value of a number token, with a diagnostic when it does not read as a number. -/
def numberValue (t : Token) : Parsed Value :=
  match Number.parse t.text with
  | some n => (.num n, [])
  | none => (.unknown .number,
    [diag "Invalid number literal" "Failed to recognize the value of this number literal." t.span])

/-- The placeholder for an expression nested beyond the fuel. -/
def fuelOut : ParseM (Parsed Expr) := do
  let t ← peek
  return (.literal (.unknown .dynamic) t.span,
    [diag "Expression too deeply nested" "The expression nests beyond what can be read." t.span])

/-! ### Template pieces -/

/-- Whether a token is a given keyword: a name spelled so. -/
def isKeyword (word : String) (t : Token) : Bool := t.kind == .ident && t.text == word

/-- What closes part of a directive: `else`, `endif` or `endfor`. -/
inductive Closer where
  | otherwise
  | endIf
  | endFor
deriving DecidableEq, Inhabited

/-- The keyword of a closing directive. -/
def Closer.name : Closer → String
  | .otherwise => "else"
  | .endIf => "endif"
  | .endFor => "endfor"

/-- A piece of a template before its directives are nested: literal text, a sequence's
expression, an opening `if` or `for` directive, or a closing one. Each directive's span runs
from its `%{` to its closing brace. -/
inductive TPart where
  | lit (s : String) (span : Span)
  | interp (e : Expr) (span : Span)
  | ifOpen (cond : Expr) (span : Span)
  | forOpen (keyVar : Option String) (valVar : String) (coll : Expr) (span : Span)
  | closer (c : Closer) (span : Span)
deriving Inhabited

/-- Drops white space at the start of a string. -/
def trimLeftSpace (s : String) : String :=
  String.ofList (s.toList.dropWhile fun c => Text.isSpace c.toNat)

/-- Drops white space at the end of a string. -/
def trimRightSpace (s : String) : String :=
  String.ofList ((s.toList.reverse.dropWhile fun c => Text.isSpace c.toNat).reverse)

/-- Trims the white space at the end of the last piece, if it is literal text. -/
def trimLastPiece (parts : List TPart) : List TPart :=
  match parts.getLast? with
  | some (.lit s sp) => parts.dropLast ++ [.lit (trimRightSpace s) sp]
  | _ => parts

/-- Joins consecutive literal pieces. -/
def meld : List TPart → List TPart
  | .lit a sa :: .lit b sb :: rest => meld (.lit (a ++ b) (sa.between sb) :: rest)
  | p :: rest => p :: meld rest
  | [] => []
termination_by ps => ps.length

/-- The indentation that the lines of a heredoc share, counted in grapheme clusters, and which
pieces start a line and carry it. Blank lines do not count. -/
def sharedIndent : List TPart → Bool → Option Nat → List Bool → Option Nat × List Bool
  | [], _, least, marks => (least, marks.reverse)
  | p :: rest, atLine, least, marks =>
    let (spaces, adjust) : Option Nat × Bool :=
      if !atLine then (none, false)
      else match p with
        | .lit s _ =>
          let trimmed := trimLeftSpace s
          if trimmed.isEmpty && s.endsWith "\n" then (none, false)
          else
            let lead := (s.toList.take (s.length - trimmed.length)).map Char.toNat
            (some (Text.countFrom none lead), true)
        | _ => (some 0, false)
    let least := match spaces, least with
      | some a, some b => some (min a b)
      | some a, none => some a
      | none, l => l
    let next := match p with
      | .lit s _ => s.endsWith "\n"
      | _ => false
    sharedIndent rest next least (adjust :: marks)

/-- Removes the shared indentation from the lines of a heredoc opened with `<<-`: as many
grapheme clusters as it counts, which may take a mark that follows the last space with it. -/
def flushIndent (parts : List TPart) : List TPart :=
  let (least, marks) := sharedIndent parts true none []
  let n := least.getD 0
  (parts.zip marks).map fun (p, adjust) =>
    match p, adjust with
    | .lit s sp, true =>
      .lit (String.ofList (s.toList.drop (Text.clusterPrefix n (s.toList.map Char.toNat))))
        { sp with start := { sp.start with column := sp.start.column + n } }
    | p, _ => p

/-! ### Directives -/

/-- The expression that stands for a directive that could not be read. -/
def placeholder (sp : Span) : Expr := .literal (.unknown .dynamic) sp

/-- A template of expressions, spanning from the first to the last; with none, the empty string
at `empty`. -/
def templateOf (es : List Expr) (empty : Span) : Expr :=
  match es with
  | [] => .template [.literal (.str "") empty] empty
  | e :: _ => .template es (e.span.between (es.getLastD e).span)

/-- The expression of a branch of an `if` directive: the empty string at `empty` when it has
nothing, else a template of its expressions, so that even one piece is made a string. -/
def branchExpr (es : List Expr) (empty : Span) : Expr :=
  match es with
  | [] => .literal (.str "") empty
  | _ => templateOf es empty

/-- Extra characters after the expression of an interpolation sequence, at `sp`. -/
def extraAfterInterp (sp : Span) : Diagnostic :=
  diag "Extra characters after interpolation expression"
    ("Expected a closing brace to end the interpolation expression, but found extra " ++
      "characters.\n\nThis can happen when you include interpolation syntax for another " ++
      "language, such as shell scripting, but forget to escape the interpolation start " ++
      "token. If this is an embedded sequence for another language, escape it by starting " ++
      "with \"$$\x7b\" instead of just \"$\x7b\".") sp

/-- Why an interpolation sequence of a template that starts at `start` and ends with `stop` is
not closed where `close` stands: the file or the quoted template ends first, a colon follows
the expression, or other characters do. -/
def unclosedInterp (start : Span) (stop : TokenKind) (close : Token) : Diagnostic :=
  match close.kind with
  | .eof => diag "Unclosed template interpolation sequence"
      ("There is no closing brace for this interpolation sequence before the end of the file. " ++
        "This might be caused by incorrect nesting inside the given expression.") start
  | .colon => diag "Extra characters after interpolation expression"
      ("Template interpolation doesn't expect a colon at this location. Did you intend this to " ++
        "be a literal sequence to be processed as part of another language? If so, you can " ++
        "escape it by starting with \"$$\x7b\" instead of just \"$\x7b\".") close.span
  | .cQuote | .oQuote =>
    if stop == .cQuote then
      diag "Unclosed template interpolation sequence"
        ("There is no closing brace for this interpolation sequence before the end of the " ++
          "quoted template. This might be caused by incorrect nesting inside the given expression.")
        start
    else extraAfterInterp close.span
  | _ => extraAfterInterp close.span

mutual

/-- The expression of the first piece of a template and the pieces after it; a directive takes
the pieces up to its closing directive. `stop` is the span of the template's end. -/
def treeItem : Nat → Span → TPart → List TPart → Expr × List Diagnostic × List TPart
  | 0, stop, _, rest => (placeholder stop, [], rest)
  | n + 1, stop, p, rest =>
    match p with
    | .lit s sp => (.literal (.str (Text.compose s)) sp, [], rest)
    | .interp e _ => (e, [], rest)
    | .closer c sp => (placeholder sp, [diag ("Unexpected " ++ c.name ++ " directive")
        "The control directives within this template are unbalanced." sp], rest)
    | .ifOpen cond sp => treeIf n stop cond sp [] [] false [] rest
    | .forOpen k v coll sp => treeFor n stop k v coll sp [] [] rest

/-- The branches of an `if` directive opened at `openSp`, up to its `endif`: a conditional. -/
def treeIf : Nat → Span → Expr → Span → List Expr → List Expr → Bool → List Diagnostic →
    List TPart → Expr × List Diagnostic × List TPart
  | 0, stop, _, _, _, _, _, ds, parts => (placeholder stop, ds, parts)
  | n + 1, stop, cond, openSp, yes, no, inElse, ds, parts =>
    match parts with
    | [] => (placeholder stop, ds ++ [diag "Unexpected end of template"
        ("The if directive at " ++ openSp.text ++ " is missing its corresponding endif directive.")
        stop], [])
    | .closer .otherwise sp :: rest =>
      if inElse then
        (placeholder sp, ds ++ [diag "Unexpected else directive"
          ("Already in the else clause for the if started at " ++ openSp.text ++ ".") sp], rest)
      else treeIf n stop cond openSp yes no true ds rest
    | .closer .endIf sp :: rest =>
      (.conditional cond (branchExpr yes openSp.atStop) (branchExpr no sp.atStart)
        (openSp.between sp), ds, rest)
    | .closer .endFor sp :: rest =>
      (placeholder sp, ds ++ [diag "Unexpected endfor directive"
        ("Expecting an endif directive for the if started at " ++ openSp.text ++ ".") sp], rest)
    | p :: rest =>
      let (e, eds, rest) := treeItem n stop p rest
      if inElse then treeIf n stop cond openSp yes (no ++ [e]) true (ds ++ eds) rest
      else treeIf n stop cond openSp (yes ++ [e]) no false (ds ++ eds) rest

/-- The body of a `for` directive opened at `openSp`, up to its `endfor`: the strings of a `for`
expression over the collection, joined. -/
def treeFor : Nat → Span → Option String → String → Expr → Span → List Expr → List Diagnostic →
    List TPart → Expr × List Diagnostic × List TPart
  | 0, stop, _, _, _, _, _, ds, parts => (placeholder stop, ds, parts)
  | n + 1, stop, k, v, coll, openSp, body, ds, parts =>
    match parts with
    | [] => (placeholder stop, ds ++ [diag "Unexpected end of template"
        ("The for directive at " ++ openSp.text ++ " is missing its corresponding endfor directive.")
        stop], [])
    | .closer .endFor sp :: rest =>
      (.join (.forExpr k v coll none (templateOf body openSp.atStop) none false
        (openSp.between sp) openSp), ds, rest)
    | .closer .otherwise sp :: rest =>
      (placeholder sp, ds ++ [diag "Unexpected else directive"
        "An else clause is not expected for a for directive." sp], rest)
    | .closer .endIf sp :: rest =>
      (placeholder sp, ds ++ [diag "Unexpected endif directive"
        ("Expecting an endfor directive corresponding to the for directive at " ++ openSp.text ++ ".")
        sp], rest)
    | p :: rest =>
      let (e, eds, rest) := treeItem n stop p rest
      treeFor n stop k v coll openSp (body ++ [e]) (ds ++ eds) rest

end

/-- The expressions of a template's pieces, directives nested, with what went wrong. Each piece
costs at most two levels of the fuel, one to read it and one to open its directive, so twice the
number of pieces and two more always suffice. -/
def treeRoot : Nat → Span → List TPart → List Expr → List Diagnostic → List Expr × List Diagnostic
  | 0, _, _, es, ds => (es, ds)
  | _ + 1, _, [], es, ds => (es, ds)
  | n + 1, stop, p :: rest, es, ds =>
    let (e, eds, rest) := treeItem n stop p rest
    treeRoot n stop rest (es ++ [e]) (ds ++ eds)

/-! ### Function names -/

/-- The rest of a function's name after its first part `name`, which spans `sp`: each `::` and
the name after it. Gives the token after the whole name, the whole name and its span, or the
complaint and the span it reaches when a `::` is not followed by a name. -/
def callName : Nat → String → Span → ParseM (Except (Diagnostic × Span) (Token × String × Span))
  | 0, name, sp => do return .ok (← read, name, sp)
  | fuel + 1, name, sp => do
    let t ← read
    if t.kind != .doubleColon then return .ok (t, name, sp)
    let next ← read
    if next.kind != .ident then
      return .error (diag "Missing function name"
        "Function scope resolution symbol :: must be followed by a function name in this scope."
        next.span, next.span)
    callName fuel (name ++ "::" ++ next.text) (sp.between next.span)

/-! ### Splats -/

/-- The complaint about a number step such as `.0.1`, which reads as one fractional number:
indexes chained that way are refused. -/
def legacyIndex (num : Token) (subject : Span) : Option Diagnostic :=
  match num.text.toList.span (· != '.') with
  | (first, _ :: second) => some (diag "Invalid legacy index syntax"
      ("When using the legacy index syntax, chaining two indexes together is not permitted. " ++
        "Use the proper index syntax instead, like [" ++ String.ofList first ++ "][" ++
        String.ofList second ++ "].") subject)
  | _ => none

/-- The attribute and number steps after the star `star` of an attribute-only splat `.*`: the
steps with the span of the last one, or none when a dot is followed by something else, which
abandons the splat. -/
def splatAttrs : Nat → Token → List Step → Span → List Diagnostic →
    ParseM (Option (List Step × Span) × List Diagnostic)
  | 0, _, steps, last, ds => pure (some (steps, last), ds)
  | n + 1, star, steps, last, ds => do
    if (← peek).kind != .dot then return (some (steps, last), ds)
    let dot ← read
    let t ← peek
    match t.kind with
    | .numberLit =>
      let num ← read
      let sp := dot.span.between num.span
      match legacyIndex num star.span with
      | some d => splatAttrs n star (steps ++ [.index (.unknown .dynamic) sp]) num.span (ds ++ [d])
      | none =>
        let (v, d1) := numberValue num
        splatAttrs n star (steps ++ [.index v sp]) num.span (ds ++ d1)
    | .ident =>
      let a ← read
      splatAttrs n star (steps ++ [.attr a.text (dot.span.between a.span)]) a.span ds
    | _ =>
      let quiet ← recovering
      setRecovery
      let d := if t.kind == .star then
          diag "Nested splat expression not allowed"
            "A splat expression (*) cannot be used inside another attribute-only splat expression."
            t.span
        else diag "Invalid attribute name" "An attribute name is required after a dot." star.span
      return (none, if quiet then ds else ds ++ [d])

/-! ### Expressions -/

mutual

/-- An expression. -/
def parseExpr : Nat → ParseM (Parsed Expr)
  | 0 => fuelOut
  | n + 1 => do
    let start ← nextSpan
    let (cond, ds) ← parseBinary n 0
    if (← recovering) && !ds.isEmpty then return (cond, ds)
    let q ← peek
    if q.kind != .question then return (cond, ds)
    let _ ← read
    let (yes, ds2) ← parseExpr n
    let ds := ds ++ ds2
    if (← recovering) && !ds2.isEmpty then return (cond, ds)
    let colon ← peek
    if colon.kind != .colon then
      return (cond, ds ++ [diag "Missing false expression in conditional"
        "The conditional operator (...?...:...) requires a false expression, delimited by a colon."
        colon.span])
    let _ ← read
    let (no, ds3) ← parseExpr n
    let ds := ds ++ ds3
    if (← recovering) && !ds3.isEmpty then return (cond, ds)
    return (.conditional cond yes no (start.between no.span), ds)

/-- Operators of a binding level and tighter. -/
def parseBinary : Nat → Nat → ParseM (Parsed Expr)
  | 0, _ => fuelOut
  | n + 1, level =>
    if level ≥ 6 then parseWithSteps n
    else do
      let (lhs, ds) ← parseBinary n (level + 1)
      if (← recovering) && !ds.isEmpty then return (lhs, ds)
      binaryLoop n level lhs none ds

/-- The operators of one level after a first operand, grouped to the left. -/
def binaryLoop : Nat → Nat → Expr → Option (BinOp × Expr) → List Diagnostic →
    ParseM (Parsed Expr)
  | 0, _, lhs, _, ds => pure (lhs, ds)
  | n + 1, level, lhs, pending, ds => do
    let t ← peek
    match levelOp level t.kind with
    | none =>
      match pending with
      | none => return (lhs, ds)
      | some (op, rhs) => return (.binary op lhs rhs (lhs.span.between rhs.span), ds)
    | some op =>
      let lhs := match pending with
        | none => lhs
        | some (op', rhs) => .binary op' lhs rhs (lhs.span.between rhs.span)
      let _ ← read
      let (rhs, ds2) ← parseBinary n (level + 1)
      let ds := ds ++ ds2
      if (← recovering) && !ds2.isEmpty then return (lhs, ds)
      binaryLoop n level lhs (some (op, rhs)) ds

/-- A term and the steps after it. -/
def parseWithSteps : Nat → ParseM (Parsed Expr)
  | 0 => fuelOut
  | n + 1 => do
    let (term, ds) ← parseTerm n
    let (e, ds2) ← parseSteps n term
    return (e, ds ++ ds2)

/-- The steps after an expression: `.name`, `.0` and `[key]`. -/
def parseSteps : Nat → Expr → ParseM (Parsed Expr)
  | 0, e => pure (e, [])
  | n + 1, e => do
    let t ← peek
    match t.kind with
    | .dot =>
      let dot ← read
      let a ← peek
      match a.kind with
      | .ident =>
        let a ← read
        let sp := dot.span.between a.span
        parseSteps n (addStep e (.attr a.text sp) sp)
      | .numberLit =>
        let num ← read
        let sp := dot.span.between num.span
        match legacyIndex num num.span with
        | some d =>
          let (e', ds) ← parseSteps n (addStep e (.index (.unknown .dynamic) sp) sp)
          return (e', d :: ds)
        | none =>
          let (v, d1) := numberValue num
          let (e', ds) ← parseSteps n (addStep e (.index v sp) sp)
          return (e', d1 ++ ds)
      | .star =>
        let star ← read
        let first ← nextSpan
        let (r, ds) ← splatAttrs n star [] star.span []
        let marker := dot.span.between star.span
        let e' := match r with
          | none => e
          | some (steps, last) =>
            let each := if steps.isEmpty then Expr.item marker
              else .relative (.item marker) steps (first.between last)
            .splat e each (e.span.between last) marker
        let (e'', ds2) ← parseSteps n e'
        return (e'', ds ++ ds2)
      | _ =>
        setRecovery
        let (e', ds) ← parseSteps n e
        return (e', diag "Invalid attribute name" "An attribute name is required after a dot." a.span :: ds)
    | .oBrack =>
      let open_ ← read
      if (← peek).kind == .star then
        let _ ← read
        let close ← read
        let (close, ds) ← if close.kind != .cBrack && !(← recovering) then do
            let c ← recoverTo .cBrack
            pure (c, [diag "Missing close bracket on splat index"
              ("The star for a full splat operator must be immediately followed by a closing " ++
                "bracket (\"]\").") close.span])
          else pure (close, [])
        let marker := open_.span.between close.span
        let (each, ds2) ← parseSteps n (.item marker)
        let (e', ds3) ← parseSteps n (.splat e each (e.span.between each.span) marker)
        return (e', ds ++ ds2 ++ ds3)
      pushNewlines false
      let (key, ds) ← parseExpr n
      let (close, ds) ← if (← recovering) && !ds.isEmpty then do
          let c ← recoverTo .cBrack
          pure (c, ds)
        else do
          let c ← read
          if c.kind != .cBrack && !(← recovering) then
            let c' ← recoverTo .cBrack
            pure (c', ds ++ [diag "Missing close bracket on index"
              "The index operator must end with a closing bracket (\"]\")." c.span])
          else pure (c, ds)
      popNewlines
      let sp := open_.span.between close.span
      let e' := match key with
        | .literal v _ => addStep e (.index v sp) sp
        | .template [.literal v _] _ => addStep e (.index v sp) sp
        | _ => .index e key (e.span.between sp) open_.span sp
      let (e'', ds2) ← parseSteps n e'
      return (e'', ds ++ ds2)
    | _ => pure (e, [])

/-- A term. -/
def parseTerm : Nat → ParseM (Parsed Expr)
  | 0 => fuelOut
  | n + 1 => do
    let start ← peek
    match start.kind with
    | .oParen =>
      let oParen ← read
      pushNewlines false
      let (e, ds) ← parseExpr n
      if !ds.isEmpty then
        let _ ← recoverTo .cParen
        popNewlines
        return (e, ds)
      let close ← peek
      let ds := if close.kind != .cParen then
          ds ++ [diag "Unbalanced parentheses"
            "Expected a closing parenthesis to terminate the expression." close.span]
        else ds
      if close.kind != .cParen then setRecovery
      let cParen ← read
      popNewlines
      return (.parens e (oParen.span.between cParen.span), ds)
    | .numberLit =>
      let t ← read
      let (v, ds) := numberValue t
      return (.literal v t.span, ds)
    | .ident =>
      let t ← read
      let after := (← peek).kind
      if after == .oParen || after == .doubleColon then parseCall n t
      else
        match t.text with
        | "true" => return (.literal (.bool true) t.span, [])
        | "false" => return (.literal (.bool false) t.span, [])
        | "null" => return (.literal (.null .dynamic) t.span, [])
        | name => return (.scope name [] t.span t.span, [])
    | .oQuote | .oHeredoc =>
      let open_ ← read
      let flush := open_.kind == .oHeredoc && open_.text.startsWith "<<-"
      let (exprs, passthru, ds) ← parseTemplate n open_.kind.opposite flush
      let closeSpan ← prevSpan
      let sp := open_.span.between closeSpan
      match passthru, exprs with
      | true, [e] => return (.wrap e sp, ds)
      | _, _ => return (.template exprs sp, ds)
    | .minus =>
      let t ← read
      let (operand, ds) ← parseWithSteps n
      return (.unary .neg operand (t.span.between operand.span) t.span, ds)
    | .bang =>
      let t ← read
      let (operand, ds) ← parseWithSteps n
      return (.unary .not operand (t.span.between operand.span) t.span, ds)
    | .oBrack =>
      let open_ ← read
      pushNewlines false
      if isKeyword "for" (← peek) then
        let r ← parseFor n open_ .cBrack
        popNewlines
        return r
      let (items, close, ds) ← tupleItems n open_ [] []
      popNewlines
      return (.tuple items (open_.span.between close.span) open_.span, ds)
    | .oBrace =>
      let open_ ← read
      -- a `for` after the brace is found whatever newlines stand before it
      pushNewlines false
      let isFor := isKeyword "for" (← peek)
      popNewlines
      if isFor then return ← parseFor n open_ .cBrace
      pushNewlines true
      let (items, close, ds) ← objectItems n open_ [] []
      popNewlines
      return (.object items (open_.span.between close.span) open_.span, ds)
    | _ =>
      let quiet ← recovering
      let ds := if quiet then []
        else if start.kind == .eof then
          [diag "Missing expression" "Expected the start of an expression, but found the end of the file."
            start.span]
        else
          [diag "Invalid expression"
            "Expected the start of an expression, but found an invalid expression token." start.span]
      setRecovery
      return (.literal (.unknown .dynamic) start.span, ds)

/-- A `for` expression after its opening bracket, up to and with the closing bracket of kind
`close`: a brace builds an object, a square bracket a tuple. -/
def parseFor : Nat → Token → TokenKind → ParseM (Parsed Expr)
  | 0, _, _ => fuelOut
  | n + 1, open_, close => do
    pushNewlines false
    let _ ← read
    -- gives up on the expression: skips to the closing bracket, reporting `detail` unless
    -- already recovering or there is nothing to report
    let giveUp (ds : List Diagnostic) (detail : String) : ParseM (Parsed Expr) := do
      let quiet ← recovering
      let at_ ← peek
      let c ← recoverTo close
      popNewlines
      let ds := if quiet || detail.isEmpty then ds
        else ds ++ [diag "Invalid 'for' expression" detail at_.span]
      return (.literal (.unknown .dynamic) (open_.span.between c.span), ds)
    if (← peek).kind != .ident then
      return ← giveUp [] "For expression requires variable name after 'for'."
    let first ← read
    let mut keyVar : Option String := none
    let mut valVar := first.text
    if (← peek).kind == .comma then
      let _ ← read
      if (← peek).kind != .ident then
        return ← giveUp [] "For expression requires value variable name after comma."
      keyVar := some first.text
      valVar := (← read).text
    if !isKeyword "in" (← peek) then
      return ← giveUp [] "For expression requires the 'in' keyword after its name declarations."
    let _ ← read
    let (coll, cds) ← parseExpr n
    if (← recovering) && !cds.isEmpty then return ← giveUp cds ""
    if (← peek).kind != .colon then
      return ← giveUp cds "For expression requires a colon after the collection expression."
    let _ ← read
    let (e1, ds1) ← parseExpr n
    let (key, val, kvds) ← if (← peek).kind == .fatArrow then do
        let _ ← read
        let (e2, ds2) ← parseExpr n
        pure (some e1, e2, ds1 ++ ds2)
      else pure (none, e1, ds1)
    let mut ds := cds ++ kvds
    if (← recovering) && !kvds.isEmpty then return ← giveUp ds ""
    let ell ← peek
    let group := ell.kind == .ellipsis
    if group then
      let _ ← read
    let mut cond : Option Expr := none
    if isKeyword "if" (← peek) then
      let _ ← read
      let (c, cds2) ← parseExpr n
      ds := ds ++ cds2
      if (← recovering) && !cds2.isEmpty then return ← giveUp ds ""
      cond := some c
    let next ← peek
    let closeTok ← if next.kind == close then read
      else do
        let quiet ← recovering
        let c ← recoverTo close
        if !quiet then
          ds := ds ++ [diag "Invalid 'for' expression"
            "Extra characters after the end of the 'for' expression." next.span]
        pure c
    let shape : List Diagnostic :=
      if close == .cBrack then
        (match key with
          | some k => [diag "Invalid 'for' expression"
              "Key expression is not valid when building a tuple." k.span]
          | none => []) ++
        (if group then [diag "Invalid 'for' expression"
            "Grouping ellipsis (...) cannot be used when building a tuple." ell.span] else [])
      else if key.isNone then
        [diag "Invalid 'for' expression" "Key expression is required when building an object." val.span]
      else []
    popNewlines
    return (.forExpr keyVar valVar coll key val cond group (open_.span.between closeTok.span)
      open_.span, ds ++ shape)

/-- A function call after the first part of its name; a name may have parts joined by `::`. -/
def parseCall : Nat → Token → ParseM (Parsed Expr)
  | 0, _ => fuelOut
  | n + 1, name => do
    match ← callName ((← get).tokens.size + 1) name.text name.span with
    | .error (d, sp) =>
      recoverOver .oParen
      return (.literal (.unknown .dynamic) (name.span.between sp), [d])
    | .ok (openTok, fullName, nameSpan) =>
      if openTok.kind != .oParen then
        let d := diag "Missing open parenthesis"
          "Function selector must be followed by an open parenthesis to begin the function call."
          openTok.span
        recoverOver .oParen
        return (.literal (.unknown .dynamic) (name.span.between openTok.span), [d])
      pushNewlines false
      let (args, closeTok, ds) ← callArgs n name openTok [] []
      popNewlines
      return (.call fullName args nameSpan openTok.span (name.span.between closeTok.span), ds)

/-- The arguments of a call, up to and with its closing parenthesis. -/
def callArgs : Nat → Token → Token → List Expr → List Diagnostic →
    ParseM (List Expr × Token × List Diagnostic)
  | 0, _, openTok, args, ds => pure (args, openTok, ds)
  | n + 1, name, openTok, args, ds => do
    let tok ← peek
    if tok.kind == .cParen then
      let c ← read
      return (args, c, ds)
    let (arg, ads) ← parseExpr n
    let args := args ++ [arg]
    let ds := ds ++ ads
    if (← recovering) && !ads.isEmpty then
      let c ← recoverTo .cParen
      return (args, c, ds)
    let sep ← read
    if sep.kind == .cParen then return (args, sep, ds)
    if sep.kind == .ellipsis then
      if (← peek).kind != .cParen then
        let quiet ← recovering
        let c ← recoverTo .cParen
        let ds := if quiet then ds else ds ++ [diag "Missing closing parenthesis"
          "An expanded function argument (with ...) must be immediately followed by closing parentheses."
          sep.span]
        return (args, c, ds)
      let c ← read
      return (args, c, ds)
    if sep.kind != .comma then
      let d := if sep.kind == .eof then
          diag "Unterminated function call"
            ("There is no closing parenthesis for this function call before the end of the file. " ++
              "This may be caused by incorrect parenthesis nesting elsewhere in this file.")
            (name.span.between openTok.span)
        else diag "Missing argument separator"
          "A comma is required to separate each function argument from the next." sep.span
      let c ← recoverTo .cParen
      return (args, c, ds ++ [d])
    if (← peek).kind == .cParen then
      let c ← read
      return (args, c, ds)
    callArgs n name openTok args ds

/-- The items of a tuple, up to and with its closing bracket. -/
def tupleItems : Nat → Token → List Expr → List Diagnostic →
    ParseM (List Expr × Token × List Diagnostic)
  | 0, open_, items, ds => pure (items, open_, ds)
  | n + 1, open_, items, ds => do
    let next ← peek
    if next.kind == .cBrack then
      let c ← read
      return (items, c, ds)
    let (e, eds) ← parseExpr n
    let items := items ++ [e]
    let ds := ds ++ eds
    if (← recovering) && !eds.isEmpty then
      let c ← recoverTo .cBrack
      return (items, c, ds)
    let next ← peek
    if next.kind == .cBrack then
      let c ← read
      return (items, c, ds)
    if next.kind != .comma then
      let quiet ← recovering
      let ds := if quiet then ds
        else if next.kind == .eof then
          ds ++ [diag "Unterminated tuple constructor expression"
            ("There is no corresponding closing bracket before the end of the file. " ++
              "This may be caused by incorrect bracket nesting elsewhere in this file.") open_.span]
        else ds ++ [diag "Missing item separator"
          "Expected a comma to mark the beginning of the next item." next.span]
      let c ← recoverTo .cBrack
      return (items, c, ds)
    let _ ← read
    tupleItems n open_ items ds

/-- The items of an object, up to and with its closing brace. -/
def objectItems : Nat → Token → List (Expr × Expr) → List Diagnostic →
    ParseM (List (Expr × Expr) × Token × List Diagnostic)
  | 0, open_, items, ds => pure (items, open_, ds)
  | n + 1, open_, items, ds => do
    let next ← peek
    if next.kind == .newline then
      let _ ← read
      return ← objectItems n open_ items ds
    if next.kind == .cBrace then
      let c ← read
      return (items, c, ds)
    let force := next.kind == .oParen
    let (k, kds) ← parseExpr n
    let ds := ds ++ kds
    if (← recovering) && !kds.isEmpty then
      let c ← recoverTo .cBrace
      return (items, c, ds)
    let k := Expr.key k force
    let next ← peek
    if next.kind != .equal && next.kind != .colon then
      let quiet ← recovering
      let d := match next.kind with
        | .newline | .comma => diag "Missing attribute value"
          "Expected an attribute value, introduced by an equals sign (\"=\")." next.span
        | .ident => diag "Missing key/value separator"
          ("Expected an equals sign (\"=\") to mark the beginning of the attribute value. If you " ++
            "intended to given an attribute name containing periods or spaces, write the name in " ++
            "quotes to create a string literal.") next.span
        | .eof => diag "Unterminated object constructor expression"
          ("There is no corresponding closing brace before the end of the file. This may be " ++
            "caused by incorrect brace nesting elsewhere in this file.") open_.span
        | _ => diag "Missing key/value separator"
          "Expected an equals sign (\"=\") to mark the beginning of the attribute value." next.span
      let c ← recoverTo .cBrace
      return (items, c, if quiet then ds else ds ++ [d])
    let _ ← read
    let (v, vds) ← parseExpr n
    let ds := ds ++ vds
    if (← recovering) && !vds.isEmpty then
      let c ← recoverTo .cBrace
      return (items, c, ds)
    let items := items ++ [(k, v)]
    let next ← peek
    if next.kind == .cBrace then
      let c ← read
      return (items, c, ds)
    if next.kind != .comma && next.kind != .newline then
      let quiet ← recovering
      let d := if next.kind == .eof then
          diag "Unterminated object constructor expression"
            ("There is no corresponding closing brace before the end of the file. This may be " ++
              "caused by incorrect brace nesting elsewhere in this file.") open_.span
        else diag "Missing attribute separator"
          "Expected a newline or comma to mark the beginning of the next attribute." next.span
      let c ← recoverTo .cBrace
      return (items, c, if quiet then ds else ds ++ [d])
    let _ ← read
    objectItems n open_ items ds

/-- A template after its opening quote or heredoc marker, up to and with its end: the
expressions of its pieces, and whether it is one sequence alone. -/
def parseTemplate : Nat → TokenKind → Bool → ParseM (List Expr × Bool × List Diagnostic)
  | 0, _, _ => pure ([], false, [])
  | n + 1, stop, flush => do
    let startSpan ← nextSpan
    let (parts, endSpan, ds) ← templateParts n startSpan stop false false [] []
    let parts := if parts.isEmpty then [TPart.lit "" startSpan.atStart] else parts
    let parts := meld (if flush then flushIndent parts else parts)
    let (exprs, tds) := treeRoot (2 * parts.length + 2) endSpan parts [] []
    let passthru := match parts with
      | [.interp ..] => true
      | _ => false
    return (exprs, passthru, ds ++ tds)

/-- The directive named by `kw` after the `%{` token `opener`: the piece it stands for with
what reading it found, or why it cannot be read. -/
def directive : Nat → Token → Token → ParseM (Except Diagnostic (TPart × List Diagnostic))
  | 0, _, kw => pure (.error (diag "Expression too deeply nested"
      "The expression nests beyond what can be read." kw.span))
  | n + 1, opener, kw => do
    let invalidFor (detail : String) : ParseM (Except Diagnostic (TPart × List Diagnostic)) := do
      return .error (diag "Invalid 'for' directive" detail (← peek).span)
    match kw.text with
    | "if" =>
      let (c, cds) ← parseExpr n
      return .ok (.ifOpen c (opener.span.between (← nextSpan)), cds)
    | "else" => return .ok (.closer .otherwise (opener.span.between (← nextSpan)), [])
    | "endif" => return .ok (.closer .endIf (opener.span.between (← nextSpan)), [])
    | "endfor" => return .ok (.closer .endFor (opener.span.between (← nextSpan)), [])
    | "for" =>
      if (← peek).kind != .ident then
        return ← invalidFor "For directive requires variable name after 'for'."
      let first ← read
      let mut keyVar : Option String := none
      let mut valVar := first.text
      if (← peek).kind == .comma then
        let _ ← read
        if (← peek).kind != .ident then
          return ← invalidFor "For directive requires value variable name after comma."
        keyVar := some first.text
        valVar := (← read).text
      if !isKeyword "in" (← peek) then
        return ← invalidFor "For directive requires 'in' keyword after names."
      let _ ← read
      let (coll, cds) ← parseExpr n
      return .ok (.forOpen keyVar valVar coll (opener.span.between (← nextSpan)), cds)
    | given =>
      return .error (diag "Invalid template control keyword"
        (Text.quote given ++ " is not a valid template control keyword." ++
          didYouMean given ["if", "for", "else", "endif", "endfor"]) kw.span)

/-- The pieces of a template up to its end, and the span of the end. `start` is the span of the
template's first token, where an unclosed sequence is reported. `trimNext` says that the next
literal loses its leading white space; `canTrim` that the last piece read was literal text. -/
def templateParts : Nat → Span → TokenKind → Bool → Bool → List TPart → List Diagnostic →
    ParseM (List TPart × Span × List Diagnostic)
  | 0, _, _, _, _, parts, ds => do pure (parts, (← peek).span, ds)
  | n + 1, start, stop, trimNext, canTrim, parts, ds => do
    let next ← read
    if next.kind == stop then return (parts, next.span, ds)
    match next.kind with
    | .quotedLit | .stringLit =>
      let (s, sds) := decodeLiteral next (next.kind == .quotedLit)
      let s := if trimNext then trimLeftSpace s else s
      templateParts n start stop false true (parts ++ [.lit s next.span]) (ds ++ sds)
    | .templateInterp =>
      let parts := if canTrim && next.text.length == 3 then trimLastPiece parts else parts
      pushNewlines false
      let (e, eds) ← parseExpr n
      let close ← peek
      let (trim, ds) ← if close.kind != .templateSeqEnd then do
          let quiet ← recovering
          let _ ← recoverTo .templateSeqEnd
          pure (false, if quiet then ds ++ eds else ds ++ eds ++ [unclosedInterp start stop close])
        else do
          let _ ← read
          pure (close.text.startsWith "~", ds ++ eds)
      popNewlines
      templateParts n start stop trim false (parts ++ [.interp e (next.span.between close.span)]) ds
    | .templateControl =>
      let parts := if canTrim && next.text.length == 3 then trimLastPiece parts else parts
      pushNewlines false
      let kw ← peek
      let opened ← if kw.kind != .ident then
          pure (.error (diag "Invalid template directive"
            ("A template directive keyword (\"if\", \"for\", etc) is expected at the beginning " ++
              "of a %\x7b sequence.") kw.span))
        else do
          let _ ← read
          directive n next kw
      match opened with
      | .error d =>
        let quiet ← recovering
        let _ ← recoverTo .templateSeqEnd
        popNewlines
        templateParts n start stop false false parts (if quiet then ds else ds ++ [d])
      | .ok (part, pds) =>
        let ds := ds ++ pds
        let close ← peek
        let (trim, ds) ← if close.kind != .templateSeqEnd then do
            let quiet ← recovering
            let _ ← recoverTo .templateSeqEnd
            pure (false, if quiet then ds else ds ++ [diag ("Extra characters in " ++ kw.text ++ " marker")
              "Expected a closing brace to end the sequence, but found extra characters." close.span])
          else do
            let _ ← read
            pure (close.text.startsWith "~", ds)
        popNewlines
        templateParts n start stop trim false (parts ++ [part]) ds
    | _ =>
      let quiet ← recovering
      let final ← recoverTo stop
      return (parts, final.span, if quiet then ds else ds ++ [diag "Unterminated template string"
        "No closing marker was found for the string." next.span])

end

end Lanes.Config
