import Lanes.Config.ParseExpr

/-!
Parsing bodies: a file is a body, and so is what stands between a block's braces.

A body item starts with a name. A name followed by `=` is an attribute, which must end its line;
a name followed by labels (quoted strings or names) and `{` is a block. A block whose brace is
followed on the same line by something other than a line break holds a single attribute and
must close on that line. An attribute may be set only once in a body. A body that the file ends
in before its closing brace is reported at its opening brace.

The diagnostics of a text are those of its tokens, followed by those of parsing.
-/

namespace Lanes.Config

/-- What one body item gave. -/
inductive Item where
  | attr (a : Attribute)
  | block (b : BlockHead × Body)
  | none

/-- An empty body at a span. -/
def emptyBody (sp : Span) : Body := .mk [] [] sp

/-- A block label in quotes, its span and its diagnostics; sequences are not allowed in it. -/
def parseLabel : Nat → String → List Diagnostic → ParseM (String × Span × List Diagnostic)
  | 0, out, ds => do return (out, ← prevSpan, ds)
  | n + 1, out, ds => do
    let tok ← read
    match tok.kind with
    | .cQuote => return (out, tok.span, ds)
    | .quotedLit =>
      let (s, sds) := decodeLiteral tok true
      parseLabel n (out ++ s) (ds ++ sds)
    | .templateInterp | .templateControl =>
      let which := if tok.kind == .templateControl then "%" else "$"
      let d := diag "Invalid string literal"
        ("Template sequences are not allowed in this string. To include a literal " ++
          Text.quote which ++ ", double it (as \"" ++ which ++ which ++ "\") to escape it.") tok.span
      let _ ← recoverTo .templateSeqEnd
      parseLabel n (out ++ which ++ "\x7b ... \x7d") (ds ++ [d])
    | .eof =>
      return (out, tok.span, ds ++ [diag "Unterminated string literal"
        "Unable to find the closing quote mark before the end of the file." tok.span])
    | _ =>
      let d := diag "Invalid string literal" "This item is not valid in a string literal." tok.span
      let _ ← recoverTo .cQuote
      return (out, ← prevSpan, ds ++ [d])

/-- An attribute after its name: `=`, the expression, and the end of its line unless it is
the single attribute of a one-line block. -/
def finishAttribute (fuel : Nat) (ident : Token) (singleLine : Bool) : ParseM (Parsed Attribute) := do
  let _ ← read
  let (expr, ds) ← parseExpr fuel
  if (← recovering) && !ds.isEmpty then
    recoverAfterItem
    return (⟨ident.text, expr, ident.span, ident.span⟩, ds)
  let endSpan ← prevSpan
  if singleLine then return (⟨ident.text, expr, ident.span.between endSpan, ident.span⟩, ds)
  let stop ← peek
  if stop.kind != .newline && stop.kind != .eof then
    let quiet ← recovering
    let d := if quiet then []
      else if stop.kind == .comma then
        [diag "Unexpected comma after argument"
          ("Argument definitions must be separated by newlines, not commas. " ++
            "An argument definition must end with a newline.") stop.span]
      else [diag "Missing newline after argument" "An argument definition must end with a newline."
        stop.span]
    recoverAfterItem
    return (⟨ident.text, expr, ident.span.between endSpan, ident.span⟩, ds ++ d)
  let _ ← read
  return (⟨ident.text, expr, ident.span.between endSpan, ident.span⟩, ds)

/-- The body of a one-line block: a single attribute. -/
def parseSingleAttr (fuel : Nat) (oBrace : Token) : ParseM (Parsed Body) := do
  let ident ← read
  if ident.kind != .ident then
    recoverAfterItem
    return (emptyBody oBrace.span, [diag "Argument or block definition required"
      "An argument or block definition is required here." ident.span])
  let next ← peek
  match next.kind with
  | .equal =>
    let (a, ds) ← finishAttribute fuel ident true
    return (.mk [a] [] a.span, ds)
  | .oQuote | .oBrace | .ident =>
    recoverAfterItem
    return (emptyBody oBrace.span, [diag "Argument definition required"
      ("A single-line block definition can contain only a single argument. If you meant to define " ++
        "argument " ++ Text.quote ident.text ++ ", use an equals sign to assign it a value. To " ++
        "define a nested block, place it on a line of its own within its parent block.")
      (ident.span.between next.span)])
  | _ =>
    recoverAfterItem
    return (emptyBody oBrace.span, [diag "Argument or block definition required"
      ("An argument or block definition is required here. To set an argument, use the equals " ++
        "sign \"=\" to introduce the argument value.") ident.span])

mutual

/-- A body up to and with the token that ends it. -/
def parseBody : Nat → TokenKind → ParseM (Parsed Body)
  | 0, _ => do return (emptyBody (← nextSpan), [])
  | n + 1, stop => do
    let startSpan ← prevSpan
    bodyItems n stop startSpan [] [] []

/-- The items of a body, with the attributes and blocks so far. -/
def bodyItems : Nat → TokenKind → Span → List Attribute → List (BlockHead × Body) →
    List Diagnostic → ParseM (Parsed Body)
  | 0, _, startSpan, attrs, blocks, ds => pure (.mk attrs blocks startSpan, ds)
  | n + 1, stop, startSpan, attrs, blocks, ds => do
    let next ← peek
    if next.kind == stop then
      let _ ← read
      return (.mk attrs blocks (startSpan.between next.span), ds)
    match next.kind with
    | .newline =>
      let _ ← read
      bodyItems n stop startSpan attrs blocks ds
    | .ident =>
      let (item, ids) ← parseItem n
      let ds := ds ++ ids
      match item with
      | .block b => bodyItems n stop startSpan attrs (blocks ++ [b]) ds
      | .attr a =>
        match attrs.find? (·.name == a.name) with
        | some existing =>
          bodyItems n stop startSpan attrs blocks (ds ++ [diag "Attribute redefined"
            ("The argument " ++ Text.quote a.name ++ " was already set at " ++
              existing.nameSpan.text ++ ". Each argument may be set only once.") a.nameSpan])
        | none => bodyItems n stop startSpan (attrs ++ [a]) blocks ds
      | .none => bodyItems n stop startSpan attrs blocks ds
    | _ =>
      let bad ← read
      let quiet ← recovering
      let d := if quiet then []
        else match bad.kind with
          | .oQuote => [diag "Invalid argument name" "Argument names must not be quoted." bad.span]
          | .eof => [diag "Unclosed configuration block"
              ("There is no closing brace for this block before the end of the file. This may be " ++
                "caused by incorrect brace nesting elsewhere in this file.") startSpan]
          | _ => [diag "Argument or block definition required"
              "An argument or block definition is required here." bad.span]
      let endSpan ← prevSpan
      let _ ← recoverTo stop
      return (.mk attrs blocks (startSpan.between endSpan), ds ++ d)

/-- A body item: an attribute or a block. -/
def parseItem : Nat → ParseM (Parsed Item)
  | 0 => pure (.none, [])
  | n + 1 => do
    let ident ← read
    if ident.kind != .ident then
      recoverAfterItem
      return (.none, [diag "Argument or block definition required"
        "An argument or block definition is required here." ident.span])
    let next ← peek
    match next.kind with
    | .equal =>
      let (a, ds) ← finishAttribute n ident false
      return (.attr a, ds)
    | .oQuote | .oBrace | .ident => finishBlock n ident [] [] []
    | _ =>
      recoverAfterItem
      return (.none, [diag "Argument or block definition required"
        ("An argument or block definition is required here. To set an argument, use the equals " ++
          "sign \"=\" to introduce the argument value.") ident.span])

/-- A block after its type: its labels, its body, and the end of its line. -/
def finishBlock : Nat → Token → List String → List Span → List Diagnostic → ParseM (Parsed Item)
  | 0, _, _, _, ds => pure (.none, ds)
  | n + 1, ident, labels, spans, ds => do
    let tok ← peek
    match tok.kind with
    | .oQuote =>
      let _ ← read
      let (label, sp, lds) ← parseLabel ((← get).tokens.size + 1) "" []
      finishBlock n ident (labels ++ [label]) (spans ++ [tok.span.between sp]) (ds ++ lds)
    | .ident =>
      let _ ← read
      finishBlock n ident (labels ++ [tok.text]) (spans ++ [tok.span]) ds
    | .oBrace =>
      let oBrace ← read
      let nk := (← peek).kind
      let (body, bds, extra) ← if nk == .newline || nk == .eof || nk == .cBrace then do
          let (b, bds) ← parseBody n .cBrace
          pure (b, bds, [])
        else do
          let (b, bds) ← parseSingleAttr n oBrace
          let after ← peek
          match after.kind with
          | .cBrace =>
            let _ ← read
            pure (b, bds, [])
          | .comma =>
            let _ ← recoverTo .cBrace
            pure (b, bds, [diag "Invalid single-argument block definition"
              ("Single-line block syntax can include only one argument definition. To define " ++
                "multiple arguments, use the multi-line block syntax with one argument definition " ++
                "per line.") after.span])
          | .newline =>
            let _ ← recoverTo .cBrace
            pure (b, bds, [diag "Invalid single-argument block definition"
              ("An argument definition on the same line as its containing block creates a " ++
                "single-line block definition, which must also be closed on the same line. Place " ++
                "the block's closing brace immediately after the argument definition.") after.span])
          | _ =>
            let quiet ← recovering
            let d := if quiet then []
              else if after.kind == .eof then
                [diag "Unclosed configuration block"
                  ("There is no closing brace for this block before the end of the file. This may " ++
                    "be caused by incorrect brace nesting elsewhere in this file.") oBrace.span]
              else [diag "Invalid single-argument block definition"
                ("A single-line block definition must end with a closing brace immediately after " ++
                  "its single argument definition.") after.span]
            let _ ← recoverTo .cBrace
            pure (b, bds, d)
      let ds := ds ++ extra ++ bds
      let eol ← peek
      let ds ← if eol.kind == .newline || eol.kind == .eof then do
          let _ ← read
          pure ds
        else do
          let quiet ← recovering
          recoverAfterItem
          pure (if quiet then ds else ds ++ [diag "Missing newline after block definition"
            "A block definition must end with a newline." eol.span])
      return (.block (⟨ident.text, labels, ident.span, spans, oBrace.span⟩, body), ds)
    | _ =>
      let d := match tok.kind with
        | .equal => [diag "Invalid block definition"
            ("The equals sign \"=\" indicates an argument definition, and must not be used when " ++
              "defining a block.") tok.span]
        | .newline => [diag "Invalid block definition"
            ("A block definition must have block content delimited by \"\x7b\" and \"\x7d\", " ++
              "starting on the same line as the block header.") tok.span]
        | _ => []
      let quiet ← recovering
      let d := if d.isEmpty && !quiet then [diag "Invalid block definition"
          "Either a quoted string block label or an opening brace (\"\x7b\") is expected here." tok.span]
        else d
      recoverAfterItem
      return (.block (⟨ident.text, labels, ident.span, spans, ident.span⟩, emptyBody ident.span),
        ds ++ d)

end

/-- The text after a byte-order mark that opens it; positions count from after the mark. -/
def dropByteOrderMark (src : String) : String :=
  if src.startsWith "\uFEFF" then String.ofList (src.toList.drop 1) else src

/-- The body of a configuration text and its diagnostics: those of its tokens first. A
byte-order mark at the very start is not part of the text. -/
def parseConfig (file src : String) : Body × List Diagnostic :=
  let tokens := scan file (dropByteOrderMark src)
  let lexed := checkTokens tokens.toList
  let ((body, ds), _) := (parseBody (24 * (tokens.size + 4)) .eof).run ⟨tokens, 0, [true], false⟩
  (body, lexed ++ ds)

end Lanes.Config
