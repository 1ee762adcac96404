import Lanes.Config.Token

/-!
The token stream as the parser reads it.

Comments are never seen. Line breaks are seen or skipped depending on where the parser is:
they end attributes and blocks in a body, but inside brackets they are only spacing, so the
parser keeps a stack of whether to see them. A comment that runs to the end of its line is seen
as the line break it ends with.

Once the parser has met an error it is in recovery: it skips ahead to a point where parsing can
go on, and reports no further errors of the kinds that recovery would cause.
-/

namespace Lanes.Config

/-- The parser's place in the tokens: the next index, whether line breaks are seen, and whether
it is recovering from an error. -/
structure Parser where
  tokens : Array Token
  next : Nat
  newlines : List Bool
  recovery : Bool

/-- Parsing steps. -/
abbrev ParseM := StateM Parser

namespace Parser

/-- Whether line breaks are seen. -/
def seesNewlines (p : Parser) : Bool := p.newlines.headD true

/-- The last token, which ends the file. -/
def lastToken (p : Parser) : Token := p.tokens.back?.getD default

/-- The next visible token from index `i` on, with the index after it. -/
def seek (p : Parser) : Nat → Nat → Token × Nat
  | 0, _ => (p.lastToken, p.tokens.size)
  | fuel + 1, i =>
    match p.tokens[i]? with
    | none => (p.lastToken, p.tokens.size)
    | some t =>
      match t.kind with
      | .comment =>
        if p.seesNewlines && t.text.endsWith "\n" then ({ t with kind := .newline, text := "\n" }, i + 1)
        else seek p fuel (i + 1)
      | .newline => if p.seesNewlines then (t, i + 1) else seek p fuel (i + 1)
      | _ => (t, i + 1)

/-- The next visible token and the index after it. -/
def ahead (p : Parser) : Token × Nat := p.seek (p.tokens.size + 1) p.next

end Parser

/-- The next token, left in place. -/
def peek : ParseM Token := do
  return (← get).ahead.1

/-- The next token, taken. -/
def read : ParseM Token := do
  let p ← get
  let (t, i) := p.ahead
  set { p with next := i }
  return t

/-- The span of the next token. -/
def nextSpan : ParseM Span := do
  return (← peek).span

/-- The span of the token taken last. -/
def prevSpan : ParseM Span := do
  let p ← get
  if p.next = 0 then nextSpan
  else return (p.tokens[p.next - 1]?.getD p.lastToken).span

/-- Starts seeing or skipping line breaks. -/
def pushNewlines (b : Bool) : ParseM Unit :=
  modify fun p => { p with newlines := b :: p.newlines }

/-- Goes back to how line breaks were treated before. -/
def popNewlines : ParseM Unit :=
  modify fun p => { p with newlines := p.newlines.drop 1 }

/-- Whether the parser is recovering from an error. -/
def recovering : ParseM Bool := do
  return (← get).recovery

/-- Enters recovery. -/
def setRecovery : ParseM Unit :=
  modify fun p => { p with recovery := true }

/-- Skips to the token of kind `stop` that closes the current bracket, counting nested pairs of
the same bracket, and takes it; the end of the file stops the search too. -/
def recoverTo (stop : TokenKind) : ParseM Token := do
  setRecovery
  let opener := stop.opposite
  let rec go : Nat → Nat → ParseM Token
    | 0, _ => read
    | fuel + 1, nest => do
      let t ← read
      let kind := if stop == .templateSeqEnd && t.kind == .templateControl then .templateInterp
        else t.kind
      if kind == .eof then return t
      else if kind == stop then
        if nest < 1 then return t else go fuel (nest - 1)
      else if kind == opener then go fuel (nest + 1)
      else go fuel nest
  go ((← get).tokens.size + 1) 0

/-- Skips to the next bracket opened by `start`, then past the bracket that closes it; the end of
the file stops the search too. -/
def recoverOver (start : TokenKind) : ParseM Unit := do
  let rec go : Nat → ParseM Unit
    | 0 => pure ()
    | fuel + 1 => do
      let t ← read
      if t.kind == start || t.kind == .eof then pure () else go fuel
  go ((← get).tokens.size + 1)
  let _ ← recoverTo start.opposite

/-- Skips to the start of the next body item: past the next line break that is outside any
bracket opened meanwhile, or to the end of the file. -/
def recoverAfterItem : ParseM Unit := do
  setRecovery
  let rec go : Nat → List TokenKind → ParseM Unit
    | 0, _ => pure ()
    | fuel + 1, open_ => do
      let t ← read
      match t.kind with
      | .newline => if open_.isEmpty then pure () else go fuel open_
      | .eof => pure ()
      | .oBrace | .oBrack | .oParen | .oQuote | .oHeredoc | .templateInterp | .templateControl =>
        go fuel (t.kind :: open_)
      | .cBrace | .cBrack | .cParen | .cQuote | .cHeredoc =>
        let opener := t.kind.opposite
        let rest := open_.dropWhile (· != opener)
        go fuel (rest.drop 1)
      | .templateSeqEnd =>
        let rest := open_.dropWhile fun k => k != .templateInterp && k != .templateControl
        go fuel (rest.drop 1)
      | _ => go fuel open_
  go ((← get).tokens.size + 1) []

end Lanes.Config
