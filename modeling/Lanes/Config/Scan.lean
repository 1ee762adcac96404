import Lanes.Config.Token
import Lanes.Text.Space
import Lanes.Text.Graphemes
import Lanes.Config.NameTables

/-!
The scanner of the configuration language: a text becomes tokens, each with its span.

The scanner has three modes. In the main mode it reads names, numbers, operators, brackets,
comments and line breaks; blanks between tokens are skipped. A double quote opens a quoted
string, read in the quoted mode as runs of text, `${` and `%{` openers and the closing quote; a
line break inside it is a token of its own, reported later. `<<EOT` followed by a line break
opens a heredoc, read line by line until a line that holds only its marker. An opener `${` or
`%{` returns to the main mode until its matching `}`, which is told apart from a block's `}` by
counting braces.

Columns count the grapheme clusters of each token, a cluster never reaching from one token into
the next; a line break, alone or after a carriage return, starts the next line at column one.
-/

namespace Lanes.Config

/-! ### Characters -/

/-- Whether a character is a decimal digit. -/
def isDigit (c : Char) : Bool := '0' ≤ c && c ≤ '9'

/-- Whether `n` lies in one of the runs of a table between `lo` and `hi`, halving each step. -/
def inRuns (t : Array UInt64) (n : Nat) : Nat → Nat → Nat → Bool
  | 0, _, _ => false
  | fuel + 1, lo, hi =>
    if lo < hi then
      let mid := (lo + hi) / 2
      let x := t.getD mid 0
      if n < (x >>> 21).toNat then inRuns t n fuel lo mid
      else if (x &&& 0x1FFFFF).toNat < n then inRuns t n fuel (mid + 1) hi
      else true
    else false

/-- Whether a character may start a name: a letter or an underscore. -/
def isNameStart (c : Char) : Bool :=
  ('a' ≤ c && c ≤ 'z') || ('A' ≤ c && c ≤ 'Z') || c == '_' ||
    (c.toNat ≥ 0x80 && inRuns nameStartRuns c.toNat 64 0 nameStartRuns.size)

/-- Whether a character may continue a name: a letter, a digit, an underscore, a dash, or a mark
or connector that continues names. -/
def isNameChar (c : Char) : Bool :=
  isNameStart c || isDigit c || c == '-' ||
    (c.toNat ≥ 0x80 && inRuns nameRuns c.toNat 64 0 nameRuns.size)

/-- The token kind of a character that stands for itself. -/
def selfKind? : Char → Option TokenKind
  | '[' => some .oBrack
  | ']' => some .cBrack
  | '(' => some .oParen
  | ')' => some .cParen
  | '.' => some .dot
  | ',' => some .comma
  | '*' => some .star
  | '/' => some .slash
  | '%' => some .percent
  | '+' => some .plus
  | '-' => some .minus
  | '=' => some .equal
  | '<' => some .lessThan
  | '>' => some .greaterThan
  | '!' => some .bang
  | '?' => some .question
  | ':' => some .colon
  | '&' => some .bitwiseAnd
  | '|' => some .bitwiseOr
  | '~' => some .bitwiseNot
  | '^' => some .bitwiseXor
  | ';' => some .semicolon
  | '`' => some .backtick
  | '\'' => some .apostrophe
  | _ => none

/-- The token kind of a two-character operator. -/
def pairKind? : Char → Char → Option TokenKind
  | '=', '=' => some .equalOp
  | '!', '=' => some .notEqual
  | '>', '=' => some .greaterThanEq
  | '<', '=' => some .lessThanEq
  | '&', '&' => some .and
  | '|', '|' => some .or
  | ':', ':' => some .doubleColon
  | '=', '>' => some .fatArrow
  | _, _ => none

/-! ### Positions -/

/-- The position after a token's characters, given what the cluster before them says; none at
the start of a token or of a line, where a cluster always starts. -/
def advanceFrom (p : Pos) (s : Option Text.ClusterState) : List Char → Pos
  | [] => p
  | '\r' :: '\n' :: rest => advanceFrom ⟨p.line + 1, 1⟩ none rest
  | '\n' :: rest => advanceFrom ⟨p.line + 1, 1⟩ none rest
  | c :: rest =>
    let (fresh, s') := Text.ClusterState.after s (Text.graphemeOf c.toNat)
    advanceFrom ⟨p.line, if fresh then p.column + 1 else p.column⟩ (some s') rest

/-- The position after some characters. -/
def advance (p : Pos) (cs : List Char) : Pos := advanceFrom p none cs

/-! ### Pieces of text -/

/-- The characters after a number's first digit: digits, dots, and exponents with an optional
sign, each exponent followed by a digit. -/
def numberTail : List Char → List Char × List Char
  | [] => ([], [])
  | c :: rest =>
    if isDigit c || c == '.' then
      let (a, r) := numberTail rest
      (c :: a, r)
    else if c == 'e' || c == 'E' then
      match rest with
      | d :: rest' =>
        if isDigit d then
          let (a, r) := numberTail rest'
          (c :: d :: a, r)
        else if d == '+' || d == '-' then
          match rest' with
          | e :: rest'' =>
            if isDigit e then
              let (a, r) := numberTail rest''
              (c :: d :: e :: a, r)
            else ([], c :: rest)
          | [] => ([], c :: rest)
        else ([], c :: rest)
      | [] => ([], c :: rest)
    else ([], c :: rest)

/-- A number token's characters and what follows: as many number characters as there are, less
the dots at the end. -/
def numberPiece (first : Char) (rest : List Char) : List Char × List Char :=
  let (tail, after) := numberTail rest
  let full := first :: tail
  let kept := (full.reverse.dropWhile (· == '.')).reverse
  (kept, full.drop kept.length ++ after)

/-- A comment running to the end of its line, the line break included. -/
def lineComment : List Char → List Char × List Char
  | [] => ([], [])
  | '\n' :: rest => (['\n'], rest)
  | c :: rest =>
    let (a, r) := lineComment rest
    (c :: a, r)

/-- A block comment's characters after its opening, through the first `*/`, if there is one. -/
def blockComment : List Char → Option (List Char × List Char)
  | [] => none
  | '*' :: '/' :: rest => some (['*', '/'], rest)
  | c :: rest => (blockComment rest).map fun (a, r) => (c :: a, r)

/-- A run of text inside a quoted string: up to a quote, a line break, a lone backslash before
a line break, or an opener `${` or `%{`. A backslash takes the character after it, and `$${` and
`%%{` are text. -/
def quotedRun : List Char → List Char × List Char
  | [] => ([], [])
  | '"' :: rest => ([], '"' :: rest)
  | '\n' :: rest => ([], '\n' :: rest)
  | '\r' :: rest => ([], '\r' :: rest)
  | '\\' :: c :: rest =>
    if c == '\n' || c == '\r' then ([], '\\' :: c :: rest)
    else
      let (a, r) := quotedRun rest
      ('\\' :: c :: a, r)
  | ['\\'] => ([], ['\\'])
  | '$' :: '{' :: rest => ([], '$' :: '{' :: rest)
  | '%' :: '{' :: rest => ([], '%' :: '{' :: rest)
  | '$' :: '$' :: '{' :: rest =>
    let (a, r) := quotedRun rest
    ('$' :: '$' :: '{' :: a, r)
  | '%' :: '%' :: '{' :: rest =>
    let (a, r) := quotedRun rest
    ('%' :: '%' :: '{' :: a, r)
  | c :: rest =>
    let (a, r) := quotedRun rest
    (c :: a, r)

/-- A run of heredoc text: up to an opener, or through the end of the line. The flag says
whether the run ends a line. -/
def heredocRun : List Char → List Char × List Char × Bool
  | [] => ([], [], false)
  | '\n' :: rest => (['\n'], rest, true)
  | '$' :: '{' :: rest => ([], '$' :: '{' :: rest, false)
  | '%' :: '{' :: rest => ([], '%' :: '{' :: rest, false)
  | '$' :: '$' :: '{' :: rest =>
    let (a, r, e) := heredocRun rest
    ('$' :: '$' :: '{' :: a, r, e)
  | '%' :: '%' :: '{' :: rest =>
    let (a, r, e) := heredocRun rest
    ('%' :: '%' :: '{' :: a, r, e)
  | c :: rest =>
    let (a, r, e) := heredocRun rest
    (c :: a, r, e)

/-- The characters without white space at either end. -/
def trimSpace (cs : List Char) : List Char :=
  let blank (c : Char) := Text.isSpace c.toNat
  ((cs.dropWhile blank).reverse.dropWhile blank).reverse

/-- A heredoc opener after `<<`: an optional dash, a name and a line break; gives the whole
opener after `<<`, the marker, and what follows. -/
def heredocOpener (cs : List Char) : Option (List Char × String × List Char) :=
  let (dash, r1) := match cs with
    | '-' :: r => (['-'], r)
    | r => ([], r)
  match r1 with
  | c :: r2 =>
    if isNameStart c then
      let name := c :: r2.takeWhile isNameChar
      let r3 := r2.dropWhile isNameChar
      match r3 with
      | '\n' :: r4 => some (dash ++ name ++ ['\n'], String.ofList name, r4)
      | '\r' :: '\n' :: r4 => some (dash ++ name ++ ['\r', '\n'], String.ofList name, r4)
      | _ => none
    else none
  | [] => none

/-! ### The scanner -/

/-- What the scanner is reading. -/
inductive Mode where
  | main
  | quoted
  /-- A heredoc with its end marker, and whether the scanner stands at the start of a line. -/
  | heredoc (marker : String) (startOfLine : Bool)
deriving Inhabited

/-- The scanner's state: where it is, the brace count and the counts at which open `${` and
`%{` close, the modes it has entered, and the tokens so far. -/
structure Scanner where
  file : String
  pos : Pos
  braces : Int
  closers : List Int
  modes : List Mode
  tokens : Array Token

namespace Scanner

/-- Adds a token of some characters at the current position. -/
def emit (s : Scanner) (kind : TokenKind) (cs : List Char) : Scanner :=
  let stop := advance s.pos cs
  { s with pos := stop, tokens := s.tokens.push ⟨kind, String.ofList cs, ⟨s.file, s.pos, stop⟩⟩ }

/-- The mode being read. -/
def mode (s : Scanner) : Mode := s.modes.headD .main

/-- Enters a mode. -/
def enter (s : Scanner) (m : Mode) : Scanner := { s with modes := m :: s.modes }

/-- Leaves the current mode. -/
def leave (s : Scanner) : Scanner := { s with modes := s.modes.drop 1 }

/-- Marks the heredoc being read as standing, or not, at the start of a line. -/
def setLineStart (s : Scanner) (b : Bool) : Scanner :=
  match s.modes with
  | .heredoc m _ :: rest => { s with modes := .heredoc m b :: rest }
  | _ => s

/-- Opens `${` or `%{`: the opener's token, one more brace, and the main mode until it closes. -/
def openSequence (s : Scanner) (kind : TokenKind) (lead : Char) (rest : List Char) :
    Scanner × List Char :=
  let (cs, after) := match rest with
    | '~' :: r => ([lead, '{', '~'], r)
    | r => ([lead, '{'], r)
  let s := (s.setLineStart false).emit kind cs
  let braces := s.braces + 1
  ({ s with braces, closers := braces :: s.closers }.enter .main, after)

/-- A closing brace: it ends an open `${` or `%{` when the brace count is the one it opened at,
and a block or object otherwise. `~}` always gives the end of a sequence. -/
def closeBrace (s : Scanner) (cs : List Char) (sequenceAlways : Bool) : Scanner :=
  if s.closers.head? = some s.braces then
    let s := s.emit .templateSeqEnd cs
    { s with braces := s.braces - 1, closers := s.closers.drop 1 }.leave
  else
    let s := s.emit (if sequenceAlways then .templateSeqEnd else .cBrace) cs
    { s with braces := s.braces - 1 }

/-- One step in the main mode; it reads at least one character. -/
def stepMain (s : Scanner) (c : Char) (rest : List Char) : Scanner × List Char :=
  if c == ' ' || c == '\t' then
    let n := (rest.takeWhile fun d => d == ' ' || d == '\t').length
    ({ s with pos := { s.pos with column := s.pos.column + n + 1 } }, rest.drop n)
  else if isDigit c then
    let (cs, after) := numberPiece c rest
    (s.emit .numberLit cs, after)
  else if isNameStart c then
    let name := c :: rest.takeWhile isNameChar
    (s.emit .ident name, rest.dropWhile isNameChar)
  else if c == '#' then
    let (cs, after) := lineComment rest
    (s.emit .comment (c :: cs), after)
  else if c == '\n' then (s.emit .newline ['\n'], rest)
  else
    match c, rest with
    | '/', '/' :: r =>
      let (cs, after) := lineComment r
      (s.emit .comment ('/' :: '/' :: cs), after)
    | '/', '*' :: r =>
      match blockComment r with
      | some (cs, after) => (s.emit .comment ('/' :: '*' :: cs), after)
      | none => (s.emit .slash ['/'], rest)
    | '\r', '\n' :: r => (s.emit .newline ['\r', '\n'], r)
    | '.', '.' :: '.' :: r => (s.emit .ellipsis ['.', '.', '.'], r)
    | '<', '<' :: r =>
      match heredocOpener r with
      | some (cs, marker, after) => ((s.emit .oHeredoc ('<' :: '<' :: cs)).enter (.heredoc marker true), after)
      | none => (s.emit .lessThan ['<'], rest)
    | '{', _ => ({ s.emit .oBrace ['{'] with braces := s.braces + 1 }, rest)
    | '}', _ => (s.closeBrace ['}'] false, rest)
    | '~', '}' :: r => (s.closeBrace ['~', '}'] true, r)
    | '"', _ => ((s.emit .oQuote ['"']).enter .quoted, rest)
    | _, d :: r =>
      match pairKind? c d with
      | some k => (s.emit k [c, d], r)
      | none =>
        match selfKind? c with
        | some k => (s.emit k [c], rest)
        | none => (s.emit .invalid [c], rest)
    | _, [] =>
      match selfKind? c with
      | some k => (s.emit k [c], rest)
      | none => (s.emit .invalid [c], rest)

/-- One step in a quoted string; it reads at least one character. -/
def stepQuoted (s : Scanner) (c : Char) (rest : List Char) : Scanner × List Char :=
  match c, rest with
  | '$', '{' :: r => s.openSequence .templateInterp '$' r
  | '%', '{' :: r => s.openSequence .templateControl '%' r
  | '"', _ => ((s.emit .cQuote ['"']).leave, rest)
  | _, _ =>
    if c == '\n' || c == '\r' then
      let n := (rest.takeWhile fun d => d == '\n' || d == '\r').length
      (s.emit .quotedNewline (c :: rest.take n), rest.drop n)
    else
      match quotedRun (c :: rest) with
      | ([], _) => (s.emit .invalid [c], rest)
      | (cs, after) => (s.emit .quotedLit cs, after)

/-- One step in a heredoc; it reads at least one character. A line that holds only the marker
gives the heredoc's end and then its line break. -/
def stepHeredoc (s : Scanner) (marker : String) (lineStart : Bool) (c : Char) (rest : List Char) :
    Scanner × List Char :=
  match c, rest with
  | '$', '{' :: r => s.openSequence .templateInterp '$' r
  | '%', '{' :: r => s.openSequence .templateControl '%' r
  | _, _ =>
    match heredocRun (c :: rest) with
    | ([], _, _) => (s.emit .invalid [c], rest)
    | (cs, after, true) =>
      let body := cs.dropLast
      let (line, brk) := if body.getLast? = some '\r' then (body.dropLast, ['\r', '\n'])
        else (body, ['\n'])
      if lineStart && String.ofList (trimSpace line) == marker then
        (((s.emit .cHeredoc line).emit .newline brk).leave, after)
      else ((s.emit .stringLit cs).setLineStart true, after)
    | (cs, after, false) => ((s.emit .stringLit cs).setLineStart false, after)

/-- One step of the scanner in its current mode. -/
def step (s : Scanner) (c : Char) (rest : List Char) : Scanner × List Char :=
  match s.mode with
  | .main => s.stepMain c rest
  | .quoted => s.stepQuoted c rest
  | .heredoc marker lineStart => s.stepHeredoc marker lineStart c rest

/-- Runs the scanner over the characters; each step reads at least one, so the fuel is the
number of characters. -/
def run : Nat → Scanner → List Char → Scanner
  | 0, s, _ => s
  | _ + 1, s, [] => s
  | fuel + 1, s, c :: rest =>
    let (s', after) := s.step c rest
    run fuel s' after

end Scanner

/-- The tokens of a text, ending with the end-of-file token. -/
def scan (file : String) (src : String) : Array Token :=
  let cs := src.toList
  let s := Scanner.run (cs.length + 1) ⟨file, ⟨1, 1⟩, 0, [], [], #[]⟩ cs
  s.tokens.push ⟨.eof, "", ⟨file, s.pos, s.pos⟩⟩

end Lanes.Config
