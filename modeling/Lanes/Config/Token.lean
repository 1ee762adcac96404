import Lanes.Config.Span

/-!
The tokens of the configuration language, and the diagnostics for tokens that the language
reserves or does not use at all.

A token has a kind, its text and its span. Some kinds exist only to be reported: a lone `&`,
`|`, `^` or `~`, a semicolon, an apostrophe, a backtick, a line break inside a quoted string, and
characters the language has no use for. Each is told once or a few times, in the order the
tokens come.
-/

namespace Lanes.Config

/-- The kinds of tokens. -/
inductive TokenKind where
  | oBrace | cBrace | oBrack | cBrack | oParen | cParen
  | oQuote | cQuote | oHeredoc | cHeredoc
  | star | slash | plus | minus | percent
  | equal | equalOp | notEqual | lessThan | lessThanEq | greaterThan | greaterThanEq
  | and | or | bang | dot | comma | doubleColon | ellipsis | fatArrow | question | colon
  | templateInterp | templateControl | templateSeqEnd
  | quotedLit | stringLit | numberLit | ident | comment | newline | eof
  | bitwiseAnd | bitwiseOr | bitwiseNot | bitwiseXor
  | apostrophe | backtick | semicolon | invalid | quotedNewline
deriving DecidableEq, Repr, Inhabited

/-- A token: its kind, its text and where it stands. -/
structure Token where
  kind : TokenKind
  text : String
  span : Span
deriving Repr, Inhabited

/-- The bracket that closes or opens the one given, for the kinds that come in pairs. -/
def TokenKind.opposite : TokenKind → TokenKind
  | .oBrace => .cBrace
  | .cBrace => .oBrace
  | .oBrack => .cBrack
  | .cBrack => .oBrack
  | .oParen => .cParen
  | .cParen => .oParen
  | .oQuote => .cQuote
  | .cQuote => .oQuote
  | .oHeredoc => .cHeredoc
  | .cHeredoc => .oHeredoc
  | .templateControl => .templateSeqEnd
  | .templateInterp => .templateSeqEnd
  | .templateSeqEnd => .templateInterp
  | _ => .invalid

/-! ### Tokens that are reported -/

/-- How many of each reported kind have been told so far. -/
structure Told where
  bitwise : Nat := 0
  backtick : Nat := 0
  apostrophe : Nat := 0
  semicolon : Nat := 0
deriving Inhabited

/-- A diagnostic about one token. -/
def tokenDiag (t : Token) (summary detail : String) : Diagnostic := ⟨summary, detail, t.span⟩

/-- The diagnostics of one token, given what has been told before it. -/
def checkToken (told : Told) (t : Token) : List Diagnostic × Told :=
  match t.kind with
  | .bitwiseAnd | .bitwiseOr | .bitwiseXor | .bitwiseNot =>
    if told.bitwise < 4 then
      let suggestion := match t.kind with
        | .bitwiseAnd => " Did you mean boolean AND (\"&&\")?"
        | .bitwiseOr => " Did you mean boolean OR (\"||\")?"
        | .bitwiseNot => " Did you mean boolean NOT (\"!\")?"
        | _ => ""
      ([tokenDiag t "Unsupported operator" ("Bitwise operators are not supported." ++ suggestion)],
        { told with bitwise := told.bitwise + 1 })
    else ([], told)
  | .backtick =>
    let ds := if told.backtick % 2 == 0 then
        [tokenDiag t "Invalid character"
          ("The \"" ++ "`" ++ "\" character is not valid. To create a multi-line string, use the " ++
            "\"heredoc\" syntax, like \"<<EOT\".")]
      else []
    (ds, if told.backtick ≤ 2 then { told with backtick := told.backtick + 1 } else told)
  | .apostrophe =>
    let ds := if told.apostrophe % 2 == 0 then
        [tokenDiag t "Invalid character"
          "Single quotes are not valid. Use double quotes (\") to enclose strings."]
      else []
    (ds, if told.apostrophe ≤ 2 then { told with apostrophe := told.apostrophe + 1 } else told)
  | .semicolon =>
    if told.semicolon < 1 then
      ([tokenDiag t "Invalid character"
        ("The \";\" character is not valid. Use newlines to separate arguments and blocks, " ++
          "and commas to separate items in collection values.")],
        { told with semicolon := told.semicolon + 1 })
    else ([], told)
  | .quotedNewline =>
    ([tokenDiag t "Invalid multi-line string"
      ("Quoted strings may not be split over multiple lines. To produce a multi-line string, " ++
        "either use the \\n escape to represent a newline character or use the \"heredoc\" " ++
        "multi-line template syntax.")], told)
  | .invalid =>
    if t.text == "“" || t.text == "”" then
      ([tokenDiag t "Invalid character"
        ("\"Curly quotes\" are not valid here. These can sometimes be inadvertently introduced " ++
          "when sharing code via documents or discussion forums. It might help to replace the " ++
          "character with a \"straight quote\".")], told)
    else
      ([tokenDiag t "Invalid character" "This character is not used within the language."], told)
  | _ => ([], told)

/-- The diagnostics of all tokens, in order. -/
def checkTokens (ts : List Token) : List Diagnostic :=
  let step (acc : List Diagnostic × Told) (t : Token) :=
    let (ds, told) := checkToken acc.2 t
    (acc.1 ++ ds, told)
  (ts.foldl step ([], {})).1

end Lanes.Config
