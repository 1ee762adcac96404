import Lanes.Config.Scan
import Lanes.Text.Quote

/-!
The text of a literal token, with its escapes replaced.

In a quoted string a backslash starts an escape: `\n`, `\r`, `\t`, `\"` and `\\`, `\uXXXX` with
four hexadecimal digits and `\UXXXXXXXX` with eight. In quoted strings and heredocs alike, `$${`
and `%%{` stand for `${` and `%{`. A bad escape is reported with the span of its characters; a
backslash before a letter that selects nothing gives that letter, and other bad escapes are kept
as they were written.
-/

namespace Lanes.Config

/-- Whether a character is a hexadecimal digit. -/
def isHexDigit (c : Char) : Bool :=
  ('0' ≤ c && c ≤ '9') || ('a' ≤ c && c ≤ 'f') || ('A' ≤ c && c ≤ 'F')

/-- The value of hexadecimal digits. -/
def hexValue (cs : List Char) : Nat :=
  cs.foldl (fun acc c =>
    acc * 16 + (if c ≤ '9' then c.toNat - 48 else if c ≤ 'F' then c.toNat - 55 else c.toNat - 87)) 0

/-- A code point as four or more lowercase hexadecimal digits. -/
def hex4 (n : Nat) : String :=
  let ds := Nat.toDigits 16 n
  String.ofList (List.replicate (4 - ds.length) '0' ++ ds)

/-- The next piece of a literal: its characters and, for an escape, what it stands for or what
is wrong with it. -/
inductive Piece where
  | plain
  | escape (replacement : String)
  | bad (detail : String) (keep : String)

/-- Splits off the next piece of a literal. -/
def nextPiece (quoted : Bool) : List Char → List Char × Piece × List Char
  | [] => ([], .plain, [])
  | '\\' :: rest =>
    if !quoted then (['\\'], .plain, rest)
    else match rest with
      | [] => (['\\'], .bad "Backslash must be followed by an escape sequence selector character." "\\", [])
      | 'n' :: r => (['\\', 'n'], .escape "\n", r)
      | 'r' :: r => (['\\', 'r'], .escape "\r", r)
      | 't' :: r => (['\\', 't'], .escape "\t", r)
      | '"' :: r => (['\\', '"'], .escape "\"", r)
      | '\\' :: r => (['\\', '\\'], .escape "\\", r)
      | 'u' :: r => hexEscape 'u' 4 r
      | 'U' :: r => hexEscape 'U' 8 r
      | c :: r =>
        (['\\', c], .bad ("The symbol " ++ Text.quote (String.ofList [c]) ++
          " is not a valid escape sequence selector.") (String.ofList [c]), r)
  | '$' :: '$' :: '{' :: rest => (['$', '$', '{'], .escape "$\x7b", rest)
  | '%' :: '%' :: '{' :: rest => (['%', '%', '{'], .escape "%\x7b", rest)
  | c :: rest => ([c], .plain, rest)
where
  /-- A `\u` or `\U` escape with up to `width` hexadecimal digits. -/
  hexEscape (sel : Char) (width : Nat) (r : List Char) : List Char × Piece × List Char :=
    let ds := (r.takeWhile isHexDigit).take width
    let cs := '\\' :: sel :: ds
    let after := r.drop ds.length
    if ds.length < width then
      (cs, .bad ("The \\" ++ String.ofList [sel] ++ " escape sequence must be followed by " ++
        (if width == 4 then "four" else "eight") ++ " hexadecimal digits.") (String.ofList cs), after)
    else
      let n := hexValue ds
      if (0xD800 ≤ n && n < 0xE000) || n > 0x10FFFF then
        (cs, .bad ("Cannot encode character U+" ++ hex4 n ++ " in UTF-8.") (String.ofList cs), after)
      else (cs, .escape (String.ofList [Char.ofNat n]), after)

/-- The text of a literal token and the diagnostics of its bad escapes. -/
def decodeLiteral (t : Token) (quoted : Bool) : String × List Diagnostic :=
  let rec go : Nat → Pos → List Char → String → List Diagnostic → String × List Diagnostic
    | 0, _, _, out, ds => (out, ds)
    | _ + 1, _, [], out, ds => (out, ds)
    | fuel + 1, pos, cs, out, ds =>
      let (piece, kind, rest) := nextPiece quoted cs
      let stop := advance pos piece
      match kind with
      | .plain => go fuel stop rest (out ++ String.ofList piece) ds
      | .escape r => go fuel stop rest (out ++ r) ds
      | .bad detail keep =>
        go fuel stop rest (out ++ keep)
          (ds ++ [⟨"Invalid escape sequence", detail, ⟨t.span.file, pos, stop⟩⟩])
  let cs := t.text.toList
  go (cs.length + 1) t.span.start cs "" []

end Lanes.Config
