import Lanes.Cli.Flags
import Lanes.Text.Letters
import Lanes.Numeral.Floating

/-!
Profile files: the text form of a profile.

A profile file is a list of clauses. `param inst key = value` gives one parameter of the
instance `inst`, and `param inst ( key = value ... )` gives several, with semicolons between
them if wanted; `instance name parent` declares an instance derived from another, optionally
followed by a block of parameters like the one of `param`. A value is a whole number, a
floating-point number, a quoted or back-quoted text, `true` or `false`, or the name of an
instance. Between clauses, any token other than a name is passed over.

The text is cut into tokens first. Spaces, tabs and line breaks separate tokens, and comments
run from `//` to the end of the line or from `/*` to `*/`. A name starts with a letter and goes
on with letters, decimal digits, underscores, slashes and hyphens. A number starts with a
decimal digit, or with a dot before one, and takes the digits, base prefix, point and exponent
of a numeral. Texts run to their closing quote, or to the end of the line when it is missing.
Every other character is a token of its own.

Cutting tokens can warn without stopping: a numeral with a digit too large for its base,
without digits, with a misplaced underscore, point or exponent; a text or comment left open;
an escape that is not one; a character literal that does not hold one character; a NUL
character. Each warning is written as `file:line:column: message` at the place of the token
or comment being read, as the token is read.

Reading stops at the first token that does not fit, and the error names its place as
`file:line:column`, both counted from one, columns in characters. A name where a clause should
start is an unrecognized clause; a missing name is expected; a token that cannot be a value is
not one; any other misplaced token is unexpected, and is named by its kind (`Ident`, `Int`,
`Float`, `Char`, `String`, `RawString`, `EOF`) or, for a single character, by the character
quoted. Only the warnings of the tokens read up to that point are written.

Main statement: a file with nothing but spaces holds no clauses and gives no warnings
(`readProfileFile_blank`).
-/

namespace Lanes.Cli

/-! ### Tokens -/

/-- A token of a profile file, with its text. -/
inductive Token where
  | ident (s : String)
  | int (s : String)
  | float (s : String)
  | char (s : String)
  | str (s : String)
  | raw (s : String)
  | other (c : Char)
  | eof
  deriving DecidableEq, Repr, Inhabited

/-- How an error names a token: its kind, or a single character quoted. -/
def Token.describe : Token → String
  | .ident _ => "Ident"
  | .int _ => "Int"
  | .float _ => "Float"
  | .char _ => "Char"
  | .str _ => "String"
  | .raw _ => "RawString"
  | .other c => Text.quote (String.singleton c)
  | .eof => "EOF"

/-- A place in a file: line and column, both from one. Line zero is before the text. -/
structure Place where
  line : Nat
  column : Nat
  deriving DecidableEq, Repr, Inhabited

/-- How an error names a place in the file `file`. -/
def Place.text (file : String) (p : Place) : String :=
  if p.line > 0 then file ++ ":" ++ toString p.line ++ ":" ++ toString p.column else file

/-- Whether a place comes no later than another. -/
def Place.atMost (p q : Place) : Bool :=
  p.line < q.line || (p.line == q.line && p.column ≤ q.column)

/-- What is left of a file to read: the characters, the line, how many characters of it were
read, and whether any character was read at all. -/
structure Reader where
  rest : List Char
  line : Nat
  column : Nat
  started : Bool

/-- The reader after one more character. -/
def Reader.step (r : Reader) : Reader :=
  match r.rest with
  | [] => r
  | c :: rest =>
    if c = '\n' then ⟨rest, r.line + 1, 0, true⟩ else ⟨rest, r.line, r.column + 1, true⟩

/-- The reader after `n` more characters. -/
def Reader.skip (r : Reader) : Nat → Reader
  | 0 => r
  | n + 1 => (r.step).skip n

/-- The place of the next character, or of the end of the text. -/
def Reader.place (r : Reader) : Place :=
  if r.started || !r.rest.isEmpty then ⟨r.line, r.column + 1⟩ else ⟨0, 0⟩

/-- Whether a character separates tokens. -/
def isBlank (c : Char) : Bool := c = ' ' || c = '\t' || c = '\n' || c = '\r'

/-- Whether a character is an ASCII decimal digit. -/
def isAsciiDigit (c : Char) : Bool := '0' ≤ c && c ≤ '9'

/-- Whether a character is an ASCII hexadecimal digit. -/
def isAsciiHex (c : Char) : Bool := isAsciiDigit c || ('a' ≤ lowerChar c && lowerChar c ≤ 'f')

/-- Whether a character may start a name. -/
def nameStarts (c : Char) : Bool := Text.isLetter c

/-- Whether a character may go on a name. -/
def nameGoesOn (c : Char) : Bool :=
  nameStarts c || Text.isDecimalDigit c || c = '_' || c = '/' || c = '-'

/-- The warning a NUL character gives wherever it is read. -/
def nulWarning : String := "invalid character NUL"

/-- How many NUL characters a list holds. -/
def nulCount (cs : List Char) : Nat := (cs.filter (· = '\x00')).length

/-! ### Comments -/

/-- The length of the comment text after `//`: up to the line break. -/
def lineCommentLength (cs : List Char) : Nat := (cs.takeWhile (· != '\n')).length

/-- The length of a block comment's text after `/*`, its closing `*/` included, and whether it
is closed; the rest of the file when it is never closed. -/
def blockComment : List Char → Nat × Bool
  | [] => (0, false)
  | '*' :: '/' :: _ => (2, true)
  | _ :: rest => let (n, closed) := blockComment rest; (n + 1, closed)

/-- Skips blanks and comments: the reader after them and the warnings given on the way, each
at its place. A character read while skipping is reported at the place of the last comment
skipped, `comment`, or at its own when there was none; one read while reading a comment at the
comment's place. -/
def skipBlank : Nat → Reader → Option Place → Reader × List (Place × String)
  | 0, r, _ => (r, [])
  | fuel + 1, r, comment =>
    match r.rest with
    | c :: rest =>
      if isBlank c then
        let r' := r.step
        let here := if r'.rest.head? == some '\x00' then [(comment.getD r'.place, nulWarning)] else []
        let (r'', ws) := skipBlank fuel r' comment
        (r'', here ++ ws)
      else
        let opened : Option (Nat × Bool) := match c, rest with
          | '/', '/' :: more => some (lineCommentLength more + 2, true)
          | '/', '*' :: more => let (n, closed) := blockComment more; some (n + 2, closed)
          | _, _ => none
        match opened with
        | some (n, closed) =>
          let ws := List.replicate (nulCount ((rest).take n)) nulWarning ++
            (if closed then [] else ["comment not terminated"])
          let (r', more) := skipBlank fuel (r.skip n) (some r.place)
          (r', ws.map (r.place, ·) ++ more)
        | none => (r, [])
    | [] => (r, [])

/-! ### Numerals -/

/-- How warnings name a numeral by its prefix: `x`, `o` or `b`, or `0` for a leading zero; none
for a decimal numeral. -/
def numeralName : Option Char → String
  | some 'x' => "hexadecimal literal"
  | some 'o' | some '0' => "octal literal"
  | some 'b' => "binary literal"
  | _ => "decimal literal"

/-- The digits of a base that start `cs`, underscores among them: how many characters, whether
a digit and whether an underscore was among them, and the first decimal digit too large for a
base up to ten. -/
def digitRun (base : Nat) (cs : List Char) : Nat × Bool × Bool × Option Char :=
  let run := cs.takeWhile fun c => c = '_' || (if base ≤ 10 then isAsciiDigit c else isAsciiHex c)
  let bad := if base ≤ 10 then run.find? fun c => isAsciiDigit c && c.toNat ≥ 48 + base else none
  (run.length, run.any (· != '_'), run.any (· = '_'), bad)

/-- Whether each underscore of a numeral, read from after `prev`, stands between two digits;
`hex` says that letters are digits too. -/
def separatorsFrom (hex : Bool) : Char → List Char → Bool
  | prev, [] => prev != '_'
  | prev, c :: rest =>
    if c = '_' then prev = '0' && separatorsFrom hex '_' rest
    else if isAsciiDigit c || (hex && isAsciiHex c) then separatorsFrom hex '0' rest
    else prev != '_' && separatorsFrom hex '.' rest

/-- Whether each underscore of a numeral's text stands between two digits, a base prefix
counting as a digit. -/
def separatorsOk (x : List Char) : Bool :=
  match x with
  | '0' :: p :: rest =>
    let l := lowerChar p
    if l = 'x' || l = 'o' || l = 'b' then separatorsFrom (l = 'x') '0' rest
    else separatorsFrom false '.' x
  | _ => separatorsFrom false '.' x

/-- Reads a numeral that starts `cs`, where `dot` says that a point was read just before it:
its length, whether it is a floating-point numeral, and the warnings it gives. The digits of
any base up to ten are all taken, so that a digit too large stays in the numeral. -/
def numeral (dot : Bool) (cs : List Char) : Nat × Bool × List String :=
  let (prefixLen, base, pre) : Nat × Nat × Option Char :=
    if dot then (0, 10, none)
    else match cs with
      | '0' :: p :: _ =>
        let l := lowerChar p
        if l = 'x' then (2, 16, some 'x') else if l = 'o' then (2, 8, some 'o')
        else if l = 'b' then (2, 2, some 'b') else (1, 8, some '0')
      | '0' :: _ => (1, 8, some '0')
      | _ => (0, 10, none)
  let (n1, dig1, und1, bad) :=
    if dot then (0, false, false, none) else digitRun base (cs.drop prefixLen)
  let intEnd := prefixLen + n1
  let seenDot := dot || (cs.drop intEnd).head? == some '.'
  let fracStart := if dot then 0 else if seenDot then intEnd + 1 else intEnd
  let radix := if seenDot && (pre == some 'o' || pre == some 'b') then
      ["invalid radix point in " ++ numeralName pre] else []
  let (n2, dig2, und2, _) := if seenDot then digitRun base (cs.drop fracStart) else (0, false, false, none)
  let mantEnd := fracStart + n2
  let noDigits := if pre == some '0' || dig1 || dig2 then [] else [numeralName pre ++ " has no digits"]
  let hexPoint := if pre == some 'x' && seenDot then ["hexadecimal mantissa requires a 'p' exponent"] else []
  let (expLen, float, expWarn, und3) : Nat × Bool × List String × Bool :=
    match cs.drop mantEnd with
    | e :: rest =>
      let l := lowerChar e
      if l = 'e' || l = 'p' then
        let mismatch :=
          if l = 'e' && pre != none && pre != some '0' then
            ["'" ++ String.singleton e ++ "' exponent requires decimal mantissa"]
          else if l = 'p' && pre != some 'x' then
            ["'" ++ String.singleton e ++ "' exponent requires hexadecimal mantissa"]
          else []
        let signLen := match rest with
          | s :: _ => if s = '+' || s = '-' then 1 else 0
          | [] => 0
        let (n3, dig3, und3, _) := digitRun 10 (rest.drop signLen)
        (1 + signLen + n3, true, mismatch ++ (if dig3 then [] else ["exponent has no digits"]), und3)
      else (0, seenDot, hexPoint, false)
    | [] => (0, seenDot, hexPoint, false)
  let len := mantEnd + expLen
  let invalid := match bad with
    | some d => if float then [] else ["invalid digit '" ++ String.singleton d ++ "' in " ++ numeralName pre]
    | none => []
  let text := (if dot then ['.'] else []) ++ cs.take len
  let sep := if (und1 || und2 || und3) && !separatorsOk text then
      ["'_' must separate successive digits"] else []
  (len, float, radix ++ noDigits ++ expWarn ++ invalid ++ sep)

/-! ### Texts -/

/-- The value of a digit in bases up to sixteen; sixteen for any other character. -/
def hexValue (c : Char) : Nat := ((digitValue c).filter (· < 16)).getD 16

/-- How many characters an escape takes after its backslash, and the warning when it is not
one: a simple escape takes one character, an octal one three digits and a hexadecimal one its
letter and two, four or eight digits. A character that cannot follow a backslash is left to
the text. -/
def escapeLength (quote : Char) (cs : List Char) : Nat × List String :=
  let digits (base n : Nat) (ds : List Char) : Nat × List String :=
    let k := ((ds.take n).takeWhile fun d => hexValue d < base).length
    (k, if k < n then ["invalid char escape"] else [])
  match cs with
  | c :: rest =>
    if c = quote || ['a', 'b', 'f', 'n', 'r', 't', 'v', '\\'].contains c then (1, [])
    else if '0' ≤ c && c ≤ '7' then digits 8 3 cs
    else if c = 'x' then let (k, ws) := digits 16 2 rest; (k + 1, ws)
    else if c = 'u' then let (k, ws) := digits 16 4 rest; (k + 1, ws)
    else if c = 'U' then let (k, ws) := digits 16 8 rest; (k + 1, ws)
    else (0, ["invalid char escape"])
  | [] => (0, ["invalid char escape"])

/-- Reads a quoted text after its opening quote: how many characters it takes, its closing
quote or line break included, how many characters and escapes it holds, and its warnings. A
text left open ends with the line break or the end of the file. -/
def quotedText (quote : Char) : Nat → List Char → Nat × Nat × List String
  | 0, _ => (0, 0, [])
  | fuel + 1, cs =>
    match cs with
    | [] => (0, 0, ["literal not terminated"])
    | c :: rest =>
      if c = quote then (1, 0, [])
      else if c = '\n' then (1, 0, ["literal not terminated"])
      else if c = '\\' then
        let (k, ws) := escapeLength quote rest
        let (n, m, more) := quotedText quote fuel (rest.drop k)
        (1 + k + n, m + 1, ws ++ more)
      else
        let (n, m, more) := quotedText quote fuel rest
        (1 + n, m + 1, more)

/-- The length of a back-quoted text after its opening quote, the closing one included, and
whether it is closed. -/
def rawText : List Char → Nat × Bool
  | [] => (0, false)
  | c :: rest => if c = '\x60' then (1, true) else let (n, closed) := rawText rest; (n + 1, closed)

/-! ### Cutting tokens -/

/-- The token that starts `cs`, its length in characters, and the warnings reading it gives. -/
def tokenAt (cs : List Char) : Token × Nat × List String :=
  match cs with
  | [] => (.eof, 0, [])
  | c :: rest =>
    let text (n : Nat) : String := String.ofList (cs.take n)
    if nameStarts c then
      let n := 1 + (rest.takeWhile nameGoesOn).length
      (.ident (text n), n, [])
    else if isAsciiDigit c then
      let (n, float, ws) := numeral false cs
      (if float then .float (text n) else .int (text n), n, ws)
    else if c = '.' then
      match rest with
      | d :: _ =>
        if isAsciiDigit d then
          let (n, _, ws) := numeral true rest
          (.float (text (n + 1)), n + 1, ws)
        else (.other c, 1, [])
      | [] => (.other c, 1, [])
    else if c = '"' then
      let (n, _, ws) := quotedText '"' (rest.length + 1) rest
      (.str (text (n + 1)), n + 1, ws)
    else if c = '\'' then
      let (n, m, ws) := quotedText '\'' (rest.length + 1) rest
      (.char (text (n + 1)), n + 1, ws ++ (if m = 1 then [] else ["invalid char literal"]))
    else if c = '\x60' then
      let (n, closed) := rawText rest
      (.raw (text (n + 1)), n + 1, if closed then [] else ["literal not terminated"])
    else (.other c, 1, [])

/-- A token as read: the token, its place, and the warnings written while reading it, each at
its place. -/
structure Scanned where
  token : Token
  place : Place
  warnings : List (Place × String)
  deriving Inhabited

/-- The tokens of the text left to a reader, each with its place, ending with the end. NUL
characters inside a token, or right after it, are reported at the token's place. -/
def tokensFrom : Nat → Reader → List Scanned
  | 0, r => [⟨.eof, r.place, []⟩]
  | fuel + 1, r =>
    let (r, skipped) := skipBlank (r.rest.length + 1) r none
    let (t, n, ws) := tokenAt r.rest
    let inside := nulCount ((r.rest.drop 1).take (n - 1))
    let after := nulCount ((r.rest.drop n).take 1)
    let ws := match t with
      | .int _ | .float _ => List.replicate (inside + after) nulWarning ++ ws
      | _ => List.replicate inside nulWarning ++ ws ++ List.replicate after nulWarning
    let here : Scanned := ⟨t, r.place, skipped ++ ws.map (r.place, ·)⟩
    match t with
    | .eof => [here]
    | _ => here :: tokensFrom fuel (r.skip (max n 1))

/-- The tokens of a file's text; a byte-order mark before it is skipped, and a NUL character
that starts the text is reported at its own place with the first token. -/
def tokens (s : String) : List Scanned :=
  let r : Reader := ⟨s.toList, 1, 0, false⟩
  let r := if r.rest.head? == some '\uFEFF' then r.step else r
  let first := if r.rest.head? == some '\x00' then [(r.place, nulWarning)] else []
  match tokensFrom (r.rest.length + 1) r with
  | t :: rest => { t with warnings := first ++ t.warnings } :: rest
  | [] => []

/-! ### Values -/

/-- A value a profile gives a parameter. -/
inductive ParamValue where
  | int (i : Int)
  | float (text : String)
  | text (s : String)
  | switch (b : Bool)
  /-- The name of another instance. -/
  | ref (name : String)
  deriving DecidableEq, Repr, Inhabited

/-- The value of one escape after a backslash inside quotes, and what follows it. -/
def unescape (quote : Char) : List Char → Option (Char × List Char)
  | c :: rest =>
    let hexRun (n : Nat) (cs : List Char) : Option (Nat × List Char) :=
      let ds := cs.take n
      if ds.length = n && ds.all fun d => isAsciiDigit d || ('a' ≤ lowerChar d && lowerChar d ≤ 'f') then
        some (ds.foldl (fun acc d => acc * 16 + (digitValue d).getD 0) 0, cs.drop n)
      else none
    let charOf (n : Nat) (rest : List Char) : Option (Char × List Char) :=
      if n.isValidChar then some (Char.ofNat n, rest) else none
    match c with
    | 'a' => some ('\x07', rest)
    | 'b' => some ('\x08', rest)
    | 'f' => some ('\x0c', rest)
    | 'n' => some ('\n', rest)
    | 'r' => some ('\r', rest)
    | 't' => some ('\t', rest)
    | 'v' => some ('\x0b', rest)
    | '\\' => some ('\\', rest)
    | 'x' => (hexRun 2 rest).bind fun (n, r) => charOf n r
    | 'u' => (hexRun 4 rest).bind fun (n, r) => charOf n r
    | 'U' => (hexRun 8 rest).bind fun (n, r) => charOf n r
    | _ =>
      if c = quote then some (c, rest)
      else if '0' ≤ c ∧ c ≤ '7' then
        let ds := (c :: rest).take 3
        if ds.length = 3 && ds.all fun d => '0' ≤ d && d ≤ '7' then
          let n := ds.foldl (fun acc d => acc * 8 + (d.toNat - 48)) 0
          if n < 256 then charOf n (rest.drop 2) else none
        else none
      else none
  | [] => none

/-- The body of a double-quoted text with its escapes read, or `none` when it is malformed. -/
def unquoteBody : Nat → List Char → Option (List Char)
  | 0, _ => none
  | _ + 1, ['"'] => some []
  | fuel + 1, '\\' :: rest =>
    match unescape '"' rest with
    | some (c, more) => (unquoteBody fuel more).map (c :: ·)
    | none => none
  | fuel + 1, c :: rest => if c = '"' || c = '\n' then none else (unquoteBody fuel rest).map (c :: ·)
  | _ + 1, [] => none

/-- The text a quoted token stands for. -/
def unquote (t : String) : Option String :=
  match t.toList with
  | '"' :: body => (unquoteBody (body.length + 1) body).map String.ofList
  | '\x60' :: body =>
    match body.reverse with
    | '\x60' :: inner => some (String.ofList (inner.reverse.filter (· != '\r')))
    | _ => none
  | _ => none

/-! ### Clauses -/

/-- A clause of a profile file: an instance, the instance it derives from when it is declared
with `instance`, and the parameters it gives in order. -/
structure Clause where
  name : String
  parent : Option String
  params : List (String × ParamValue)
  deriving DecidableEq, Repr

/-- Tokens left to read. -/
abbrev Tokens := List Scanned

/-- The next token and those after it; the last token, the end, repeats. -/
def Tokens.next (ts : Tokens) : Scanned × Tokens :=
  match ts with
  | [t] => (t, [t])
  | t :: rest => (t, rest)
  | [] => (⟨.eof, ⟨0, 0⟩, []⟩, [])

/-- An error at a place: the place and what is wrong. -/
abbrev Misread := Place × String

/-- The error for a token out of place. -/
def unexpected {α : Type} (t : Scanned) : Except Misread α :=
  .error (t.place, "unexpected: " ++ t.token.describe)

/-- The error for a token where a name should be. -/
def expectedName {α : Type} (t : Scanned) : Except Misread α :=
  .error (t.place, "expected identifier")

/-- Reads a value. -/
def readValue (ts : Tokens) : Except Misread (ParamValue × Tokens) :=
  let (t, rest) := ts.next
  match t.token with
  | .int s =>
    match readInt s with
    | .ok i => .ok (.int i, rest)
    | .error e =>
      let why := if e = .range then "value out of range" else "invalid syntax"
      .error (t.place, "could not parse integer: strconv.ParseInt: parsing " ++ Text.quote s ++ ": " ++ why)
  | .float s =>
    match Numeral.readFloat s.toUTF8.toList with
    | some (_, false) => .ok (.float s, rest)
    | r =>
      let why := if r.isSome then "value out of range" else "invalid syntax"
      .error (t.place, "could not parse float: strconv.ParseFloat: parsing " ++ Text.quote s ++ ": " ++ why)
  | .str s | .raw s =>
    match unquote s with
    | some v => .ok (.text v, rest)
    | none => .error (t.place, "could not parse string: invalid syntax")
  | .ident "true" => .ok (.switch true, rest)
  | .ident "false" => .ok (.switch false, rest)
  | .ident s => .ok (.ref s, rest)
  | _ => .error (t.place, "parse error: not a value")

/-- Reads `key = value`, the key already read. -/
def readAssignment (key : String) (ts : Tokens) : Except Misread ((String × ParamValue) × Tokens) := do
  let (t, rest) := ts.next
  if t.token != .other '=' then unexpected t
  else
    let (v, rest) ← readValue rest
    pure ((key, v), rest)

/-- Reads the assignments of a block up to its closing parenthesis; semicolons between them
are passed over. -/
def readBlock : Nat → Tokens → List (String × ParamValue) → Except Misread (List (String × ParamValue) × Tokens)
  | 0, ts, _ => expectedName ts.next.1
  | fuel + 1, ts, acc =>
    let (t, rest) := ts.next
    match t.token with
    | .other ')' => .ok (acc.reverse, rest)
    | .other ';' => readBlock fuel rest acc
    | .ident key => do
      let (kv, rest) ← readAssignment key rest
      readBlock fuel rest (kv :: acc)
    | _ => expectedName t

/-- Reads a name. -/
def readName (ts : Tokens) : Except Misread (String × Tokens) :=
  let (t, rest) := ts.next
  match t.token with
  | .ident s => .ok (s, rest)
  | _ => expectedName t

/-- Reads a `param` clause after its keyword. -/
def readParam (ts : Tokens) : Except Misread (Clause × Tokens) := do
  let (name, rest) ← readName ts
  let (t, rest) := rest.next
  match t.token with
  | .ident key =>
    let (kv, rest) ← readAssignment key rest
    pure (⟨name, none, [kv]⟩, rest)
  | .other '(' =>
    let (params, rest) ← readBlock rest.length rest []
    pure (⟨name, none, params⟩, rest)
  | _ => unexpected t

/-- Reads an `instance` clause after its keyword. -/
def readInstance (ts : Tokens) : Except Misread (Clause × Tokens) := do
  let (name, rest) ← readName ts
  let (parent, rest) ← readName rest
  match rest.next with
  | (⟨.other '(', _, _⟩, more) =>
    let (params, more) ← readBlock more.length more []
    pure (⟨name, some parent, params⟩, more)
  | _ => pure (⟨name, some parent, []⟩, rest)

/-- Reads clauses up to the end of the file; a token other than a name between clauses is
passed over. -/
def readClauses : Nat → Tokens → List Clause → Except Misread (List Clause)
  | 0, _, acc => .ok acc.reverse
  | fuel + 1, ts, acc =>
    let (t, rest) := ts.next
    match t.token with
    | .eof => .ok acc.reverse
    | .ident "param" => do
      let (c, rest) ← readParam rest
      readClauses fuel rest (c :: acc)
    | .ident "instance" => do
      let (c, rest) ← readInstance rest
      readClauses fuel rest (c :: acc)
    | .ident s => .error (t.place, "unrecognized toplevel clause: " ++ s)
    | _ => readClauses fuel rest acc

/-- What reading a profile file gives: the warnings written while its tokens were read, and its
clauses or the error that stopped reading. -/
structure ProfileRead where
  warnings : String
  clauses : Except String (List Clause)

/-- The warnings of the tokens up to a place, as lines naming the file `file`. -/
def warningsUpTo (file : String) (ts : Tokens) (limit : Place) : String :=
  String.join ((ts.filter (·.place.atMost limit)).flatMap fun t =>
    t.warnings.map fun (p, m) => p.text file ++ ": " ++ m ++ "\n")

/-- Reads the profile file `file` with text `s`: the clauses, or the error that stops reading
it, after the warnings of the tokens read. -/
def readProfileFile (file s : String) : ProfileRead :=
  let ts := tokens s
  match readClauses ts.length ts [] with
  | .ok cs => ⟨warningsUpTo file ts (ts.getLastD default).place, .ok cs⟩
  | .error (p, m) => ⟨warningsUpTo file ts p, .error ("parse error: " ++ p.text file ++ ": " ++ m)⟩

theorem readProfileFile_blank (file : String) : readProfileFile file "" = ⟨"", .ok []⟩ := by
  simp [readProfileFile, tokens, tokensFrom, skipBlank, tokenAt, Reader.place, readClauses,
    Tokens.next, warningsUpTo, nulCount, Place.atMost]

end Lanes.Cli
