import Lanes.Text.PrintTables
import Lanes.Text.Utf8
import Lanes.Bytes.Hex

/-!
Double-quoted text: a byte string between double quotes, with the quote and the backslash
escaped, characters that print as themselves, named escapes for the seven control characters
that have them, `\xNN` for other control characters and for bytes that are not UTF-8, and
`\uNNNN` or `\UNNNNNNNN` for other characters that do not print.

Which characters print is a table of the runs that do not (`unprintableRuns`): control
characters, spaces other than the ASCII space, format characters, surrogates, private use and
unassigned code points. Main statement: every ASCII character from the
space to the tilde prints as itself (`printable_ascii`).
-/

namespace Lanes.Text

/-- Whether `n` lies in one of the runs between `lo` and `hi`, halving the runs each step. -/
def unprintableWithin (n : Nat) : Nat → Nat → Nat → Bool
  | 0, _, _ => false
  | fuel + 1, lo, hi =>
    if lo < hi then
      let mid := (lo + hi) / 2
      let x := unprintableRuns.getD mid 0
      if n < (x >>> 21).toNat then unprintableWithin n fuel lo mid
      else if (x &&& 0x1FFFFF).toNat < n then unprintableWithin n fuel (mid + 1) hi
      else true
    else false

/-- Whether a character prints as itself. Printable ASCII is answered without the table. -/
def printable (c : Char) : Bool :=
  let n := c.toNat
  (0x20 ≤ n && n < 0x7F) || (0x7F < n && !unprintableWithin n 64 0 unprintableRuns.size)

/-- `n` as `width` lower-case hexadecimal digits. -/
def hexWidth (width n : Nat) : List Char :=
  (List.range width).reverse.map fun i => Bytes.hexDigit (n / Nat.pow 16 i % 16)

/-- The escaped form of one character inside double quotes. -/
def escapeChar (c : Char) : List Char :=
  if c = '"' ∨ c = '\\' then ['\\', c]
  else if printable c then [c]
  else
    let n := c.toNat
    match n with
    | 7 => ['\\', 'a']
    | 8 => ['\\', 'b']
    | 12 => ['\\', 'f']
    | 10 => ['\\', 'n']
    | 13 => ['\\', 'r']
    | 9 => ['\\', 't']
    | 11 => ['\\', 'v']
    | _ =>
      if n < 0x20 ∨ n = 0x7F then '\\' :: 'x' :: hexWidth 2 n
      else if n < 0x10000 then '\\' :: 'u' :: hexWidth 4 n
      else '\\' :: 'U' :: hexWidth 8 n

/-- A byte string between double quotes, escaped. -/
def quoteBytes (bs : List UInt8) : String :=
  let body := (Utf8.steps bs).flatMap fun
    | .char c _ => escapeChar c
    | .invalid b => '\\' :: 'x' :: hexWidth 2 b.toNat
  String.ofList ('"' :: body ++ ['"'])

/-- A text between double quotes, escaped. -/
def quote (s : String) : String := quoteBytes s.toUTF8.toList

theorem printable_ascii (n : Nat) (h : n < 127) (h' : 32 ≤ n) :
    printable (Char.ofNat n) = true := by
  have hv : n.isValidChar := Or.inl (by omega)
  have hn : (Char.ofNat n).toNat = n := by
    rw [Char.ofNat, dif_pos hv]
    rfl
  simp [printable, hn]
  omega

end Lanes.Text
