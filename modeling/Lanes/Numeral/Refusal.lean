import Lanes.Fault
import Lanes.Text.Quote

/-!
Why a numeral was refused, and the failure that reports it: the reader's name, the quoted
input, and whether the text was no numeral at all or a numeral out of range.
-/

namespace Lanes.Numeral

/-- Why a numeral was refused. -/
inductive Refusal where
  /-- The text is no numeral of the reader's grammar. -/
  | malformed
  /-- The text is a numeral whose value the reader's type cannot hold. -/
  | range
deriving DecidableEq, Repr

/-- The words for a refusal. -/
def Refusal.text : Refusal → String
  | .malformed => "invalid syntax"
  | .range => "value out of range"

/-- The failure a reader named `reader` reports when it refuses `input`. -/
def Refusal.fault (r : Refusal) (reader : String) (input : List UInt8) : Fault :=
  .text ("strconv." ++ reader ++ ": parsing " ++ Text.quoteBytes input ++ ": " ++ r.text)

/-- Whether a byte is an ASCII decimal digit. -/
def isDigit (b : UInt8) : Bool := 48 ≤ b && b ≤ 57

/-- The byte with an ASCII upper-case letter made lower case. -/
def lowerByte (b : UInt8) : UInt8 := if 65 ≤ b && b ≤ 90 then b + 32 else b

end Lanes.Numeral
