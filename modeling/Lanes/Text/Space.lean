/-!
White space: the code points that separate words.

These are the six ASCII blanks (tab, line feed, vertical tab, form feed, carriage return and
space), next line (U+0085), no-break space (U+00A0), and the space separators of Unicode:
U+1680, U+2000 to U+200A, the line and paragraph separators U+2028 and U+2029, U+202F, U+205F
and U+3000.
-/

namespace Lanes.Text

/-- Whether a code point is white space. -/
def isSpace (c : Nat) : Bool :=
  (9 ≤ c && c ≤ 13) || c == 32 || c == 0x85 || c == 0xA0 || c == 0x1680 ||
    (0x2000 ≤ c && c ≤ 0x200A) || c == 0x2028 || c == 0x2029 || c == 0x202F ||
    c == 0x205F || c == 0x3000

theorem isSpace_ascii : ∀ c, c < 128 → (isSpace c = true ↔ c = 32 ∨ (9 ≤ c ∧ c ≤ 13)) := by
  decide

end Lanes.Text
