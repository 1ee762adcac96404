import Lanes.Numeral.Refusal

/-!
Decimal integers of 64 bits: an optional sign and decimal digits, nothing else. Digits are read
left to right; a byte that is no digit refuses the text as no numeral, and a value that passes
the unsigned 64-bit range refuses it as out of range at the digit where it does so. A value in
the unsigned range that the signed type cannot hold is out of range too.

Main statement: digits whose value stays in range read as that value (`readDigits_ok_of_digits`).
-/

namespace Lanes.Numeral

/-- The value of unsigned decimal digits, refused at the first byte that is no digit or at the
first digit that takes the value past `2 ^ 64 - 1`. -/
def readDigits (acc : Nat) : List UInt8 → Except Refusal Nat
  | [] => .ok acc
  | b :: rest =>
    if !isDigit b then .error .malformed
    else
      let v := acc * 10 + (b.toNat - 48)
      if v ≥ Nat.pow 2 64 then .error .range else readDigits v rest

/-- A signed decimal integer of 64 bits. -/
def readInt64 (s : List UInt8) : Except Refusal Int64 :=
  let (neg, body) : Bool × List UInt8 := match s with
    | 43 :: rest => (false, rest)
    | 45 :: rest => (true, rest)
    | _ => (false, s)
  if s.isEmpty || body.isEmpty then .error .malformed
  else match readDigits 0 body with
    | .error e => .error e
    | .ok n =>
      if !neg && n ≥ Nat.pow 2 63 then .error .range
      else if neg && n > Nat.pow 2 63 then .error .range
      else .ok (Int64.ofInt (if neg then -(n : Int) else n))

/-- The failure for a refused integer, as the integer reader names itself. -/
def intFault (input : List UInt8) (r : Refusal) : Fault := r.fault "ParseInt" input

theorem readDigits_ok_of_digits (ds : List Nat) (acc : Nat) (hd : ∀ d ∈ ds, d < 10)
    (hlt : ds.foldl (fun a d => a * 10 + d) acc < Nat.pow 2 64) :
    readDigits acc (ds.map fun d => (48 + d).toUInt8) =
      .ok (ds.foldl (fun a d => a * 10 + d) acc) := by
  induction ds generalizing acc with
  | nil => rfl
  | cons d rest ih =>
    have hd0 : d < 10 := hd d (by simp)
    have hb : (48 + d).toUInt8.toNat = 48 + d := by
      simp [Nat.mod_eq_of_lt (show 48 + d < 256 by omega)]
    have hdig : isDigit (48 + d).toUInt8 = true := by
      simp only [isDigit, UInt8.le_iff_toNat_le, hb, Bool.and_eq_true, decide_eq_true_eq]
      constructor <;> simp
      omega
    have hge : ∀ (xs : List Nat) (a : Nat), a ≤ xs.foldl (fun a d => a * 10 + d) a := by
      intro xs
      induction xs with
      | nil => intro a; simp
      | cons x xs ihx =>
        intro a
        simp only [List.foldl_cons]
        have := ihx (a * 10 + x)
        omega
    simp only [List.map_cons, readDigits, hdig, Bool.not_true, hb, Bool.false_eq_true, if_false]
    have hstep : acc * 10 + (48 + d - 48) = acc * 10 + d := by omega
    rw [hstep]
    have hfold : rest.foldl (fun a d => a * 10 + d) (acc * 10 + d) < Nat.pow 2 64 := by
      simpa using hlt
    have hv : ¬ (acc * 10 + d ≥ Nat.pow 2 64) := by
      have := hge rest (acc * 10 + d)
      omega
    simp only [hv, if_false]
    rw [ih (acc * 10 + d) (fun x hx => hd x (by simp [hx])) hfold]
    simp

end Lanes.Numeral
