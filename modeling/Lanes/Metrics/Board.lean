import Lanes.Metrics.Basic

/-!
Boards: numbered scopes whose instances may be shared.

Resetting a scope to another makes it use the other's instances themselves, not copies: a count
added through either scope is seen by both, until one of them makes an instance of a metric the
other had not used (that instance is its own). A board holds the instances as cells and each
scope as the cells of its metrics.

Main statement: a scope reset to another reads the same values (`get_reset`).
-/

namespace Lanes.Metrics

/-- Scopes by number over shared cells. -/
structure Board where
  cells : List Int64
  scopes : List (Nat × List (Option Nat))
  deriving Repr, Inhabited

namespace Board

/-- The board with no scope used. -/
def empty : Board := ⟨[], []⟩

/-- The cells of a scope's metrics, by position. -/
def slots (b : Board) (sc : Nat) : List (Option Nat) :=
  match b.scopes.find? (·.1 == sc) with
  | some (_, s) => s
  | none => []

/-- Sets the cells of a scope's metrics. -/
def setSlots (b : Board) (sc : Nat) (s : List (Option Nat)) : Board :=
  { b with scopes := (sc, s) :: b.scopes.filter (·.1 != sc) }

/-- The cell of a scope's metric, if the scope has one. -/
def cell? (b : Board) (sc id : Nat) : Option Nat := ((b.slots sc)[id]?).getD none

/-- The value in a cell. -/
def read (b : Board) (c : Nat) : Int64 := b.cells.getD c 0

/-- The cell of a scope's metric, made (at zero) when the scope has none. -/
def cellOf (b : Board) (sc id : Nat) : Board × Nat :=
  match b.cell? sc id with
  | some c => (b, c)
  | none =>
    let c := b.cells.length
    let s := b.slots sc
    let padded := s ++ List.replicate (id + 1 - s.length) none
    ({ b.setSlots sc (padded.set id (some c)) with cells := b.cells ++ [0] }, c)

/-- Folds a value into a scope's metric by the metric's rule. -/
def fold (b : Board) (sc id : Nat) (v : Int64) : Board :=
  let (b', c) := b.cellOf sc id
  { b' with cells := b'.cells.set c ((ruleAt id).fold (b'.read c) v) }

/-- Reads a scope's metric, making its instance first. -/
def value (b : Board) (sc id : Nat) : Board × Int64 :=
  let (b', c) := b.cellOf sc id
  (b', b'.read c)

/-- Folds every instance of scope `src` into scope `dst`. -/
def merge (b : Board) (dst src : Nat) : Board :=
  let srcSlots := b.slots src
  (List.range srcSlots.length).foldl (fun acc id =>
    match (srcSlots[id]?).getD none with
    | some c => acc.fold dst id (acc.read c)
    | none => acc) b

/-- Makes scope `dst` use the instances of scope `src`, or none. -/
def reset (b : Board) (dst : Nat) (src : Option Nat) : Board :=
  b.setSlots dst (match src with
    | some s => b.slots s
    | none => [])

/-- A scope as a scope of values. -/
def scope (b : Board) (sc : Nat) : Scope :=
  ⟨(b.slots sc).map (·.map b.read)⟩

theorem slots_setSlots (b : Board) (sc : Nat) (s : List (Option Nat)) :
    (b.setSlots sc s).slots sc = s := by
  simp [setSlots, slots]

theorem get_reset (b : Board) (dst src : Nat) :
    (b.reset dst (some src)).scope dst = b.scope src := by
  unfold scope reset
  rw [slots_setSlots]
  rfl

end Board

end Lanes.Metrics
