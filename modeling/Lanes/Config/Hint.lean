import Lanes.Text.Quote

/-!
Hints for names that were not recognised: the first known name within two edits of the one
written, where an edit inserts, deletes or replaces one character.

Main statement: a hint is one of the known names, within two edits of the name written
(`suggestion_close`).
-/

namespace Lanes.Config

/-- The edit distance of two strings, counted in characters. -/
def editDistance (a b : String) : Nat :=
  let bs := b.toList
  let first := List.range (bs.length + 1)
  let row (prev : List Nat) (ca : Char) (i : Nat) : List Nat :=
    let step (acc : List Nat × Nat) (pair : Char × Nat × Nat) : List Nat × Nat :=
      let (cb, diagPrev, up) := pair
      let left := acc.2
      let cost := if ca == cb then 0 else 1
      let v := min (min (up + 1) (left + 1)) (diagPrev + cost)
      (acc.1 ++ [v], v)
    let pairs := bs.zip (prev.zip (prev.drop 1))
    (pairs.foldl step ([i], i)).1
  let (last, _) := a.toList.foldl (fun (acc : List Nat × Nat) ca =>
    (row acc.1 ca (acc.2 + 1), acc.2 + 1)) (first, 0)
  last.getLastD 0

/-- The first candidate within two edits of a name, as a hint. -/
def suggestion (name : String) (candidates : List String) : Option String :=
  candidates.find? fun c => editDistance name c < 3

/-- A hint sentence for a name that is not known. -/
def didYouMean (name : String) (candidates : List String) : String :=
  match suggestion name candidates with
  | some c => " Did you mean " ++ Text.quote c ++ "?"
  | none => ""

theorem suggestion_close (name c : String) (cs : List String) (h : suggestion name cs = some c) :
    c ∈ cs ∧ editDistance name c < 3 := by
  unfold suggestion at h
  exact ⟨List.mem_of_find?_eq_some h, by simpa using List.find?_some h⟩

end Lanes.Config
