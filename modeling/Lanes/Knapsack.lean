import Lanes.Random.Source
import Lanes.Region.Run
import Lanes.Bytes.Word

/-!
A search for good fills of a zero-one knapsack, run as a kernel on every device of an
accelerator.

A problem has items of random weights and values, drawn from a seeded stream, and a capacity of
half their total weight. A fill is a set of items with its total weight and value; one fill is
better than another when it is worth more, or worth the same and lighter.

The walk keeps a current fill and the best one seen. Each step flips a random item in or out of
the current fill, then drops random items until it fits, and keeps it if it is better. The kernel
reads its seed from the device's memory and leaves the best fill there in 24 bytes: the item set,
the weight and the value, each as 64 little-endian bits.

The loops of a walk, the drop loop and the rejection loops of its draws, end with probability one
but not on every stream. A walk is therefore given a bound: each loop may go round that many
times, and the walk gives no fill when one of them has not ended by then. A fill it does give is
the fill of the unbounded walk.

The search runs one lane per device, lane `i` walking from the seed plus `i`; the lanes' fills
fold into one shared fill, a value of kind `walksack.fill` that crosses the device boundary in
its 24 bytes and folds to the better of two fills.

Main statement: a fill reads back from its bytes (`decode_encode`).
-/

namespace Lanes.Knapsack

open Lanes.Random Lanes.Region

/-- An item: its weight and its value. -/
structure Item where
  weight : Int64
  value : Int64
  deriving DecidableEq, Repr, Inhabited

/-- A problem: the capacity and the items. -/
structure Problem where
  capacity : Int64
  items : Array Item

/-- The number of items of the problems the search is run on; a fill's set fits in 64 bits. -/
def itemCount : Nat := 40

/-- Draws `k` more items, weight then value, each between 1 and 100, with draws within `bound`;
none when a draw is not. -/
def drawItems (bound : Nat) (acc : Array Item) : Nat → Source → Option (Array Item)
  | 0, _ => some acc
  | k + 1, s =>
    (s.int63n bound 100).bind fun w =>
      (w.2.int63n bound 100).bind fun v =>
        drawItems bound (acc.push ⟨Int64.ofNat (1 + w.1), Int64.ofNat (1 + v.1)⟩) k v.2

/-- The problem of `n` items drawn from a seed, with half their total weight as capacity. -/
def Problem.random (bound : Nat) (seed : Int64) (n : Nat) : Option Problem :=
  (drawItems bound #[] n (Source.seeded seed)).map fun items =>
    ⟨items.foldl (fun t i => t + i.weight) 0 / 2, items⟩

/-- A fill: the set of its items, one bit each, and its weight and value. -/
structure Fill where
  items : UInt64
  weight : Int64
  value : Int64
  deriving DecidableEq, Repr, Inhabited

namespace Fill

/-- The kind of fills as shared values. -/
def kind : String := "walksack.fill"

/-- The empty fill. -/
def empty : Fill := ⟨0, 0, 0⟩

/-- Whether `f` is better than `g`: worth more, or as much and lighter. -/
def better (f g : Fill) : Bool := g.value < f.value || (f.value == g.value && f.weight < g.weight)

/-- The bit of item `j`. -/
def bit (j : Nat) : UInt64 := 1 <<< j.toUInt64

/-- Whether item `j` is in the fill. -/
def has (f : Fill) (j : Nat) : Bool := f.items &&& bit j != 0

/-- Puts item `j` in the fill, or takes it out when it is in. -/
def flip (p : Problem) (j : Nat) (f : Fill) : Fill :=
  let it := p.items.getD j default
  if f.has j then ⟨f.items &&& ~~~bit j, f.weight - it.weight, f.value - it.value⟩
  else ⟨f.items ||| bit j, f.weight + it.weight, f.value + it.value⟩

/-- Folds `g` into `f`: the better of the two, `f` on a tie. -/
def combine (f g : Fill) : Fill := if g.better f then g else f

/-- The 24 bytes of a fill. -/
def encode (f : Fill) : List UInt8 :=
  Bytes.le64 f.items ++ Bytes.le64 f.weight.toUInt64 ++ Bytes.le64 f.value.toUInt64

/-- A fill read from its 24 bytes. -/
def decode (p : List UInt8) : Except Fault Fill :=
  if p.length = 24 then
    .ok ⟨Bytes.readLe64 p, (Bytes.readLe64 (p.drop 8)).toInt64, (Bytes.readLe64 (p.drop 16)).toInt64⟩
  else .error (Fault.make .integrity (kind ++ ": got " ++ toString p.length ++ " bytes, want 24"))

/-- The text of a fill: its weight, its value and its item set in hexadecimal. -/
def text (f : Fill) : String :=
  "weight " ++ toString f.weight ++ " value " ++ toString f.value ++ " items 0x" ++
    String.ofList (Nat.toDigits 16 f.items.toNat)

theorem decode_encode (f : Fill) : decode f.encode = .ok f := by
  have hl : f.encode.length = 24 := by simp [encode, Bytes.le64_length]
  unfold decode
  rw [if_pos hl]
  have h8 : f.encode.drop 8 = Bytes.le64 f.weight.toUInt64 ++ Bytes.le64 f.value.toUInt64 := by
    simp [encode, Bytes.le64_length]
  have h16 : f.encode.drop 16 = Bytes.le64 f.value.toUInt64 := by
    simp [encode, List.drop_append, Bytes.le64_length]
  have h0 : Bytes.readLe64 f.encode = f.items := by
    simp only [encode, List.append_assoc]
    exact Bytes.readLe64_append _ _
  rw [h8, h16, h0, Bytes.readLe64_append, ← List.append_nil (Bytes.le64 f.value.toUInt64),
    Bytes.readLe64_append]
  simp

theorem better_irrefl (f : Fill) : f.better f = false := by
  simp [better, Int64.lt_irrefl]

end Fill

/-- Drops random items from the fill until it fits, going round at most `k` times and drawing
within `bound`: the fill that fits, or none. -/
def fit (bound : Nat) (p : Problem) : Nat → Fill → Source → Option (Fill × Source)
  | 0, f, s => if p.capacity < f.weight then none else some (f, s)
  | k + 1, f, s =>
    if p.capacity < f.weight then
      (s.intn bound p.items.size).bind fun d => fit bound p k (if f.has d.1 then f.flip p d.1 else f) d.2
    else some (f, s)

/-- Walks `k` more steps from the current fill, keeping the best fill seen; every loop of a step
goes round at most `bound` times. -/
def walkFrom (bound : Nat) (p : Problem) : Nat → Fill → Fill → Source → Option Fill
  | 0, _, best, _ => some best
  | k + 1, curr, best, s =>
    (s.intn bound p.items.size).bind fun d =>
      (fit bound p bound (curr.flip p d.1) d.2).bind fun c =>
        walkFrom bound p k c.1 (if c.1.better best then c.1 else best) c.2

/-- The best fill of a walk of `steps` steps from a seed, each loop going round at most `bound`
times; the empty fill when `steps` is not positive. -/
def walk (bound : Nat) (p : Problem) (seed : Int64) (steps : Int) : Option Fill :=
  walkFrom bound p steps.toNat Fill.empty Fill.empty (Source.seeded seed)

/-- The module the kernel belongs to. -/
def moduleName : String := "walksack"

/-- The kernel's name. -/
def kernelName : String := "walk"

/-- The walk as a kernel of a problem: the memory holds the seed in 8 little-endian bytes, the
one argument is the number of steps, and the memory left holds the best fill. A walk whose loops
do not end within `bound` fails. -/
def kernel (bound : Nat) (p : Problem) : Kernel := fun _ mem args =>
  match args with
  | [steps] =>
    if mem.length = 8 then
      match walk bound p (Bytes.readLe64 mem).toInt64 steps.toInt with
      | some f => .ok f.encode
      | none => .error (Fault.make .tooManyTries "walk: random draws did not end within their bound")
    else .error (Fault.make .invalid "walk: expected a seed and (steps, knapsack) arguments")
  | _ => .error (Fault.make .invalid "walk: expected a seed and (steps, knapsack) arguments")

/-- Fills as the shared values of a region. -/
instance : Mergeable Fill where
  kind _ := Fill.kind
  identity _ := Fill.empty
  combine f g := .ok (f.combine g)
  transfer f := Fill.decode f.encode

/-- Stops the lane on a failure. -/
def orStop {β : Type} : Except Fault β → LaneM Fill Unit Fault β
  | .ok b => pure b
  | .error f => LaneM.fail f

/-- One lane of the search: loads the module on the lane's device, writes the seed plus the
lane's index, runs the kernel, reads the fill back and folds it into the lane's copy. -/
def lane (seed steps : Int64) : LaneM Fill Unit Fault Unit := do
  let some dev ← LaneM.device?
    | LaneM.panic "runtime error: invalid memory address or nil pointer dereference"
  let i ← LaneM.index
  orStop (← LaneM.load dev moduleName)
  orStop (← LaneM.copyIn dev (Bytes.le64 (seed + Int64.ofNat i).toUInt64))
  orStop (← LaneM.launch dev kernelName [steps])
  let found ← orStop (Fill.decode (← orStop (← LaneM.copyOut dev)))
  let j ← LaneM.localIndex 0 Fill.kind
  LaneM.setLocal j ((← LaneM.getLocal j).combine found)

/-- Registers the walk of a problem, its loops bounded by `bound`, with a simulated accelerator. -/
def install (bound : Nat) (s : Sim) (p : Problem) : Except String Sim :=
  s.register moduleName kernelName (kernel bound p)

/-- Searches on every device of the executor, whose accelerator knows the kernel: the executor
after the region, the best fill found and how the region ended. -/
def search (e : Executor) (seed steps : Int64) : Executor × Fill × Outcome Fault :=
  let r := Region.run e (some .allDevices) (some (lane seed steps)) [(0, some Fill.empty)] ()
  let best := match r.merged with
    | some [f] => f
    | _ => Fill.empty
  (r.executor, best, r.outcome)

end Lanes.Knapsack
