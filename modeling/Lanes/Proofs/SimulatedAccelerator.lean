import Lanes.Device
import Mathlib

/-!
The simulated accelerator as a state machine.

Calls on a simulated accelerator come one at a time (`Sim.Call`). `Sim.perform` gives the
accelerator after a call; a call that fails leaves it as it was. Every call keeps three facts
(`Sim.Inv`): kernel names are distinct, a module loaded on a device belongs to a registered
kernel, and the load count is the number of (device, module) pairs loaded (`Sim.pairs`). So
the count is always the number of distinct pairs whose load succeeded. A call acts on at most
one device and leaves every other device as it was (`perform_device_of_ne`).

Main statement: `simulated_accelerator_laws`.
-/

namespace Lanes.Sim

/-! ### Calls -/

/-- A call on a simulated accelerator; a device call names its device by index. -/
inductive Call where
  | register (module kernel : String) (run : Kernel)
  | failOpen (i : Int) (err : Fault)
  | open (i : Int)
  | load (i : Nat) (module : String)
  | copyIn (i : Nat) (bytes : List UInt8)
  | launch (i : Nat) (kernel : String) (args : List Int64)
  | copyOut (i : Nat)

/-- The device a call acts on, if it acts on one. -/
def Call.device? : Call → Option Nat
  | .load i _ | .copyIn i _ | .launch i _ _ | .copyOut i => some i
  | _ => none

/-- A call on a device of an accelerator of `n` devices: the devices that can be opened. -/
def Call.InRange (n : Nat) (c : Call) : Prop := ∀ i, c.device? = some i → i < n

/-- The accelerator after a call. A call that fails leaves it as it was; opening a device and
copying its memory out change nothing. -/
def perform (s : Sim) : Call → Sim
  | .register m k run =>
    match s.register m k run with
    | .ok s' => s'
    | .error _ => s
  | .failOpen i err => s.failToOpen i err
  | .open _ => s
  | .load i m =>
    match s.load i m with
    | .ok s' => s'
    | .error _ => s
  | .copyIn i bytes => s.copyIn i bytes
  | .launch i k args =>
    match s.launch i k args with
    | .ok s' => s'
    | .error _ => s
  | .copyOut _ => s

/-- The accelerator after calls made in order. -/
def performAll (s : Sim) (cs : List Call) : Sim := cs.foldl perform s

@[simp] theorem performAll_nil (s : Sim) : s.performAll [] = s := rfl

@[simp] theorem performAll_cons (s : Sim) (c : Call) (cs : List Call) :
    s.performAll (c :: cs) = (s.perform c).performAll cs := rfl

/-- The (device, module) pair a call loads, if it is a load that succeeds. -/
def Call.loads? (s : Sim) : Call → Option (Nat × String)
  | .load i m =>
    match s.load i m with
    | .ok _ => some (i, m)
    | .error _ => none
  | _ => none

/-- The (device, module) pairs of the loads that succeeded, call by call. -/
def loadsOf (s : Sim) : List Call → List (Nat × String)
  | [] => []
  | c :: cs => (c.loads? s).toList ++ loadsOf (s.perform c) cs

/-! ### Devices -/

section Devices

variable (s : Sim) (f : SimDevice → SimDevice)

theorem device_modify_self {i : Nat} (hi : i < s.deviceCount) :
    (s.modify i f).device i = f (s.device i) := by
  simp only [device, modify, deviceCount] at hi ⊢
  simp [List.getD_eq_getElem?_getD, hi]

theorem device_modify_ne {i j : Nat} (h : i ≠ j) : (s.modify i f).device j = s.device j := by
  simp only [device, modify]
  rw [List.getD_eq_getElem?_getD, List.getD_eq_getElem?_getD, List.getElem?_modify]
  cases s.devices[j]? <;> simp [h]

theorem modify_of_le {i : Nat} (hi : s.deviceCount ≤ i) : s.modify i f = s := by
  simp only [modify, deviceCount] at hi ⊢
  rw [List.modify_eq_self hi]

@[simp] theorem deviceCount_modify (i : Nat) : (s.modify i f).deviceCount = s.deviceCount := by
  simp [deviceCount, modify]

@[simp] theorem kernels_modify (i : Nat) : (s.modify i f).kernels = s.kernels := rfl

@[simp] theorem failOpen_modify (i : Nat) : (s.modify i f).failOpen = s.failOpen := rfl

@[simp] theorem loads_modify (i : Nat) : (s.modify i f).loads = s.loads := rfl

/-- Copying in changes no device's modules. -/
@[simp] theorem loaded_copyIn (i j : Nat) (bytes : List UInt8) :
    ((s.copyIn i bytes).device j).loaded = (s.device j).loaded := by
  by_cases hij : i = j
  · subst hij
    by_cases hi : i < s.deviceCount
    · simp [copyIn, device_modify_self _ _ hi]
    · simp [copyIn, modify_of_le _ _ (Nat.le_of_not_lt hi)]
  · simp [copyIn, device_modify_ne _ _ hij]

theorem device_copyIn_self {i : Nat} (hi : i < s.deviceCount) (bytes : List UInt8) :
    (s.copyIn i bytes).device i = { s.device i with memory := bytes } :=
  device_modify_self _ _ hi

theorem device_create (n i : Nat) : (create n).device i = ⟨[], []⟩ := by
  simp only [device, create, List.getD_eq_getElem?_getD, List.getElem?_replicate]
  split <;> rfl

end Devices

/-! ### What each call can do -/

theorem perform_load {s s' : Sim} {i : Nat} {m : String} (h : s.load i m = .ok s') :
    s.perform (.load i m) = s' := by
  simp [perform, h]

theorem load_eq_of_loaded (s : Sim) {i : Nat} {m : String} (h : m ∈ (s.device i).loaded) :
    s.load i m = .ok s := by
  simp [load, h]

theorem load_eq_of_new (s : Sim) {i : Nat} {m : String} (h : m ∉ (s.device i).loaded)
    (hk : s.knows m = true) :
    s.load i m = .ok { s.modify i (fun d => { d with loaded := d.loaded ++ [m] }) with
      loads := s.loads + 1 } := by
  simp only [load, List.contains_iff_mem, h, hk]
  rfl

theorem load_eq_of_unknown (s : Sim) {i : Nat} {m : String} (h : m ∉ (s.device i).loaded)
    (hk : s.knows m = false) : ∃ f, s.load i m = .error f := by
  simp only [load, List.contains_iff_mem, h, hk]
  exact ⟨_, rfl⟩

/-- A load loads a module it has loaded before at once, adds and counts a module of a
registered kernel, and fails on any other module, leaving the accelerator as it was. -/
theorem perform_load_cases (s : Sim) (i : Nat) (m : String) :
    (m ∈ (s.device i).loaded ∧ s.perform (.load i m) = s) ∨
      (m ∉ (s.device i).loaded ∧ s.knows m = true ∧ s.perform (.load i m) =
        { s.modify i (fun d => { d with loaded := d.loaded ++ [m] }) with loads := s.loads + 1 }) ∨
      (m ∉ (s.device i).loaded ∧ s.knows m = false ∧ s.perform (.load i m) = s) := by
  by_cases hm : m ∈ (s.device i).loaded
  · exact .inl ⟨hm, perform_load (load_eq_of_loaded s hm)⟩
  · cases hk : s.knows m with
    | true => exact .inr (.inl ⟨hm, rfl, perform_load (load_eq_of_new s hm hk)⟩)
    | false =>
      obtain ⟨f, hf⟩ := load_eq_of_unknown s hm hk
      exact .inr (.inr ⟨hm, rfl, by simp [perform, hf]⟩)

/-- A launch succeeds exactly when its kernel is registered, the kernel's module is loaded on
the device and the kernel returns new memory, which then replaces the device's memory. -/
theorem launch_ok_iff (s s' : Sim) (i : Nat) (k : String) (args : List Int64) :
    s.launch i k args = .ok s' ↔ ∃ e, s.kernels.find? (·.name == k) = some e ∧
      e.module ∈ (s.device i).loaded ∧ ∃ mem, e.run i (s.device i).memory args = .ok mem ∧
        s' = s.copyIn i mem := by
  unfold launch
  cases hf : s.kernels.find? (·.name == k) with
  | none => simp
  | some e =>
    by_cases hl : e.module ∈ (s.device i).loaded
    · cases hr : e.run i (s.device i).memory args with
      | error f => simp [hl, hr]
      | ok mem =>
        have hc : (s.device i).loaded.contains e.module = true := List.contains_iff_mem.2 hl
        simp only [hc, Bool.not_true, Bool.false_eq_true, ↓reduceIte, hr, Except.ok.injEq,
          Option.some.injEq]
        constructor
        · rintro rfl
          exact ⟨e, rfl, hl, mem, hr, rfl⟩
        · rintro ⟨e', rfl, -, mem', hmem', rfl⟩
          rw [hr] at hmem'
          cases hmem'
          rfl
    · simp [hl]

/-- A launch either fails, leaving the accelerator as it was, or replaces its device's memory. -/
theorem perform_launch_cases (s : Sim) (i : Nat) (k : String) (args : List Int64) :
    s.perform (.launch i k args) = s ∨ ∃ mem, s.perform (.launch i k args) = s.copyIn i mem := by
  simp only [perform]
  split
  · rename_i s' h
    obtain ⟨e, -, -, mem, -, rfl⟩ := (launch_ok_iff _ _ _ _ _).1 h
    exact .inr ⟨mem, rfl⟩
  · exact .inl rfl

/-- A kernel's name is registered once; registering a name again leaves the accelerator as it
was. -/
theorem perform_register_cases (s : Sim) (m k : String) (run : Kernel) :
    (s.kernels.any (·.name == k) = true ∧ s.perform (.register m k run) = s) ∨
      (s.kernels.any (·.name == k) = false ∧
        s.perform (.register m k run) = { s with kernels := s.kernels ++ [⟨k, m, run⟩] }) := by
  cases h : s.kernels.any (·.name == k) with
  | true => exact .inl ⟨rfl, by simp only [perform, register, h]; rfl⟩
  | false => exact .inr ⟨rfl, by simp only [perform, register, h]; rfl⟩

@[simp] theorem deviceCount_perform (s : Sim) (c : Call) :
    (s.perform c).deviceCount = s.deviceCount := by
  cases c with
  | register m k run =>
    rcases perform_register_cases s m k run with ⟨-, h⟩ | ⟨-, h⟩ <;> rw [h]
    rfl
  | load i m =>
    rcases perform_load_cases s i m with ⟨-, h⟩ | ⟨-, -, h⟩ | ⟨-, -, h⟩ <;> rw [h]
    exact deviceCount_modify _ _ _
  | launch i k args =>
    rcases perform_launch_cases s i k args with h | ⟨mem, h⟩ <;> rw [h]
    exact deviceCount_modify _ _ _
  | copyIn i bytes => exact deviceCount_modify _ _ _
  | failOpen _ _ | «open» _ | copyOut _ => rfl

@[simp] theorem deviceCount_performAll (s : Sim) (cs : List Call) :
    (s.performAll cs).deviceCount = s.deviceCount := by
  induction cs generalizing s with
  | nil => rfl
  | cons c cs ih => simp [ih]

/-- A call leaves every device but its own as it was. -/
theorem perform_device_of_ne (s : Sim) (c : Call) {j : Nat} (hj : c.device? ≠ some j) :
    (s.perform c).device j = s.device j := by
  cases c with
  | register m k run =>
    rcases perform_register_cases s m k run with ⟨-, h⟩ | ⟨-, h⟩ <;> rw [h]
    rfl
  | load i m =>
    have hij : i ≠ j := fun h => hj (by simp [Call.device?, h])
    rcases perform_load_cases s i m with ⟨-, h⟩ | ⟨-, -, h⟩ | ⟨-, -, h⟩ <;> rw [h]
    exact device_modify_ne _ _ hij
  | launch i k args =>
    have hij : i ≠ j := fun h => hj (by simp [Call.device?, h])
    rcases perform_launch_cases s i k args with h | ⟨mem, h⟩ <;> rw [h]
    exact device_modify_ne _ _ hij
  | copyIn i bytes =>
    have hij : i ≠ j := fun h => hj (by simp [Call.device?, h])
    exact device_modify_ne _ _ hij
  | failOpen _ _ | «open» _ | copyOut _ => rfl

theorem loaded_perform_of_not_load (s : Sim) (c : Call) (hc : ∀ i m, c ≠ .load i m) (j : Nat) :
    ((s.perform c).device j).loaded = (s.device j).loaded := by
  cases c with
  | register m k run =>
    rcases perform_register_cases s m k run with ⟨-, h⟩ | ⟨-, h⟩ <;> rw [h]
    rfl
  | load i m => exact absurd rfl (hc i m)
  | launch i k args =>
    rcases perform_launch_cases s i k args with h | ⟨mem, h⟩ <;> rw [h]
    exact loaded_copyIn _ _ _ _
  | copyIn i bytes => exact loaded_copyIn _ _ _ _
  | failOpen _ _ | «open» _ | copyOut _ => rfl

theorem knows_perform (s : Sim) (c : Call) {m : String} (h : s.knows m = true) :
    (s.perform c).knows m = true := by
  cases c with
  | register mod k run =>
    rcases perform_register_cases s mod k run with ⟨-, hs⟩ | ⟨-, hs⟩ <;> rw [hs]
    · exact h
    · simp only [knows] at h ⊢
      simp [List.any_append, h]
  | load i mod =>
    rcases perform_load_cases s i mod with ⟨-, hs⟩ | ⟨-, -, hs⟩ | ⟨-, -, hs⟩ <;> rw [hs] <;> exact h
  | launch i k args =>
    rcases perform_launch_cases s i k args with hs | ⟨mem, hs⟩ <;> rw [hs] <;> exact h
  | copyIn _ _ | failOpen _ _ | «open» _ | copyOut _ => exact h

/-! ### Loaded pairs -/

/-- The (device, module) pairs loaded. -/
def pairs (s : Sim) : Finset (Nat × String) :=
  (Finset.range s.deviceCount).biUnion fun i => (s.device i).loaded.toFinset.image (i, ·)

theorem mem_pairs (s : Sim) (i : Nat) (m : String) :
    (i, m) ∈ s.pairs ↔ i < s.deviceCount ∧ m ∈ (s.device i).loaded := by
  simp [pairs]

theorem pairs_congr {s t : Sim} (hn : t.deviceCount = s.deviceCount)
    (hl : ∀ j, (t.device j).loaded = (s.device j).loaded) : t.pairs = s.pairs := by
  ext ⟨i, m⟩
  rw [mem_pairs, mem_pairs, hn, hl]

theorem pairs_create (n : Nat) : (create n).pairs = ∅ := by
  ext ⟨i, m⟩
  simp [mem_pairs, device_create]

theorem pairs_load_new (s : Sim) {i : Nat} (hi : i < s.deviceCount) (m : String) :
    (s.modify i (fun d => { d with loaded := d.loaded ++ [m] })).pairs = insert (i, m) s.pairs := by
  ext ⟨j, m'⟩
  rw [mem_pairs, Finset.mem_insert, mem_pairs, deviceCount_modify]
  by_cases hij : i = j
  · subst hij
    rw [device_modify_self _ _ hi]
    simp only [List.mem_append, List.mem_singleton, Prod.mk.injEq, true_and]
    constructor
    · rintro ⟨-, h | h⟩
      · exact .inr ⟨hi, h⟩
      · exact .inl h
    · rintro (h | ⟨-, h⟩)
      · exact ⟨hi, .inr h⟩
      · exact ⟨hi, .inl h⟩
  · rw [device_modify_ne _ _ hij]
    simp [Ne.symm hij]

theorem pairs_perform (s : Sim) (c : Call) (hc : c.InRange s.deviceCount) :
    (s.perform c).pairs = s.pairs ∪ (c.loads? s).toList.toFinset := by
  cases c with
  | load i m =>
    have hi : i < s.deviceCount := hc i rfl
    rcases perform_load_cases s i m with ⟨hm, h⟩ | ⟨hm, hk, h⟩ | ⟨hm, hk, h⟩
    · have hmem : (i, m) ∈ s.pairs := (mem_pairs s i m).2 ⟨hi, hm⟩
      simp [h, Call.loads?, load_eq_of_loaded s hm, hmem]
    · rw [h, show ({ s.modify i (fun d => { d with loaded := d.loaded ++ [m] }) with
          loads := s.loads + 1 } : Sim).pairs =
          (s.modify i (fun d => { d with loaded := d.loaded ++ [m] })).pairs from rfl,
        pairs_load_new s hi]
      simp only [Call.loads?, load_eq_of_new s hm hk, Option.toList_some, List.toFinset_cons,
        List.toFinset_nil, insert_empty_eq, Finset.union_singleton]
    · obtain ⟨f, hf⟩ := load_eq_of_unknown s hm hk
      simp [h, Call.loads?, hf]
  | _ =>
    simp only [Call.loads?, Option.toList_none, List.toFinset_nil, Finset.union_empty]
    exact pairs_congr (deviceCount_perform s _)
      (loaded_perform_of_not_load s _ (fun _ _ h => by cases h))

/-! ### The invariant -/

/-- What every call keeps. -/
structure Inv (s : Sim) : Prop where
  /-- No two kernels share a name. -/
  names : (s.kernels.map (·.name)).Nodup
  /-- A module loaded anywhere belongs to a registered kernel. -/
  known : ∀ i m, m ∈ (s.device i).loaded → s.knows m = true
  /-- The load count is the number of loaded pairs. -/
  count : s.loads = s.pairs.card

theorem Inv.create (n : Nat) : (create n).Inv where
  names := List.nodup_nil
  known i m hm := by simp [device_create] at hm
  count := by
    rw [pairs_create]
    rfl

theorem Inv.names_perform {s : Sim} (h : s.Inv) (c : Call) :
    ((s.perform c).kernels.map (·.name)).Nodup := by
  cases c with
  | register m k run =>
    rcases perform_register_cases s m k run with ⟨-, hs⟩ | ⟨hnew, hs⟩ <;> rw [hs]
    · exact h.names
    · simp only [List.map_append, List.map_singleton]
      refine List.nodup_append.2 ⟨h.names, List.nodup_singleton _, ?_⟩
      rintro a ha b hb rfl
      obtain ⟨e, he, rfl⟩ := List.mem_map.1 ha
      simp only [List.mem_singleton] at hb
      have : s.kernels.any (·.name == k) = true := List.any_eq_true.2 ⟨e, he, by simp [hb]⟩
      simp [this] at hnew
  | load i m =>
    rcases perform_load_cases s i m with ⟨-, hs⟩ | ⟨-, -, hs⟩ | ⟨-, -, hs⟩ <;> rw [hs] <;>
      exact h.names
  | launch i k args =>
    rcases perform_launch_cases s i k args with hs | ⟨mem, hs⟩ <;> rw [hs] <;> exact h.names
  | copyIn _ _ | failOpen _ _ | «open» _ | copyOut _ => exact h.names

theorem Inv.known_perform {s : Sim} (h : s.Inv) (c : Call) (hc : c.InRange s.deviceCount)
    (j : Nat) (m : String) (hm : m ∈ ((s.perform c).device j).loaded) :
    (s.perform c).knows m = true := by
  apply knows_perform
  -- only a load adds to a device's modules, and only a module that is known
  cases c with
  | load i mod =>
    rcases perform_load_cases s i mod with ⟨-, hs⟩ | ⟨-, hk, hs⟩ | ⟨-, -, hs⟩ <;>
      rw [hs] at hm
    · exact h.known j m hm
    · by_cases hij : i = j
      · subst hij
        rw [show ({ s.modify i (fun d => { d with loaded := d.loaded ++ [mod] }) with
            loads := s.loads + 1 } : Sim).device i = (s.modify i
              (fun d => { d with loaded := d.loaded ++ [mod] })).device i from rfl,
          device_modify_self _ _ (hc i rfl)] at hm
        rcases List.mem_append.1 hm with hm | hm
        · exact h.known i m hm
        · rw [List.mem_singleton.1 hm]
          exact hk
      · rw [show ({ s.modify i (fun d => { d with loaded := d.loaded ++ [mod] }) with
            loads := s.loads + 1 } : Sim).device j = (s.modify i
              (fun d => { d with loaded := d.loaded ++ [mod] })).device j from rfl,
          device_modify_ne _ _ hij] at hm
        exact h.known j m hm
    · exact h.known j m hm
  | _ =>
    rw [loaded_perform_of_not_load s _ (fun _ _ h => by cases h)] at hm
    exact h.known j m hm

theorem Inv.count_perform {s : Sim} (h : s.Inv) (c : Call) (hc : c.InRange s.deviceCount) :
    (s.perform c).loads = (s.perform c).pairs.card := by
  rw [pairs_perform s c hc]
  cases c with
  | load i m =>
    have hi : i < s.deviceCount := hc i rfl
    rcases perform_load_cases s i m with ⟨hm, hs⟩ | ⟨hm, hk, hs⟩ | ⟨hm, hk, hs⟩ <;> rw [hs]
    · have hmem : (i, m) ∈ s.pairs := (mem_pairs s i m).2 ⟨hi, hm⟩
      simp [Call.loads?, load_eq_of_loaded s hm, hmem, h.count]
    · have hnot : (i, m) ∉ s.pairs := fun hp => hm ((mem_pairs s i m).1 hp).2
      simp only [Call.loads?, load_eq_of_new s hm hk, Option.toList_some, List.toFinset_cons,
        List.toFinset_nil, insert_empty_eq, Finset.union_singleton]
      rw [Finset.card_insert_of_notMem hnot, ← h.count]
    · obtain ⟨f, hf⟩ := load_eq_of_unknown s hm hk
      simp [Call.loads?, hf, h.count]
  | register m k run =>
    rcases perform_register_cases s m k run with ⟨-, hs⟩ | ⟨-, hs⟩ <;> rw [hs] <;>
      simpa [Call.loads?] using h.count
  | launch i k args =>
    rcases perform_launch_cases s i k args with hs | ⟨mem, hs⟩ <;> rw [hs] <;>
      simpa [Call.loads?, copyIn] using h.count
  | copyIn i bytes => simpa [perform, Call.loads?, copyIn] using h.count
  | failOpen i err => simpa [perform, Call.loads?, failToOpen] using h.count
  | «open» i => simpa [perform, Call.loads?] using h.count
  | copyOut i => simpa [perform, Call.loads?] using h.count

/-- Every call keeps the invariant. -/
theorem Inv.perform {s : Sim} (h : s.Inv) (c : Call) (hc : c.InRange s.deviceCount) :
    (s.perform c).Inv :=
  ⟨h.names_perform c, h.known_perform c hc, h.count_perform c hc⟩

/-- Calls on the devices of an accelerator keep the invariant. -/
theorem Inv.performAll {s : Sim} (h : s.Inv) (cs : List Call)
    (hcs : ∀ c ∈ cs, c.InRange s.deviceCount) : (s.performAll cs).Inv := by
  induction cs generalizing s with
  | nil => exact h
  | cons c cs ih =>
    have hc := hcs c List.mem_cons_self
    exact ih (h.perform c hc) (fun c' hc' => by
      rw [deviceCount_perform]
      exact hcs c' (List.mem_cons_of_mem _ hc'))

/-- The pairs loaded after calls: those loaded before, and those of the loads that succeeded. -/
theorem pairs_performAll (s : Sim) (cs : List Call) (hcs : ∀ c ∈ cs, c.InRange s.deviceCount) :
    (s.performAll cs).pairs = s.pairs ∪ (s.loadsOf cs).toFinset := by
  induction cs generalizing s with
  | nil => simp [loadsOf]
  | cons c cs ih =>
    have hc := hcs c List.mem_cons_self
    rw [performAll_cons, ih (s.perform c) (fun c' hc' => by
      rw [deviceCount_perform]
      exact hcs c' (List.mem_cons_of_mem _ hc')), pairs_perform s c hc]
    simp only [loadsOf, List.toFinset_append, Finset.union_assoc]

/-! ### Loads and launches on an accelerator that keeps the invariant -/

section Laws

variable {s : Sim} (h : s.Inv)
include h

theorem Inv.load_ok_iff (i : Nat) (m : String) :
    (∃ s', s.load i m = .ok s') ↔ ∃ e ∈ s.kernels, e.module = m := by
  have hknows : s.knows m = true ↔ ∃ e ∈ s.kernels, e.module = m := by simp [knows]
  rw [← hknows]
  by_cases hm : m ∈ (s.device i).loaded
  · exact ⟨fun _ => h.known i m hm, fun _ => ⟨s, load_eq_of_loaded s hm⟩⟩
  · cases hk : s.knows m with
    | true => exact ⟨fun _ => rfl, fun _ => ⟨_, load_eq_of_new s hm hk⟩⟩
    | false =>
      obtain ⟨f, hf⟩ := load_eq_of_unknown s hm hk
      simp [hf]

theorem Inv.find?_name {e : KernelEntry} (he : e ∈ s.kernels) :
    s.kernels.find? (·.name == e.name) = some e := by
  obtain ⟨e', hfind⟩ : ∃ e', s.kernels.find? (·.name == e.name) = some e' := by
    cases hf : s.kernels.find? (·.name == e.name) with
    | some e' => exact ⟨e', rfl⟩
    | none => exact absurd he (by simpa using List.find?_eq_none.1 hf e)
  have hname : e'.name = e.name := by simpa using List.find?_some hfind
  rw [hfind, List.inj_on_of_nodup_map h.names (List.mem_of_find?_eq_some hfind) he hname]

theorem Inv.launch_ok_iff (i : Nat) (k : String) (args : List Int64) :
    (∃ s', s.launch i k args = .ok s') ↔ ∃ e ∈ s.kernels, e.name = k ∧
      e.module ∈ (s.device i).loaded ∧ ∃ mem, e.run i (s.device i).memory args = .ok mem := by
  simp only [Sim.launch_ok_iff]
  constructor
  · rintro ⟨_, e, hfind, hl, mem, hrun, -⟩
    exact ⟨e, List.mem_of_find?_eq_some hfind, by simpa using List.find?_some hfind, hl, mem, hrun⟩
  · rintro ⟨e, he, rfl, hl, mem, hrun⟩
    exact ⟨_, e, h.find?_name he, hl, mem, hrun, rfl⟩

theorem Inv.perform_launch {i : Nat} (hi : i < s.deviceCount) {e : KernelEntry}
    (he : e ∈ s.kernels) (hl : e.module ∈ (s.device i).loaded) {args : List Int64}
    {mem : List UInt8} (hrun : e.run i (s.device i).memory args = .ok mem) :
    (s.perform (.launch i e.name args)).device i = { s.device i with memory := mem } := by
  have hok : s.launch i e.name args = .ok (s.copyIn i mem) :=
    (Sim.launch_ok_iff _ _ _ _ _).2 ⟨e, h.find?_name he, hl, mem, hrun, rfl⟩
  rw [show s.perform (.launch i e.name args) = s.copyIn i mem by simp [Sim.perform, hok]]
  exact device_copyIn_self s hi mem

end Laws

/-! ### Opening devices -/

theorem open?_ok_iff (s : Sim) (i : Int) :
    (∃ d, s.open? i = .ok d) ↔ 0 ≤ i ∧ i < s.deviceCount ∧ ∀ e ∈ s.failOpen, e.1 ≠ i := by
  unfold open?
  by_cases hr : i < 0 ∨ i ≥ s.deviceCount
  · simp only [hr, if_true]
    constructor
    · rintro ⟨d, hd⟩
      cases hd
    · rintro ⟨h0, hn, -⟩
      omega
  · simp only [hr, if_false]
    cases hf : s.failOpen.find? (·.1 == i) with
    | some e =>
      have he := List.mem_of_find?_eq_some hf
      have hei : e.1 = i := by simpa using List.find?_some hf
      constructor
      · rintro ⟨d, hd⟩
        cases hd
      · rintro ⟨-, -, hall⟩
        exact absurd hei (hall e he)
    | none =>
      have hall : ∀ e ∈ s.failOpen, e.1 ≠ i := by simpa using List.find?_eq_none.1 hf
      exact ⟨fun _ => ⟨by omega, by omega, hall⟩, fun _ => ⟨_, rfl⟩⟩

theorem failOpen_perform (s : Sim) (c : Call) (i : Int) :
    (∀ e ∈ (s.perform c).failOpen, e.1 ≠ i) ↔
      (∀ e ∈ s.failOpen, e.1 ≠ i) ∧ ∀ err, c ≠ .failOpen i err := by
  cases c with
  | failOpen j err =>
    simp only [perform, failToOpen, List.mem_cons, List.mem_filter, forall_eq_or_imp, ne_eq,
      Call.failOpen.injEq, not_and]
    by_cases hj : j = i
    · subst hj
      simp
    · constructor
      · rintro ⟨-, hall⟩
        refine ⟨fun e he hei => hall e ⟨he, by simp [hei, Ne.symm hj]⟩ hei, fun _ h => absurd h hj⟩
      · rintro ⟨hall, -⟩
        exact ⟨hj, fun e he => hall e he.1⟩
  | register m k run =>
    rcases perform_register_cases s m k run with ⟨-, hs⟩ | ⟨-, hs⟩ <;> rw [hs] <;> simp
  | load i' m =>
    rcases perform_load_cases s i' m with ⟨-, hs⟩ | ⟨-, -, hs⟩ | ⟨-, -, hs⟩ <;> rw [hs] <;> simp
  | launch i' k args =>
    rcases perform_launch_cases s i' k args with hs | ⟨mem, hs⟩ <;> rw [hs] <;> simp [copyIn]
  | copyIn i' bytes => simp [perform, copyIn]
  | «open» _ | copyOut _ => simp [perform]

theorem failOpen_performAll (s : Sim) (cs : List Call) (i : Int) :
    (∀ e ∈ (s.performAll cs).failOpen, e.1 ≠ i) ↔
      (∀ e ∈ s.failOpen, e.1 ≠ i) ∧ ∀ err, Call.failOpen i err ∉ cs := by
  induction cs generalizing s with
  | nil => simp
  | cons c cs ih =>
    rw [performAll_cons, ih, failOpen_perform]
    simp only [List.mem_cons, not_or]
    constructor
    · rintro ⟨⟨hs, hc⟩, hcs⟩
      exact ⟨hs, fun err => ⟨fun h => hc err h.symm, hcs err⟩⟩
    · rintro ⟨hs, hcs⟩
      exact ⟨⟨hs, fun err h => (hcs err).1 h.symm⟩, fun err => (hcs err).2⟩

/-! ### The laws -/

/-- **The laws of the simulated accelerator.** Take any calls made one at a time on a new
simulated accelerator of `n` devices, each device call on one of its devices, and the
accelerator `s` they leave.
1. The load count is the number of distinct (device, module) pairs whose load succeeded.
2. A load succeeds exactly when its module is that of a registered kernel; a failed load leaves
   the accelerator as it was, so a load after the kernel is registered tries again.
3. A launch succeeds exactly when its kernel is registered, the kernel's module is loaded on the
   device and the kernel returns new memory, which then becomes the device's memory; a failed
   launch leaves the accelerator as it was.
4. Copying in replaces the device's memory, and copying out gives it.
5. A call leaves every device but its own as it was: its memory and its modules.
6. A device opens exactly when its index is one of the `n` and no call told it to fail. -/
theorem simulated_accelerator_laws (n : Nat) (cs : List Call) (hcs : ∀ c ∈ cs, c.InRange n) :
    let s := (create n).performAll cs
    s.loads = ((create n).loadsOf cs).toFinset.card ∧
    (∀ i < n, ∀ m, ((∃ s', s.load i m = .ok s') ↔ ∃ e ∈ s.kernels, e.module = m) ∧
      ∀ f, s.load i m = .error f → s.perform (.load i m) = s) ∧
    (∀ i < n, ∀ k args,
      ((∃ s', s.launch i k args = .ok s') ↔ ∃ e ∈ s.kernels, e.name = k ∧
        e.module ∈ (s.device i).loaded ∧ ∃ mem, e.run i (s.device i).memory args = .ok mem) ∧
      (∀ e ∈ s.kernels, e.name = k → e.module ∈ (s.device i).loaded → ∀ mem,
        e.run i (s.device i).memory args = .ok mem →
          (s.perform (.launch i k args)).device i = { s.device i with memory := mem }) ∧
      ∀ f, s.launch i k args = .error f → s.perform (.launch i k args) = s) ∧
    (∀ i < n, ∀ bytes, (s.perform (.copyIn i bytes)).device i = { s.device i with memory := bytes } ∧
      s.copyOut i = (s.device i).memory) ∧
    (∀ c : Call, ∀ j, c.device? ≠ some j → (s.perform c).device j = s.device j) ∧
    (∀ i : Int, (∃ d, s.open? i = .ok d) ↔ 0 ≤ i ∧ i < n ∧ ∀ err, Call.failOpen i err ∉ cs) := by
  intro s
  have hn : s.deviceCount = n := by
    simp only [s, deviceCount_performAll]
    simp [deviceCount, create]
  have hcs' : ∀ c ∈ cs, c.InRange (create n).deviceCount := by
    simpa [deviceCount, create] using hcs
  have hinv : s.Inv := (Inv.create n).performAll cs hcs'
  refine ⟨?count, fun i hi m => ⟨hinv.load_ok_iff i m, fun f hf => by simp [perform, hf]⟩,
    fun i hi k args => ⟨hinv.launch_ok_iff i k args, ?launch, fun f hf => by simp [perform, hf]⟩,
    fun i hi bytes => ⟨device_copyIn_self s (hn ▸ hi) bytes, rfl⟩,
    fun c j hj => perform_device_of_ne s c hj, fun i => ?opens⟩
  case count =>
    rw [hinv.count, pairs_performAll _ _ hcs', pairs_create, Finset.empty_union]
  case launch =>
    rintro e he rfl hl mem hrun
    exact hinv.perform_launch (hn ▸ hi) he hl hrun
  case opens =>
    rw [open?_ok_iff, hn, failOpen_performAll]
    simp [create]

/-- A kernel of module `m` registered, then `m` loaded twice on device 0 and once on device 1,
on two devices: every call is on a device, and the laws hold. -/
theorem simulated_accelerator_laws_load_twice :
    let cs := [Call.register "m" "keep" (fun _ mem _ => .ok mem), .load 0 "m", .load 0 "m",
      .load 1 "m"]
    (∀ c ∈ cs, c.InRange 2) ∧
      ((create 2).performAll cs).loads = ((create 2).loadsOf cs).toFinset.card := by
  intro cs
  have hcs : ∀ c ∈ cs, c.InRange 2 := by
    intro c hc i hi
    simp only [cs, List.mem_cons, List.not_mem_nil, or_false] at hc
    rcases hc with rfl | rfl | rfl | rfl <;> simp [Call.device?] at hi <;> omega
  exact ⟨hcs, (simulated_accelerator_laws 2 cs hcs).1⟩

end Lanes.Sim
