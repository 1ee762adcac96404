import Lanes.Proofs.RegionRefusal

/-!
What a region's lanes keep of the world they share.

A lane body reads and changes the shared world only through `LaneM.world` and `LaneM.setWorld`.
`LaneM.Keeps P m` says that a computation keeps a property `P` of that world, whatever the lane
and however it stops. It holds of `pure`, of every step that leaves the world alone, and of a
`setWorld` to a world with `P`; it is closed under `bind`, `tryCatch` and `andThenAlways`; and a
computation that reads the world may assume `P` of what it reads. A body that keeps `P` keeps it
over all of a region's lanes (`runLanes_keeps`), and so over the region (`run_world_keeps`).

`LaneM.Triple pre P m post` adds the lane's own copies and scope: from copies and a scope that
satisfy `pre`, and a world with `P`, the computation ends, however it stops, with copies and a
scope that satisfy `post`, and a world with `P`.
-/

namespace Lanes.Region

namespace LaneM

variable {α σ ε β γ : Type}

/-- Runs a lane computation, with what the lane knows of itself, from a state. -/
def exec (m : LaneM α σ ε β) (info : LaneInfo) (st : LaneState α σ) :
    Except (LaneStop ε) β × LaneState α σ :=
  StateT.run (ExceptT.run (ReaderT.run m info)) st

theorem exec_bind (m : LaneM α σ ε β) (f : β → LaneM α σ ε γ) (info : LaneInfo)
    (st : LaneState α σ) :
    exec (m >>= f) info st = match exec m info st with
      | (.ok b, st') => exec (f b) info st'
      | (.error e, st') => (.error e, st') := by
  simp only [exec, ReaderT.run_bind, ExceptT.run_bind]
  show StateT.run (_ >>= _) st = _
  rw [StateT.run_bind]
  generalize StateT.run (ExceptT.run (ReaderT.run m info)) st = x
  rcases x with ⟨_ | b, st'⟩ <;> rfl

theorem exec_tryCatch (m : LaneM α σ ε β) (h : LaneStop ε → LaneM α σ ε β) (info : LaneInfo)
    (st : LaneState α σ) :
    exec (tryCatch m h) info st = match exec m info st with
      | (.ok b, st') => (.ok b, st')
      | (.error e, st') => exec (h e) info st' := by
  simp only [exec]
  show StateT.run (ExceptT.run (tryCatch (ReaderT.run m info) fun e => ReaderT.run (h e) info)) st = _
  rw [ExceptT.run_tryCatch, StateT.run_bind]
  generalize StateT.run (ExceptT.run (ReaderT.run m info)) st = x
  rcases x with ⟨_ | b, st'⟩ <;> rfl

/-- A computation keeps a property of the shared world: a world that has it before the
computation, in any lane, has it after, however the computation stops. -/
def Keeps (P : σ → Prop) (m : LaneM α σ ε β) : Prop :=
  ∀ info st, P st.world → P (exec m info st).2.world

variable {P : σ → Prop}

theorem Keeps.of_world_eq {m : LaneM α σ ε β} (h : ∀ info st, (exec m info st).2.world = st.world) :
    Keeps P m := by
  intro info st hw
  rw [h info st]
  exact hw

theorem keeps_pure (b : β) : Keeps P (pure b : LaneM α σ ε β) :=
  Keeps.of_world_eq fun _ _ => rfl

theorem keeps_throw (e : LaneStop ε) : Keeps P (throw e : LaneM α σ ε β) :=
  Keeps.of_world_eq fun _ _ => rfl

theorem keeps_index : Keeps P (index : LaneM α σ ε Nat) := Keeps.of_world_eq fun _ _ => rfl

theorem keeps_scope : Keeps P (scope : LaneM α σ ε Metrics.Scope) :=
  Keeps.of_world_eq fun _ _ => rfl

theorem keeps_setWorld {w : σ} (hw : P w) : Keeps P (setWorld w : LaneM α σ ε Unit) :=
  fun _ _ _ => hw

theorem keeps_world_bind {f : σ → LaneM α σ ε β} (hf : ∀ w, P w → Keeps P (f w)) :
    Keeps P (world >>= f) := by
  intro info st hw
  rw [exec_bind]
  exact hf st.world hw info st hw

theorem Keeps.bind {m : LaneM α σ ε β} {f : β → LaneM α σ ε γ} (hm : Keeps P m)
    (hf : ∀ b, Keeps P (f b)) : Keeps P (m >>= f) := by
  intro info st hw
  have hmid := hm info st hw
  rw [exec_bind]
  -- the world after `m` has the property, whether `m` returned or stopped
  rcases hx : exec m info st with ⟨_ | b, st'⟩
  · rw [hx] at hmid
    exact hmid
  · rw [hx] at hmid
    exact hf b info st' hmid

theorem Keeps.tryCatch {m : LaneM α σ ε β} {h : LaneStop ε → LaneM α σ ε β} (hm : Keeps P m)
    (hh : ∀ e, Keeps P (h e)) : Keeps P (tryCatch m h) := by
  intro info st hw
  have hmid := hm info st hw
  rw [exec_tryCatch]
  rcases hx : exec m info st with ⟨_ | b, st'⟩
  · rw [hx] at hmid
    exact hh _ info st' hmid
  · rw [hx] at hmid
    exact hmid

theorem Keeps.andThenAlways {m : LaneM α σ ε β} {after : LaneM α σ ε Unit} (hm : Keeps P m)
    (hafter : Keeps P after) : Keeps P (andThenAlways m after) :=
  (hm.bind fun b => hafter.bind fun _ => keeps_pure b).tryCatch
    fun e => hafter.bind fun _ => keeps_throw e

/-! ### Triples over a lane's copies and scope -/

@[simp] theorem exec_index (info : LaneInfo) (st : LaneState α σ) :
    exec (index : LaneM α σ ε Nat) info st = (.ok info.index, st) := rfl

@[simp] theorem exec_scope (info : LaneInfo) (st : LaneState α σ) :
    exec (scope : LaneM α σ ε Metrics.Scope) info st = (.ok st.scope, st) := rfl

@[simp] theorem exec_world (info : LaneInfo) (st : LaneState α σ) :
    exec (world : LaneM α σ ε σ) info st = (.ok st.world, st) := rfl

@[simp] theorem exec_setWorld (w : σ) (info : LaneInfo) (st : LaneState α σ) :
    exec (setWorld w : LaneM α σ ε Unit) info st = (.ok (), { st with world := w }) := rfl

@[simp] theorem exec_incr (id : Nat) (n : Int64) (info : LaneInfo) (st : LaneState α σ) :
    exec (incr id n : LaneM α σ ε Unit) info st = (.ok (), { st with scope := st.scope.incr id n }) :=
  rfl

@[simp] theorem exec_getLocal [Inhabited α] (j : Nat) (info : LaneInfo) (st : LaneState α σ) :
    exec (getLocal j : LaneM α σ ε α) info st = (.ok (st.locals.getD j default), st) := rfl

@[simp] theorem exec_setLocal (j : Nat) (a : α) (info : LaneInfo) (st : LaneState α σ) :
    exec (setLocal j a : LaneM α σ ε Unit) info st = (.ok (), { st with locals := st.locals.set j a }) :=
  rfl

/-- A computation followed by one that always returns, however the first stopped, ends where
the second leaves the lane. -/
theorem exec_andThenAlways {m : LaneM α σ ε β} {after : LaneM α σ ε Unit}
    (hafter : ∀ info st, (exec after info st).1 = .ok ()) (info : LaneInfo) (st : LaneState α σ) :
    (exec (andThenAlways m after) info st).2 = (exec after info (exec m info st).2).2 := by
  unfold andThenAlways
  rw [exec_tryCatch, exec_bind]
  rcases hx : exec m info st with ⟨_ | b, st'⟩
  all_goals
    dsimp only
    rw [exec_bind]
    rcases hy : exec after info st' with ⟨r, st''⟩
    obtain rfl : r = .ok () := by simpa [hy] using hafter info st'
    rfl

/-- A triple of a lane computation: from a state whose copies and scope satisfy `pre` and whose
world satisfies `P`, it ends, however it stops, in one whose copies and scope satisfy `post` and
whose world still satisfies `P`. -/
def Triple (pre : List α → Metrics.Scope → Prop) (P : σ → Prop) (m : LaneM α σ ε β)
    (post : List α → Metrics.Scope → Prop) : Prop :=
  ∀ info st, pre st.locals st.scope → P st.world →
    post (exec m info st).2.locals (exec m info st).2.scope ∧ P (exec m info st).2.world

namespace Triple

variable {pre mid post : List α → Metrics.Scope → Prop}

/-- A triple whose conditions on copies and scope say nothing is a property the computation
keeps of the world. -/
theorem keeps {m : LaneM α σ ε β} (h : Triple (fun _ _ => True) P m fun _ _ => True) : Keeps P m :=
  fun info st hw => (h info st trivial hw).2

theorem of_state_eq {m : LaneM α σ ε β} (h : ∀ info st, (exec m info st).2 = st)
    (hp : ∀ ls s, pre ls s → post ls s) : Triple pre P m post := by
  intro info st hpre hw
  rw [h info st]
  exact ⟨hp _ _ hpre, hw⟩

theorem pure (b : β) : Triple pre P (Pure.pure b : LaneM α σ ε β) pre :=
  of_state_eq (fun _ _ => rfl) fun _ _ h => h

theorem throw (e : LaneStop ε) : Triple pre P (MonadExcept.throw e : LaneM α σ ε β) pre :=
  of_state_eq (fun _ _ => rfl) fun _ _ h => h

theorem fail (e : ε) : Triple pre P (LaneM.fail e : LaneM α σ ε β) pre := throw _

theorem bind {m : LaneM α σ ε β} {f : β → LaneM α σ ε γ} (hm : Triple pre P m mid)
    (hf : ∀ b, Triple mid P (f b) post) (hmid : ∀ ls s, mid ls s → post ls s) :
    Triple pre P (m >>= f) post := by
  intro info st hpre hw
  have hafter := hm info st hpre hw
  rw [exec_bind]
  -- a stop of `m` ends the computation where `m` left the lane
  rcases hx : exec m info st with ⟨_ | b, st'⟩
  · rw [hx] at hafter
    exact ⟨hmid _ _ hafter.1, hafter.2⟩
  · rw [hx] at hafter
    exact hf b info st' hafter.1 hafter.2

/-- Two computations that keep an invariant, one after the other. -/
theorem seq {m : LaneM α σ ε β} {f : β → LaneM α σ ε γ} (hm : Triple pre P m pre)
    (hf : ∀ b, Triple pre P (f b) pre) : Triple pre P (m >>= f) pre :=
  hm.bind hf fun _ _ h => h

/-- A computation that keeps an invariant, then a handler that keeps it too. -/
theorem tryCatch {m : LaneM α σ ε β} {h : LaneStop ε → LaneM α σ ε β} (hm : Triple pre P m pre)
    (hh : ∀ e, Triple pre P (h e) pre) : Triple pre P (MonadExcept.tryCatch m h) pre := by
  intro info st hpre hw
  have hafter := hm info st hpre hw
  rw [exec_tryCatch]
  rcases hx : exec m info st with ⟨_ | b, st'⟩
  · rw [hx] at hafter
    exact hh _ info st' hafter.1 hafter.2
  · rw [hx] at hafter
    exact hafter

theorem andThenAlways {m : LaneM α σ ε β} {after : LaneM α σ ε Unit} (hm : Triple pre P m pre)
    (hafter : Triple pre P after pre) : Triple pre P (LaneM.andThenAlways m after) pre :=
  (hm.seq fun b => hafter.seq fun _ => pure b).tryCatch fun e => hafter.seq fun _ => throw e

theorem world_bind {f : σ → LaneM α σ ε β} (hf : ∀ w, P w → Triple pre P (f w) post) :
    Triple pre P (world >>= f) post := by
  intro info st hpre hw
  rw [exec_bind]
  exact hf st.world hw info st hpre hw

theorem setWorld {w : σ} (hw : P w) : Triple pre P (LaneM.setWorld w : LaneM α σ ε Unit) pre :=
  fun _ _ hpre _ => ⟨hpre, hw⟩

theorem incr (id : Nat) (n : Int64) (hp : ∀ ls s, pre ls s → post ls (s.incr id n)) :
    Triple pre P (LaneM.incr id n : LaneM α σ ε Unit) post :=
  fun _ _ hpre hw => ⟨hp _ _ hpre, hw⟩

end Triple

end LaneM

open LaneM

variable {α σ ε : Type} {P : σ → Prop}

/-- A body that keeps a property of the world keeps it over any number of lanes, each run on
the world the one before left. -/
theorem runLanes_keeps {body : LaneM α σ ε Unit} (hbody : Keeps P body) (info : Nat → LaneInfo)
    (values : List α) : ∀ (lanes : List Nat) (acc : Accelerator) (w : σ), P w →
      P (runLanes body info values lanes acc w).2.2
  | [], _, _, hw => hw
  | i :: rest, acc, w, hw => by
    rw [runLanes_cons]
    exact runLanes_keeps hbody info values rest _ _ (hbody (info i) _ hw)

/-- A region whose body keeps a property of the world ends with a world that has it, whether its
lanes ran or it stopped before them. -/
theorem run_world_keeps [Mergeable α] {body : LaneM α σ ε Unit} (hbody : Keeps P body)
    (e : Executor) (policy : Option Policy) (shared : List (Nat × Option α)) {world : σ}
    (hw : P world) : P (run e policy (some body) shared world).world := by
  rcases run_cases e policy (some body) shared world with
    ⟨-, hworld, -⟩ | ⟨-, -, -, -, -, -, hworld, -⟩ | ⟨-, plan, -, -, -, -, -, b, info, values, hb, hworld⟩
  · rw [hworld]
    exact hw
  · rw [hworld]
    exact hw
  · -- the lanes ran: the world is the one the last lane left
    rw [hworld, ← Option.some.inj hb]
    exact runLanes_keeps hbody info values _ _ _ hw

end Lanes.Region
