import Lanes.Proofs.LaneWorld
import Lanes.Pipeline.Topology
import Lanes.Proofs.TableMap

/-!
The stages of a topology.

A client builds a topology by calls (`Topology.Call`): attaching sources, giving them replicas,
and running it. Along every sequence of calls from a new topology (`Topology.Inv`):

* a configuration call is refused exactly when its source, opener or factory is missing, its
  transform is unknown, its source does not exist, it asks for fewer than one copy, or the
  topology has started; a refusal is an invalid argument and changes nothing;
* a run is refused when the topology has already run, has no sources, or has a source without
  replicas; the first two change nothing, but the last marks every source before the first one
  without replicas running, each with its lanes pending (`startSources_cases`), and leaves the
  table and the started flag alone, so the topology can still be configured and run;
* a run that starts ends with every source and the topology drained and the table frozen, whatever
  the lanes did: the lanes keep the started flag and the number of sources (`body_keeps`);
* a source's stage moves only forward, but for one exception that follows from the refused run
  above: a source it left running goes back to configured when it is given more replicas;
* the topology's stage is unconfigured without sources, and otherwise its least advanced source's,
  reported as running rather than drained until the table is frozen.

What a replica's work may do to its lane and to the topology is said once, by `WorkStable`: set the
table, set a source's origin, count an update or a record. Every property of lanes that survives
those (the shape of the topology here, the lane's tally of records elsewhere) holds after the
work, by `replicaWork_triple`.

Main statement: `topology_stage_machine`.
-/

namespace Lanes.Pipeline

open Lanes.Region Lanes.Region.LaneM

/-! ### Stages -/

theorem Stage.rank_le_drained (s : Stage) : s.rank ≤ Stage.drained.rank := by
  cases s <;> decide

theorem foldl_least (l : List SourceConfig) : ∀ a : Stage,
    ((l.foldl (fun s c => s.least c.stage) a) = a ∨
      ∃ sc ∈ l, l.foldl (fun s c => s.least c.stage) a = sc.stage) ∧
    (l.foldl (fun s c => s.least c.stage) a).rank ≤ a.rank ∧
    ∀ sc ∈ l, (l.foldl (fun s c => s.least c.stage) a).rank ≤ sc.stage.rank := by
  induction l with
  | nil => intro a; simp
  | cons sc rest ih =>
    intro a
    obtain ⟨hmem, hle, hall⟩ := ih (a.least sc.stage)
    -- the least of `a` and the head is one of them, and no further on than either
    have hleast : (a.least sc.stage = a ∨ a.least sc.stage = sc.stage) ∧
        (a.least sc.stage).rank ≤ a.rank ∧ (a.least sc.stage).rank ≤ sc.stage.rank := by
      unfold Stage.least
      split
      · exact ⟨.inr rfl, by omega, le_refl _⟩
      · exact ⟨.inl rfl, le_refl _, by omega⟩
    simp only [List.foldl_cons, List.mem_cons, forall_eq_or_imp, exists_eq_or_imp]
    refine ⟨?_, by omega, by omega, hall⟩
    rcases hmem with h | ⟨x, hx, h⟩
    · rcases hleast.1 with h' | h'
      · exact .inl (h.trans h')
      · exact .inr (.inl (h.trans h'))
    · exact .inr (.inr ⟨x, hx, h⟩)

namespace Topology

theorem stage_of_ne_nil {t : Topology} (h : t.sources ≠ []) :
    ∃ sc ∈ t.sources, (∀ x ∈ t.sources, sc.stage.rank ≤ x.stage.rank) ∧
      t.stage = if sc.stage = .drained ∧ t.drained = false then .running else sc.stage := by
  obtain ⟨first, rest, hsrc⟩ := List.exists_cons_of_ne_nil h
  obtain ⟨hmem, hle, hall⟩ := foldl_least rest first.stage
  have hstage : t.stage = let least := rest.foldl (fun s c => s.least c.stage) first.stage
      if least = .drained ∧ t.drained = false then .running else least := by
    simp [stage, hsrc]
  rw [hsrc]
  rcases hmem with heq | ⟨sc, hsc, heq⟩
  · refine ⟨first, List.mem_cons_self, ?_, ?_⟩
    · intro x hx
      rcases List.mem_cons.mp hx with rfl | hx
      · exact le_refl _
      · have := hall x hx
        rw [heq] at this
        exact this
    · rw [hstage, heq]
  · refine ⟨sc, List.mem_cons_of_mem _ hsc, ?_, ?_⟩
    · intro x hx
      rcases List.mem_cons.mp hx with rfl | hx
      · rw [← heq]
        exact hle
      · rw [← heq]
        exact hall x hx
    · rw [hstage, heq]

/-! ### Calls -/

/-- A call a client makes on a topology. -/
inductive Call where
  /-- Attaches a source its replicas share; `none` is a missing source. -/
  | source (src : Option Reader)
  /-- Attaches a source every replica opens for itself; `none` is a missing opener. -/
  | replicated (opener : Option (Except Fault Reader))
  /-- Gives a source copies of a transform; `none` is a missing factory. -/
  | replicas (i : Nat) (copies : Int) (name : String) (transform : Option String) (args : List String)
  /-- Gives a source copies of a transform known by name. -/
  | replicasOf (i : Nat) (copies : Int) (name : String) (args : List String)
  /-- Runs the topology on an executor. -/
  | run (e : Executor)

/-- Whether a call gives a source replicas. -/
def Call.givesReplicas : Call → Bool
  | .replicas .. | .replicasOf .. => true
  | _ => false

/-- When a call is refused: a missing source, opener or factory, an unknown transform, a source
that does not exist, fewer than one copy, a topology that has started; and for a run, also a
topology without sources or with a source that has no replicas. -/
def Call.RefusedOn (t : Topology) : Call → Prop
  | .source src => src = none ∨ t.started = true
  | .replicated o => o = none ∨ t.started = true
  | .replicas i copies _ tr _ => t.sources.length ≤ i ∨ copies < 1 ∨ tr = none ∨ t.started = true
  | .replicasOf i copies name _ =>
    name ∉ transformNames ∨ t.sources.length ≤ i ∨ copies < 1 ∨ t.started = true
  | .run _ => t.started = true ∨ t.sources = [] ∨ ∃ sc ∈ t.sources, sc.stage = .unconfigured

/-- The topology a configuration call leaves, and the fault that refused it: a refused call
leaves the topology as it was. -/
def settle {β : Type} (t : Topology) : Except Fault (β × Topology) → Topology × Option Fault
  | .ok (_, t') => (t', none)
  | .error f => (t, some f)

/-- Makes a call: the topology after it, and the fault that refused it, if one did. -/
def perform (t : Topology) : Call → Topology × Option Fault
  | .source src => settle t (t.source src)
  | .replicated o => settle t (t.replicatedSource o)
  | .replicas i copies name tr args => settle t (t.addReplicas i copies name tr args)
  | .replicasOf i copies name args => settle t (t.replicasOf i copies name args)
  | .run e =>
    match t.run e with
    | (t', _, .refused f) => (t', some f)
    | (t', _, .ran _) => (t', none)

/-- Makes calls one after another. -/
def performAll (t : Topology) (cs : List Call) : Topology := cs.foldl (fun t c => (t.perform c).1) t

/-- The topology with one more source, unconfigured, at the end. -/
def withSource (t : Topology) (o : Origin) : Topology :=
  { t with sources := t.sources ++ [⟨o, [], .unconfigured, 0, Metrics.Scope.empty⟩] }

/-- The topology whose `i`-th source has one more group of replicas, and is configured. -/
def withReplicas (t : Topology) (i : Nat) (sc : SourceConfig) (rc : ReplicaConfig) : Topology :=
  { t with sources := t.sources.set i { sc with replicas := sc.replicas ++ [rc], stage := .configured } }

/-! ### Configuration calls -/

@[simp] theorem configFault_kindOf (m : String) : (configFault m).kindOf = some .invalid := by
  simp [configFault]

theorem attach_cases (t : Topology) (o : Origin) :
    (t.started = true ∧ ∃ f, t.attach o = .error f ∧ f.kindOf = some .invalid) ∨
    (t.started = false ∧ t.attach o = .ok (t.sources.length, t.withSource o)) := by
  cases h : t.started
  · exact .inr ⟨rfl, by simp [attach, h, withSource]⟩
  · exact .inl ⟨rfl, _, by simp [attach, h]; rfl, configFault_kindOf _⟩

theorem source_cases (t : Topology) (src : Option Reader) :
    ((src = none ∨ t.started = true) ∧ ∃ f, t.source src = .error f ∧ f.kindOf = some .invalid) ∨
    (∃ r, src = some r ∧ t.started = false ∧
      t.source src = .ok (t.sources.length, t.withSource (.shared r false))) := by
  cases src with
  | none => exact .inl ⟨.inl rfl, _, rfl, configFault_kindOf _⟩
  | some r =>
    rcases attach_cases t (.shared r false) with ⟨hs, h⟩ | ⟨hs, h⟩
    · exact .inl ⟨.inr hs, h⟩
    · exact .inr ⟨r, rfl, hs, h⟩

theorem replicatedSource_cases (t : Topology) (o : Option (Except Fault Reader)) :
    ((o = none ∨ t.started = true) ∧
      ∃ f, t.replicatedSource o = .error f ∧ f.kindOf = some .invalid) ∨
    (∃ make, o = some make ∧ t.started = false ∧
      t.replicatedSource o = .ok (t.sources.length, t.withSource (.opener make))) := by
  cases o with
  | none => exact .inl ⟨.inl rfl, _, rfl, configFault_kindOf _⟩
  | some make =>
    rcases attach_cases t (.opener make) with ⟨hs, h⟩ | ⟨hs, h⟩
    · exact .inl ⟨.inr hs, h⟩
    · exact .inr ⟨make, rfl, hs, h⟩

theorem addReplicas_cases (t : Topology) (i : Nat) (copies : Int) (name : String)
    (tr : Option String) (args : List String) :
    ((t.sources.length ≤ i ∨ copies < 1 ∨ tr = none ∨ t.started = true) ∧
      ∃ f, t.addReplicas i copies name tr args = .error f ∧ f.kindOf = some .invalid) ∨
    (∃ sc trn rc, t.sources[i]? = some sc ∧ 1 ≤ copies ∧ tr = some trn ∧ t.started = false ∧
      t.addReplicas i copies name tr args = .ok (rc, t.withReplicas i sc rc)) := by
  cases hsc : t.sources[i]? with
  | none =>
    have hi : t.sources.length ≤ i := List.getElem?_eq_none_iff.mp hsc
    exact .inl ⟨.inl hi, _, by simp [addReplicas, hsc]; rfl, configFault_kindOf _⟩
  | some sc =>
    have hi : ¬ t.sources.length ≤ i := fun hi => by
      rw [List.getElem?_eq_none_iff.mpr hi] at hsc
      cases hsc
    by_cases hc : copies < 1
    · exact .inl ⟨.inr (.inl hc), _, by simp [addReplicas, hsc, hc]; rfl, configFault_kindOf _⟩
    cases tr with
    | none =>
      exact .inl ⟨.inr (.inr (.inl rfl)), _, by simp [addReplicas, hsc, hc]; rfl, configFault_kindOf _⟩
    | some trn =>
      cases hs : t.started
      · refine .inr ⟨sc, trn, ⟨if name.isEmpty then "transform" ++ toString sc.replicas.length
          else name, copies.toNat, trn, args⟩, rfl, by omega, rfl, rfl, ?_⟩
        simp [addReplicas, hsc, hc, hs, withReplicas]
      · exact .inl ⟨.inr (.inr (.inr rfl)), _, by simp [addReplicas, hsc, hc, hs]; rfl,
          configFault_kindOf _⟩

theorem replicasOf_cases (t : Topology) (i : Nat) (copies : Int) (name : String)
    (args : List String) :
    ((name ∉ transformNames ∨ t.sources.length ≤ i ∨ copies < 1 ∨ t.started = true) ∧
      ∃ f, t.replicasOf i copies name args = .error f ∧ f.kindOf = some .invalid) ∨
    (∃ sc rc, t.sources[i]? = some sc ∧ 1 ≤ copies ∧ t.started = false ∧
      t.replicasOf i copies name args = .ok (rc, t.withReplicas i sc rc)) := by
  by_cases hn : name ∈ transformNames
  · have hlookup : lookupTransform name = .ok name := by simp [lookupTransform, hn]
    have hof : t.replicasOf i copies name args = t.addReplicas i copies name (some name) args := by
      simp [replicasOf, hlookup]
      rfl
    rw [hof]
    rcases addReplicas_cases t i copies name (some name) args with
      ⟨hcond, hf⟩ | ⟨sc, trn, rc, hsc, hc, -, hs, h⟩
    · refine .inl ⟨?_, hf⟩
      rcases hcond with h | h | h | h
      · exact .inr (.inl h)
      · exact .inr (.inr (.inl h))
      · cases h
      · exact .inr (.inr (.inr h))
    · exact .inr ⟨sc, rc, hsc, hc, hs, h⟩
  · have hlookup : lookupTransform name = .error (Fault.make .invalid
        ("pipeline: unknown transform " ++ Text.quote name)) := by
      simp [lookupTransform, hn]
    exact .inl ⟨.inl hn, _, by simp [replicasOf, hlookup]; rfl, Fault.kindOf_make _ _⟩

/-! ### Starting the sources -/

/-- Starting the sources marks them running one after another, with their lanes pending, and
stops at the first one without replicas: those before it are marked, it and those after it are
as they were. -/
theorem startSources_cases : ∀ (i : Nat) (scs : List SourceConfig),
    ((∀ sc ∈ scs, sc.stage ≠ .unconfigured) ∧
      startSources i scs = .ok (scs.map SourceConfig.start)) ∨
    ∃ pre sc post, scs = pre ++ sc :: post ∧ (∀ x ∈ pre, x.stage ≠ .unconfigured) ∧
      sc.stage = .unconfigured ∧
      startSources i scs = .error (configFault ("source " ++ toString (i + pre.length) ++
        " has no replicas"), pre.map SourceConfig.start ++ sc :: post)
  | i, [] => .inl ⟨by simp, rfl⟩
  | i, sc :: rest => by
    by_cases hsc : sc.stage = .unconfigured
    · exact .inr ⟨[], sc, rest, rfl, by simp, hsc, by simp [startSources, hsc]⟩
    · rcases startSources_cases (i + 1) rest with
        ⟨hall, hok⟩ | ⟨pre, x, post, hrest, hpre, hx, herr⟩
      · refine .inl ⟨?_, by simp [startSources, hsc, hok]⟩
        intro y hy
        rcases List.mem_cons.mp hy with rfl | hy
        · exact hsc
        · exact hall y hy
      · -- the source that stops the start is further on; the head is marked before it
        have hindex : i + 1 + pre.length = i + (sc :: pre).length := by simp; omega
        refine .inr ⟨sc :: pre, x, post, by rw [hrest]; rfl, ?_, hx, ?_⟩
        · intro y hy
          rcases List.mem_cons.mp hy with rfl | hy
          · exact hsc
          · exact hpre y hy
        · simp only [startSources, hsc, herr, hindex]
          rfl

/-! ### What the lanes of a run keep -/

/-- What the lanes of a run keep of the topology they share: whether it has started, and how many
sources it has. -/
def Shape (s : Bool) (n : Nat) (t : Topology) : Prop := t.started = s ∧ t.sources.length = n

/-- What replica work does to its lane: it gives the topology's table new entries and a source a
new origin, and it counts each update it emits in its scope, and each record it reads in its
scope and in its copy of the record count, which grows by one when it is a whole number. A
condition `L` on a lane's copies and scope, with a property `P` of the topology, is stable under
the work when each of these keeps it. -/
structure WorkStable (L : List Accumulator.Acc → Metrics.Scope → Prop) (P : Topology → Prop) : Prop where
  setTable : ∀ (t : Topology) (table : Table), P t → P { t with table }
  setOrigin : ∀ (t : Topology) (si : Nat) (sc : SourceConfig) (o : Origin),
    t.sources[si]? = some sc → P t → P { t with sources := t.sources.set si { sc with origin := o } }
  countUpdate : ∀ ls s, L ls s → L ls (s.incr Metrics.updatesEmitted 1)
  countLong : ∀ ls s (l : Accumulator.Long), ls.getD 0 default = .long l → L ls s →
    L (ls.set 0 (.long { l with value := l.value + 1 })) (s.incr Metrics.recordsRead 1)
  countOther : ∀ ls s (a : Accumulator.Acc), ls.getD 0 default = a → (∀ l, a ≠ .long l) → L ls s →
    L (ls.set 0 a) (s.incr Metrics.recordsRead 1)

section Work

variable {L : List Accumulator.Acc → Metrics.Scope → Prop} {P : Topology → Prop}

theorem readNext_triple (hI : WorkStable L P) (si : Nat) (own : Option Reader) :
    Triple L P (readNext si own) L := by
  unfold readNext
  cases own with
  | some r => exact Triple.pure _
  | none =>
    refine Triple.world_bind fun t ht => ?_
    split
    · rename_i sc hsc
      split
      · split
        · exact Triple.pure _
        · -- a shared reader moves on: the source gets its new origin
          exact (Triple.setWorld (hI.setOrigin t si sc _ hsc ht)).seq fun _ => Triple.pure _
      · exact Triple.pure _
    · exact Triple.pure _

theorem emitAll_triple (hI : WorkStable L P) (rc : ReplicaConfig) (rec : Record) :
    ∀ ups : List (Key × Accumulator.Acc), Triple L P (emitAll rc rec ups) L
  | [] => Triple.pure _
  | (k, u) :: rest => by
    unfold emitAll
    refine Triple.world_bind fun t ht => (Triple.setWorld (hI.setTable t _ ht)).seq fun _ => ?_
    split
    · exact (Triple.incr _ _ hI.countUpdate).seq fun _ => emitAll_triple hI rc rec rest
    · exact Triple.fail _

theorem pump_triple (hI : WorkStable L P) (si : Nat) (rc : ReplicaConfig) (tr : Transform) :
    ∀ fuel own, Triple L P (pump si rc tr fuel own) L
  | 0, _ => Triple.pure _
  | fuel + 1, own => by
    unfold pump
    refine (readNext_triple hI si own).seq fun ⟨res, own'⟩ => ?_
    dsimp only
    split
    · exact Triple.pure _
    · exact Triple.fail _
    · -- the record is counted in the scope and in the lane's copy, then mapped
      intro info st hL hP
      rw [exec_bind, exec_incr]
      dsimp only
      rw [exec_bind, exec_getLocal]
      dsimp only
      split <;> rw [exec_bind, exec_setLocal] <;> refine (?_ : Triple L P _ L) info _ ?_ hP
      -- the copy is counted with the scope, whether it is a whole number or not
      any_goals first
        | exact hI.countLong _ _ _ ‹_› hL
        | exact hI.countOther _ _ _ rfl ‹_› hL
      -- either way, the record's updates are emitted and the next record is read
      all_goals
        refine (emitAll_triple hI rc _ _).seq fun _ => ?_
        split
        · exact Triple.fail _
        · exact pump_triple hI si rc tr fuel _

theorem replicaWork_triple (hI : WorkStable L P) (si : Nat) (rc : ReplicaConfig) :
    Triple L P (replicaWork si rc) L := by
  unfold replicaWork
  dsimp only
  -- once the transform is made, the replica pumps its reader, or fails to open one
  split <;> refine Triple.seq ?_ fun tr => Triple.world_bind fun t _ => ?_
  all_goals first
    | exact Triple.pure _
    | exact Triple.fail _
    | split
      · exact Triple.pure _
      · split
        · exact pump_triple hI si rc tr _ _
        · exact pump_triple hI si rc tr _ _
        · exact Triple.fail _

end Work

section Lanes

variable {s : Bool} {n : Nat}

theorem Shape.setSource {t : Topology} (h : Shape s n t) (si : Nat) (sc : SourceConfig) :
    Shape s n { t with sources := t.sources.set si sc } := ⟨h.1, by simp [h.2]⟩

theorem Shape.setTable {t : Topology} (h : Shape s n t) (table : Table) :
    Shape s n { t with table } := h

theorem Shape.workStable : WorkStable (fun _ _ => True) (Shape s n) :=
  ⟨fun _ _ h => h.setTable _, fun _ si _ _ _ h => h.setSource si _, fun _ _ h => h,
    fun _ _ _ _ h => h, fun _ _ _ _ _ h => h⟩

theorem replicaDone_keeps (si : Nat) : Keeps (Shape s n) (replicaDone si) := by
  unfold replicaDone
  refine keeps_scope.bind fun _ => keeps_world_bind fun t ht => ?_
  split
  · exact keeps_pure _
  · exact keeps_setWorld (ht.setSource _ _)

/-- The lanes of a run keep whether the topology has started and how many sources it has. -/
theorem body_keeps (lanes : List (Nat × ReplicaConfig)) : Keeps (Shape s n) (body lanes) := by
  unfold body
  refine keeps_index.bind fun _ => ?_
  split
  · exact (replicaWork_triple Shape.workStable _ _).keeps.andThenAlways (replicaDone_keeps _)
  · exact keeps_pure _

end Lanes

/-! ### Running -/

theorem run_of_startSources_ok {t : Topology} (e : Executor) {sources : List SourceConfig}
    (hs : t.started = false) (hne : t.sources ≠ []) (hok : startSources 0 t.sources = .ok sources) :
    ∃ (w : Topology) (records : Int64) (o : Outcome Fault) (ex : Executor),
      Shape true sources.length w ∧
      t.run e = ({ w with
        table := w.table.freeze, sources := w.sources.map ({ · with stage := .drained }),
        records, drained := true, outcome := some o }, ex, .ran o) := by
  let t₀ : Topology := { t with sources, started := true }
  let r := Region.run e (some (.lanes t₀.laneReplicas.length)) (some (body t₀.laneReplicas))
    [(0, some (sumOf 0))] t₀
  -- the lanes keep the topology started and its sources, so the world they leave has both
  have hshape : Shape true sources.length r.world := run_world_keeps (body_keeps _) e _ _ ⟨rfl, rfl⟩
  refine ⟨r.world, (t.run e).1.records, r.outcome, r.executor, hshape, ?_⟩
  simp only [run, hs, List.isEmpty_eq_false_iff.mpr hne, hok]
  rfl

/-- What a run does. Refused when the topology has started or has no sources, it changes nothing.
Refused for a source without replicas, it marks the sources before the first such one running.
Otherwise it runs its lanes, and ends started and drained, with the table frozen, its sources
kept, and every one of them drained. -/
theorem run_cases (t : Topology) (e : Executor) :
    let r := t.run e
    ((t.started = true ∨ t.sources = []) ∧ r.1 = t ∧
      ∃ f, r.2.2 = .refused f ∧ f.kindOf = some .invalid) ∨
    (t.started = false ∧ ∃ pre sc post, t.sources = pre ++ sc :: post ∧
      (∀ x ∈ pre, x.stage ≠ .unconfigured) ∧ sc.stage = .unconfigured ∧
      r.1 = { t with sources := pre.map SourceConfig.start ++ sc :: post } ∧
      ∃ f, r.2.2 = .refused f ∧ f.kindOf = some .invalid) ∨
    (t.started = false ∧ t.sources ≠ [] ∧ (∀ x ∈ t.sources, x.stage ≠ .unconfigured) ∧
      (∃ o, r.2.2 = .ran o) ∧ r.1.started = true ∧ r.1.drained = true ∧ r.1.table.frozen = true ∧
      r.1.sources.length = t.sources.length ∧ ∀ sc ∈ r.1.sources, sc.stage = .drained) := by
  intro r
  cases hs : t.started
  · by_cases hne : t.sources = []
    · have hr : r = (t, e, .refused (configFault "topology has no sources")) := by
        simp [r, run, hs, hne]
      exact .inl ⟨.inr hne, by rw [hr], _, by rw [hr], configFault_kindOf _⟩
    rcases startSources_cases 0 t.sources with
      ⟨hall, hok⟩ | ⟨pre, sc, post, hsrc, hpre, hsc, herr⟩
    · -- every source has replicas: the run starts
      obtain ⟨w, records, o, ex, ⟨hwstarted, hwlen⟩, hrun⟩ := run_of_startSources_ok e hs hne hok
      have hr : r = _ := hrun
      rw [List.length_map] at hwlen
      refine .inr (.inr ⟨rfl, hne, hall, ⟨o, by rw [hr]⟩, by rw [hr]; exact hwstarted, by rw [hr],
        by rw [hr]; rfl, by rw [hr]; simp [hwlen], ?_⟩)
      rw [hr]
      simp
    · -- a source without replicas stops the run, after those before it are marked
      have hr : r = ({ t with sources := pre.map SourceConfig.start ++ sc :: post }, e,
          .refused (configFault ("source " ++ toString (0 + pre.length) ++ " has no replicas"))) := by
        simp only [r, run, hs, List.isEmpty_eq_false_iff.mpr hne, herr]
        rfl
      exact .inr (.inl ⟨rfl, pre, sc, post, hsrc, hpre, hsc, by rw [hr, hs], _, by rw [hr],
        configFault_kindOf _⟩)
  · have hr : r = (t, e, .refused (configFault "topology already run")) := by
      simp [r, run, hs]
    exact .inl ⟨.inl rfl, by rw [hr], _, by rw [hr], configFault_kindOf _⟩

/-! ### Calls -/

/-- Whether a call configures the topology, rather than running it. -/
def Call.configures : Call → Bool
  | .run _ => false
  | _ => true

theorem Call.eq_run_of_configures {c : Call} (h : c.configures = false) : ∃ e, c = .run e := by
  cases c with
  | run e => exact ⟨e, rfl⟩
  | _ => cases h

/-- A configuration call is refused, as an invalid argument and leaving the topology as it was,
exactly when the call is refused on the topology. Otherwise the topology has not started, and the
call attaches a source or gives one replicas. -/
theorem perform_configures {t : Topology} {c : Call} (hc : c.configures = true) :
    (c.RefusedOn t ∧ ∃ f, t.perform c = (t, some f) ∧ f.kindOf = some .invalid) ∨
    (¬ c.RefusedOn t ∧ t.started = false ∧ (t.perform c).2 = none ∧
      ((∃ o, (t.perform c).1 = t.withSource o) ∨
        ∃ i sc rc, t.sources[i]? = some sc ∧ c.givesReplicas = true ∧
          (t.perform c).1 = t.withReplicas i sc rc)) := by
  cases c with
  | source src =>
    rcases source_cases t src with ⟨hr, f, hf, hk⟩ | ⟨r, rfl, hs, h⟩
    · exact .inl ⟨hr, f, by simp [perform, hf, settle], hk⟩
    · refine .inr ⟨by simp [Call.RefusedOn, hs], hs, by simp [perform, h, settle],
        .inl ⟨.shared r false, by simp [perform, h, settle]⟩⟩
  | replicated o =>
    rcases replicatedSource_cases t o with ⟨hr, f, hf, hk⟩ | ⟨make, rfl, hs, h⟩
    · exact .inl ⟨hr, f, by simp [perform, hf, settle], hk⟩
    · refine .inr ⟨by simp [Call.RefusedOn, hs], hs, by simp [perform, h, settle],
        .inl ⟨.opener make, by simp [perform, h, settle]⟩⟩
  | replicas i copies name tr args =>
    rcases addReplicas_cases t i copies name tr args with
      ⟨hr, f, hf, hk⟩ | ⟨sc, trn, rc, hsc, hcopies, rfl, hs, h⟩
    · exact .inl ⟨hr, f, by simp [perform, hf, settle], hk⟩
    · have hi : i < t.sources.length := (List.getElem?_eq_some_iff.mp hsc).1
      refine .inr ⟨by simp [Call.RefusedOn, hs]; omega, hs, by simp [perform, h, settle],
        .inr ⟨i, sc, rc, hsc, rfl, by simp [perform, h, settle]⟩⟩
  | replicasOf i copies name args =>
    rcases replicasOf_cases t i copies name args with
      ⟨hr, f, hf, hk⟩ | ⟨sc, rc, hsc, hcopies, hs, h⟩
    · exact .inl ⟨hr, f, by simp [perform, hf, settle], hk⟩
    · have hi : i < t.sources.length := (List.getElem?_eq_some_iff.mp hsc).1
      -- the transform was found: an unknown one would have been refused
      have hn : name ∈ transformNames := by
        by_contra hn
        have hlookup : lookupTransform name = .error (Fault.make .invalid
            ("pipeline: unknown transform " ++ Text.quote name)) := by
          simp [lookupTransform, hn]
        simp only [replicasOf, hlookup] at h
        cases h
      refine .inr ⟨by simp [Call.RefusedOn, hs, hn]; omega, hs, by simp [perform, h, settle],
        .inr ⟨i, sc, rc, hsc, rfl, by simp [perform, h, settle]⟩⟩
  | run e => cases hc

theorem perform_run (t : Topology) (e : Executor) :
    (t.perform (.run e)).1 = (t.run e).1 ∧
    ((t.perform (.run e)).2 = none ↔ ∃ o, (t.run e).2.2 = .ran o) ∧
    ∀ f, (t.perform (.run e)).2 = some f ↔ (t.run e).2.2 = .refused f := by
  simp only [perform]
  generalize t.run e = r
  rcases r with ⟨t', ex, o | f⟩
  · simp
  · simp

/-! ### Calls from a new topology -/

theorem create_ok {kind : List UInt8} {t : Topology} (h : Topology.create kind = .ok t) :
    ∃ table, Table.create kind = .ok table ∧ t = ⟨table, [], false, false, 0, none⟩ := by
  cases htable : Table.create kind with
  | error f => simp [create, htable] at h
  | ok table =>
    simp only [create, htable] at h
    exact ⟨table, rfl, (Except.ok.inj h).symm⟩

/-- What holds of every topology built by calls from a new one. -/
structure Inv (t : Topology) : Prop where
  /-- The table is frozen exactly once the topology has run. -/
  frozen : t.table.frozen = t.started
  /-- The topology is drained exactly once it has run. -/
  drained : t.drained = t.started
  /-- Once it has run, every source is drained. -/
  ran : t.started = true → ∀ sc ∈ t.sources, sc.stage = .drained
  /-- Before it runs, no source is drained, and a source is unconfigured exactly while it has no
  replicas. -/
  waiting : t.started = false → ∀ sc ∈ t.sources,
    sc.stage ≠ .drained ∧ (sc.stage = .unconfigured ↔ sc.replicas = [])

theorem Inv.create {kind : List UInt8} {t : Topology} (h : Topology.create kind = .ok t) : Inv t := by
  obtain ⟨table, htable, rfl⟩ := create_ok h
  obtain ⟨a, -, rfl⟩ := Table.create_ok htable
  exact ⟨rfl, rfl, (fun h => by cases h), (fun _ sc hsc => by cases hsc)⟩

theorem Inv.withSource {t : Topology} (hinv : Inv t) (hs : t.started = false) (o : Origin) :
    Inv (t.withSource o) := by
  refine ⟨hinv.frozen, hinv.drained, (fun h => absurd (h.symm.trans hs) (by decide)), fun _ sc hsc => ?_⟩
  simp only [Topology.withSource, List.mem_append, List.mem_singleton] at hsc
  rcases hsc with hsc | rfl
  · exact hinv.waiting hs sc hsc
  · simp

theorem Inv.withReplicas {t : Topology} (hinv : Inv t) (hs : t.started = false) (i : Nat)
    (sc : SourceConfig) (rc : ReplicaConfig) : Inv (t.withReplicas i sc rc) := by
  refine ⟨hinv.frozen, hinv.drained, (fun h => absurd (h.symm.trans hs) (by decide)), fun _ x hx => ?_⟩
  rcases List.mem_or_eq_of_mem_set hx with hx | rfl
  · exact hinv.waiting hs x hx
  · simp

theorem Inv.startPrefix {t : Topology} (hinv : Inv t) (hs : t.started = false)
    {pre post : List SourceConfig} {sc : SourceConfig} (hsrc : t.sources = pre ++ sc :: post)
    (hpre : ∀ x ∈ pre, x.stage ≠ .unconfigured) :
    Inv { t with sources := pre.map SourceConfig.start ++ sc :: post } := by
  have hwait := hinv.waiting hs
  rw [hsrc] at hwait
  refine ⟨hinv.frozen, hinv.drained, (fun h => absurd (h.symm.trans hs) (by decide)), fun _ x hx => ?_⟩
  simp only [List.mem_append, List.mem_map, List.mem_cons] at hx
  rcases hx with ⟨y, hy, rfl⟩ | rfl | hx
  · have hyu := (hwait y (by simp [hy])).2
    refine ⟨by simp [SourceConfig.start], ?_⟩
    simp only [SourceConfig.start]
    exact ⟨(fun h => by cases h), fun h => absurd (hyu.mpr h) (hpre y hy)⟩
  · exact hwait _ (by simp)
  · exact hwait x (by simp [hx])

theorem Inv.run {t : Topology} (hinv : Inv t) (e : Executor) : Inv (t.run e).1 := by
  rcases run_cases t e with ⟨-, h, -⟩ | ⟨hs, pre, sc, post, hsrc, hpre, -, h, -⟩ |
    ⟨-, -, -, -, hstarted, hdrained, hfrozen, -, hall⟩
  · rw [h]
    exact hinv
  · rw [h]
    exact hinv.startPrefix hs hsrc hpre
  · refine ⟨by rw [hfrozen, hstarted], by rw [hdrained, hstarted], fun _ => hall, fun h => ?_⟩
    rw [hstarted] at h
    cases h

theorem Inv.perform {t : Topology} (hinv : Inv t) (c : Call) : Inv (t.perform c).1 := by
  cases hc : c.configures
  · obtain ⟨e, rfl⟩ := Call.eq_run_of_configures hc
    rw [(perform_run t e).1]
    exact hinv.run e
  · rcases perform_configures hc with ⟨-, f, h, -⟩ | ⟨-, hs, -, ⟨o, h⟩ | ⟨i, sc, rc, -, -, h⟩⟩
    · rw [h]
      exact hinv
    · rw [h]
      exact hinv.withSource hs o
    · rw [h]
      exact hinv.withReplicas hs i sc rc

theorem Inv.performAll {t : Topology} (hinv : Inv t) : ∀ cs, Inv (t.performAll cs)
  | [] => hinv
  | c :: cs => (hinv.perform c).performAll cs

/-! ### What a call does -/

theorem stage_nil {t : Topology} (h : t.sources = []) : t.stage = .unconfigured := by
  simp [stage, h]

theorem stage_drained {t : Topology} (hne : t.sources ≠ [])
    (hall : ∀ sc ∈ t.sources, sc.stage = .drained) (hd : t.drained = true) : t.stage = .drained := by
  obtain ⟨sc, hsc, -, hstage⟩ := stage_of_ne_nil hne
  rw [hstage, hall sc hsc, hd]
  rfl

/-- A topology built by calls is as far as its least advanced source, reported running until its
table is frozen. -/
theorem Inv.stage_least {t : Topology} (hinv : Inv t) (hne : t.sources ≠ []) :
    ∃ sc ∈ t.sources, (∀ x ∈ t.sources, sc.stage.rank ≤ x.stage.rank) ∧
      t.stage = if sc.stage = .drained ∧ t.table.frozen = false then .running else sc.stage := by
  obtain ⟨sc, hsc, hle, hstage⟩ := stage_of_ne_nil hne
  have hdrained : t.drained = t.table.frozen := hinv.drained.trans hinv.frozen.symm
  exact ⟨sc, hsc, hle, by rw [hstage, hdrained]⟩

/-- A run is refused exactly when the topology has run, has no sources, or has a source without
replicas. -/
theorem run_refused_iff (t : Topology) (e : Executor) :
    (¬ ∃ o, (t.run e).2.2 = .ran o) ↔
      t.started = true ∨ t.sources = [] ∨ ∃ sc ∈ t.sources, sc.stage = .unconfigured := by
  rcases run_cases t e with ⟨hcond, -, f, hf, -⟩ | ⟨hs, pre, sc, post, hsrc, -, hsc, -, f, hf, -⟩ |
    ⟨hs, hne, hall, ho, -⟩
  · simp only [hf, reduceCtorEq, exists_false, not_false_eq_true, true_iff]
    rcases hcond with h | h
    · exact .inl h
    · exact .inr (.inl h)
  · simp only [hf, reduceCtorEq, exists_false, not_false_eq_true, true_iff]
    exact .inr (.inr ⟨sc, by simp [hsrc], hsc⟩)
  · simp only [ho, not_true_eq_false, false_iff]
    rintro (h | h | ⟨sc, hsc, h⟩)
    · rw [hs] at h
      cases h
    · exact hne h
    · exact hall sc hsc h

theorem perform_refused_iff (t : Topology) (c : Call) :
    (t.perform c).2.isSome ↔ c.RefusedOn t := by
  cases hc : c.configures
  · obtain ⟨e, rfl⟩ := Call.eq_run_of_configures hc
    obtain ⟨-, hnone, -⟩ := perform_run t e
    have hrefused : (t.perform (.run e)).2.isSome ↔ ¬ ∃ o, (t.run e).2.2 = .ran o := by
      rw [← hnone]
      cases (t.perform (.run e)).2 <;> simp
    rw [hrefused, run_refused_iff]
    rfl
  · rcases perform_configures hc with ⟨hr, f, h, -⟩ | ⟨hr, -, h, -⟩
    · rw [h]
      exact ⟨fun _ => hr, fun _ => rfl⟩
    · rw [h]
      exact ⟨(fun h' => by cases h'), fun h' => absurd h' hr⟩

theorem perform_refused_kind (t : Topology) (c : Call) {f : Fault} (h : (t.perform c).2 = some f) :
    f.kindOf = some .invalid := by
  cases hc : c.configures
  · obtain ⟨e, rfl⟩ := Call.eq_run_of_configures hc
    have hf := ((perform_run t e).2.2 f).mp h
    rcases run_cases t e with ⟨-, -, f', hf', hk⟩ | ⟨-, -, -, -, -, -, -, -, f', hf', hk⟩ |
      ⟨-, -, -, ⟨o, ho⟩, -⟩
    · rw [hf'] at hf
      cases hf
      exact hk
    · rw [hf'] at hf
      cases hf
      exact hk
    · rw [ho] at hf
      cases hf
  · rcases perform_configures hc with ⟨-, f', h', hk⟩ | ⟨-, -, h', -⟩
    · rw [h'] at h
      cases h
      exact hk
    · rw [h'] at h
      cases h

theorem perform_run_refused (t : Topology) (e : Executor) (h : (t.perform (.run e)).2.isSome) :
    ((t.started = true ∨ t.sources = []) ∧ (t.perform (.run e)).1 = t) ∨
    (t.started = false ∧ ∃ pre sc post, t.sources = pre ++ sc :: post ∧
      (∀ x ∈ pre, x.stage ≠ .unconfigured) ∧ sc.stage = .unconfigured ∧
      (t.perform (.run e)).1 = { t with sources := pre.map SourceConfig.start ++ sc :: post }) := by
  obtain ⟨hfirst, hnone, -⟩ := perform_run t e
  rw [hfirst]
  rcases run_cases t e with ⟨hcond, hr, -⟩ | ⟨hs, pre, sc, post, hsrc, hpre, hsc, hr, -⟩ |
    ⟨-, -, -, ho, -⟩
  · exact .inl ⟨hcond, hr⟩
  · exact .inr ⟨hs, pre, sc, post, hsrc, hpre, hsc, hr⟩
  · -- a run that started is not refused
    rw [← hnone] at ho
    rw [ho] at h
    cases h

/-- A run that starts ends with every source and the topology drained and the table frozen. -/
theorem perform_run_started (t : Topology) (e : Executor) (h : (t.perform (.run e)).2 = none) :
    (∀ sc ∈ (t.perform (.run e)).1.sources, sc.stage = .drained) ∧
    (t.perform (.run e)).1.table.frozen = true ∧ (t.perform (.run e)).1.stage = .drained := by
  obtain ⟨hfirst, hnone, -⟩ := perform_run t e
  obtain ⟨o, ho⟩ := hnone.mp h
  rw [hfirst]
  rcases run_cases t e with ⟨-, -, f, hf, -⟩ | ⟨-, -, -, -, -, -, -, -, f, hf, -⟩ |
    ⟨-, hne, -, -, -, hdrained, hfrozen, hlen, hall⟩
  · rw [hf] at ho
    cases ho
  · rw [hf] at ho
    cases ho
  · have hne' : (t.run e).1.sources ≠ [] := by
      intro hnil
      rw [hnil] at hlen
      exact hne (List.length_eq_zero_iff.mp hlen.symm)
    exact ⟨hall, hfrozen, stage_drained hne' hall hdrained⟩

theorem Inv.startPrefix_forward {t : Topology} (hinv : Inv t) (hs : t.started = false)
    {pre post : List SourceConfig} {sc₀ : SourceConfig} (hsrc : t.sources = pre ++ sc₀ :: post)
    {i : Nat} {sc : SourceConfig} (h : t.sources[i]? = some sc) :
    ∃ sc', (pre.map SourceConfig.start ++ sc₀ :: post)[i]? = some sc' ∧
      sc.stage.rank ≤ sc'.stage.rank := by
  by_cases hlt : i < pre.length
  · -- a source before the first without replicas is marked running; it was not drained
    have hpre : pre[i]? = some sc := by
      rw [hsrc, List.getElem?_append_left hlt] at h
      exact h
    have hnd := (hinv.waiting hs sc (List.mem_of_getElem? h)).1
    refine ⟨sc.start, ?_, ?_⟩
    · rw [List.getElem?_append_left (by simpa using hlt), List.getElem?_map, hpre]
      rfl
    · cases hst : sc.stage with
      | drained => exact absurd hst hnd
      | _ => simp [SourceConfig.start, Stage.rank]
  · -- it and the sources after it are kept
    have hge : pre.length ≤ i := Nat.le_of_not_lt hlt
    refine ⟨sc, ?_, le_refl _⟩
    rw [List.getElem?_append_right (by simpa using hge), List.length_map, ← h, hsrc,
      List.getElem?_append_right hge]

theorem Inv.withReplicas_forward {t : Topology} (hinv : Inv t) (hs : t.started = false)
    {j : Nat} {sc₀ : SourceConfig} (hsc₀ : t.sources[j]? = some sc₀) (rc : ReplicaConfig)
    {i : Nat} {sc : SourceConfig} (h : t.sources[i]? = some sc) :
    ∃ sc', (t.withReplicas j sc₀ rc).sources[i]? = some sc' ∧
      (sc.stage.rank ≤ sc'.stage.rank ∨ sc.stage = .running ∧ sc'.stage = .configured) := by
  by_cases hji : j = i
  · -- the source given replicas is configured; before the start it was not drained
    subst hji
    rw [Option.some.inj (hsc₀.symm.trans h)]
    have hnd := (hinv.waiting hs sc (List.mem_of_getElem? h)).1
    refine ⟨_, by rw [Topology.withReplicas, List.getElem?_set_self
      (List.getElem?_eq_some_iff.mp h).1], ?_⟩
    cases hst : sc.stage with
    | unconfigured => exact .inl (by simp [Stage.rank])
    | configured => exact .inl (by simp [Stage.rank])
    | running => exact .inr ⟨rfl, rfl⟩
    | drained => exact absurd hst hnd
  · exact ⟨sc, by rw [Topology.withReplicas, List.getElem?_set_ne hji, h], .inl (le_refl _)⟩

/-- Every call keeps each source in its place and moves its stage forward, but for one case: a
source that a refused run left running goes back to configured when it is given more replicas. -/
theorem Inv.stage_forward {t : Topology} (hinv : Inv t) (c : Call) {i : Nat} {sc : SourceConfig}
    (h : t.sources[i]? = some sc) :
    ∃ sc', (t.perform c).1.sources[i]? = some sc' ∧
      (sc.stage.rank ≤ sc'.stage.rank ∨
        c.givesReplicas = true ∧ sc.stage = .running ∧ sc'.stage = .configured) := by
  have hi : i < t.sources.length := (List.getElem?_eq_some_iff.mp h).1
  cases hc : c.configures
  · obtain ⟨e, rfl⟩ := Call.eq_run_of_configures hc
    rw [(perform_run t e).1]
    rcases run_cases t e with ⟨-, hr, -⟩ | ⟨hs, pre, sc₀, post, hsrc, -, -, hr, -⟩ |
      ⟨-, -, -, -, -, -, -, hlen, hall⟩
    · rw [hr]
      exact ⟨sc, h, .inl (le_refl _)⟩
    · rw [hr]
      obtain ⟨sc', hsc', hle⟩ := hinv.startPrefix_forward hs hsrc h
      exact ⟨sc', hsc', .inl hle⟩
    · -- the run started: every source is drained, as far as a stage goes
      obtain ⟨sc', hsc'⟩ : ∃ sc', (t.run e).1.sources[i]? = some sc' :=
        ⟨_, List.getElem?_eq_getElem (by rw [hlen]; exact hi)⟩
      refine ⟨sc', hsc', .inl ?_⟩
      rw [hall sc' (List.mem_of_getElem? hsc')]
      exact sc.stage.rank_le_drained
  · rcases perform_configures hc with
      ⟨-, f, hp, -⟩ | ⟨-, hs, -, ⟨o, hp⟩ | ⟨j, sc₀, rc, hsc₀, hgives, hp⟩⟩
    · rw [hp]
      exact ⟨sc, h, .inl (le_refl _)⟩
    · rw [hp]
      exact ⟨sc, by rw [Topology.withSource, List.getElem?_append_left hi, h], .inl (le_refl _)⟩
    · rw [hp]
      obtain ⟨sc', hsc', hle | ⟨hrun, hconf⟩⟩ := hinv.withReplicas_forward hs hsc₀ rc h
      · exact ⟨sc', hsc', .inl hle⟩
      · exact ⟨sc', hsc', .inr ⟨hgives, hrun, hconf⟩⟩

theorem create_eq {kind : List UInt8} {table : Table} (h : Table.create kind = .ok table) :
    Topology.create kind = .ok ⟨table, [], false, false, 0, none⟩ := by
  simp only [create, h]
  rfl

/-! ### Along every sequence of calls -/

/-- What a call does to a topology built by calls from a new one. -/
structure CallLaws (t : Topology) (c : Call) : Prop where
  /-- Every source keeps its place and its stage moves forward, but a source that a refused run
  left running goes back to configured when it is given more replicas. -/
  forward : ∀ (i : Nat) (sc : SourceConfig), t.sources[i]? = some sc →
    ∃ sc', (t.perform c).1.sources[i]? = some sc' ∧
    (sc.stage.rank ≤ sc'.stage.rank ∨
      c.givesReplicas = true ∧ sc.stage = .running ∧ sc'.stage = .configured)
  /-- Without sources the topology is unconfigured. -/
  stage_nil : t.sources = [] → t.stage = .unconfigured
  /-- With sources it is as far as its least advanced one, reported running until the table is
  frozen. -/
  stage_least : t.sources ≠ [] → ∃ sc ∈ t.sources, (∀ x ∈ t.sources, sc.stage.rank ≤ x.stage.rank) ∧
    t.stage = if sc.stage = .drained ∧ t.table.frozen = false then .running else sc.stage
  /-- The call is refused exactly when it is refused on the topology, and then as an invalid
  argument. -/
  refused_iff : (t.perform c).2.isSome ↔ c.RefusedOn t
  refused_kind : ∀ f, (t.perform c).2 = some f → f.kindOf = some .invalid
  /-- A refused configuration call changes nothing. -/
  refused_unchanged : c.configures = true → (t.perform c).2.isSome → (t.perform c).1 = t
  /-- A refused run changes nothing when the topology has run or has no sources; refused for a
  source without replicas, it marks the sources before the first such one running, and changes
  nothing else, so the topology can still be configured and run. -/
  run_refused : ∀ e, c = .run e → (t.perform c).2.isSome →
    ((t.started = true ∨ t.sources = []) ∧ (t.perform c).1 = t) ∨
    (t.started = false ∧ ∃ pre sc post, t.sources = pre ++ sc :: post ∧
      (∀ x ∈ pre, x.stage ≠ .unconfigured) ∧ sc.stage = .unconfigured ∧
      (t.perform c).1 = { t with sources := pre.map SourceConfig.start ++ sc :: post })
  /-- A run that starts ends with every source and the topology drained, and the table frozen,
  whatever its lanes did. -/
  run_started : ∀ e, c = .run e → (t.perform c).2 = none →
    (∀ sc ∈ (t.perform c).1.sources, sc.stage = .drained) ∧ (t.perform c).1.table.frozen = true ∧
      (t.perform c).1.stage = .drained

/-- The topology state machine: along every sequence of calls from a new topology, each call
obeys `CallLaws`. -/
theorem topology_stage_machine {kind : List UInt8} {t₀ : Topology}
    (h₀ : Topology.create kind = .ok t₀) (cs : List Call) (c : Call) :
    CallLaws (t₀.performAll cs) c := by
  have hinv : Inv (t₀.performAll cs) := (Inv.create h₀).performAll cs
  refine ⟨fun i sc h => hinv.stage_forward c h, stage_nil, hinv.stage_least,
    perform_refused_iff _ c, fun f h => perform_refused_kind _ c h, ?_, ?_, ?_⟩
  · intro hc hrefused
    rcases perform_configures hc with ⟨-, f, h, -⟩ | ⟨-, -, h, -⟩
    · rw [h]
    · rw [h] at hrefused
      cases hrefused
  · rintro e rfl hrefused
    exact perform_run_refused _ e hrefused
  · rintro e rfl hstarted
    exact perform_run_started _ e hstarted

/-- The laws at a run refused for a second source without replicas. -/
theorem topology_stage_machine_refused_run :
    Topology.create "long.sum".toUTF8.toList =
      .ok ⟨⟨"long.sum", .long ⟨.sum, 0⟩, false, List.replicate numStripes []⟩, [], false, false,
        0, none⟩ ∧
    CallLaws ((⟨⟨"long.sum", .long ⟨.sum, 0⟩, false, List.replicate numStripes []⟩, [], false,
        false, 0, none⟩ : Topology).performAll
      [.source (some (.count 1 0 ByteArray.empty)), .replicasOf 0 1 "wordcount" [],
        .source (some (.count 1 0 ByteArray.empty))]) (.run Executor.host) := by
  have hc : Topology.create "long.sum".toUTF8.toList =
      .ok ⟨⟨"long.sum", .long ⟨.sum, 0⟩, false, List.replicate numStripes []⟩, [], false, false,
        0, none⟩ :=
    create_eq (Table.create_kind (.long ⟨.sum, 0⟩))
  exact ⟨hc, topology_stage_machine hc _ _⟩

/-- A run refused for a second source without replicas leaves the first source running, where it
was configured before; given more replicas, that source then goes back to configured. -/
theorem refused_run_leaves_earlier_source_running :
    let t₀ : Topology :=
      ⟨⟨"long.sum", .long ⟨.sum, 0⟩, false, List.replicate numStripes []⟩, [], false, false, 0, none⟩
    let r : Reader := .count 1 0 ByteArray.empty
    let t := t₀.performAll [.source (some r), .replicasOf 0 1 "wordcount" [], .source (some r)]
    let t' := (t.perform (.run Executor.host)).1
    Topology.create "long.sum".toUTF8.toList = .ok t₀ ∧
    t.sources.map (·.stage) = [.configured, .unconfigured] ∧
    (t.perform (.run Executor.host)).2.isSome = true ∧
    t'.sources.map (·.stage) = [.running, .unconfigured] ∧
    (t'.perform (.replicasOf 0 1 "wordcount" [])).1.sources.map (·.stage) =
      [.configured, .unconfigured] :=
  ⟨create_eq (Table.create_kind (.long ⟨.sum, 0⟩)), by decide, by decide, by decide, by decide⟩

end Topology

end Lanes.Pipeline
