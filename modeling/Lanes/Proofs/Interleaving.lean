import Lanes.Pipeline.Topology
import Lanes.Proofs.UpdateOrder

/-!
Lanes interleaved.

The lanes of a topology's run share a world: the shared readers of its sources and the table.
A lane reads a record, passes it to its transform, and combines the transform's updates into the
table one by one, and the steps of different lanes interleave in any order. Each step is atomic,
as the locks of the running program make it: a read, from the lane's own reader or from its
source's shared reader under the end latch (`Topology.readFor`, the read `Topology.readNext`
makes); the mapping of a record, which touches only the lane; and the combination of one update
(`Table.combine`, as `Topology.emitAll` makes it).

`Interleaving` is that machine. Beside the world and the lanes it keeps a trace of what
happened, in order: the answers of the shared readers with the lane that read each, the answers
of every lane's reads, the records each lane mapped and the updates each lane combined. The
lanes' counters of records and updates and the drain bookkeeping of the sources are left out:
they touch no reader, record or table.

The lanes of a run are laid out by `Topology.laneReplicas`, source after source; the lanes of a
source are as many as its replica copies (`Topology.length_lanesOf`).
-/

namespace Lanes.Pipeline

open Lanes.Accumulator Lanes.Region

/-! ### What a reader answers -/

/-- `Reads r xs r'`: reading `r` again and again answers `xs` and leaves `r'`. -/
inductive Reads : Reader → List Read → Reader → Prop
  | nil (r : Reader) : Reads r [] r
  | snoc {r r' r'' : Reader} {xs : List Read} {x : Read} :
      Reads r xs r' → r'.read = (x, r'') → Reads r (xs ++ [x]) r''

/-- The records a reader gives before it ends. -/
def Yields (r : Reader) (recs : List Record) : Prop :=
  ∃ r', Reads r (recs.map .record ++ [.done]) r'

/-- The first `n` answers of a reader, and the reader after them. -/
def Reader.readN : Nat → Reader → List Read × Reader
  | 0, r => ([], r)
  | n + 1, r =>
    let (xs, r') := Reader.readN n r
    let (x, r'') := r'.read
    (xs ++ [x], r'')

theorem Reads.readN {r r' : Reader} {xs : List Read} (h : Reads r xs r') :
    Reader.readN xs.length r = (xs, r') := by
  induction h with
  | nil => rfl
  | snoc _ hx ih => simp [Reader.readN, ih, hx]

theorem Reader.readN_length (r : Reader) : ∀ n, (Reader.readN n r).1.length = n
  | 0 => rfl
  | n + 1 => by simp [Reader.readN, Reader.readN_length r n]

theorem Reader.readN_take (r : Reader) {m : Nat} :
    ∀ {n : Nat}, m ≤ n → (Reader.readN n r).1.take m = (Reader.readN m r).1
  | 0, h => by
    obtain rfl := Nat.le_zero.1 h
    rfl
  | n + 1, h => by
    rcases Nat.lt_or_ge m (n + 1) with hlt | hge
    · simp only [Reader.readN]
      rw [List.take_append_of_le_length (by rw [Reader.readN_length]; omega)]
      exact Reader.readN_take r (by omega)
    · obtain rfl : m = n + 1 := by omega
      exact List.take_of_length_le (by rw [Reader.readN_length])

theorem Yields.readN {r : Reader} {recs : List Record} (h : Yields r recs) :
    (Reader.readN (recs.length + 1) r).1 = recs.map .record ++ [.done] := by
  obtain ⟨r', hr⟩ := h
  have := hr.readN
  simp only [List.length_append, List.length_map, List.length_singleton] at this
  rw [this]

theorem Yields.not_lt {r : Reader} {a b : List Record} (ha : Yields r a) (hb : Yields r b) :
    ¬ a.length < b.length := by
  intro hlt
  -- the read after `a`'s records ends, but `b` has a record there
  have htake := Reader.readN_take r (m := a.length + 1) (n := b.length + 1) (by omega)
  rw [hb.readN, ha.readN] at htake
  have hat := congrArg (·[a.length]?) htake
  simp only [List.getElem?_take, show a.length < a.length + 1 by omega, if_true] at hat
  rw [List.getElem?_append_left (by simpa using hlt),
    List.getElem?_append_right (by simp)] at hat
  simp [List.getElem?_map] at hat

/-- A reader's records before its end are determined by the reader. -/
theorem Yields.unique {r : Reader} {a b : List Record} (ha : Yields r a) (hb : Yields r b) :
    a = b := by
  have hlen : a.length = b.length := by
    have h₁ := ha.not_lt hb
    have h₂ := hb.not_lt ha
    omega
  have h := ha.readN
  rw [hlen, hb.readN] at h
  have hmap : b.map Read.record = a.map Read.record := List.append_cancel_right h
  exact (List.map_injective_iff.2 (fun _ _ h => by cases h; rfl) hmap).symm

theorem Reads.cons {r r' r'' : Reader} {x : Read} {xs : List Read} (hx : r.read = (x, r'))
    (h : Reads r' xs r'') : Reads r (x :: xs) r'' := by
  induction h with
  | nil => exact .snoc (.nil r) hx
  | snoc _ hy ih => exact .snoc ih hy

theorem yields_records (rs : List Record) : Yields (.records rs) rs := by
  refine ⟨.records [], ?_⟩
  induction rs with
  | nil => exact .snoc (.nil _) rfl
  | cons r rs ih => exact Reads.cons rfl ih

namespace Read

/-- The record a read gave, if it gave one. -/
def record? : Read → Option Record
  | .record r => some r
  | _ => none

/-- Whether a read found the end. -/
def isDone : Read → Bool
  | .done => true
  | _ => false

@[simp] theorem record?_record (r : Record) : (Read.record r).record? = some r := rfl
@[simp] theorem record?_done : Read.done.record? = none := rfl
@[simp] theorem record?_failed (f : Fault) : (Read.failed f).record? = none := rfl

theorem isDone_eq_false_iff {x : Read} : x.isDone = false ↔ x ≠ .done := by
  cases x <;> simp [isDone]

end Read

/-- The records among answers. -/
def recordsOf (xs : List Read) : List Record := xs.filterMap Read.record?

@[simp] theorem recordsOf_nil : recordsOf [] = [] := rfl

@[simp] theorem recordsOf_append (xs ys : List Read) :
    recordsOf (xs ++ ys) = recordsOf xs ++ recordsOf ys := List.filterMap_append

@[simp] theorem recordsOf_cons_record (r : Record) (xs : List Read) :
    recordsOf (.record r :: xs) = r :: recordsOf xs := rfl

@[simp] theorem recordsOf_cons_done (xs : List Read) : recordsOf (.done :: xs) = recordsOf xs :=
  rfl

@[simp] theorem recordsOf_cons_failed (f : Fault) (xs : List Read) :
    recordsOf (.failed f :: xs) = recordsOf xs := rfl

@[simp] theorem recordsOf_map_record (recs : List Record) : recordsOf (recs.map .record) = recs := by
  induction recs with
  | nil => rfl
  | cons r recs ih => simp [ih]

theorem map_record_recordsOf {xs : List Read} (h : ∀ x ∈ xs, ∃ r, x = .record r) :
    (recordsOf xs).map .record = xs := by
  induction xs with
  | nil => rfl
  | cons x xs ih =>
    obtain ⟨r, rfl⟩ := h x (by simp)
    simp [ih fun y hy => h y (by simp [hy])]

namespace Topology

/-! ### One read, as a lane makes it -/

/-- What one read of a lane does. -/
structure ReadOutcome where
  /-- What the lane got. -/
  read : Read
  /-- The lane's own reader after the read. -/
  own : Option Reader
  /-- The world after the read. -/
  world : Topology
  /-- What the source's shared reader answered, when it was read. -/
  pull : Option Read

/-- One read for a lane of source `si`: from the lane's own reader, or from the source's shared
reader, whose latch answers the end without reading it once it has ended. -/
def readFor (si : Nat) (own : Option Reader) (t : Topology) : ReadOutcome :=
  match own with
  | some r => ⟨r.read.1, some r.read.2, t, none⟩
  | none =>
    match t.sources[si]? with
    | some sc =>
      match sc.origin with
      | .shared r ended =>
        if ended then ⟨.done, none, t, none⟩
        else
          ⟨r.read.1, none,
            { t with sources :=
                t.sources.set si { sc with origin := .shared r.read.2 r.read.1.isDone } },
            some r.read.1⟩
      | .opener _ => ⟨.done, none, t, none⟩
    | none => ⟨.done, none, t, none⟩

theorem world_bind_run {β : Type} (f : Topology → ReplicaM β) (info : LaneInfo)
    (st : LaneState Acc Topology) :
    ((LaneM.world >>= f).run info).run st = ((f st.world).run info).run st := rfl

/-- `readNext` is the read `readFor` describes: it answers that read, and changes the world
only as that read does. -/
theorem readNext_run (si : Nat) (own : Option Reader) (info : LaneInfo)
    (st : LaneState Acc Topology) :
    ((readNext si own).run info).run st =
      (.ok ((readFor si own st.world).read, (readFor si own st.world).own),
        { st with world := (readFor si own st.world).world }) := by
  cases own with
  | some r => rfl
  | none =>
    simp only [readNext, world_bind_run, readFor]
    rcases st.world.sources[si]? with _ | ⟨origin, replicas, stage, pending, scope⟩
    · rfl
    · rcases origin with ⟨r, _ | _⟩ | _
      · rcases r.read with ⟨res, r'⟩
        cases res <;> rfl
      · rfl
      · rfl

/-- Where the readers of a source come from, if the source exists. -/
def origin? (t : Topology) (si : Nat) : Option Origin := t.sources[si]?.map (·.origin)

theorem readFor_some (si : Nat) (r : Reader) (t : Topology) :
    readFor si (some r) t = ⟨r.read.1, some r.read.2, t, none⟩ := rfl

theorem readFor_open {si : Nat} {t : Topology} {r : Reader} (h : t.origin? si = some (.shared r false)) :
    (readFor si none t).read = r.read.1 ∧ (readFor si none t).own = none ∧
      (readFor si none t).pull = some r.read.1 ∧
      (readFor si none t).world.table = t.table ∧
      ∀ sj, (readFor si none t).world.origin? sj =
        if sj = si then some (.shared r.read.2 r.read.1.isDone) else t.origin? sj := by
  obtain ⟨sc, hsc, ho⟩ := Option.map_eq_some_iff.1 h
  simp only [readFor, hsc, ho, Bool.false_eq_true, if_false, true_and]
  intro sj
  have hlt : si < t.sources.length := (List.getElem?_eq_some_iff.1 hsc).1
  by_cases hj : sj = si
  · subst hj
    simp [origin?, hlt]
  · simp [origin?, Ne.symm hj, hj]

theorem readFor_closed {si : Nat} {t : Topology}
    (h : ∀ r, t.origin? si ≠ some (.shared r false)) :
    readFor si none t = ⟨.done, none, t, none⟩ := by
  rcases hsc : t.sources[si]? with _ | sc
  · simp [readFor, hsc]
  · rcases ho : sc.origin with ⟨r, _ | _⟩ | _
    · exact absurd (by simp [origin?, hsc, ho]) (h r)
    · simp [readFor, hsc, ho]
    · simp [readFor, hsc, ho]

theorem readFor_table (si : Nat) (own : Option Reader) (t : Topology) :
    (readFor si own t).world.table = t.table := by
  cases own with
  | some r => rfl
  | none =>
    by_cases h : ∃ r, t.origin? si = some (.shared r false)
    · obtain ⟨r, hr⟩ := h
      exact (readFor_open hr).2.2.2.1
    · rw [readFor_closed fun r hr => h ⟨r, hr⟩]

end Topology

/-! ### Items tagged by lane -/

/-- The items of lane `j` among items tagged by lane. -/
def ofLane {α : Type} (j : Nat) (ps : List (Nat × α)) : List α := (ps.filter (·.1 = j)).map (·.2)

section OfLane

variable {α : Type}

@[simp] theorem ofLane_nil (j : Nat) : ofLane j ([] : List (Nat × α)) = [] := rfl

@[simp] theorem ofLane_cons (j i : Nat) (x : α) (ps : List (Nat × α)) :
    ofLane j ((i, x) :: ps) = (if i = j then [x] else []) ++ ofLane j ps := by
  by_cases h : i = j <;> simp [ofLane, h]

@[simp] theorem ofLane_append (j : Nat) (ps qs : List (Nat × α)) :
    ofLane j (ps ++ qs) = ofLane j ps ++ ofLane j qs := by
  simp [ofLane]

theorem mem_ofLane {j : Nat} {x : α} {ps : List (Nat × α)} : x ∈ ofLane j ps ↔ (j, x) ∈ ps := by
  simp [ofLane]

theorem ofLane_sublist (j : Nat) (ps : List (Nat × α)) : (ofLane j ps).Sublist (ps.map (·.2)) :=
  (List.filter_sublist).map _

theorem perm_flatMap_ofLane : ∀ (ps : List (Nat × α)) {ks : List Nat}, ks.Nodup →
    (∀ p ∈ ps, p.1 ∈ ks) → (ps.map (·.2)).Perm (ks.flatMap (ofLane · ps))
  | ps, [], _, hps => by
    have : ps = [] := List.eq_nil_iff_forall_not_mem.2 fun p hp => by simpa using hps p hp
    simp [this]
  | ps, k :: ks, hks, hps => by
    obtain ⟨hk, hks⟩ := List.nodup_cons.1 hks
    -- the items of the other lanes are those of `ps` without lane `k`'s
    let rest := ps.filter fun p => !decide (p.1 = k)
    have hrest : ∀ j ∈ ks, ofLane j rest = ofLane j ps := by
      intro j hj
      have hjk : j ≠ k := fun h => hk (h ▸ hj)
      simp only [ofLane, rest, List.filter_filter]
      congr 1
      refine List.filter_congr fun p _ => ?_
      by_cases hp : p.1 = j
      · simp [hp, hjk]
      · simp [hp]
    have htags : ∀ p ∈ rest, p.1 ∈ ks := by
      intro p hp
      simp only [rest, List.mem_filter, Bool.not_eq_true', decide_eq_false_iff_not] at hp
      simpa [hp.2] using hps p hp.1
    have hsplit := (List.filter_append_perm (fun p : Nat × α => decide (p.1 = k)) ps).map (·.2)
    rw [List.map_append] at hsplit
    rw [List.flatMap_cons, ← List.flatMap_congr hrest]
    exact hsplit.symm.trans ((perm_flatMap_ofLane rest hks htags).append_left _)

end OfLane

/-! ### The lanes of a run -/

theorem SourceConfig.lanes_eq_sum (sc : SourceConfig) :
    sc.lanes = (sc.replicas.map (·.copies)).sum := rfl

namespace Topology

/-- The source a lane of a run reads. -/
def laneSource (t : Topology) (j : Nat) : Nat := (t.laneReplicas[j]?.map (·.1)).getD 0

/-- The lanes of a run that read source `si`. -/
def lanesOf (t : Topology) (si : Nat) : List Nat :=
  (List.range t.laneReplicas.length).filter (t.laneSource · = si)

theorem laneSource_eq {t : Topology} {j si : Nat} {rc : ReplicaConfig}
    (h : t.laneReplicas[j]? = some (si, rc)) : t.laneSource j = si := by
  simp [laneSource, h]

theorem mem_lanesOf {t : Topology} {j si : Nat} {rc : ReplicaConfig}
    (h : t.laneReplicas[j]? = some (si, rc)) : j ∈ t.lanesOf si := by
  have hj : j < t.laneReplicas.length := (List.getElem?_eq_some_iff.1 h).1
  simp [lanesOf, hj, laneSource_eq h]

theorem nodup_lanesOf (t : Topology) (si : Nat) : (t.lanesOf si).Nodup :=
  List.nodup_range.filter _

theorem exists_of_mem_lanesOf {t : Topology} {j si : Nat} (h : j ∈ t.lanesOf si) :
    ∃ rc, t.laneReplicas[j]? = some (si, rc) := by
  simp only [lanesOf, List.mem_filter, List.mem_range, decide_eq_true_eq] at h
  obtain ⟨hj, hsi⟩ := h
  rcases hp : t.laneReplicas[j]? with _ | ⟨si', rc⟩
  · simp at hp
    omega
  · simp only [laneSource, hp, Option.map_some, Option.getD_some] at hsi
    exact ⟨rc, by rw [hsi]⟩

theorem source_lt_of_laneReplicas {t : Topology} {j si : Nat} {rc : ReplicaConfig}
    (h : t.laneReplicas[j]? = some (si, rc)) : si < t.sources.length := by
  have hmem := List.mem_of_getElem? h
  simp only [laneReplicas, List.mem_flatten, List.mem_map] at hmem
  obtain ⟨_, ⟨⟨sc, i⟩, hsi, rfl⟩, hmem⟩ := hmem
  simp only [List.mem_flatten, List.mem_map] at hmem
  obtain ⟨_, ⟨_, _, rfl⟩, hmem⟩ := hmem
  obtain ⟨rfl, -⟩ := Prod.mk.inj (List.mem_replicate.1 hmem).2
  simpa using (List.mem_zipIdx hsi).2.1

theorem sum_zipIdx_lanes (si : Nat) :
    ∀ (scs : List SourceConfig) (k : Nat),
      ((scs.zipIdx k).map fun p => if p.2 = si then p.1.lanes else 0).sum =
        if k ≤ si then ((scs[si - k]?).map SourceConfig.lanes).getD 0 else 0
  | [], k => by simp
  | sc :: scs, k => by
    rw [List.zipIdx_cons, List.map_cons, List.sum_cons, sum_zipIdx_lanes si scs (k + 1)]
    rcases Nat.lt_trichotomy k si with hlt | rfl | hgt
    · have hsub : si - k = (si - (k + 1)) + 1 := by omega
      simp [hsub, Nat.ne_of_lt hlt, Nat.le_of_lt hlt, Nat.succ_le_of_lt hlt]
    · simp
    · simp [Nat.ne_of_gt hgt, Nat.not_le_of_gt hgt, show ¬ k + 1 ≤ si by omega]

/-- A source has as many lanes in a run as it has replica copies. -/
theorem countP_laneReplicas (t : Topology) (si : Nat) :
    t.laneReplicas.countP (·.1 = si) = ((t.sources[si]?).map SourceConfig.lanes).getD 0 := by
  have hblock : ∀ (sc : SourceConfig) (i : Nat),
      ((sc.replicas.map fun rc => List.replicate rc.copies (i, rc)).flatten).countP (·.1 = si) =
        if i = si then sc.lanes else 0 := by
    intro sc i
    rw [List.countP_flatten, List.map_map]
    by_cases hi : i = si
    · simp [Function.comp_def, List.countP_replicate, hi, SourceConfig.lanes_eq_sum]
    · simp [Function.comp_def, List.countP_replicate, hi]
  rw [laneReplicas, List.countP_flatten, List.map_map]
  simpa [Function.comp_def, hblock] using sum_zipIdx_lanes si t.sources 0

theorem map_laneSource (t : Topology) :
    (List.range t.laneReplicas.length).map t.laneSource = t.laneReplicas.map (·.1) := by
  refine List.ext_getElem (by simp) fun j h₁ h₂ => ?_
  simp [laneSource, List.getElem?_eq_getElem (by simpa using h₁)]

/-- A source has as many lanes in a run as it has replica copies. -/
theorem length_lanesOf (t : Topology) (si : Nat) :
    (t.lanesOf si).length = ((t.sources[si]?).map SourceConfig.lanes).getD 0 := by
  rw [lanesOf, ← List.countP_eq_length_filter, ← countP_laneReplicas]
  have h := congrArg (List.countP (· = si)) (map_laneSource t)
  simpa [List.countP_map, Function.comp_def] using h

theorem lanesOf_ne_nil {t : Topology} {si : Nat} {sc : SourceConfig}
    (hsc : t.sources[si]? = some sc) (h : 0 < sc.lanes) : t.lanesOf si ≠ [] := by
  rw [← List.length_pos_iff, length_lanesOf, hsc]
  exact h

/-- The lanes of a run are the lanes of each source in turn, up to order. -/
theorem perm_flatMap_lanesOf (t : Topology) :
    (List.range t.laneReplicas.length).Perm ((List.range t.sources.length).flatMap t.lanesOf) := by
  let ps := (List.range t.laneReplicas.length).map fun j => (t.laneSource j, j)
  have hsrc : ∀ si, ofLane si ps = t.lanesOf si := by
    intro si
    simp [ps, ofLane, lanesOf, List.filter_map, Function.comp_def]
  have htags : ∀ p ∈ ps, p.1 ∈ List.range t.sources.length := by
    intro p hp
    obtain ⟨j, hj, rfl⟩ := List.mem_map.1 hp
    have hjl : j < t.laneReplicas.length := List.mem_range.1 hj
    have hjp : t.laneReplicas[j]? = some (t.laneReplicas[j].1, t.laneReplicas[j].2) := by
      simp [hjl]
    simpa [laneSource, hjp] using source_lt_of_laneReplicas hjp
  have h := perm_flatMap_ofLane ps List.nodup_range htags
  simp only [ps, List.map_map, Function.comp_def, List.map_id'] at h
  rwa [List.flatMap_congr fun si _ => hsrc si] at h

end Topology

/-! ### The machine -/

/-- Where a lane of a run is. -/
inductive LaneAt where
  /-- Not started. -/
  | idle
  /-- About to read, with its transform and, when its source opens a reader for every lane,
  its own reader. -/
  | reading (tr : Transform) (own : Option Reader)
  /-- Holding a record it read, not yet passed to its transform. -/
  | holding (tr : Transform) (own : Option Reader) (rec : Record)
  /-- Combining the updates of a record, to stop with `failure` after them if the transform
  reported one. -/
  | emitting (tr : Transform) (own : Option Reader) (rec : Record) (updates : List (Key × Acc))
      (failure : Option Fault)
  /-- Its reader ended. -/
  | finished
  /-- Stopped by a failure. -/
  | failed (f : Fault)

/-- What happens in a run. -/
inductive Event where
  /-- Lane `lane` read the shared reader of source `source`. -/
  | pulled (source lane : Nat) (answer : Read)
  /-- A read of lane `lane` answered. -/
  | got (lane : Nat) (answer : Read)
  /-- Lane `lane` passed a record to its transform. -/
  | mapped (lane : Nat) (rec : Record)
  /-- Lane `lane` combined an update into the table, whether the update was taken or not. -/
  | combined (lane : Nat) (update : Key × Acc)

/-- The lane an event is of. -/
def Event.lane : Event → Nat
  | .pulled _ j _ => j
  | .got j _ => j
  | .mapped j _ => j
  | .combined j _ => j

namespace LaneAt

/-- How a lane starts, as `Topology.replicaWork` does: it makes its transform and finds its
reader. -/
def start (si : Nat) (rc : ReplicaConfig) (t : Topology) : LaneAt :=
  match Transform.make rc.transform rc.args with
  | .error f => .failed (Fault.within ("pipeline: source " ++ toString si ++ ": " ++ rc.name) f)
  | .ok tr =>
    match t.sources[si]? with
    | none => .finished
    | some sc =>
      match sc.origin with
      | .shared _ _ => .reading tr none
      | .opener (.ok r) => .reading tr (some r)
      | .opener (.error f) =>
        .failed (Fault.within ("pipeline: source " ++ toString si ++ ": open") f)

/-- The failure that stops a lane while it handles a record. -/
def recordFault (rc : ReplicaConfig) (rec : Record) (f : Fault) : Fault :=
  Fault.within ("pipeline: " ++ rc.name ++ ": record " ++ rec.id) f

/-- Where a lane goes on what a read answered. -/
def afterRead (si : Nat) (tr : Transform) (own : Option Reader) : Read → LaneAt
  | .record rec => .holding tr own rec
  | .done => .finished
  | .failed f => .failed (Fault.within ("pipeline: source " ++ toString si ++ ": read") f)

/-- One step of lane `i`, a copy of replica `rc` of source `si`, in world `t`: where the lane
goes, the world after, and what happened. -/
def step (si : Nat) (rc : ReplicaConfig) (i : Nat) (t : Topology) :
    LaneAt → LaneAt × Topology × List Event
  | .idle => (start si rc t, t, [])
  | .reading tr own =>
    let o := Topology.readFor si own t
    (afterRead si tr o.own o.read, o.world,
      (o.pull.map (Event.pulled si i)).toList ++ [.got i o.read])
  | .holding tr own rec =>
    (.emitting tr own rec (tr.map rec).1 (tr.map rec).2, t, [.mapped i rec])
  | .emitting tr own _ [] none => (.reading tr own, t, [])
  | .emitting _ _ rec [] (some f) => (.failed (recordFault rc rec f), t, [])
  | .emitting tr own rec ((k, u) :: rest) failure =>
    let c := t.table.combine k (some u)
    let next := match c.2 with
      | .ok () => LaneAt.emitting tr own rec rest failure
      | .error f => .failed (recordFault rc rec f)
    (next, { t with table := c.1 }, [.combined i (k, u)])
  | .finished => (.finished, t, [])
  | .failed f => (.failed f, t, [])

/-- The record a lane holds, read and not yet mapped. -/
def held : LaneAt → List Record
  | .holding _ _ rec => [rec]
  | _ => []

/-- Whether a lane has finished. -/
def isFinished : LaneAt → Bool
  | .finished => true
  | _ => false

instance (l : LaneAt) : Decidable (l = .finished) :=
  decidable_of_iff (l.isFinished = true) (by cases l <;> simp [isFinished])

/-- The reader of a lane that runs: its own, or `none` for its source's shared one. -/
def own? : LaneAt → Option (Option Reader)
  | .reading _ own => some own
  | .holding _ own _ => some own
  | .emitting _ own _ _ _ => some own
  | _ => none

end LaneAt

/-- The lanes of a run, interleaved: the shared world, the replica of each lane and where it
is, and the trace of what happened. -/
structure Interleaving where
  world : Topology
  lanes : List (Nat × ReplicaConfig)
  lane : Nat → LaneAt
  trace : List Event

namespace Interleaving

/-- A run of a topology's lanes before any step: one idle lane for each replica copy. -/
def start (t : Topology) : Interleaving := ⟨t, t.laneReplicas, fun _ => .idle, []⟩

/-- Lane `i` takes a step; an index that is no lane changes nothing. -/
def step (m : Interleaving) (i : Nat) : Interleaving :=
  match m.lanes[i]? with
  | none => m
  | some (si, rc) =>
    let s := (m.lane i).step si rc i m.world
    { m with world := s.2.1, lane := Function.update m.lane i s.1, trace := m.trace ++ s.2.2 }

/-- The lanes take steps in the order a schedule names them. -/
def run (m : Interleaving) (sched : List Nat) : Interleaving := sched.foldl step m

end Interleaving


/-! ### What a trace shows -/

namespace Event

/-- A read of the shared reader of source `si`, with the lane that made it. -/
@[simp] def pullOf (si : Nat) : Event → Option (Nat × Read)
  | .pulled s j x => if s = si then some (j, x) else none
  | .got _ _ => none
  | .mapped _ _ => none
  | .combined _ _ => none

/-- What a read answered, with the lane that made it. -/
@[simp] def gotOf : Event → Option (Nat × Read)
  | .pulled _ _ _ => none
  | .got j x => some (j, x)
  | .mapped _ _ => none
  | .combined _ _ => none

/-- A record passed to a transform, with the lane that passed it. -/
@[simp] def mappedOf : Event → Option (Nat × Record)
  | .pulled _ _ _ => none
  | .got _ _ => none
  | .mapped j rec => some (j, rec)
  | .combined _ _ => none

/-- An update combined into the table, with the lane that combined it. -/
@[simp] def combinedOf : Event → Option (Nat × (Key × Acc))
  | .pulled _ _ _ => none
  | .got _ _ => none
  | .mapped _ _ => none
  | .combined j u => some (j, u)

end Event

namespace LaneAt

variable {si : Nat} {rc : ReplicaConfig} {i : Nat} {t : Topology}

theorem lane_of_mem_step {l : LaneAt} {e : Event} (h : e ∈ (l.step si rc i t).2.2) : e.lane = i := by
  cases l with
  | reading tr own =>
    simp only [step, List.mem_append, List.mem_singleton] at h
    rcases h with h | rfl
    · cases hp : (Topology.readFor si own t).pull <;> simp_all [Event.lane]
    · rfl
  | holding tr own rec =>
    simp only [step, List.mem_singleton] at h
    subst h
    rfl
  | emitting tr own rec updates failure =>
    rcases updates with _ | ⟨⟨k, u⟩, rest⟩
    · rcases failure with _ | f <;> simp [step] at h
    · simp only [step, List.mem_singleton] at h
      subst h
      rfl
  | idle => simp [step] at h
  | finished => simp [step] at h
  | failed => simp [step] at h

theorem source_of_pulled_mem_step {l : LaneAt} {s j : Nat} {x : Read}
    (h : Event.pulled s j x ∈ (l.step si rc i t).2.2) : s = si := by
  cases l with
  | reading tr own =>
    simp only [step, List.mem_append, List.mem_singleton, reduceCtorEq, or_false] at h
    cases hp : (Topology.readFor si own t).pull <;> simp_all
  | holding => simp [step] at h
  | emitting tr own rec updates failure =>
    rcases updates with _ | ⟨⟨k, u⟩, rest⟩
    · rcases failure with _ | f <;> simp [step] at h
    · simp [step] at h
  | idle => simp [step] at h
  | finished => simp [step] at h
  | failed => simp [step] at h

/-- A lane's step combines into the table exactly the updates it records. -/
theorem step_table (l : LaneAt) :
    (l.step si rc i t).2.1.table =
      t.table.combineAll (((l.step si rc i t).2.2.filterMap Event.combinedOf).map (·.2)) := by
  cases l with
  | reading tr own =>
    have hev : ((reading tr own).step si rc i t).2.2.filterMap Event.combinedOf = [] := by
      cases hp : (Topology.readFor si own t).pull <;> simp [step, hp]
    rw [hev]
    exact Topology.readFor_table si own t
  | emitting tr own rec updates failure =>
    rcases updates with _ | ⟨⟨k, u⟩, rest⟩
    · rcases failure with _ | f <;> rfl
    · simp [step, Table.combineAll]
  | idle => rfl
  | holding => rfl
  | finished => rfl
  | failed => rfl

end LaneAt

namespace Interleaving

/-- The answers of the shared reader of source `si`, each with the lane that read it. -/
def pulls (m : Interleaving) (si : Nat) : List (Nat × Read) := m.trace.filterMap (Event.pullOf si)

/-- The answers of the shared reader of source `si`, in the order it gave them. -/
def pulled (m : Interleaving) (si : Nat) : List Read := (m.pulls si).map (·.2)

/-- The answers of lane `j`'s reads. -/
def got (m : Interleaving) (j : Nat) : List Read := ofLane j (m.trace.filterMap Event.gotOf)

/-- The records lane `j` passed to its transform. -/
def mapped (m : Interleaving) (j : Nat) : List Record :=
  ofLane j (m.trace.filterMap Event.mappedOf)

/-- The updates combined into the table, each with the lane that combined it. -/
def combines (m : Interleaving) : List (Nat × (Key × Acc)) := m.trace.filterMap Event.combinedOf

theorem step_of_none {m : Interleaving} {i : Nat} (h : m.lanes[i]? = none) : m.step i = m := by
  simp [step, h]

theorem step_of_some {m : Interleaving} {i si : Nat} {rc : ReplicaConfig}
    (h : m.lanes[i]? = some (si, rc)) :
    m.step i = { m with world := ((m.lane i).step si rc i m.world).2.1,
                        lane := Function.update m.lane i ((m.lane i).step si rc i m.world).1,
                        trace := m.trace ++ ((m.lane i).step si rc i m.world).2.2 } := by
  simp [step, h]

@[simp] theorem step_lanes (m : Interleaving) (i : Nat) : (m.step i).lanes = m.lanes := by
  unfold step
  split <;> rfl

@[simp] theorem run_nil (m : Interleaving) : m.run [] = m := rfl

@[simp] theorem run_cons (m : Interleaving) (i : Nat) (sched : List Nat) :
    m.run (i :: sched) = (m.step i).run sched := rfl

end Interleaving

end Lanes.Pipeline
