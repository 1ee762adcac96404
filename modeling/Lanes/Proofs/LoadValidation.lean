import Lanes.Pipeline.Load
import Lanes.Proofs.TopologyStages

/-!
Loading a topology description, once it parses and decodes.

Loading makes a topology of the description's table kind and attaches its source blocks in order,
each with its replica blocks. A block that is not replicated opens its reader at once, and a reader
that does not open fails the load. A replicated block only keeps the opening for its replicas to
run when each starts, so a replicated block whose reader could never open still loads
(`replicated_unknown_source_loads`). A replica block needs a known transform and at least one copy,
one when it gives none.

So a load succeeds exactly when the kind is known, every block that is not replicated is valid
(files that are all there, given lines, or a count of records that is not negative) and every
replica block is valid. The topology it gives has one source per block, in order, each reading
as its block says with the replicas of its replica blocks. A load that fails is refused as invalid,
except at a path of a file block that names no file: a missing path fails as not existing, and a
directory or a path through a file fails with no kind of its own.

Main statement: `load_checks_blocks`.
-/

namespace Lanes.Pipeline

open Lanes.Accumulator Lanes.Region Lanes.Config

/-! ### Readers of blocks -/

/-- A source block whose reader opens: files that are all there, given lines, or a count of
records that is not negative. -/
def SourceSpec.Valid (v : Volume) (s : SourceSpec) : Prop :=
  (s.type = "file" ∧ s.paths ≠ [] ∧ ∀ p ∈ s.paths, (fileOf v p).isSome) ∨ s.type = "lines" ∨
    (s.type = "count" ∧ ∃ n, s.records = some n ∧ 0 ≤ n)

/-- The kind of failure of reading a path that names no file: not existing when some part of it
is missing, none of its own when it names a directory or runs through a file. -/
def PathKind (v : Volume) (p : String) (k : Option FaultKind) : Prop :=
  (resolve v p = .error .missing ∧ k = some .notExist) ∨
    (fileOf v p = none ∧ resolve v p ≠ .error .missing ∧ k = some .other)

/-- The kind of failure of opening a block's reader: invalid, or that of a path of a file block. -/
def SourceSpec.FailKind (v : Volume) (s : SourceSpec) (k : Option FaultKind) : Prop :=
  k = some .invalid ∨ (s.type = "file" ∧ ∃ p ∈ s.paths, PathKind v p k)

theorem statFault_eq_none_iff (v : Volume) (p : String) :
    statFault v p = none ↔ (fileOf v p).isSome := by
  unfold statFault fileOf
  rcases resolve v p with e | (d | _) <;> simp

theorem statFault_kind {v : Volume} {p : String} {e : Fault} (h : statFault v p = some e) :
    PathKind v p (Fault.within "pipeline: file source" e).kindOf := by
  unfold statFault at h
  unfold PathKind fileOf
  rcases hr : resolve v p with (_ | _) | (d | _) <;> rw [hr] at h <;> cases h
  · exact .inl ⟨rfl, by simp [pathFault, Fault.within, Fault.wrap, Fault.kindOf]⟩
  all_goals exact .inr ⟨rfl, by simp, by simp [pathFault, Fault.within, Fault.wrap, Fault.kindOf]⟩

theorem fileSource_cases (v : Volume) (paths : List String) :
    ((paths ≠ [] ∧ ∀ p ∈ paths, (fileOf v p).isSome) ∧ ∃ r, fileSource v paths = .ok r) ∨
    (¬ (paths ≠ [] ∧ ∀ p ∈ paths, (fileOf v p).isSome) ∧ ∃ f, fileSource v paths = .error f ∧
      (f.kindOf = some .invalid ∨ ∃ p ∈ paths, PathKind v p f.kindOf)) := by
  by_cases hn : paths = []
  · subst hn
    exact .inr ⟨by simp, _, rfl, .inl (Fault.kindOf_make _ _)⟩
  have hne : paths.isEmpty = false := List.isEmpty_eq_false_iff.mpr hn
  cases hs : paths.findSome? (statFault v) with
  | none =>
    have hall : ∀ p ∈ paths, (fileOf v p).isSome := fun p hp =>
      (statFault_eq_none_iff v p).mp (List.findSome?_eq_none_iff.mp hs p hp)
    exact .inl ⟨⟨hn, hall⟩, .files none paths v, by simp [fileSource, hne, hs]⟩
  | some e =>
    obtain ⟨p, hp, he⟩ := List.exists_of_findSome?_eq_some hs
    have hbad : (fileOf v p).isSome = false := by
      cases hf : (fileOf v p).isSome
      · rfl
      · rw [(statFault_eq_none_iff v p).mpr hf] at he
        cases he
    refine .inr ⟨fun h => by simp [h.2 p hp] at hbad, _, by simp [fileSource, hne, hs],
      .inr ⟨p, hp, statFault_kind he⟩⟩

/-- A block's reader opens exactly when the block is valid; otherwise it fails with the kind of
failure of the block. -/
theorem reader_cases (v : Volume) (s : SourceSpec) :
    (s.Valid v ∧ ∃ r, s.reader v = .ok r) ∨
    (¬ s.Valid v ∧ ∃ f, s.reader v = .error f ∧ s.FailKind v f.kindOf) := by
  by_cases hfile : s.type = "file"
  · have hread : s.reader v = fileSource v s.paths := by simp [SourceSpec.reader, hfile]
    rw [hread]
    rcases fileSource_cases v s.paths with ⟨hv, hok⟩ | ⟨hv, f, hf, hk⟩
    · exact .inl ⟨.inl ⟨hfile, hv⟩, hok⟩
    · refine .inr ⟨?_, f, hf, ?_⟩
      · simp [SourceSpec.Valid, hfile, hv]
      · rcases hk with hk | hk
        · exact .inl hk
        · exact .inr ⟨hfile, hk⟩
  by_cases hlines : s.type = "lines"
  · exact .inl ⟨.inr (.inl hlines), by simp [SourceSpec.reader, hlines]⟩
  by_cases hcount : s.type = "count"
  · have hvalid : s.Valid v ↔ ∃ n, s.records = some n ∧ 0 ≤ n := by
      simp [SourceSpec.Valid, hcount]
    rcases hr : s.records with _ | n
    · refine .inr ⟨by simp [hvalid, hr], _, by simp [SourceSpec.reader, hcount, hr]; rfl,
        .inl (Fault.kindOf_make _ _)⟩
    by_cases hn : n < 0
    · refine .inr ⟨by simp [hvalid, hr]; omega, _, by simp [SourceSpec.reader, hcount, hr, hn]; rfl,
        .inl (Fault.kindOf_make _ _)⟩
    · exact .inl ⟨hvalid.mpr ⟨n, hr, by omega⟩, .count n.toNat 0 (s.content.getD "").toUTF8,
        by simp [SourceSpec.reader, hcount, hr, hn]⟩
  · refine .inr ⟨by simp [SourceSpec.Valid, hfile, hlines, hcount],
      Fault.make .invalid ("unknown source type " ++ Text.quote s.type), ?_, .inl (Fault.kindOf_make _ _)⟩
    simp [SourceSpec.reader]

/-! ### Replica blocks -/

/-- A replica block the topology takes: a known transform and at least one copy, one when the
block gives none. -/
def ReplicaSpec.Valid (r : ReplicaSpec) : Prop := r.transform ∈ transformNames ∧ 1 ≤ r.copies.getD 1

/-- The replicas a replica block gives: copies of its transform, named by it. -/
def ReplicaSpec.config (r : ReplicaSpec) : ReplicaConfig :=
  ⟨r.transform, (r.copies.getD 1).toNat, r.transform, r.args⟩

/-- Gives the source at `i` the replicas of a block, a failure put under `w`. -/
def replicaBlockStep (w : Fault → Fault) (i : Nat) (t : Topology) (r : ReplicaSpec) :
    Except Fault Topology :=
  ((t.replicasOf i (r.copies.getD 1) r.transform r.args).map Prod.snd).mapError w

theorem ReplicaSpec.transform_ne_empty {r : ReplicaSpec} (hv : r.Valid) : r.transform.isEmpty = false := by
  have hm := hv.1
  simp only [transformNames, List.mem_cons, List.not_mem_nil, or_false] at hm
  rcases hm with h | h | h <;> rw [h] <;> rfl

theorem replicaBlockStep_valid (w : Fault → Fault) {i : Nat} {t : Topology} {sc : SourceConfig}
    {r : ReplicaSpec} (hv : r.Valid) (ht : t.started = false) (hsc : t.sources[i]? = some sc) :
    replicaBlockStep w i t r = .ok (t.withReplicas i sc r.config) := by
  have hn : ¬ r.copies.getD 1 < 1 := not_lt.mpr hv.2
  simp [replicaBlockStep, Topology.replicasOf, lookupTransform, hv.1, Topology.addReplicas, hsc, hn,
    ht, ReplicaSpec.transform_ne_empty hv, ReplicaSpec.config, Except.mapError, Topology.withReplicas]
  rfl

theorem replicaBlockStep_invalid (w : Fault → Fault) {i : Nat} {t : Topology} {r : ReplicaSpec}
    (hv : ¬ r.Valid) : ∃ g, replicaBlockStep w i t r = .error (w g) ∧ g.kindOf = some .invalid := by
  rcases Topology.replicasOf_cases t i (r.copies.getD 1) r.transform r.args with ⟨-, g, hg, hk⟩ |
    ⟨sc, rc, -, hc, -, h⟩
  · exact ⟨g, by rw [replicaBlockStep, hg]; rfl, hk⟩
  · have hn : r.transform ∉ transformNames := fun hn => hv ⟨hn, hc⟩
    have hlookup : t.replicasOf i (r.copies.getD 1) r.transform r.args =
        .error (Fault.make .invalid ("pipeline: unknown transform " ++ Text.quote r.transform)) := by
      simp [Topology.replicasOf, lookupTransform, hn]
      rfl
    rw [hlookup] at h
    cases h

theorem foldlM_replicaBlockStep (w : Fault → Fault) (i : Nat) :
    ∀ (rs : List ReplicaSpec) (t : Topology) (sc : SourceConfig), t.started = false →
      t.sources[i]? = some sc →
      ((∀ r ∈ rs, r.Valid) ∧ rs.foldlM (replicaBlockStep w i) t =
        .ok { t with sources := t.sources.set i { sc with
          replicas := sc.replicas ++ rs.map ReplicaSpec.config,
          stage := if rs.isEmpty then sc.stage else .configured } }) ∨
      ((∃ r ∈ rs, ¬ r.Valid) ∧ ∃ g, rs.foldlM (replicaBlockStep w i) t = .error (w g) ∧
        g.kindOf = some .invalid) := by
  intro rs
  induction rs with
  | nil =>
    intro t sc _ hsc
    refine .inl ⟨by simp, ?_⟩
    have hset : t.sources.set i sc = t.sources := by
      obtain ⟨hlen, hget⟩ := List.getElem?_eq_some_iff.mp hsc
      rw [← hget, List.set_getElem_self]
    simp [hset]
    rfl
  | cons r rs ih =>
    intro t sc ht hsc
    by_cases hv : r.Valid
    · have hlen : i < t.sources.length := (List.getElem?_eq_some_iff.mp hsc).1
      have ht' : (t.withReplicas i sc r.config).started = false := ht
      have hsc' : (t.withReplicas i sc r.config).sources[i]? =
          some { sc with replicas := sc.replicas ++ [r.config], stage := .configured } := by
        simp [Topology.withReplicas, hlen]
      have hstep : (r :: rs).foldlM (replicaBlockStep w i) t =
          rs.foldlM (replicaBlockStep w i) (t.withReplicas i sc r.config) := by
        rw [List.foldlM_cons, replicaBlockStep_valid w hv ht hsc]
        rfl
      rw [hstep]
      rcases ih _ _ ht' hsc' with ⟨hall, hok⟩ | ⟨hbad, g, herr, hk⟩
      · refine .inl ⟨fun r' hr' => ?_, ?_⟩
        · rcases List.mem_cons.mp hr' with rfl | hr'
          · exact hv
          · exact hall r' hr'
        · rw [hok]
          simp [Topology.withReplicas]
      · obtain ⟨r', hr', hbad'⟩ := hbad
        exact .inr ⟨⟨r', List.mem_cons_of_mem r hr', hbad'⟩, g, herr, hk⟩
    · obtain ⟨g, hg, hk⟩ := replicaBlockStep_invalid w (i := i) (t := t) hv
      refine .inr ⟨⟨r, List.mem_cons_self, hv⟩, g, ?_, hk⟩
      rw [List.foldlM_cons, hg]
      rfl

/-! ### Source blocks -/

/-- Where the replicas of a block read: for a replicated block, each from a reader it opens when
it starts; otherwise from the block's reader, opened now and shared. -/
def SourceSpec.origin (v : Volume) (s : SourceSpec) : Except Fault Origin :=
  if s.replicated then .ok (.opener (s.reader v)) else (s.reader v).map (.shared · false)

/-- The source a block attaches: its origin, and the replicas of its replica blocks. -/
def SourceSpec.config (s : SourceSpec) (o : Origin) : SourceConfig :=
  ⟨o, s.replicas.map ReplicaSpec.config, if s.replicas.isEmpty then .unconfigured else .configured,
    0, Metrics.Scope.empty⟩

/-- The sources a block may attach. -/
def SourceSpec.Attaches (v : Volume) (s : SourceSpec) (sc : SourceConfig) : Prop :=
  ∃ o, s.origin v = .ok o ∧ sc = s.config o

/-- A block that loads: valid unless it is replicated, with valid replica blocks. -/
def SourceSpec.Loads (v : Volume) (s : SourceSpec) : Prop :=
  (s.replicated = false → s.Valid v) ∧ ∀ r ∈ s.replicas, r.Valid

/-- The failure of a block, under the file's and the block's names. -/
def blockFault (file : String) (s : SourceSpec) (f : Fault) : Fault :=
  Fault.within ("pipeline: " ++ file ++ ": source " ++ s.name) f

theorem SourceSpec.FailKind.ne_none {v : Volume} {s : SourceSpec} {k : Option FaultKind}
    (h : s.FailKind v k) : k ≠ none := by
  rcases h with rfl | ⟨-, p, -, ⟨-, rfl⟩ | ⟨-, -, rfl⟩⟩ <;> exact Option.some_ne_none _

theorem blockFault_kindOf (file : String) (s : SourceSpec) {f : Fault} (h : f.kindOf ≠ none) :
    (blockFault file s f).kindOf = f.kindOf :=
  Fault.kindOf_within _ f h

theorem origin_cases (v : Volume) (s : SourceSpec) :
    ((s.replicated = false → s.Valid v) ∧ ∃ o, s.origin v = .ok o) ∨
    (s.replicated = false ∧ ¬ s.Valid v ∧ ∃ f, s.origin v = .error f ∧ s.FailKind v f.kindOf) := by
  cases hrep : s.replicated
  · rcases reader_cases v s with ⟨hv, r, hr⟩ | ⟨hv, f, hf, hk⟩
    · exact .inl ⟨fun _ => hv, .shared r false, by simp [SourceSpec.origin, hrep, hr]; rfl⟩
    · exact .inr ⟨rfl, hv, f, by simp [SourceSpec.origin, hrep, hf]; rfl, hk⟩
  · exact .inl ⟨by simp, .opener (s.reader v), by simp [SourceSpec.origin, hrep]⟩

theorem addSource_eq (v : Volume) (file : String) {t : Topology} (s : SourceSpec)
    (ht : t.started = false) :
    addSource v file t s = ((s.origin v).mapError (blockFault file s)).bind fun o =>
      s.replicas.foldlM (replicaBlockStep (blockFault file s) t.sources.length) (t.withSource o) := by
  have hattach : ∀ o, t.attach o = .ok (t.sources.length, t.withSource o) := fun o => by
    simp [Topology.attach, ht, Topology.withSource]
  unfold addSource SourceSpec.origin
  -- past the origin and the attaching, both sides fold the replica blocks; the step of
  -- `addSource` is `replicaBlockStep` with its matches written out
  cases hrep : s.replicated
  · rcases hr : s.reader v with f | r
    · rfl
    · simp only [hattach]
      show List.foldlM _ (t.withSource (.shared r false)) s.replicas =
        List.foldlM _ (t.withSource (.shared r false)) s.replicas
      congr 1
      funext t' r'
      unfold replicaBlockStep
      rcases t'.replicasOf _ _ _ _ with _ | ⟨_, _⟩ <;> rfl
  · simp only [hattach]
    show List.foldlM _ (t.withSource (.opener (s.reader v))) s.replicas =
      List.foldlM _ (t.withSource (.opener (s.reader v))) s.replicas
    congr 1
    funext t' r'
    unfold replicaBlockStep
    rcases t'.replicasOf _ _ _ _ with _ | ⟨_, _⟩ <;> rfl

theorem addSource_cases (v : Volume) (file : String) (t : Topology) (s : SourceSpec)
    (ht : t.started = false) :
    (s.Loads v ∧ ∃ sc, s.Attaches v sc ∧ addSource v file t s = .ok { t with sources := t.sources ++ [sc] }) ∨
    (¬ s.Loads v ∧ ∃ f, addSource v file t s = .error f ∧
      (f.kindOf = some .invalid ∨ s.replicated = false ∧ s.FailKind v f.kindOf)) := by
  rw [addSource_eq v file s ht]
  rcases origin_cases v s with ⟨hv, o, ho⟩ | ⟨hrep, hv, f, hf, hk⟩
  · have ht' : (t.withSource o).started = false := ht
    have hsc : (t.withSource o).sources[t.sources.length]? =
        some ⟨o, [], .unconfigured, 0, Metrics.Scope.empty⟩ := by
      simp [Topology.withSource]
    rcases foldlM_replicaBlockStep (blockFault file s) _ s.replicas _ _ ht' hsc with
      ⟨hall, hok⟩ | ⟨⟨r, hr, hbad⟩, g, herr, hk⟩
    · refine .inl ⟨⟨hv, hall⟩, s.config o, ⟨o, ho, rfl⟩, ?_⟩
      rw [ho]
      show List.foldlM (replicaBlockStep (blockFault file s) t.sources.length) (t.withSource o)
        s.replicas = _
      rw [hok]
      simp [Topology.withSource, SourceSpec.config]
    · refine .inr ⟨fun h => hbad (h.2 r hr), blockFault file s g, ?_, .inl ?_⟩
      · rw [ho]
        exact herr
      · rw [blockFault_kindOf file s (by rw [hk]; exact Option.some_ne_none _), hk]
  · refine .inr ⟨fun h => hv (h.1 hrep), blockFault file s f, by rw [hf]; rfl, .inr ⟨hrep, ?_⟩⟩
    rw [blockFault_kindOf file s hk.ne_none]
    exact hk

/-- The kind of failure of loading blocks: invalid, or that of a path of a file block that is not
replicated. -/
def LoadFailKind (v : Volume) (blocks : List SourceSpec) (k : Option FaultKind) : Prop :=
  k = some .invalid ∨
    ∃ s ∈ blocks, s.replicated = false ∧ s.type = "file" ∧ ∃ p ∈ s.paths, PathKind v p k

/-- The blocks of a description, added one after another to a topology that has not started:
when all load, each attaches its source in order; otherwise the first that does not is refused. -/
theorem foldlM_addSource (v : Volume) (file : String) :
    ∀ (blocks : List SourceSpec) (t : Topology), t.started = false →
      ((∀ s ∈ blocks, s.Loads v) ∧ ∃ scs, List.Forall₂ (SourceSpec.Attaches v) blocks scs ∧
        blocks.foldlM (addSource v file) t = .ok { t with sources := t.sources ++ scs }) ∨
      ((∃ s ∈ blocks, ¬ s.Loads v) ∧ ∃ f, blocks.foldlM (addSource v file) t = .error f ∧
        LoadFailKind v blocks f.kindOf) := by
  intro blocks
  induction blocks with
  | nil => exact fun t _ => .inl ⟨by simp, [], .nil, by simp; rfl⟩
  | cons s rest ih =>
    intro t ht
    rcases addSource_cases v file t s ht with ⟨hs, sc, hsc, hadd⟩ | ⟨hs, f, hadd, hk⟩
    · have ht' : ({ t with sources := t.sources ++ [sc] } : Topology).started = false := ht
      rw [List.foldlM_cons, hadd]
      rcases ih _ ht' with ⟨hall, scs, hscs, hok⟩ | ⟨⟨s', hs', hbad⟩, f, herr, hk⟩
      · refine .inl ⟨?_, sc :: scs, .cons hsc hscs, ?_⟩
        · intro s' hs'
          rcases List.mem_cons.mp hs' with rfl | hs'
          · exact hs
          · exact hall s' hs'
        · rw [← List.append_cons] at hok
          exact hok
      · refine .inr ⟨⟨s', List.mem_cons_of_mem s hs', hbad⟩, f, herr, ?_⟩
        rcases hk with hk | ⟨s'', hs'', hpath⟩
        · exact .inl hk
        · exact .inr ⟨s'', List.mem_cons_of_mem s hs'', hpath⟩
    · refine .inr ⟨⟨s, List.mem_cons_self, hs⟩, f, by rw [List.foldlM_cons, hadd]; rfl, ?_⟩
      rcases hk with hk | ⟨hrep, hk | ⟨hfile, hpath⟩⟩
      · exact .inl hk
      · exact .inl hk
      · exact .inr ⟨s, List.mem_cons_self, hrep, hfile, hpath⟩

/-! ### Loading -/

theorem mapM_error_mem {ε α β : Type} {g : α → Except ε β} :
    ∀ {l : List α} {e : ε}, l.mapM g = .error e → ∃ x ∈ l, g x = .error e
  | [], _, h => by cases h
  | x :: l, e, h => by
    rw [List.mapM_cons] at h
    rcases hx : g x with e' | b
    · rw [hx] at h
      cases h
      exact ⟨x, List.mem_cons_self, hx⟩
    · rw [hx] at h
      rcases hl : l.mapM g with e' | bs
      · rw [hl] at h
        cases h
        obtain ⟨y, hy, hgy⟩ := mapM_error_mem hl
        exact ⟨y, List.mem_cons_of_mem x hy, hgy⟩
      · rw [hl] at h
        cases h

theorem ofKindWithin_error_kind : ∀ (fuel : Nat) {K : List UInt8} {f : Fault},
    ofKindWithin fuel K = .error f → f.kindOf = some .invalid
  | 0, K, f, h => by
    cases h
    exact Fault.kindOf_make _ _
  | fuel + 1, K, f, h => by
    unfold ofKindWithin at h
    split at h
    · cases h
    · split at h
      · obtain ⟨part, -, hpart⟩ := mapM_error_mem (Region.Except.error_of_map h)
        exact ofKindWithin_error_kind fuel hpart
      · cases h
        exact Fault.kindOf_make _ _

theorem Table.create_error_kind {K : List UInt8} {f : Fault} (h : Table.create K = .error f) :
    f.kindOf = some .invalid := by
  unfold Table.create ofKind at h
  rcases hk : ofKindWithin (K.length + 1) K with e | a
  · rw [hk] at h
    cases h
    exact ofKindWithin_error_kind _ hk
  · rw [hk] at h
    cases h

/-- A description that parses and decodes loads as its kind's new topology with its blocks added. -/
theorem load_eq {v : Volume} {inv : Inventory} {file src : String} {spec : TopologySpec}
    (hparse : (parseConfig file src).2 = [])
    (hdecode : decodeTopology (inventoryScope inv) (parseConfig file src).1 = (spec, [])) :
    load v inv file src =
      (Topology.create spec.kind.toUTF8.toList).bind fun t => spec.sources.foldlM (addSource v file) t := by
  rcases hp : parseConfig file src with ⟨body, ds⟩
  rw [hp] at hparse hdecode
  cases hparse
  simp [load, hp, hdecode]
  rfl

/-- A description a topology can be loaded from: its kind is known, and each block loads. -/
def TopologySpec.Loadable (v : Volume) (spec : TopologySpec) : Prop :=
  (∃ table, Table.create spec.kind.toUTF8.toList = .ok table) ∧ ∀ s ∈ spec.sources, s.Loads v

/-- The topology a description builds: a new one of its table's kind, with the sources of its
blocks in order. -/
def TopologySpec.Builds (v : Volume) (spec : TopologySpec) (t : Topology) : Prop :=
  ∃ table scs, Table.create spec.kind.toUTF8.toList = .ok table ∧
    List.Forall₂ (SourceSpec.Attaches v) spec.sources scs ∧ t = ⟨table, scs, false, false, 0, none⟩

/-- **Loading a description that parses and decodes**: it gives a topology exactly when the
kind is known, each block that is not replicated is valid and each replica block is; that
topology has the sources of the blocks in order, a replicated one opening its readers as its
replicas start; and a load that fails is refused as invalid, or with the kind of a missing or
unreadable path of a file block that is not replicated. -/
theorem load_checks_blocks (v : Volume) (inv : Inventory) (file src : String) (spec : TopologySpec)
    (hparse : (parseConfig file src).2 = [])
    (hdecode : decodeTopology (inventoryScope inv) (parseConfig file src).1 = (spec, [])) :
    ((∃ t, load v inv file src = .ok t) ↔ spec.Loadable v) ∧
    (∀ t, load v inv file src = .ok t → spec.Builds v t) ∧
    (∀ f, load v inv file src = .error f → LoadFailKind v spec.sources f.kindOf) := by
  rw [load_eq hparse hdecode]
  rcases hc : Table.create spec.kind.toUTF8.toList with f | table
  · -- an unknown kind: nothing is built
    have hload : (Topology.create spec.kind.toUTF8.toList).bind
        (fun t => spec.sources.foldlM (addSource v file) t) = .error f := by
      unfold Topology.create
      rw [hc]
      rfl
    rw [hload]
    refine ⟨⟨fun h => ?_, fun h => ?_⟩, (fun t h => by cases h), fun f' h => ?_⟩
    · obtain ⟨t, h⟩ := h
      cases h
    · obtain ⟨⟨table, htable⟩, -⟩ := h
      rw [hc] at htable
      cases htable
    cases h
    exact .inl (Table.create_error_kind hc)
  · -- a known kind: the blocks are added to the new topology
    have hload : (Topology.create spec.kind.toUTF8.toList).bind
        (fun t => spec.sources.foldlM (addSource v file) t) =
        spec.sources.foldlM (addSource v file) ⟨table, [], false, false, 0, none⟩ := by
      unfold Topology.create
      rw [hc]
      rfl
    rw [hload]
    rcases foldlM_addSource v file spec.sources ⟨table, [], false, false, 0, none⟩ rfl with
      ⟨hall, scs, hscs, hok⟩ | ⟨⟨s, hs, hbad⟩, f, herr, hk⟩
    · rw [hok]
      refine ⟨⟨fun _ => ⟨⟨table, hc⟩, hall⟩, fun _ => ⟨_, rfl⟩⟩, fun t h => ?_, fun f h => by cases h⟩
      cases h
      exact ⟨table, scs, hc, hscs, rfl⟩
    · rw [herr]
      refine ⟨⟨fun h => ?_, fun h => (hbad (h.2 s hs)).elim⟩, (fun t h => by cases h),
        fun f' h => by cases h; exact hk⟩
      obtain ⟨t, h⟩ := h
      cases h

/-- A block of given lines read by as many word counts as the inventory has cores. -/
theorem load_checks_blocks_lines :
    let src := "kind = \"long.sum\"\nsource \"lines\" \"words\" \x7b\n  lines = [\"a b\", \"c\"]\n" ++
      "  replica \"wordcount\" \x7b\n    copies = cores\n  \x7d\n\x7d\n"
    let spec : TopologySpec :=
      ⟨"long.sum", [⟨"lines", "words", none, ["a b", "c"], [], none, false, [⟨"wordcount", some 2, []⟩]⟩]⟩
    (parseConfig "topo.hcl" src).2 = [] ∧
      decodeTopology (inventoryScope ⟨2, 0⟩) (parseConfig "topo.hcl" src).1 = (spec, []) ∧
      ((∃ t, load [] ⟨2, 0⟩ "topo.hcl" src = .ok t) ↔ spec.Loadable []) ∧
      (∀ t, load [] ⟨2, 0⟩ "topo.hcl" src = .ok t → spec.Builds [] t) ∧
      (∀ f, load [] ⟨2, 0⟩ "topo.hcl" src = .error f → LoadFailKind [] spec.sources f.kindOf) := by
  intro src spec
  have hparse : (parseConfig "topo.hcl" src).2 = [] := List.isEmpty_iff.mp (by decide +kernel)
  have hdecode : decodeTopology (inventoryScope ⟨2, 0⟩) (parseConfig "topo.hcl" src).1 = (spec, []) :=
    Prod.ext (by decide +kernel) (List.isEmpty_iff.mp (by decide +kernel))
  exact ⟨hparse, hdecode, load_checks_blocks [] ⟨2, 0⟩ "topo.hcl" src spec hparse hdecode⟩

/-- A replicated block of a source type that does not exist loads all the same: its reader is
opened only as each replica starts. -/
theorem replicated_unknown_source_loads :
    let src := "kind = \"long.sum\"\nsource \"socket\" \"s\" \x7b\n  replicated = true\n" ++
      "  replica \"wordcount\" \x7b\x7d\n\x7d\n"
    (load [] ⟨2, 0⟩ "topo.hcl" src).isOk = true ∧
      ∀ s ∈ (decodeTopology (inventoryScope ⟨2, 0⟩) (parseConfig "topo.hcl" src).1).1.sources,
        ¬ s.Valid [] := by
  intro src
  have hs : (decodeTopology (inventoryScope ⟨2, 0⟩) (parseConfig "topo.hcl" src).1).1.sources =
      [⟨"socket", "s", none, [], [], none, true, [⟨"wordcount", none, []⟩]⟩] := by
    decide +kernel
  refine ⟨by decide +kernel, ?_⟩
  rw [hs]
  simp [SourceSpec.Valid]

end Lanes.Pipeline
