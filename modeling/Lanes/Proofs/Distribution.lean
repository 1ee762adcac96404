import Lanes.Proofs.Interleaving

/-!
Records distributed among replicas.

Over every schedule of the lanes' steps (`Interleaving`), what the shared reader of a source
answers is read once, in order, and never after its end; every record it gives goes to exactly
one lane of the source, which passes it to its transform; and a source that opens a reader for
every lane has each lane map every record of its own reader. When every lane has finished and
the table's kind is made of whole-number reductions, the table is the one that combines the
updates of each record of a shared source once and those of each record of any other source
once for each of its replica copies, whatever the schedule and however the shared records went
to the lanes.

The proof is one invariant (`Inv`) that the start satisfies and every step keeps: what each
source's reader has answered (`SourceAt`), and for each lane what it read, mapped and combined
by where it is (`LaneAt.Progress`) and where its reads came from (`LaneAt.Reading`).

Main statement: `records_distributed_once`.
-/

namespace Lanes.Pipeline

open Lanes.Accumulator Lanes.Region

/-! ### What the readers have answered -/

/-- No answer follows the end. -/
def EndsOnce (xs : List Read) : Prop := ∀ ys zs, xs = ys ++ .done :: zs → zs = []

theorem EndsOnce.nil : EndsOnce [] := by
  intro ys zs h
  simp at h

theorem EndsOnce.snoc {xs : List Read} (h : Read.done ∉ xs) (x : Read) : EndsOnce (xs ++ [x]) := by
  intro ys zs hyz
  rcases List.eq_nil_or_concat zs with rfl | ⟨zs', z, rfl⟩
  · rfl
  · have hyz' : xs ++ [x] = (ys ++ .done :: zs') ++ [z] := by simpa using hyz
    obtain ⟨rfl, -⟩ := List.append_inj' hyz' rfl
    exact absurd (by simp) h

/-- Where a source is against where it began. A shared reader that began as `r₀`, latched by
`e₀`, has answered `xs`, and its latch is open exactly while it began open and has not answered
the end; a source of another kind is as it began, and no shared reader of it was read. -/
def SourceAt (xs : List Read) (o₀ o : Option Origin) : Prop :=
  match o₀, o with
  | some (.shared r₀ e₀), some (.shared r e) =>
    Reads r₀ xs r ∧ (e = false ↔ e₀ = false ∧ .done ∉ xs) ∧ (e₀ = true → xs = []) ∧ EndsOnce xs
  | some (.shared _ _), _ => False
  | _, _ => o = o₀ ∧ xs = []

theorem SourceAt.refl (o : Option Origin) : SourceAt [] o o := by
  unfold SourceAt
  split
  · exact ⟨.nil _, by simp, fun _ => rfl, EndsOnce.nil⟩
  · simp_all
  · exact ⟨rfl, rfl⟩

theorem SourceAt.pull {xs : List Read} {r₀ r r' : Reader} {e₀ : Bool} {x : Read}
    (h : SourceAt xs (some (.shared r₀ e₀)) (some (.shared r false))) (hr : r.read = (x, r')) :
    SourceAt (xs ++ [x]) (some (.shared r₀ e₀)) (some (.shared r' x.isDone)) := by
  obtain ⟨hreads, hopen, -, -⟩ := h
  obtain ⟨he₀, hdone⟩ := hopen.1 rfl
  refine ⟨hreads.snoc hr, ?_, fun h => absurd h (by simp [he₀]), EndsOnce.snoc hdone x⟩
  rw [Read.isDone_eq_false_iff]
  simp [he₀, hdone, eq_comm]

/-! ### What a lane has done -/

/-- The updates a transform makes of records, in order. -/
def updatesOf (tr : Transform) (recs : List Record) : List (Key × Acc) :=
  recs.flatMap fun rec => (tr.map rec).1

/-- What a lane of replica `rc` has read (`got`), mapped and combined, by where it is. -/
def LaneAt.Progress (rc : ReplicaConfig) (got : List Read) (mapped : List Record)
    (combined : List (Key × Acc)) : LaneAt → Prop
  | .idle => got = [] ∧ mapped = [] ∧ combined = []
  | .reading tr _ => Transform.make rc.transform rc.args = .ok tr ∧
      got = mapped.map .record ∧ combined = updatesOf tr mapped
  | .holding tr _ rec => Transform.make rc.transform rc.args = .ok tr ∧
      got = (mapped ++ [rec]).map .record ∧ combined = updatesOf tr mapped
  | .emitting tr _ rec updates failure => Transform.make rc.transform rc.args = .ok tr ∧
      got = mapped.map .record ∧ ∃ before taken, mapped = before ++ [rec] ∧
        tr.map rec = (taken ++ updates, failure) ∧ combined = updatesOf tr before ++ taken
  | .finished => got = mapped.map .record ++ [.done] ∧
      ∃ tr, Transform.make rc.transform rc.args = .ok tr ∧ combined = updatesOf tr mapped
  | .failed _ => recordsOf got = mapped

/-- Where a lane's reads came from, by its source's origin at the start: `got` the answers of
its reads, `pulls` the answers of the shared reader it read, `pulled` all the answers of the
shared reader. A lane of a shared source got what it read of the shared reader, and the end
once more if the latch was closed; a lane of a source that opens readers reads its own. -/
def LaneAt.Reading (got pulls pulled : List Read) (l : LaneAt) : Option Origin → Prop
  | some (.shared _ e₀) => (∀ own, l.own? = some own → own = none) ∧
      (got = pulls ∨ (got = pulls ++ [.done] ∧ (e₀ = true ∨ .done ∈ pulled)))
  | some (.opener (.ok r₀)) => ∃ r, Reads r₀ got r ∧ ∀ own, l.own? = some own → own = some r
  | _ => got = [] ∧ l.own? = none

theorem LaneAt.Progress.records {rc : ReplicaConfig} {got : List Read} {mapped : List Record}
    {combined : List (Key × Acc)} {l : LaneAt} (h : l.Progress rc got mapped combined) :
    recordsOf got = mapped ++ l.held := by
  cases l with
  | idle => simp [h.1, h.2.1, LaneAt.held]
  | reading => simp [h.2.1, LaneAt.held]
  | holding => simp [h.2.1, LaneAt.held]
  | emitting => simp [h.2.1, LaneAt.held]
  | finished => simp [h.1, LaneAt.held]
  | failed => simpa [LaneAt.held, LaneAt.Progress] using h

/-! ### One step -/

theorem SourceAt.shared_shape {xs : List Read} {r₀ : Reader} {e₀ : Bool} {o : Option Origin}
    (h : SourceAt xs (some (.shared r₀ e₀)) o) : ∃ r e, o = some (.shared r e) := by
  rcases o with _ | ⟨r, e⟩ | mk
  · exact h.elim
  · exact ⟨r, e, rfl⟩
  · exact h.elim

theorem SourceAt.opener_eq {xs : List Read} {mk : Except Fault Reader} {o : Option Origin}
    (h : SourceAt xs (some (.opener mk)) o) : o = some (.opener mk) ∧ xs = [] := h

theorem LaneAt.read_events (si i : Nat) (o : Topology.ReadOutcome) (sj j : Nat) :
    let evs := (o.pull.map (Event.pulled si i)).toList ++ [.got i o.read]
    ofLane j (evs.filterMap Event.gotOf) = (if i = j then [o.read] else []) ∧
      evs.filterMap (Event.pullOf sj) = (if si = sj then (o.pull.map (i, ·)).toList else []) ∧
      evs.filterMap Event.mappedOf = [] ∧ evs.filterMap Event.combinedOf = [] := by
  cases o.pull <;> by_cases h : si = sj <;> simp [h, List.filterMap]

theorem SourceAt.step {xs : List Read} {o₀ : Option Origin} {sj si : Nat} {rc : ReplicaConfig}
    {i : Nat} {t : Topology} (l : LaneAt) (h : SourceAt xs o₀ (t.origin? sj)) :
    SourceAt (xs ++ ((l.step si rc i t).2.2.filterMap (Event.pullOf sj)).map (·.2)) o₀
      ((l.step si rc i t).2.1.origin? sj) := by
  cases l with
  | reading tr own =>
    have hev := (LaneAt.read_events si i (Topology.readFor si own t) sj i).2.1
    simp only [LaneAt.step]
    rw [hev]
    rcases own with _ | r
    · by_cases ho : ∃ r, t.origin? si = some (.shared r false)
      · obtain ⟨r, hr⟩ := ho
        obtain ⟨-, -, hpull, -, horig⟩ := Topology.readFor_open hr
        rw [hpull, horig]
        by_cases hs : si = sj
        · subst hs
          rw [hr] at h
          obtain ⟨r₀, e₀, rfl⟩ : ∃ r₀ e₀, o₀ = some (.shared r₀ e₀) := by
            rcases o₀ with _ | ⟨r₀, e₀⟩ | mk
            · exact absurd h.1 (by simp)
            · exact ⟨r₀, e₀, rfl⟩
            · exact absurd h.1 (by simp)
          simp only [Option.map_some, Option.toList_some]
          exact h.pull rfl
        · simpa [hs, Ne.symm hs] using h
      · rw [Topology.readFor_closed fun r hr => ho ⟨r, hr⟩]
        simpa using h
    · simpa [Topology.readFor_some] using h
  | emitting tr own rec updates failure =>
    rcases updates with _ | ⟨⟨k, u⟩, rest⟩
    · rcases failure with _ | f <;> simpa [LaneAt.step] using h
    · simpa [LaneAt.step, Topology.origin?, List.filterMap] using h
  | idle => simpa [LaneAt.step] using h
  | holding => simpa [LaneAt.step, List.filterMap] using h
  | finished => simpa [LaneAt.step] using h
  | failed => simpa [LaneAt.step] using h

namespace LaneAt

variable {rc : ReplicaConfig} {got pulls pulled : List Read} {mapped : List Record}
  {combined : List (Key × Acc)} {o₀ : Option Origin}

theorem Reading.of_own? {l l' : LaneAt} (h : l.Reading got pulls pulled o₀)
    (he : l'.own? = l.own?) : l'.Reading got pulls pulled o₀ := by
  rcases o₀ with _ | ⟨r, e⟩ | ⟨_ | r⟩ <;> simp_all [Reading]

theorem Reading.stop {l l' : LaneAt} (h : l.Reading got pulls pulled o₀) (he : l'.own? = none) :
    l'.Reading got pulls pulled o₀ := by
  rcases o₀ with _ | ⟨r, e⟩ | ⟨_ | r₀⟩
  · simp_all [Reading]
  · simp_all [Reading]
  · simp_all [Reading]
  · obtain ⟨r, hr, -⟩ := h
    exact ⟨r, hr, by simp [he]⟩

theorem Reading.mono {l : LaneAt} (h : l.Reading got pulls pulled o₀) (ys : List Read) :
    l.Reading got pulls (pulled ++ ys) o₀ := by
  rcases o₀ with _ | ⟨r, e⟩ | ⟨_ | r⟩ <;> simp_all [Reading]
  tauto

theorem own?_afterRead {si : Nat} {tr : Transform} {own o : Option Reader} {x : Read}
    (h : (afterRead si tr own x).own? = some o) : o = own := by
  cases x <;> simp_all [afterRead, own?]

theorem Progress.afterRead {tr : Transform} {own : Option Reader}
    (h : (reading tr own).Progress rc got mapped combined) (si : Nat) (own' : Option Reader)
    (x : Read) : (LaneAt.afterRead si tr own' x).Progress rc (got ++ [x]) mapped combined := by
  obtain ⟨hmk, hgot, hcomb⟩ := h
  cases x with
  | record rec => exact ⟨hmk, by simp [hgot], hcomb⟩
  | done => exact ⟨by simp [hgot], tr, hmk, hcomb⟩
  | failed f => simp [Progress, LaneAt.afterRead, hgot]

theorem start_inv {si : Nat} {t : Topology} (hsome : o₀ ≠ none)
    (hsrc : SourceAt pulled o₀ (t.origin? si)) (hr : idle.Reading [] pulls pulled o₀) :
    (start si rc t).Progress rc [] [] [] ∧ (start si rc t).Reading [] pulls pulled o₀ := by
  unfold start
  rcases hmk : Transform.make rc.transform rc.args with f | tr
  · exact ⟨rfl, hr.stop rfl⟩
  · rcases o₀ with _ | ⟨r₀, e₀⟩ | mk₀
    · exact absurd rfl hsome
    · obtain ⟨r, e, hre⟩ := hsrc.shared_shape
      obtain ⟨sc, hsc, ho⟩ := Option.map_eq_some_iff.1 hre
      simp only [hsc, ho]
      exact ⟨⟨hmk, rfl, rfl⟩, fun own h => by simpa [own?] using h.symm, hr.2⟩
    · obtain ⟨sc, hsc, ho⟩ := Option.map_eq_some_iff.1 hsrc.opener_eq.1
      simp only [hsc, ho]
      rcases mk₀ with f | r
      · exact ⟨rfl, hr.stop rfl⟩
      · exact ⟨⟨hmk, rfl, rfl⟩, r, .nil r, fun own h => by simpa [own?] using h.symm⟩

theorem read_inv {si : Nat} {t : Topology} {tr : Transform} {own : Option Reader}
    (hsrc : SourceAt pulled o₀ (t.origin? si))
    (hp : (reading tr own).Progress rc got mapped combined)
    (hr : (reading tr own).Reading got pulls pulled o₀) :
    (afterRead si tr (Topology.readFor si own t).own (Topology.readFor si own t).read).Reading
      (got ++ [(Topology.readFor si own t).read])
      (pulls ++ (Topology.readFor si own t).pull.toList)
      (pulled ++ (Topology.readFor si own t).pull.toList) o₀ := by
  rcases own with _ | r
  · rcases o₀ with _ | ⟨r₀, e₀⟩ | ⟨_ | r₀⟩
    · simp [Reading, own?] at hr
    · -- a reading lane holds no end, so it got exactly what it read of the shared reader
      have hgot : got = pulls := by
        rcases hr.2 with h | ⟨h, -⟩
        · exact h
        · have hmem : Read.done ∈ mapped.map Read.record := hp.2.1 ▸ h ▸ by simp
          simp at hmem
      obtain ⟨r, e, hre⟩ := hsrc.shared_shape
      cases e with
      | false =>
        obtain ⟨hread, hown, hpull, -, -⟩ := Topology.readFor_open hre
        rw [hread, hown, hpull]
        exact ⟨fun o h => own?_afterRead h, .inl (by simp [hgot])⟩
      | true =>
        rw [Topology.readFor_closed (by simp [hre])]
        refine ⟨fun o h => by simp [afterRead, own?] at h, .inr ⟨by simp [hgot], ?_⟩⟩
        rw [hre] at hsrc
        obtain ⟨-, hlatch, -, -⟩ := hsrc
        cases e₀ with
        | true => exact .inl rfl
        | false =>
          refine .inr ?_
          by_contra hno
          exact absurd (hlatch.2 ⟨rfl, by simpa using hno⟩) (by simp)
    · simp [Reading, own?] at hr
    · obtain ⟨r', -, hown⟩ := hr
      exact absurd (hown none rfl) (by simp)
  · rw [Topology.readFor_some]
    rcases o₀ with _ | ⟨r₀, e₀⟩ | ⟨_ | r₀⟩
    · simp [Reading, own?] at hr
    · exact absurd (hr.1 (some r) rfl) (by simp)
    · simp [Reading, own?] at hr
    · obtain ⟨r', hreads, hown⟩ := hr
      obtain rfl : r = r' := Option.some.inj (hown (some r) rfl)
      exact ⟨r.read.2, hreads.snoc rfl, fun o h => by rw [own?_afterRead h]⟩

/-- One step of a lane keeps what its own part of the trace says of it. -/
theorem step_inv {si i : Nat} {t : Topology} {l : LaneAt} (hsome : o₀ ≠ none)
    (hsrc : SourceAt pulled o₀ (t.origin? si))
    (hp : l.Progress rc got mapped combined) (hr : l.Reading got pulls pulled o₀) :
    (l.step si rc i t).1.Progress rc
        (got ++ ofLane i ((l.step si rc i t).2.2.filterMap Event.gotOf))
        (mapped ++ ofLane i ((l.step si rc i t).2.2.filterMap Event.mappedOf))
        (combined ++ ofLane i ((l.step si rc i t).2.2.filterMap Event.combinedOf)) ∧
      (l.step si rc i t).1.Reading
        (got ++ ofLane i ((l.step si rc i t).2.2.filterMap Event.gotOf))
        (pulls ++ ofLane i ((l.step si rc i t).2.2.filterMap (Event.pullOf si)))
        (pulled ++ ((l.step si rc i t).2.2.filterMap (Event.pullOf si)).map (·.2)) o₀ := by
  cases l with
  | idle =>
    obtain ⟨rfl, rfl, rfl⟩ := hp
    simpa [step] using start_inv hsome hsrc hr
  | reading tr own =>
    obtain ⟨hg, hpl, hm, hc⟩ := read_events si i (Topology.readFor si own t) si i
    simp only [step, hg, hpl, hm, hc, ↓reduceIte, ofLane_nil, List.append_nil]
    have hpulls : ∀ p : Option Read, ofLane i (p.map (i, ·)).toList = p.toList ∧
        ((p.map (i, ·)).toList).map (·.2) = p.toList := by
      intro p
      cases p <;> simp
    rw [(hpulls _).1, (hpulls _).2]
    exact ⟨hp.afterRead si _ _, read_inv hsrc hp hr⟩
  | holding tr own rec =>
    obtain ⟨hmk, hgot, hcomb⟩ := hp
    simp only [step, List.filterMap, Event.gotOf, Event.mappedOf, Event.combinedOf,
      Event.pullOf, ofLane_cons, ofLane_nil, ↓reduceIte, List.append_nil, List.map_nil]
    exact ⟨⟨hmk, by simpa using hgot, mapped, [], rfl, by simp, by simpa using hcomb⟩,
      hr.of_own? rfl⟩
  | emitting tr own rec updates failure =>
    obtain ⟨hmk, hgot, before, taken, hmapped, hmap, hcomb⟩ := hp
    rcases updates with _ | ⟨⟨k, u⟩, rest⟩
    · rcases failure with _ | f
      · -- every update taken and no failure: the lane reads on
        have hupd : updatesOf tr mapped = combined := by
          simp [updatesOf, hmapped, hcomb, hmap, List.flatMap_append]
        simpa [step] using ⟨⟨hmk, hgot, hupd.symm⟩, hr.of_own? rfl⟩
      · simpa [step, Progress, hgot] using hr.stop rfl
    · simp only [step]
      cases hc : (t.table.combine k (some u)).2 with
      | ok _ =>
        simp only [List.filterMap, Event.gotOf, Event.mappedOf, Event.combinedOf,
          Event.pullOf, ofLane_cons, ofLane_nil, ↓reduceIte, List.append_nil, List.map_nil]
        exact ⟨⟨hmk, hgot, before, taken ++ [(k, u)], hmapped, by simpa using hmap,
          by simp [hcomb]⟩, hr.of_own? rfl⟩
      | error f =>
        simp only [List.filterMap, Event.gotOf, Event.mappedOf, Event.combinedOf,
          Event.pullOf, ofLane_cons, ofLane_nil, ↓reduceIte, List.append_nil, List.map_nil]
        exact ⟨by simp [Progress, hgot], hr.stop rfl⟩
  | finished => simpa [step] using ⟨hp, hr⟩
  | failed f => simpa [step] using ⟨hp, hr⟩

end LaneAt

/-! ### Every schedule -/

theorem ofLane_filterMap_of_ne {α : Type} {f : Event → Option (Nat × α)}
    (hf : ∀ e p, f e = some p → p.1 = e.lane) {evs : List Event} {i j : Nat}
    (htag : ∀ e ∈ evs, e.lane = i) (hji : j ≠ i) : ofLane j (evs.filterMap f) = [] := by
  simp only [ofLane, List.map_eq_nil_iff, List.filter_eq_nil_iff, decide_eq_true_eq]
  intro p hp hpj
  obtain ⟨e, he, hep⟩ := List.mem_filterMap.1 hp
  exact hji (hpj ▸ (hf e p hep).trans (htag e he))

theorem Event.eq_pulled_of_pullOf {si : Nat} {e : Event} {p : Nat × Read}
    (h : e.pullOf si = some p) : e = .pulled si p.1 p.2 := by
  cases e with
  | pulled s j x =>
    by_cases hs : s = si
    · simp only [Event.pullOf, hs, if_true, Option.some.injEq] at h
      simp [hs, ← h]
    · simp [hs] at h
  | _ => simp at h

theorem Event.lane_of_pullOf {si : Nat} (e : Event) (p : Nat × Read) (h : e.pullOf si = some p) :
    p.1 = e.lane := by
  rw [Event.eq_pulled_of_pullOf h]
  rfl

theorem Event.lane_of_gotOf (e : Event) (p : Nat × Read) (h : e.gotOf = some p) :
    p.1 = e.lane := by
  cases e <;> simp at h
  simp [← h, Event.lane]

theorem Event.lane_of_mappedOf (e : Event) (p : Nat × Record) (h : e.mappedOf = some p) :
    p.1 = e.lane := by
  cases e <;> simp at h
  simp [← h, Event.lane]

theorem Event.lane_of_combinedOf (e : Event) (p : Nat × (Key × Acc)) (h : e.combinedOf = some p) :
    p.1 = e.lane := by
  cases e <;> simp at h
  simp [← h, Event.lane]

/-- What holds of the lanes of a topology run under any schedule: the table, the sources, and
each lane's part of the trace. -/
structure Inv (t : Topology) (m : Interleaving) : Prop where
  /-- The lanes are the topology's replica copies. -/
  lanes : m.lanes = t.laneReplicas
  /-- The table combines every update the lanes combined, in the order they did. -/
  table : m.world.table = t.table.combineAll (m.combines.map (·.2))
  /-- Each source is where the answers of its shared reader say. -/
  sources : ∀ si, SourceAt (m.pulled si) (t.origin? si) (m.world.origin? si)
  /-- Only the lanes of a source read its shared reader. -/
  pull_lane : ∀ si, ∀ p ∈ m.pulls si, p.1 ∈ t.lanesOf si
  /-- Only lanes combine updates. -/
  combine_lane : ∀ p ∈ m.combines, p.1 < t.laneReplicas.length
  /-- What each lane has done, and where its reads came from. -/
  lane : ∀ j si rc, t.laneReplicas[j]? = some (si, rc) →
    (m.lane j).Progress rc (m.got j) (m.mapped j) (ofLane j m.combines) ∧
      (m.lane j).Reading (m.got j) (ofLane j (m.pulls si)) (m.pulled si) (t.origin? si)

theorem Inv.start (t : Topology) : Inv t (Interleaving.start t) where
  lanes := rfl
  table := rfl
  sources _ := SourceAt.refl _
  pull_lane _ _ hp := by simp [Interleaving.pulls, Interleaving.start] at hp
  combine_lane _ hp := by simp [Interleaving.combines, Interleaving.start] at hp
  lane j si rc _ := by
    refine ⟨⟨rfl, rfl, rfl⟩, ?_⟩
    rcases t.origin? si with _ | ⟨r, e⟩ | ⟨_ | r⟩
    · exact ⟨rfl, rfl⟩
    · exact ⟨fun _ h => by simp [Interleaving.start, LaneAt.own?] at h, .inl rfl⟩
    · exact ⟨rfl, rfl⟩
    · exact ⟨r, .nil r, fun _ h => by simp [Interleaving.start, LaneAt.own?] at h⟩

/-- Every step keeps the invariant. -/
theorem Inv.step {t : Topology} {m : Interleaving} (h : Inv t m) (i : Nat) : Inv t (m.step i) := by
  rcases hi : m.lanes[i]? with _ | ⟨si, rc⟩
  · rwa [Interleaving.step_of_none hi]
  have hi' : t.laneReplicas[i]? = some (si, rc) := h.lanes ▸ hi
  rw [Interleaving.step_of_some hi]
  -- every event of the step is of lane `i`
  have htag : ∀ e ∈ ((m.lane i).step si rc i m.world).2.2, e.lane = i :=
    fun e he => LaneAt.lane_of_mem_step he
  refine ⟨h.lanes, ?_, ?_, ?_, ?_, ?_⟩
  · have htable := h.table
    simp only [Interleaving.combines] at htable
    simp only [Interleaving.combines, List.filterMap_append, List.map_append,
      Table.combineAll_append, ← htable]
    exact LaneAt.step_table _
  · intro sj
    simp only [Interleaving.pulled, Interleaving.pulls, List.filterMap_append, List.map_append]
    exact (h.sources sj).step _
  · intro sj p hp
    simp only [Interleaving.pulls, List.filterMap_append, List.mem_append] at hp
    rcases hp with hp | hp
    · exact h.pull_lane sj p hp
    · -- a new answer of source `sj` was read by lane `i`, so `sj` is the source of lane `i`
      obtain ⟨e, he, hep⟩ := List.mem_filterMap.1 hp
      rw [Event.eq_pulled_of_pullOf hep] at he
      have hs : sj = si := LaneAt.source_of_pulled_mem_step he
      have hj : p.1 = i := htag _ he
      rw [hj, hs]
      exact Topology.mem_lanesOf hi'
  · intro p hp
    simp only [Interleaving.combines, List.filterMap_append, List.mem_append] at hp
    rcases hp with hp | hp
    · exact h.combine_lane p hp
    · obtain ⟨e, he, hep⟩ := List.mem_filterMap.1 hp
      rw [Event.lane_of_combinedOf e p hep, htag e he]
      exact (List.getElem?_eq_some_iff.1 hi').1
  · intro j sj rcj hj
    simp only [Interleaving.got, Interleaving.mapped, Interleaving.combines, Interleaving.pulled,
      Interleaving.pulls, List.filterMap_append, ofLane_append, List.map_append]
    by_cases hji : j = i
    · subst hji
      obtain ⟨rfl, rfl⟩ : sj = si ∧ rcj = rc := by simpa [hi'] using hj.symm
      have hsome : t.origin? sj ≠ none := by
        simp [Topology.origin?, Topology.source_lt_of_laneReplicas hi']
      have hlane := h.lane j sj rcj hi'
      simp only [Function.update_self]
      exact LaneAt.step_inv hsome (h.sources sj) hlane.1 hlane.2
    · have hother := h.lane j sj rcj hj
      rw [ofLane_filterMap_of_ne Event.lane_of_gotOf htag hji,
        ofLane_filterMap_of_ne Event.lane_of_mappedOf htag hji,
        ofLane_filterMap_of_ne Event.lane_of_combinedOf htag hji,
        ofLane_filterMap_of_ne Event.lane_of_pullOf htag hji]
      simp only [Function.update_of_ne hji, List.append_nil]
      exact ⟨hother.1, hother.2.mono _⟩

/-- The invariant holds after every schedule. -/
theorem Inv.run {t : Topology} {m : Interleaving} (h : Inv t m) :
    ∀ sched : List Nat, Inv t (m.run sched)
  | [] => h
  | i :: sched => (h.step i).run sched

theorem EndsOnce.eq_append_done {xs : List Read} (h : EndsOnce xs) (hd : Read.done ∈ xs) :
    ∃ ys, xs = ys ++ [.done] ∧ Read.done ∉ ys := by
  obtain ⟨ys, zs, rfl⟩ := List.append_of_mem hd
  obtain rfl := h ys zs rfl
  refine ⟨ys, rfl, fun hy => ?_⟩
  obtain ⟨as, bs, rfl⟩ := List.append_of_mem hy
  have := h as (bs ++ [.done]) (by simp)
  simp at this

/-! ### What the sources give -/

/-- The records the readers of a source give before they end: a shared reader's records, none
if its latch is already closed, and the records of the reader each lane opens. -/
def Origin.Yields : Origin → List Record → Prop
  | .shared r false, recs => Lanes.Pipeline.Yields r recs
  | .shared _ true, recs => recs = []
  | .opener (.ok r), recs => Lanes.Pipeline.Yields r recs
  | .opener (.error _), _ => True

namespace Topology

/-- Every replica copy of a source maps a record to the same updates, `upd si rec`. -/
def MapsAlike (t : Topology) (upd : Nat → Record → List (Key × Acc)) : Prop :=
  ∀ si rc, (si, rc) ∈ t.laneReplicas → ∀ tr, Transform.make rc.transform rc.args = .ok tr →
    ∀ rec, (tr.map rec).1 = upd si rec

/-- What the records `recs si` of source `si` bring to the table: the updates of each record
once if the source's reader is shared, and once for each replica copy if every copy opens its
own reader. -/
def sourceUpdates (t : Topology) (upd : Nat → Record → List (Key × Acc))
    (recs : Nat → List Record) (si : Nat) : List (Key × Acc) :=
  match t.sources[si]? with
  | none => []
  | some sc =>
    match sc.origin with
    | .shared _ _ => (recs si).flatMap (upd si)
    | .opener _ => (List.replicate sc.lanes ((recs si).flatMap (upd si))).flatten

/-- What the records of every source bring to the table. -/
def expectedUpdates (t : Topology) (upd : Nat → Record → List (Key × Acc))
    (recs : Nat → List Record) : List (Key × Acc) :=
  (List.range t.sources.length).flatMap (t.sourceUpdates upd recs)

theorem mem_expectedUpdates {t : Topology} {upd : Nat → Record → List (Key × Acc)}
    {recs : Nat → List Record} {u : Key × Acc} (h : u ∈ t.expectedUpdates upd recs) :
    ∃ si rec, u ∈ upd si rec := by
  simp only [expectedUpdates, sourceUpdates, List.mem_flatMap] at h
  obtain ⟨si, -, hu⟩ := h
  split at hu
  · simp at hu
  · split at hu
    · obtain ⟨rec, -, hu⟩ := List.mem_flatMap.1 hu
      exact ⟨si, rec, hu⟩
    · obtain ⟨l, hl, hu⟩ := List.mem_flatten.1 hu
      obtain ⟨-, rfl⟩ := List.mem_replicate.1 hl
      obtain ⟨rec, -, hu⟩ := List.mem_flatMap.1 hu
      exact ⟨si, rec, hu⟩

/-- The records `recs si` of source `si` as its lanes pass them to transforms: once if the
source's reader is shared, and once for each replica copy if every copy opens its own reader. -/
def sourceMappings (t : Topology) (recs : Nat → List Record) (si : Nat) : List Record :=
  match t.sources[si]? with
  | none => []
  | some sc =>
    match sc.origin with
    | .shared _ _ => recs si
    | .opener _ => (List.replicate sc.lanes (recs si)).flatten

/-- The records of every source as the lanes pass them to transforms. -/
def mappings (t : Topology) (recs : Nat → List Record) : List Record :=
  (List.range t.sources.length).flatMap (t.sourceMappings recs)

theorem sourceUpdates_eq_flatMap (t : Topology) (g : Record → List (Key × Acc))
    (recs : Nat → List Record) (si : Nat) :
    t.sourceUpdates (fun _ => g) recs si = (t.sourceMappings recs si).flatMap g := by
  unfold sourceUpdates sourceMappings
  split
  · rfl
  · split
    · rfl
    · -- each copy maps every record
      rw [← List.flatMap_replicate (f := List.flatMap g), List.flatten_eq_flatMap,
        List.flatMap_assoc]
      rfl

theorem expectedUpdates_eq_flatMap (t : Topology) (g : Record → List (Key × Acc))
    (recs : Nat → List Record) :
    t.expectedUpdates (fun _ => g) recs = (t.mappings recs).flatMap g := by
  rw [expectedUpdates, mappings, List.flatMap_assoc]
  exact List.flatMap_congr fun si _ => t.sourceUpdates_eq_flatMap g recs si

end Topology

namespace Inv

variable {t : Topology} {m : Interleaving}

theorem lane_of_mem (h : Inv t m) {si j : Nat} (hj : j ∈ t.lanesOf si) :
    ∃ rc, (m.lane j).Progress rc (m.got j) (m.mapped j) (ofLane j m.combines) ∧
      (m.lane j).Reading (m.got j) (ofLane j (m.pulls si)) (m.pulled si) (t.origin? si) := by
  obtain ⟨rc, hrc⟩ := Topology.exists_of_mem_lanesOf hj
  exact ⟨rc, h.lane j si rc hrc⟩

theorem shared_source (h : Inv t m) {si : Nat} {r₀ : Reader} {e₀ : Bool}
    (ho : t.origin? si = some (.shared r₀ e₀)) :
    ∃ r e, SourceAt (m.pulled si) (some (.shared r₀ e₀)) (some (.shared r e)) := by
  have hs := h.sources si
  rw [ho] at hs
  obtain ⟨r, e, hre⟩ := hs.shared_shape
  exact ⟨r, e, hre ▸ hs⟩

theorem shared_reads (h : Inv t m) {si : Nat} {r₀ : Reader} {e₀ : Bool}
    (ho : t.origin? si = some (.shared r₀ e₀)) :
    (∃ r, Reads r₀ (m.pulled si) r) ∧ EndsOnce (m.pulled si) := by
  obtain ⟨r, e, hs⟩ := h.shared_source ho
  exact ⟨⟨r, hs.1⟩, hs.2.2.2⟩

theorem records_of_pulls (h : Inv t m) {si j : Nat} {r₀ : Reader} {e₀ : Bool}
    (ho : t.origin? si = some (.shared r₀ e₀)) (hj : j ∈ t.lanesOf si) :
    recordsOf (ofLane j (m.pulls si)) = m.mapped j ++ (m.lane j).held := by
  obtain ⟨rc, hp, hr⟩ := h.lane_of_mem hj
  rw [ho] at hr
  rw [← hp.records]
  rcases hr.2 with hg | ⟨hg, -⟩ <;> simp [hg]

/-- Every record a shared reader gave went to exactly one lane of its source: they are, up to
order, the records the lanes mapped or hold. -/
theorem shared_distributed (h : Inv t m) {si : Nat} {r₀ : Reader} {e₀ : Bool}
    (ho : t.origin? si = some (.shared r₀ e₀)) :
    (recordsOf (m.pulled si)).Perm
      ((t.lanesOf si).flatMap fun j => m.mapped j ++ (m.lane j).held) := by
  have hperm := (perm_flatMap_ofLane (m.pulls si) (t.nodup_lanesOf si)
    (h.pull_lane si)).filterMap Read.record?
  rw [List.filterMap_flatMap] at hperm
  rw [List.flatMap_congr fun j hj => (h.records_of_pulls ho hj).symm]
  exact hperm

theorem shared_in_order (h : Inv t m) {si j : Nat} {r₀ : Reader} {e₀ : Bool}
    (ho : t.origin? si = some (.shared r₀ e₀)) (hj : j ∈ t.lanesOf si) :
    (m.mapped j ++ (m.lane j).held).Sublist (recordsOf (m.pulled si)) := by
  rw [← h.records_of_pulls ho hj]
  exact (ofLane_sublist j (m.pulls si)).filterMap _

theorem own_reads (h : Inv t m) {si j : Nat} {r₀ : Reader}
    (ho : t.origin? si = some (.opener (.ok r₀))) (hj : j ∈ t.lanesOf si) :
    (∃ r, Reads r₀ (m.got j) r) ∧ (m.lane j = .finished → Yields r₀ (m.mapped j)) := by
  obtain ⟨rc, hp, hr⟩ := h.lane_of_mem hj
  rw [ho] at hr
  obtain ⟨r, hreads, -⟩ := hr
  refine ⟨⟨r, hreads⟩, fun hfin => ⟨r, ?_⟩⟩
  rw [hfin] at hp
  exact hp.1 ▸ hreads

theorem combined_of_finished (h : Inv t m) {upd : Nat → Record → List (Key × Acc)}
    (hmaps : t.MapsAlike upd) {j si : Nat} {rc : ReplicaConfig}
    (hrc : t.laneReplicas[j]? = some (si, rc)) (hfin : m.lane j = .finished) :
    ofLane j m.combines = (m.mapped j).flatMap (upd si) := by
  obtain ⟨hp, -⟩ := h.lane j si rc hrc
  rw [hfin] at hp
  obtain ⟨-, tr, hmk, hc⟩ := hp
  rw [hc, updatesOf]
  exact List.flatMap_congr fun rec _ => hmaps si rc (List.mem_of_getElem? hrc) tr hmk rec

theorem shared_finished (h : Inv t m) {si : Nat} {r₀ : Reader}
    (ho : t.origin? si = some (.shared r₀ false)) (hne : t.lanesOf si ≠ [])
    (hfin : ∀ j ∈ t.lanesOf si, m.lane j = .finished) :
    Yields r₀ (recordsOf (m.pulled si)) ∧
      m.pulled si = (recordsOf (m.pulled si)).map .record ++ [.done] := by
  -- what each finished lane read of the shared reader
  have hlane : ∀ j ∈ t.lanesOf si, (m.got j = ofLane j (m.pulls si) ∨
      (m.got j = ofLane j (m.pulls si) ++ [.done] ∧ Read.done ∈ m.pulled si)) ∧
      m.got j = (m.mapped j).map .record ++ [.done] := by
    intro j hj
    obtain ⟨rc, hp, hr⟩ := h.lane_of_mem hj
    rw [ho] at hr
    rw [hfin j hj] at hp
    refine ⟨?_, hp.1⟩
    rcases hr.2 with hg | ⟨hg, hd | hd⟩
    · exact .inl hg
    · simp at hd
    · exact .inr ⟨hg, hd⟩
  -- every answer is a record or the end
  have hkinds : ∀ x ∈ m.pulled si, x = .done ∨ ∃ rec, x = .record rec := by
    intro x hx
    obtain ⟨p, hp, rfl⟩ := List.mem_map.1 hx
    have hj := h.pull_lane si p hp
    have hx' : p.2 ∈ m.got p.1 := by
      have hmem : p.2 ∈ ofLane p.1 (m.pulls si) := mem_ofLane.2 hp
      rcases (hlane p.1 hj).1 with hg | ⟨hg, -⟩ <;> simp [hg, hmem]
    rw [(hlane p.1 hj).2] at hx'
    simp only [List.mem_append, List.mem_map, List.mem_singleton] at hx'
    rcases hx' with ⟨rec, -, hrec⟩ | hd
    · exact .inr ⟨rec, hrec.symm⟩
    · exact .inl hd
  -- the end was read: a finished lane got it, from the reader or from the closed latch
  have hdone : Read.done ∈ m.pulled si := by
    obtain ⟨j, hj⟩ := List.exists_mem_of_ne_nil _ hne
    rcases (hlane j hj).1 with hg | ⟨-, hd⟩
    · have hmem : Read.done ∈ ofLane j (m.pulls si) := by
        rw [← hg, (hlane j hj).2]
        simp
      exact (ofLane_sublist j (m.pulls si)).subset hmem
    · exact hd
  obtain ⟨⟨r, hreads⟩, hends⟩ := h.shared_reads ho
  obtain ⟨ys, hys, hnot⟩ := hends.eq_append_done hdone
  have hrecs : (recordsOf ys).map .record = ys := by
    refine map_record_recordsOf fun y hy => ?_
    rcases hkinds y (hys ▸ by simp [hy]) with rfl | hrec
    · exact absurd hy hnot
    · exact hrec
  have heq : m.pulled si = (recordsOf (m.pulled si)).map .record ++ [.done] := by
    rw [hys]
    simpa using hrecs.symm
  exact ⟨⟨r, heq ▸ hreads⟩, heq⟩

theorem shared_records (h : Inv t m) {si : Nat} {sc : SourceConfig} {recs : List Record}
    {r₀ : Reader} {e₀ : Bool} (hsc : t.sources[si]? = some sc) (ho : sc.origin = .shared r₀ e₀)
    (hy : sc.origin.Yields recs) (hlanes : 0 < sc.lanes)
    (hfin : ∀ j ∈ t.lanesOf si, m.lane j = .finished) :
    recordsOf (m.pulled si) = recs := by
  have ho' : t.origin? si = some (.shared r₀ e₀) := by simp [Topology.origin?, hsc, ho]
  rw [ho] at hy
  cases e₀ with
  | false => exact (h.shared_finished ho' (Topology.lanesOf_ne_nil hsc hlanes) hfin).1.unique hy
  | true =>
    -- a reader latched from the start is never read
    obtain ⟨r, e, hs⟩ := h.shared_source ho'
    rw [hs.2.2.1 rfl, hy]
    rfl

/-- Once every lane has finished, the lanes of a source combined, up to order, what the
source's records bring. -/
theorem source_combined (h : Inv t m) {upd : Nat → Record → List (Key × Acc)}
    {recs : Nat → List Record} (hfin : ∀ j < t.laneReplicas.length, m.lane j = .finished)
    (hlanes : ∀ sc ∈ t.sources, 0 < sc.lanes)
    (hrecs : ∀ (si : Nat) (sc : SourceConfig), t.sources[si]? = some sc → sc.origin.Yields (recs si))
    (hmaps : t.MapsAlike upd) {si : Nat} (hsi : si < t.sources.length) :
    ((t.lanesOf si).flatMap (ofLane · m.combines)).Perm (t.sourceUpdates upd recs si) := by
  have hsc : t.sources[si]? = some t.sources[si] := List.getElem?_eq_getElem hsi
  have hlanes' : 0 < t.sources[si].lanes := hlanes _ (List.getElem_mem hsi)
  have hfin' : ∀ j ∈ t.lanesOf si, m.lane j = .finished := fun j hj =>
    hfin j (List.mem_range.1 (List.mem_filter.1 hj).1)
  have hcomb : ∀ j ∈ t.lanesOf si, ofLane j m.combines = (m.mapped j).flatMap (upd si) := by
    intro j hj
    obtain ⟨rc, hrc⟩ := Topology.exists_of_mem_lanesOf hj
    exact h.combined_of_finished hmaps hrc (hfin' j hj)
  rw [List.flatMap_congr hcomb, Topology.sourceUpdates, hsc]
  rcases ho : t.sources[si].origin with ⟨r₀, e₀⟩ | ⟨f | r₀⟩
  · -- a shared source: its records went to its lanes once each
    have ho' : t.origin? si = some (.shared r₀ e₀) := by simp [Topology.origin?, hsc, ho]
    have hheld : ((t.lanesOf si).flatMap fun j => m.mapped j ++ (m.lane j).held) =
        (t.lanesOf si).flatMap m.mapped :=
      List.flatMap_congr fun j hj => by simp [hfin' j hj, LaneAt.held]
    have hdist := h.shared_distributed ho'
    rw [hheld, h.shared_records hsc ho (hrecs si _ hsc) hlanes' hfin'] at hdist
    simp only [ho]
    rw [← List.flatMap_assoc]
    exact hdist.symm.flatMap_right _
  · -- a source whose readers cannot be opened has no lane that finished
    obtain ⟨j, hj⟩ := List.exists_mem_of_ne_nil _ (Topology.lanesOf_ne_nil hsc hlanes')
    obtain ⟨rc, hp, hr⟩ := h.lane_of_mem hj
    rw [hfin' j hj] at hp
    simp only [Topology.origin?, hsc, ho, Option.map_some] at hr
    simp [LaneAt.Reading, hp.1] at hr
  · -- a source that opens a reader for every lane: each lane mapped all of its records
    have ho' : t.origin? si = some (.opener (.ok r₀)) := by simp [Topology.origin?, hsc, ho]
    have hy := hrecs si _ hsc
    rw [ho] at hy
    have hmapped : ∀ j ∈ t.lanesOf si, m.mapped j = recs si := fun j hj =>
      ((h.own_reads ho' hj).2 (hfin' j hj)).unique hy
    have hlen : (t.lanesOf si).length = t.sources[si].lanes := by
      rw [Topology.length_lanesOf, hsc]
      rfl
    rw [List.flatMap_congr fun j hj => by rw [hmapped j hj]]
    simp only [ho]
    rw [← hlen]
    simp [List.flatMap, List.map_const']

/-- Once every lane has finished, the lanes combined, up to order, what the records of every
source bring. -/
theorem combines_perm (h : Inv t m) {upd : Nat → Record → List (Key × Acc)}
    {recs : Nat → List Record} (hfin : ∀ j < t.laneReplicas.length, m.lane j = .finished)
    (hlanes : ∀ sc ∈ t.sources, 0 < sc.lanes)
    (hrecs : ∀ (si : Nat) (sc : SourceConfig), t.sources[si]? = some sc → sc.origin.Yields (recs si))
    (hmaps : t.MapsAlike upd) :
    (m.combines.map (·.2)).Perm (t.expectedUpdates upd recs) := by
  -- the updates combined, lane by lane, then source by source
  have hlane : (m.combines.map (·.2)).Perm
      ((List.range t.laneReplicas.length).flatMap (ofLane · m.combines)) :=
    perm_flatMap_ofLane _ List.nodup_range fun p hp => List.mem_range.2 (h.combine_lane p hp)
  have hsource : ((List.range t.laneReplicas.length).flatMap (ofLane · m.combines)).Perm
      ((List.range t.sources.length).flatMap fun si => (t.lanesOf si).flatMap (ofLane · m.combines)) := by
    rw [← List.flatMap_assoc]
    exact t.perm_flatMap_lanesOf.flatMap_right _
  have hexpected := List.Perm.flatMap_left (List.range t.sources.length) fun si hsi =>
    h.source_combined hfin hlanes hrecs hmaps (List.mem_range.1 hsi)
  exact hlane.trans (hsource.trans hexpected)

/-- Once every lane has finished, a table of a whole kind is the one that combines what the
records of every source bring, whatever the schedule. -/
theorem table_of_finished (h : Inv t m) {upd : Nat → Record → List (Key × Acc)}
    {recs : Nat → List Record} (hfin : ∀ j < t.laneReplicas.length, m.lane j = .finished)
    (hlanes : ∀ sc ∈ t.sources, 0 < sc.lanes)
    (hrecs : ∀ (si : Nat) (sc : SourceConfig), t.sources[si]? = some sc → sc.origin.Yields (recs si))
    (hmaps : t.MapsAlike upd) (hkind : ∀ si rec, ∀ u ∈ upd si rec, u.2.kind = t.table.kind)
    (hv : t.table.Valid) (hw : t.table.identity.whole = true) (hf : t.table.frozen = false) :
    m.world.table = t.table.combineAll (t.expectedUpdates upd recs) := by
  have hperm := h.combines_perm hfin hlanes hrecs hmaps
  rw [h.table]
  refine Table.combineAll_perm hv hw hf hperm fun u hu => ?_
  obtain ⟨si, rec, hu'⟩ := Topology.mem_expectedUpdates (hperm.subset hu)
  exact hkind si rec u hu'

end Inv

/-! ### Records distributed once -/

/-- Over every schedule of the steps of a topology's lanes, records are distributed without loss
or duplication. A shared reader is read in order and never after its end, and each record it
gives goes to exactly one lane of its source, in the order read, to be mapped. A lane of a
source that opens a reader for every lane reads its own reader from the start, and once
finished has mapped all of its records. Once every lane has finished, when every source has
replica copies, the replicas of a source map each record alike and to updates of the table's
kind, and that kind is made of whole-number reductions, the table combines the updates of each
record of a shared source once and of each record of any other source once per replica copy. -/
theorem records_distributed_once (t : Topology) (sched : List Nat) :
    let m := (Interleaving.start t).run sched
    (∀ si r₀ e₀, t.origin? si = some (.shared r₀ e₀) →
      (∃ r, Reads r₀ (m.pulled si) r) ∧ EndsOnce (m.pulled si) ∧
      (recordsOf (m.pulled si)).Perm
        ((t.lanesOf si).flatMap fun j => m.mapped j ++ (m.lane j).held) ∧
      ∀ j ∈ t.lanesOf si, (m.mapped j ++ (m.lane j).held).Sublist (recordsOf (m.pulled si))) ∧
    (∀ si r₀, t.origin? si = some (.opener (.ok r₀)) → ∀ j ∈ t.lanesOf si,
      (∃ r, Reads r₀ (m.got j) r) ∧ (m.lane j = .finished → Yields r₀ (m.mapped j))) ∧
    (∀ (upd : Nat → Record → List (Key × Acc)) (recs : Nat → List Record),
      (∀ j < t.laneReplicas.length, m.lane j = .finished) →
      (∀ sc ∈ t.sources, 0 < sc.lanes) →
      (∀ (si : Nat) (sc : SourceConfig), t.sources[si]? = some sc → sc.origin.Yields (recs si)) →
      t.MapsAlike upd → (∀ si rec, ∀ u ∈ upd si rec, u.2.kind = t.table.kind) →
      t.table.Valid → t.table.identity.whole = true → t.table.frozen = false →
      m.world.table = t.table.combineAll (t.expectedUpdates upd recs)) := by
  intro m
  have h : Inv t m := (Inv.start t).run sched
  refine ⟨fun si r₀ e₀ ho => ?_, fun si r₀ ho j hj => h.own_reads ho hj,
    fun upd recs hfin hlanes hrecs hmaps hkind hv hw hf =>
      h.table_of_finished hfin hlanes hrecs hmaps hkind hv hw hf⟩
  obtain ⟨hreads, hends⟩ := h.shared_reads ho
  exact ⟨hreads, hends, h.shared_distributed ho, fun j hj => h.shared_in_order ho hj⟩

/-- Word counts of two sources into a table of `long.sum`: two copies share a reader of the
records `hi` and `ho`, and one copy opens its own reader of the record `hi`. -/
def Topology.wordsTwoWays : Topology :=
  ⟨⟨"long.sum", .long ⟨.sum, 0⟩, false, List.replicate numStripes []⟩,
    [⟨.shared (.records [⟨"0", ⟨#[104, 105]⟩⟩, ⟨"1", ⟨#[104, 111]⟩⟩]) false,
        [⟨"count", 2, "wordcount", []⟩], .running, 2, Metrics.Scope.empty⟩,
      ⟨.opener (.ok (.records [⟨"0", ⟨#[104, 105]⟩⟩])), [⟨"own", 1, "wordcount", []⟩], .running,
        1, Metrics.Scope.empty⟩],
    true, false, 0, none⟩

/-- The two copies of the shared source take one record each, then every lane finishes, and the
table is the one the records of both sources give. -/
theorem records_distributed_once_words_two_ways :
    let t := Topology.wordsTwoWays
    let m := (Interleaving.start t).run [0, 1, 2, 0, 1, 0, 1, 0, 1, 0, 1, 0, 1, 2, 2, 2, 2, 2]
    let upd : Nat → Record → List (Key × Acc) := fun _ rec => (Transform.wordCount.map rec).1
    let recs : Nat → List Record := fun si =>
      if si = 0 then [⟨"0", ⟨#[104, 105]⟩⟩, ⟨"1", ⟨#[104, 111]⟩⟩] else [⟨"0", ⟨#[104, 105]⟩⟩]
    (∀ j < t.laneReplicas.length, m.lane j = .finished) ∧
      m.world.table = t.table.combineAll (t.expectedUpdates upd recs) := by
  have hthm := records_distributed_once Topology.wordsTwoWays
    [0, 1, 2, 0, 1, 0, 1, 0, 1, 0, 1, 0, 1, 2, 2, 2, 2, 2]
  -- the run is evaluated once, by the kernel, and the statement is met term for term
  dsimp only at hthm ⊢
  refine ⟨by decide +kernel,
    hthm.2.2 _ _ (by decide +kernel) (by decide +kernel) ?_ ?_ ?_ ?_ rfl rfl⟩
  · intro si sc hsc
    rcases si with _ | _ | si
    · simp only [Topology.wordsTwoWays, List.getElem?_cons_zero, Option.some.injEq] at hsc
      subst hsc
      exact yields_records _
    · simp only [Topology.wordsTwoWays, List.getElem?_cons_succ, List.getElem?_cons_zero,
        Option.some.injEq] at hsc
      subst hsc
      exact yields_records _
    · simp [Topology.wordsTwoWays] at hsc
  · intro si rc hmem tr hmk rec
    simp [Topology.wordsTwoWays, Topology.laneReplicas] at hmem
    rcases hmem with ⟨rfl, rfl⟩ | ⟨rfl, rfl⟩ <;>
      · simp [Transform.make, expectArgs] at hmk
        subst hmk
        rfl
  · intro si rec u hu
    simp only [Transform.map, List.mem_map] at hu
    obtain ⟨w, -, rfl⟩ := hu
    rfl
  · exact ⟨Table.striped_empty _ _ _, fun e he => by simp [Topology.wordsTwoWays] at he, rfl, rfl⟩

end Lanes.Pipeline
