import Lanes.Proofs.Distribution
import Lanes.Proofs.CombineLaws
import Lanes.Proofs.RegionRefusal

/-!
What the built-in transforms compute, end to end.

A run in which every lane finishes combines into its table the updates of every record mapping,
in an order the schedule decides (`Inv.combines_perm`). At one key of a new table, what the
updates make depends only on how many of them came for that key when each of them adds the same
(`Table.combineAll_at`): a sum of `long.sum` updates of one value `x` is `x` times their number,
and a mean of `double.mean` updates of one value each counts their number. So the word counts,
the constants and the counts of field means come out the same under every schedule, though
floating-point sums of means depend on the order.

A field that does not parse fails the lane that maps its record: the lane combines nothing for
it and, at its second step after, stops with a failure of kind `invalid`, whatever the other
lanes do (`Interleaving.run_refused`).

Main statement: `builtin_transforms_tables`.
-/

namespace Lanes.Pipeline

open Lanes.Accumulator

/-! ### One key of a table under many updates -/

namespace Table

variable {t : Table} {us : List (Key × Acc)} {k : Key}

theorem kinds_combine_of_cons {u : Key × Acc} (hk : ∀ v ∈ u :: us, v.2.kind = t.kind) (key : Key)
    (a : Option Acc) : ∀ v ∈ us, v.2.kind = (t.combine key a).1.kind := fun v hv => by
  rw [combine_kind]
  exact hk v (List.mem_cons_of_mem _ hv)

theorem isSome_toMap_combineAll (hv : t.Valid) (hf : t.frozen = false)
    (hk : ∀ u ∈ us, u.2.kind = t.kind) :
    ((t.combineAll us).toMap k).isSome ↔ (∃ u ∈ us, u.1 = k) ∨ (t.toMap k).isSome := by
  induction us generalizing t with
  | nil => simp [combineAll]
  | cons u us ih =>
    obtain ⟨c, -, hmap, hf'⟩ := hv.toMap_combine u.1 u.2 (hk u List.mem_cons_self) hf
    rw [combineAll_cons, ih (hv.combine _ _) hf' (kinds_combine_of_cons hk _ _), hmap]
    by_cases hu : u.1 = k
    · simp [hu]
    · simp [Function.update_of_ne (Ne.symm hu), hu]

/-- **One key under many updates.** Where `S n a` says what `n` updates for key `k` make of its
entry, and every update for `k` takes an entry that `n` made to one that `n + 1` made, the
entry of `k` is what its updates made. -/
theorem combineAll_at (S : Nat → Acc → Prop) (hv : t.Valid) (hf : t.frozen = false)
    (hk : ∀ u ∈ us, u.2.kind = t.kind) {n : Nat} (h₀ : S n ((t.toMap k).getD t.identity.identity))
    (hstep : ∀ u ∈ us, u.1 = k → ∀ n a c, S n a → a.combine (some u.2) = .ok c → S (n + 1) c) :
    S (n + us.countP (·.1 = k)) (((t.combineAll us).toMap k).getD t.identity.identity) := by
  induction us generalizing t n with
  | nil => simpa [combineAll] using h₀
  | cons u us ih =>
    obtain ⟨c, hc, hmap, hf'⟩ := hv.toMap_combine u.1 u.2 (hk u List.mem_cons_self) hf
    have hk' := kinds_combine_of_cons hk u.1 (some u.2)
    have hstep' := fun v hv' => hstep v (List.mem_cons_of_mem u hv')
    have hid := combine_identity t u.1 (some u.2)
    rw [combineAll_cons]
    by_cases hu : u.1 = k
    · -- the update is for `k`: its entry is one update further on
      have h₁ : S (n + 1) (((t.combine u.1 (some u.2)).1.toMap k).getD
          (t.combine u.1 (some u.2)).1.identity.identity) := by
        rw [hmap, hid, hu, Function.update_self]
        rw [hu] at hc
        exact hstep u List.mem_cons_self hu n _ c h₀ hc
      have h := ih (hv.combine _ _) hf' hk' h₁ hstep'
      have hcount : (u :: us).countP (·.1 = k) = us.countP (·.1 = k) + 1 := by
        simp [hu]
      rw [hid] at h
      rw [hcount, ← Nat.add_assoc, Nat.add_right_comm n]
      exact h
    · have h₁ : S n (((t.combine u.1 (some u.2)).1.toMap k).getD
          (t.combine u.1 (some u.2)).1.identity.identity) := by
        rw [hmap, hid, Function.update_of_ne (Ne.symm hu)]
        exact h₀
      have h := ih (hv.combine _ _) hf' hk' h₁ hstep'
      rw [hid] at h
      simpa [List.countP_cons, hu] using h

/-- The entry of a key of a new table after updates of its kind: none if no update came for
it, and otherwise what its updates made. -/
theorem toMap_combineAll_new (S : Nat → Acc → Prop) (hv : t.Valid) (hf : t.frozen = false)
    (hnew : ∀ k, t.toMap k = none) (hk : ∀ u ∈ us, u.2.kind = t.kind) (h₀ : S 0 t.identity.identity)
    (hstep : ∀ u ∈ us, u.1 = k → ∀ n a c, S n a → a.combine (some u.2) = .ok c → S (n + 1) c) :
    (us.countP (·.1 = k) = 0 → (t.combineAll us).toMap k = none) ∧
      (0 < us.countP (·.1 = k) → ∃ a, (t.combineAll us).toMap k = some a ∧
        S (us.countP (·.1 = k)) a) := by
  have hsome := isSome_toMap_combineAll (k := k) hv hf hk
  rw [hnew k] at hsome
  refine ⟨fun hzero => ?_, fun hpos => ?_⟩
  · rw [← Option.not_isSome_iff_eq_none, hsome]
    rintro (⟨u, hu, huk⟩ | hnone)
    · exact List.countP_eq_zero.1 hzero u hu (by simpa using huk)
    · simp at hnone
  · obtain ⟨a, ha⟩ := Option.isSome_iff_exists.1 (hsome.2 (.inl (by
      simpa [List.countP_pos_iff] using hpos)))
    have hS := combineAll_at S hv hf hk (n := 0) (k := k) (by rw [hnew k]; exact h₀) hstep
    rw [ha, Nat.zero_add] at hS
    exact ⟨a, ha, hS⟩

theorem eq_of_create {K : List UInt8} {a : Acc} {t : Table} (ha : ofKind K = .ok a)
    (h : create K = .ok t) : t = ⟨a.kind, a, false, List.replicate numStripes []⟩ := by
  obtain ⟨a', ha', rfl⟩ := create_ok h
  rw [ha] at ha'
  cases ha'
  rfl

end Table

/-! ### Sums and means of one value each -/

theorem combine_sumOf (x y : Int64) : (sumOf x).combine (some (sumOf y)) = .ok (sumOf (x + y)) :=
  rfl

theorem ofKind_longSum : ofKind (bytesOf "long.sum") = .ok (sumOf 0) := by
  rw [show bytesOf "long.sum" = (sumOf 0).kind.toUTF8.toList by decide +kernel, ofKind_kind]
  rfl

theorem ofKind_doubleMean : ofKind (bytesOf "double.mean") = .ok (.mean Mean.empty) := by
  rw [show bytesOf "double.mean" = (Acc.mean Mean.empty).kind.toUTF8.toList by decide +kernel,
    ofKind_kind]
  rfl

theorem sumOf_step (x : Int64) {n : Nat} {a c : Acc} (ha : a = sumOf (x * Int64.ofNat n))
    (hc : a.combine (some (sumOf x)) = .ok c) : c = sumOf (x * Int64.ofNat (n + 1)) := by
  rw [ha, combine_sumOf] at hc
  cases hc
  congr 1
  rw [Int64.ofNat_add]
  grind

theorem mean_step {n : Nat} {a c : Acc} {m : Mean} (hm : m.count = 1)
    (ha : ∃ s, a = .mean ⟨s, Int64.ofNat n⟩) (hc : a.combine (some (.mean m)) = .ok c) :
    ∃ s, c = .mean ⟨s, Int64.ofNat (n + 1)⟩ := by
  obtain ⟨s, rfl⟩ := ha
  rw [Acc.combine_mean] at hc
  cases hc
  refine ⟨s.add m.sum, ?_⟩
  simp [Mean.merge, hm, Int64.ofNat_add]

/-! ### What the transforms make of records -/

theorem countP_flatMap_of_single {rs : List Record} {g : Record → List (Key × Acc)}
    {q : Key × Acc → Bool} {p : Record → Bool}
    (h : ∀ rec ∈ rs, (g rec).countP q = if p rec then 1 else 0) :
    (rs.flatMap g).countP q = rs.countP p := by
  induction rs with
  | nil => rfl
  | cons rec rs ih =>
    rw [List.flatMap_cons, List.countP_append, List.countP_cons, h rec List.mem_cons_self,
      ih fun r hr => h r (List.mem_cons_of_mem _ hr), Nat.add_comm]

namespace Transform

theorem make_wordcount : make "wordcount" [] = .ok .wordCount := rfl

theorem make_constant {key value : String} {v : Int64} (h : Numeral.readInt64 (bytesOf value) = .ok v) :
    make "constant" [key, value] = .ok (.constant (bytesOf key) v) := by
  simp [make, expectArgs, h]

theorem make_fieldmean {key sep index : String} {i : Int64}
    (h : Numeral.readInt64 (bytesOf index) = .ok i) (hi : 0 ≤ i.toInt) :
    make "fieldmean" [key, sep, index] = .ok (.fieldMean (bytesOf key) (bytesOf sep) i.toInt.toNat) := by
  simp [make, expectArgs, h, Int.not_lt.2 hi]

theorem map_fieldMean_of_parses (key : List UInt8) {sep : List UInt8} {index : Nat} {rec : Record}
    {k : Key}
    (h : ∀ field, (fieldsOf sep rec.content.toList)[index]? = some field →
      ∃ x, Numeral.readFloat (trimSpace field) = some (x, false)) :
    ((fieldMean key sep index).map rec).2 = none ∧
      ((fieldMean key sep index).map rec).1.countP (·.1 = k) =
        (if k = key ∧ index < (fieldsOf sep rec.content.toList).length then 1 else 0) ∧
      ∀ u ∈ ((fieldMean key sep index).map rec).1, u.1 = key ∧ ∃ s, u.2 = .mean ⟨s, 1⟩ := by
  rcases hf : (fieldsOf sep rec.content.toList)[index]? with _ | field
  · have hlen : ¬ index < (fieldsOf sep rec.content.toList).length := by
      simpa [List.getElem?_eq_none_iff] using hf
    have hmap : (fieldMean key sep index).map rec = ([], none) := by simp [map, hf]
    simp [hmap, hlen]
  · obtain ⟨x, hx⟩ := h field hf
    have hlen : index < (fieldsOf sep rec.content.toList).length :=
      (List.getElem?_eq_some_iff.1 hf).1
    have hmap : (fieldMean key sep index).map rec =
        ([(key, .mean (Mean.empty.accumulate x))], none) := by
      simp [map, hf, hx]
    rw [hmap]
    refine ⟨rfl, ?_, ?_⟩
    · by_cases hk : k = key
      · simp [hk, hlen]
      · simp [hk, Ne.symm hk]
    · intro u hu
      simp only [List.mem_singleton] at hu
      subst hu
      exact ⟨rfl, _, rfl⟩

theorem countP_wordCount (rs : List Record) (w : Key) :
    (rs.flatMap fun rec => (wordCount.map rec).1).countP (·.1 = w) =
      (rs.flatMap fun rec => words rec.content.toList).count w := by
  -- each word of a record is one update of one
  have hupdates : (rs.flatMap fun rec => (wordCount.map rec).1) =
      (rs.flatMap fun rec => words rec.content.toList).map (·, sumOf 1) := by
    simp only [map, List.map_flatMap]
  rw [hupdates, List.countP_map, List.count]
  exact List.countP_congr fun x _ => by simp

theorem countP_constant (rs : List Record) (key : Key) (v : Int64) (k : Key) :
    (rs.flatMap fun rec => ((constant key v).map rec).1).countP (·.1 = k) =
      if k = key then rs.length else 0 := by
  by_cases hk : k = key
  · rw [countP_flatMap_of_single (p := fun _ => true) fun rec _ => by simp [map, hk]]
    simp [hk]
  · rw [countP_flatMap_of_single (p := fun _ => false) fun rec _ => by simp [map, Ne.symm hk]]
    simp [hk]

theorem countP_fieldMean (key sep : List UInt8) (index : Nat) {rs : List Record}
    (h : ∀ rec ∈ rs, ∀ field, (fieldsOf sep rec.content.toList)[index]? = some field →
      ∃ x, Numeral.readFloat (trimSpace field) = some (x, false)) (k : Key) :
    (rs.flatMap fun rec => ((fieldMean key sep index).map rec).1).countP (·.1 = k) =
      if k = key then rs.countP (fun rec => index < (fieldsOf sep rec.content.toList).length)
      else 0 := by
  by_cases hk : k = key
  · rw [if_pos hk]
    exact countP_flatMap_of_single fun rec hr => by
      simpa [hk] using (map_fieldMean_of_parses key (k := k) (h rec hr)).2.1
  · rw [if_neg hk, countP_flatMap_of_single (p := fun _ => false) fun rec hr => by
      simpa [hk] using (map_fieldMean_of_parses key (k := k) (h rec hr)).2.1]
    simp

theorem map_fieldMean_refused (key : List UInt8) {sep : List UInt8} {index : Nat} {rec : Record}
    {field : List UInt8}
    (hf : (fieldsOf sep rec.content.toList)[index]? = some field)
    (hbad : ∀ x, Numeral.readFloat (trimSpace field) ≠ some (x, false)) :
    ∃ F, (fieldMean key sep index).map rec = ([], some F) ∧ F.kindOf = some .invalid := by
  -- the refusal is of the number, or of its range
  let refused (r : Numeral.Refusal) : Fault := Fault.wrap .invalid .unknown
    ("pipeline: fieldmean: record " ++ rec.id) (Numeral.floatFault (trimSpace field) r)
  rcases hx : Numeral.readFloat (trimSpace field) with _ | ⟨x, _ | _⟩
  · exact ⟨refused .malformed, by simp [map, hf, hx, refused], Fault.kindOf_wrap (by decide) _ _ _⟩
  · exact absurd hx (hbad x)
  · exact ⟨refused .range, by simp [map, hf, hx, refused], Fault.kindOf_wrap (by decide) _ _ _⟩

end Transform

/-! ### A lane that fails on a record -/

namespace Interleaving

theorem lane_step_of_ne (m : Interleaving) {i j : Nat} (h : i ≠ j) : (m.step i).lane j = m.lane j := by
  rcases hi : m.lanes[i]? with _ | ⟨si, rc⟩
  · rw [step_of_none hi]
  · rw [step_of_some hi]
    exact Function.update_of_ne (Ne.symm h) _ _

theorem lane_step_self {m : Interleaving} {j si : Nat} {rc : ReplicaConfig}
    (h : m.lanes[j]? = some (si, rc)) : (m.step j).lane j = ((m.lane j).step si rc j m.world).1 := by
  rw [step_of_some h]
  exact Function.update_self _ _ _

@[simp] theorem run_lanes (m : Interleaving) (sched : List Nat) : (m.run sched).lanes = m.lanes := by
  induction sched generalizing m with
  | nil => rfl
  | cons i sched ih => rw [run_cons, ih, step_lanes]

theorem run_append (m : Interleaving) (s s' : List Nat) : m.run (s ++ s') = (m.run s).run s' :=
  List.foldl_append

/-- **A refused record fails its lane.** A lane holding a record that its transform refuses with
`F`, making no update: at its next step it has mapped the record and holds the failure, and at
the step after it stops with its replica's failure for that record, for good. The steps of the
other lanes change nothing of it. -/
theorem run_refused {m : Interleaving} {j si : Nat} {rc : ReplicaConfig} {tr : Transform}
    {own : Option Reader} {rec : Record} {F : Fault} (hj : m.lanes[j]? = some (si, rc))
    (hl : m.lane j = .holding tr own rec) (hmap : tr.map rec = ([], some F)) (sched : List Nat) :
    (m.run sched).lane j =
      if sched.count j = 0 then .holding tr own rec
      else if sched.count j = 1 then .emitting tr own rec [] (some F)
      else .failed (LaneAt.recordFault rc rec F) := by
  -- on the schedule from its end: only a step of lane `j` moves it
  induction sched using List.reverseRecOn with
  | nil => simpa using hl
  | append_singleton s i ih =>
    rw [run_append, run_cons, run_nil, List.count_append, List.count_singleton]
    by_cases hij : i = j
    · subst hij
      have hj' : (m.run s).lanes[i]? = some (si, rc) := by rw [run_lanes]; exact hj
      rw [lane_step_self hj', ih]
      obtain h | h | h : s.count i = 0 ∨ s.count i = 1 ∨ 2 ≤ s.count i := by omega
      · simp only [h, if_true, beq_self_eq_true]
        show LaneAt.emitting tr own rec (tr.map rec).1 (tr.map rec).2 = _
        simp [hmap]
      · simp only [h, beq_self_eq_true]
        rfl
      · simp only [beq_self_eq_true, if_true]
        rw [if_neg (by omega), if_neg (by omega), if_neg (by omega), if_neg (by omega)]
        rfl
    · rw [lane_step_of_ne _ hij, ih]
      simp [hij]

/-- A field mean's lane holding a record whose field does not parse fails with a failure of kind
`invalid`, after two steps of its own under any schedule. -/
theorem fieldMean_refusal {m : Interleaving} {j si : Nat} {rc : ReplicaConfig}
    {key sep : List UInt8} {index : Nat} {own : Option Reader} {rec : Record} {field : List UInt8}
    (hj : m.lanes[j]? = some (si, rc)) (hl : m.lane j = .holding (.fieldMean key sep index) own rec)
    (hf : (fieldsOf sep rec.content.toList)[index]? = some field)
    (hbad : ∀ x, Numeral.readFloat (trimSpace field) ≠ some (x, false)) :
    ∃ F, (LaneAt.recordFault rc rec F).kindOf = some .invalid ∧ ∀ sched : List Nat,
      (m.run sched).lane j =
        if sched.count j = 0 then .holding (.fieldMean key sep index) own rec
        else if sched.count j = 1 then .emitting (.fieldMean key sep index) own rec [] (some F)
        else .failed (LaneAt.recordFault rc rec F) := by
  obtain ⟨F, hmap, hkind⟩ := Transform.map_fieldMean_refused key hf hbad
  refine ⟨F, ?_, run_refused hj hl hmap⟩
  rw [LaneAt.recordFault, Fault.kindOf_within _ F (by simp [hkind]), hkind]

end Interleaving

/-! ### Runs that end clean -/

namespace Topology

/-- A run of `sched` that ends with no failure: every lane has finished, every source has replica
copies, and the readers of source `si` give the records `recs si`. -/
structure RunsClean (t : Topology) (recs : Nat → List Record) (sched : List Nat) : Prop where
  finished : ∀ j < t.laneReplicas.length, ((Interleaving.start t).run sched).lane j = .finished
  lanes : ∀ sc ∈ t.sources, 0 < sc.lanes
  yields : ∀ (si : Nat) (sc : SourceConfig), t.sources[si]? = some sc → sc.origin.Yields (recs si)

/-- Every replica copy runs the transform `name` with arguments `args`. -/
def Runs (t : Topology) (name : String) (args : List String) : Prop :=
  ∀ p ∈ t.laneReplicas, p.2.transform = name ∧ p.2.args = args

instance (t : Topology) (name : String) (args : List String) : Decidable (t.Runs name args) :=
  inferInstanceAs (Decidable (∀ p ∈ t.laneReplicas, p.2.transform = name ∧ p.2.args = args))

theorem Runs.mapsAlike {t : Topology} {name : String} {args : List String} {tr : Transform}
    (h : t.Runs name args) (hmk : Transform.make name args = .ok tr) :
    t.MapsAlike fun _ rec => (tr.map rec).1 := by
  intro si rc hmem tr' hmk' rec
  obtain ⟨hn, ha⟩ := h _ hmem
  rw [hn, ha, hmk] at hmk'
  cases hmk'
  rfl

/-- The words of every record mapping. -/
def wordsMapped (t : Topology) (recs : Nat → List Record) : List (List UInt8) :=
  (t.mappings recs).flatMap fun rec => words rec.content.toList

variable {t : Topology} {recs : Nat → List Record} {sched : List Nat}

/-- **A clean run's table.** It combines the updates the lanes combined, and these are, up to
order, the updates of every record mapping. -/
theorem RunsClean.table {g : Record → List (Key × Acc)} (h : t.RunsClean recs sched)
    (hmaps : t.MapsAlike fun _ => g) :
    ((Interleaving.start t).run sched).world.table =
        t.table.combineAll (((Interleaving.start t).run sched).combines.map (·.2)) ∧
      (((Interleaving.start t).run sched).combines.map (·.2)).Perm ((t.mappings recs).flatMap g) := by
  have hinv : Pipeline.Inv t ((Interleaving.start t).run sched) := (Pipeline.Inv.start t).run sched
  refine ⟨hinv.table, ?_⟩
  rw [← expectedUpdates_eq_flatMap]
  exact hinv.combines_perm h.finished h.lanes h.yields hmaps

/-- **A clean run's entry of one key.** On a new table, where every update of the record mappings
has the table's kind and `S n a` says what `n` updates for `k` make, the entry of `k` is none if
no mapping makes an update for it, and otherwise what its updates made, whatever the schedule. -/
theorem RunsClean.toMap {g : Record → List (Key × Acc)} (h : t.RunsClean recs sched)
    (hmaps : t.MapsAlike fun _ => g) (hv : t.table.Valid) (hf : t.table.frozen = false)
    (hnew : ∀ k, t.table.toMap k = none)
    (hkind : ∀ rec ∈ t.mappings recs, ∀ u ∈ g rec, u.2.kind = t.table.kind) (k : Key)
    (S : Nat → Acc → Prop) (h₀ : S 0 t.table.identity.identity)
    (hstep : ∀ rec ∈ t.mappings recs, ∀ u ∈ g rec, u.1 = k →
      ∀ n a c, S n a → a.combine (some u.2) = .ok c → S (n + 1) c) :
    (((t.mappings recs).flatMap g).countP (·.1 = k) = 0 →
        ((Interleaving.start t).run sched).world.table.toMap k = none) ∧
      (0 < ((t.mappings recs).flatMap g).countP (·.1 = k) →
        ∃ a, ((Interleaving.start t).run sched).world.table.toMap k = some a ∧
          S (((t.mappings recs).flatMap g).countP (·.1 = k)) a) := by
  obtain ⟨htable, hperm⟩ := h.table hmaps
  -- every update combined is an update of a record mapping
  have hmem : ∀ u ∈ ((Interleaving.start t).run sched).combines.map (·.2),
      ∃ rec ∈ t.mappings recs, u ∈ g rec := fun u hu => List.mem_flatMap.1 (hperm.subset hu)
  rw [htable, ← hperm.countP_eq]
  refine Table.toMap_combineAll_new S hv hf hnew (fun u hu => ?_) h₀ fun u hu => ?_
  · obtain ⟨rec, hrec, hu'⟩ := hmem u hu
    exact hkind rec hrec u hu'
  · obtain ⟨rec, hrec, hu'⟩ := hmem u hu
    exact hstep rec hrec u hu'

theorem RunsClean.sumTable {g : Record → List (Key × Acc)} (h : t.RunsClean recs sched)
    (hmaps : t.MapsAlike fun _ => g) (ht : Table.create (bytesOf "long.sum") = .ok t.table)
    (x : Int64) (hg : ∀ rec ∈ t.mappings recs, ∀ u ∈ g rec, u.2 = sumOf x) (k : Key) :
    ((Interleaving.start t).run sched).world.table.toMap k =
      if 0 < ((t.mappings recs).flatMap g).countP (·.1 = k) then
        some (sumOf (x * Int64.ofNat (((t.mappings recs).flatMap g).countP (·.1 = k))))
      else none := by
  have htab := Table.eq_of_create ofKind_longSum ht
  have hv : t.table.Valid := Table.valid_create ht (by rw [htab]; rfl)
  obtain ⟨hzero, hpos⟩ := h.toMap hmaps hv (by rw [htab]) (by rw [htab]; exact Table.toMap_empty _ _ _)
    (fun rec hrec u hu => by rw [hg rec hrec u hu, htab]; rfl) k
    (fun n a => a = sumOf (x * Int64.ofNat n))
    (by rw [htab]; show sumOf 0 = sumOf (x * Int64.ofNat 0); simp) fun rec hrec u hu _ n a c ha hc =>
      sumOf_step x ha (hg rec hrec u hu ▸ hc)
  split_ifs with hn
  · obtain ⟨a, ha, rfl⟩ := hpos hn
    exact ha
  · exact hzero (Nat.eq_zero_of_not_pos hn)

theorem RunsClean.meanTable {g : Record → List (Key × Acc)} (h : t.RunsClean recs sched)
    (hmaps : t.MapsAlike fun _ => g) (ht : Table.create (bytesOf "double.mean") = .ok t.table)
    (hg : ∀ rec ∈ t.mappings recs, ∀ u ∈ g rec, ∃ s, u.2 = .mean ⟨s, 1⟩) (k : Key) :
    (((t.mappings recs).flatMap g).countP (·.1 = k) = 0 →
        ((Interleaving.start t).run sched).world.table.toMap k = none) ∧
      (0 < ((t.mappings recs).flatMap g).countP (·.1 = k) →
        ∃ s, ((Interleaving.start t).run sched).world.table.toMap k =
          some (.mean ⟨s, Int64.ofNat (((t.mappings recs).flatMap g).countP (·.1 = k))⟩)) := by
  have htab := Table.eq_of_create ofKind_doubleMean ht
  have hv : t.table.Valid := Table.valid_create ht (by rw [htab]; rfl)
  obtain ⟨hzero, hpos⟩ := h.toMap hmaps hv (by rw [htab]) (by rw [htab]; exact Table.toMap_empty _ _ _)
    (fun rec hrec u hu => by
      obtain ⟨s, hs⟩ := hg rec hrec u hu
      rw [hs, htab]
      rfl) k (fun n a => ∃ s, a = .mean ⟨s, Int64.ofNat n⟩)
    (by rw [htab]; exact ⟨Binary64.zero, rfl⟩) fun rec hrec u hu _ n a c ha hc => by
      obtain ⟨s, hs⟩ := hg rec hrec u hu
      exact mean_step (m := ⟨s, 1⟩) rfl ha (hs ▸ hc)
  refine ⟨hzero, fun hn => ?_⟩
  obtain ⟨a, ha, s, rfl⟩ := hpos hn
  exact ⟨s, ha⟩

/-! ### Word counts, constants and field means -/

/-- **Word counts.** A clean run of `wordcount` over a new `long.sum` table maps each word to the
number of times it occurs in the record mappings, and has no other key. -/
theorem wordCount_table (h : t.RunsClean recs sched) (hr : t.Runs "wordcount" [])
    (ht : Table.create (bytesOf "long.sum") = .ok t.table) (w : Key) :
    ((Interleaving.start t).run sched).world.table.toMap w =
      if w ∈ t.wordsMapped recs then some (sumOf (Int64.ofNat ((t.wordsMapped recs).count w)))
      else none := by
  have hsum := h.sumTable (hr.mapsAlike Transform.make_wordcount) ht 1
    (fun rec _ u hu => by
      simp only [Transform.map, List.mem_map] at hu
      obtain ⟨_, -, rfl⟩ := hu
      rfl) w
  rw [hsum, Transform.countP_wordCount, Int64.one_mul, wordsMapped]
  simp only [List.count_pos_iff]

/-- **Constants.** A clean run of `constant key value`, where `value` reads as `v`, over a new
`long.sum` table maps `key` to `v` times the number of record mappings, wrapping around, and
has no other key; no key at all when nothing was mapped. -/
theorem constant_table {key value : String} {v : Int64}
    (hv : Numeral.readInt64 (bytesOf value) = .ok v) (h : t.RunsClean recs sched)
    (hr : t.Runs "constant" [key, value]) (ht : Table.create (bytesOf "long.sum") = .ok t.table)
    (k : Key) :
    ((Interleaving.start t).run sched).world.table.toMap k =
      if k = bytesOf key ∧ t.mappings recs ≠ [] then
        some (sumOf (v * Int64.ofNat (t.mappings recs).length))
      else none := by
  have hsum := h.sumTable (hr.mapsAlike (Transform.make_constant hv)) ht v
    (fun rec _ u hu => by
      simp only [Transform.map, List.mem_singleton] at hu
      rw [hu]) k
  rw [hsum, Transform.countP_constant]
  by_cases hk : k = bytesOf key
  · simp [hk, List.length_pos_iff]
  · simp [hk]

/-- **Counts of field means.** A clean run of `fieldmean key sep index`, where `index` reads as
`i ≥ 0`, over a new `double.mean` table, where the field `i` of every record mapping that has one
parses: `key` gets a mean that counts the mappings with more than `i` fields, if there are any,
and there is no other key. -/
theorem fieldMean_table {key sep index : String} {i : Int64}
    (hi : Numeral.readInt64 (bytesOf index) = .ok i) (hi0 : 0 ≤ i.toInt)
    (h : t.RunsClean recs sched) (hr : t.Runs "fieldmean" [key, sep, index])
    (ht : Table.create (bytesOf "double.mean") = .ok t.table)
    (hparse : ∀ rec ∈ t.mappings recs, ∀ field,
      (fieldsOf (bytesOf sep) rec.content.toList)[i.toInt.toNat]? = some field →
        ∃ x, Numeral.readFloat (trimSpace field) = some (x, false)) :
    let n := (t.mappings recs).countP fun rec =>
      i.toInt.toNat < (fieldsOf (bytesOf sep) rec.content.toList).length
    (n = 0 → ((Interleaving.start t).run sched).world.table.toMap (bytesOf key) = none) ∧
      (0 < n → ∃ s, ((Interleaving.start t).run sched).world.table.toMap (bytesOf key) =
        some (.mean ⟨s, Int64.ofNat n⟩)) ∧
      ∀ k ≠ bytesOf key, ((Interleaving.start t).run sched).world.table.toMap k = none := by
  intro n
  have hcount := Transform.countP_fieldMean (bytesOf key) (bytesOf sep) i.toInt.toNat hparse
  have hkey := h.meanTable (hr.mapsAlike (Transform.make_fieldmean hi hi0)) ht fun rec hrec u hu =>
    ((Transform.map_fieldMean_of_parses (bytesOf key) (k := u.1) (hparse rec hrec)).2.2 u hu).2
  refine ⟨fun hn => (hkey (bytesOf key)).1 (by rw [hcount, if_pos rfl]; exact hn), fun hn => ?_,
    fun k hk => (hkey k).1 (by rw [hcount, if_neg hk])⟩
  obtain ⟨s, hs⟩ := (hkey (bytesOf key)).2 (by rw [hcount, if_pos rfl]; exact hn)
  rw [hcount, if_pos rfl] at hs
  exact ⟨s, hs⟩

end Topology

/-! ### The built-in transforms end to end -/

/-- **Built-in transforms compute their specification end to end**, over every schedule of a
topology's lanes. In a run that ends with every lane finished, over a new table:
`wordcount` counts each word of the record mappings, and makes no other key; `constant key value`
puts at `key` the value times the number of record mappings, wrapping around, and no key at all
when nothing was mapped; `fieldmean key sep index` gives `key` a mean that counts the record
mappings with more than `index` fields, when each such field parses, and makes no other key. A
lane of `fieldmean` holding a record whose field does not parse fails at its second step after,
with a failure of kind `invalid`. -/
theorem builtin_transforms_tables (t : Topology) (recs : Nat → List Record) (sched : List Nat) :
    let m := (Interleaving.start t).run sched
    (t.RunsClean recs sched → t.Runs "wordcount" [] →
      Table.create (bytesOf "long.sum") = .ok t.table →
      ∀ w, m.world.table.toMap w =
        if w ∈ t.wordsMapped recs then some (sumOf (Int64.ofNat ((t.wordsMapped recs).count w)))
        else none) ∧
    (∀ (key value : String) (v : Int64), Numeral.readInt64 (bytesOf value) = .ok v →
      t.RunsClean recs sched → t.Runs "constant" [key, value] →
      Table.create (bytesOf "long.sum") = .ok t.table →
      ∀ k, m.world.table.toMap k =
        if k = bytesOf key ∧ t.mappings recs ≠ [] then
          some (sumOf (v * Int64.ofNat (t.mappings recs).length))
        else none) ∧
    (∀ (key sep index : String) (i : Int64), Numeral.readInt64 (bytesOf index) = .ok i →
      0 ≤ i.toInt → t.RunsClean recs sched → t.Runs "fieldmean" [key, sep, index] →
      Table.create (bytesOf "double.mean") = .ok t.table →
      (∀ rec ∈ t.mappings recs, ∀ field,
        (fieldsOf (bytesOf sep) rec.content.toList)[i.toInt.toNat]? = some field →
          ∃ x, Numeral.readFloat (trimSpace field) = some (x, false)) →
      let n := (t.mappings recs).countP fun rec =>
        i.toInt.toNat < (fieldsOf (bytesOf sep) rec.content.toList).length
      (n = 0 → m.world.table.toMap (bytesOf key) = none) ∧
        (0 < n → ∃ s, m.world.table.toMap (bytesOf key) = some (.mean ⟨s, Int64.ofNat n⟩)) ∧
        ∀ k ≠ bytesOf key, m.world.table.toMap k = none) ∧
    (∀ (m' : Interleaving) (j si : Nat) (rc : ReplicaConfig) (key sep : List UInt8) (index : Nat)
      (own : Option Reader) (rec : Record) (field : List UInt8),
      m'.lanes[j]? = some (si, rc) → m'.lane j = .holding (.fieldMean key sep index) own rec →
      (fieldsOf sep rec.content.toList)[index]? = some field →
      (∀ x, Numeral.readFloat (trimSpace field) ≠ some (x, false)) →
      ∃ F, (LaneAt.recordFault rc rec F).kindOf = some .invalid ∧ ∀ sched' : List Nat,
        (m'.run sched').lane j =
          if sched'.count j = 0 then .holding (.fieldMean key sep index) own rec
          else if sched'.count j = 1 then .emitting (.fieldMean key sep index) own rec [] (some F)
          else .failed (LaneAt.recordFault rc rec F)) :=
  ⟨fun h hr ht => Topology.wordCount_table h hr ht,
    fun _ _ _ hv h hr ht => Topology.constant_table hv h hr ht,
    fun _ _ _ _ hi hi0 h hr ht hparse => Topology.fieldMean_table hi hi0 h hr ht hparse,
    fun _ _ _ _ _ _ _ _ _ _ hj hl hf hbad => Interleaving.fieldMean_refusal hj hl hf hbad⟩

/-- Word counts of two sources into a new `long.sum` table: two copies share a reader of the
records `a a` and `b`, and one copy opens its own reader of the record `a`. -/
def Topology.wordsShared : Topology :=
  ⟨⟨"long.sum", .long ⟨.sum, 0⟩, false, List.replicate numStripes []⟩,
    [⟨.shared (.records [⟨"0", ⟨#[97, 32, 97]⟩⟩, ⟨"1", ⟨#[98]⟩⟩]) false,
        [⟨"count", 2, "wordcount", []⟩], .running, 2, Metrics.Scope.empty⟩,
      ⟨.opener (.ok (.records [⟨"0", ⟨#[97]⟩⟩])), [⟨"own", 1, "wordcount", []⟩], .running,
        1, Metrics.Scope.empty⟩],
    true, false, 0, none⟩

/-- Every lane of the two sources finishes when they take turns, and the word `a`, twice in the
shared records and once in the other source's, is counted three times. -/
theorem builtin_transforms_word_counts :
    let t := Topology.wordsShared
    let recs : Nat → List Record := fun si =>
      if si = 0 then [⟨"0", ⟨#[97, 32, 97]⟩⟩, ⟨"1", ⟨#[98]⟩⟩] else [⟨"0", ⟨#[97]⟩⟩]
    let sched := (List.replicate 8 [0, 1, 2]).flatten
    t.RunsClean recs sched ∧ t.Runs "wordcount" [] ∧
      Table.create (bytesOf "long.sum") = .ok t.table ∧
      ((Interleaving.start t).run sched).world.table.toMap [97] = some (sumOf 3) := by
  intro t recs sched
  have hclean : t.RunsClean recs sched := by
    refine ⟨by decide +kernel, by decide +kernel, fun si sc hsc => ?_⟩
    rcases si with _ | _ | si
    · simp only [t, Topology.wordsShared, List.getElem?_cons_zero, Option.some.injEq] at hsc
      subst hsc
      exact yields_records _
    · simp only [t, Topology.wordsShared, List.getElem?_cons_succ, List.getElem?_cons_zero,
        Option.some.injEq] at hsc
      subst hsc
      exact yields_records _
    · simp [t, Topology.wordsShared] at hsc
  have hruns : t.Runs "wordcount" [] := by decide +kernel
  have hcreate : Table.create (bytesOf "long.sum") = .ok t.table := by
    rw [Table.create, ofKind_longSum]
    rfl
  refine ⟨hclean, hruns, hcreate, ?_⟩
  rw [(builtin_transforms_tables t recs sched).1 hclean hruns hcreate [97],
    if_pos (by decide +kernel), show (t.wordsMapped recs).count [97] = 3 by decide +kernel]
  rfl

end Lanes.Pipeline
