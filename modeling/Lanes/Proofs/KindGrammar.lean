import Lanes.Proofs.KindNames

/-!
The grammar of kind names.

A tuple kind is `composed(`, then the kinds of its elements joined by commas, then a closing
parenthesis. Which commas separate elements is said here without the splitter. A piece is a run
of bytes whose parentheses balance, whose depth never drops below zero, and whose commas all
stand inside some parenthesis (`Piece`). The inside of a tuple kind is split into pieces joined
by commas (`SplitsInto`), and the splitter cuts exactly that (`splitTopLevel_eq_some_iff`).

Main statements:
- `ofKind_ok_iff`: a name is read exactly when it is a kind known by name, or `composed(` and a
  parenthesis around an inside that is empty or splits into pieces that are all read;
- `identity_of_ofKind`: what is read is its own identity, so every part of it holds the unit of
  its reduction;
- `kind_names_parse_and_print`: these two facts, the reading's own text as kind, and the fact
  that every kind reads back to an accumulator of that kind.
-/

namespace Lanes.Accumulator

open splitTopLevel (go)

/-! ### Depth -/

/-- The parenthesis depth that some bytes leave: opening parentheses less closing ones. -/
def depth (s : List UInt8) : Int := (s.count 40 : Int) - s.count 41

theorem depth_append (s t : List UInt8) : depth (s ++ t) = depth s + depth t := by
  simp only [depth, List.count_append]
  omega

theorem depth_open : depth [40] = 1 := by decide

theorem depth_close : depth [41] = -1 := by decide

theorem depth_other {b : UInt8} (h40 : b ≠ 40) (h41 : b ≠ 41) : depth [b] = 0 := by
  simp [depth, h40, h41]

/-! ### Pieces -/

/-- The start of a piece, read up to depth `d`: the depth never went below zero on the way, and
every comma so far stood inside a parenthesis. -/
structure OpenPiece (d : Nat) (q : List UInt8) : Prop where
  depth_eq : depth q = d
  nonneg : ∀ r, r <+: q → 0 ≤ depth r
  comma : ∀ r, r ++ [44] <+: q → depth r ≠ 0

/-- A piece: balanced parentheses that never close below zero, and no comma outside them. -/
def Piece (p : List UInt8) : Prop := OpenPiece 0 p

/-- The text `s` is the pieces `parts` joined by commas. -/
structure SplitsInto (s : List UInt8) (parts : List (List UInt8)) : Prop where
  ne_nil : parts ≠ []
  eq_intercalate : s = [44].intercalate parts
  pieces : ∀ p ∈ parts, Piece p

theorem OpenPiece.nil : OpenPiece 0 [] :=
  ⟨rfl, fun r hr => by simp [List.prefix_nil.1 hr, depth], fun r hr => by simpa using hr.length_le⟩

theorem OpenPiece.snoc {d : Nat} {q : List UInt8} (h : OpenPiece d q) {b : UInt8}
    (hb : 0 ≤ (d : Int) + depth [b]) (hc : b = 44 → d ≠ 0) :
    OpenPiece ((d : Int) + depth [b]).toNat (q ++ [b]) := by
  refine ⟨by rw [depth_append, h.depth_eq]; omega, fun r hr => ?_, fun r hr => ?_⟩
  · rcases List.prefix_concat_iff.1 hr with rfl | hr
    · rw [depth_append, h.depth_eq]
      exact hb
    · exact h.nonneg r hr
  · rcases List.prefix_concat_iff.1 hr with he | hr
    · obtain ⟨rfl, hb44⟩ := List.append_inj' he rfl
      rw [h.depth_eq]
      exact_mod_cast hc (List.singleton_inj.1 hb44).symm
    · exact h.comma r hr

/-! ### What the splitter does with one byte -/

theorem go_cons_inner {d : Nat} {b : UInt8} (hb : 0 ≤ (d : Int) + depth [b])
    (hc : b = 44 → d ≠ 0) (cur rest : List UInt8) (done : List (List UInt8)) :
    go d cur done (b :: rest) = go ((d : Int) + depth [b]).toNat (b :: cur) done rest := by
  by_cases h40 : b = 40
  · subst h40
    rw [go_open, depth_open]
    congr 1
  by_cases h41 : b = 41
  · subst h41
    rw [depth_close] at hb ⊢
    obtain ⟨e, rfl⟩ : ∃ e, d = e + 1 := ⟨d - 1, by omega⟩
    rw [go_close]
    congr 1
    omega
  rw [depth_other h40 h41, Int.add_zero, Int.toNat_natCast]
  by_cases h44 : b = 44
  · subst h44
    obtain ⟨e, rfl⟩ : ∃ e, d = e + 1 := ⟨d - 1, by have := hc rfl; omega⟩
    exact go_comma_inner e cur rest done
  · exact go_other h40 h41 h44 d cur rest done

theorem go_append_inner {d : Nat} (q : List UInt8) (hq : ∀ r, r <+: q → 0 ≤ (d : Int) + depth r)
    (hc : ∀ r, r ++ [44] <+: q → (d : Int) + depth r ≠ 0) (cur rest : List UInt8)
    (done : List (List UInt8)) :
    go d cur done (q ++ rest) = go ((d : Int) + depth q).toNat (q.reverse ++ cur) done rest := by
  induction q using List.reverseRecOn generalizing rest with
  | nil => simp [depth]
  | append_singleton q b ih =>
    have hq' : ∀ r, r <+: q → 0 ≤ (d : Int) + depth r :=
      fun r hr => hq r (hr.trans (List.prefix_append q [b]))
    have hc' : ∀ r, r ++ [44] <+: q → (d : Int) + depth r ≠ 0 :=
      fun r hr => hc r (hr.trans (List.prefix_append q [b]))
    have hnn : 0 ≤ (d : Int) + depth q := hq' q (List.prefix_refl q)
    have hb : 0 ≤ (((d : Int) + depth q).toNat : Int) + depth [b] := by
      have := hq (q ++ [b]) (List.prefix_refl _)
      rw [depth_append] at this
      omega
    have hcb : b = 44 → ((d : Int) + depth q).toNat ≠ 0 := by
      rintro rfl
      have := hc q (List.prefix_refl _)
      omega
    rw [List.append_assoc, List.singleton_append, ih hq' hc', go_cons_inner hb hcb, depth_append]
    congr 1
    · omega
    · simp

theorem Piece.transparent {p : List UInt8} (hp : Piece p) : Transparent p := by
  intro d cur done rest
  have h := go_append_inner (d := d) p (fun r hr => by have := hp.nonneg r hr; omega)
    (fun r hr => by
      have := hp.comma r hr
      have := hp.nonneg r ((List.prefix_append r [44]).trans hr)
      omega)
    cur rest done
  have h0 : depth p = 0 := by simpa using hp.depth_eq
  rwa [h0, Int.add_zero, Int.toNat_natCast] at h

/-! ### The splitter cuts pieces -/

/-- Whatever the splitter returns is the pieces of the rest of the piece being cut and of what
is left to read, after the pieces already cut. -/
theorem go_sound : ∀ {bs : List UInt8} {d : Nat} {cur : List UInt8} {done parts : List (List UInt8)},
    OpenPiece d cur.reverse → go d cur done bs = some parts →
      ∃ rest, parts = done.reverse ++ rest ∧ SplitsInto (cur.reverse ++ bs) rest := by
  intro bs
  induction bs with
  | nil =>
    intro d cur done parts hopen h
    simp only [go] at h
    split at h
    · rename_i hd
      subst hd
      cases h
      exact ⟨[cur.reverse], rfl, ⟨by simp, by simp, by simpa [Piece] using hopen⟩⟩
    · cases h
  | cons b bs ih =>
    intro d cur done parts hopen h
    simp only [go] at h
    split at h
    · -- an opening parenthesis: one level deeper
      rename_i h40
      subst h40
      have hopen' := hopen.snoc (b := 40) (by rw [depth_open]; omega)
        (fun h => absurd h (by decide))
      rw [depth_open] at hopen'
      obtain ⟨rest, hparts, hs⟩ := @ih _ (40 :: cur) _ _ (by simpa using hopen') h
      exact ⟨rest, hparts, by simpa using hs⟩
    split at h
    · -- a closing parenthesis: one level up, refused at the top
      rename_i h40 h41
      subst h41
      split at h
      · cases h
      · rename_i hd
        have hopen' := hopen.snoc (b := 41) (by rw [depth_close]; omega)
          (fun h => absurd h (by decide))
        rw [depth_close] at hopen'
        have hd' : ((d : Int) + -1).toNat = d - 1 := by omega
        rw [hd'] at hopen'
        obtain ⟨rest, hparts, hs⟩ := @ih _ (41 :: cur) _ _ (by simpa using hopen') h
        exact ⟨rest, hparts, by simpa using hs⟩
    split at h
    · -- a comma at the top: the piece being cut is done
      rename_i h40 h41 hc
      obtain ⟨rfl, rfl⟩ := hc
      obtain ⟨rest, hparts, hs⟩ := @ih 0 [] _ _ OpenPiece.nil h
      obtain ⟨r, rs, rfl⟩ := List.exists_cons_of_ne_nil hs.ne_nil
      refine ⟨cur.reverse :: r :: rs, by simp [hparts], ⟨by simp, ?_, ?_⟩⟩
      · rw [List.intercalate_cons_cons, ← hs.eq_intercalate]
        simp
      · intro p hp
        rcases List.mem_cons.1 hp with rfl | hp
        · exact hopen
        · exact hs.pieces p hp
    · -- any other byte goes into the piece being cut
      rename_i h40 h41 hc
      have hopen' := hopen.snoc (b := b) (by rw [depth_other h40 h41]; omega)
        (fun hb => fun hd => hc ⟨hb, hd⟩)
      rw [depth_other h40 h41, Int.add_zero, Int.toNat_natCast] at hopen'
      obtain ⟨rest, hparts, hs⟩ := @ih _ (b :: cur) _ _ (by simpa using hopen') h
      exact ⟨rest, hparts, by simpa using hs⟩

/-- The splitter cuts a text exactly into the pieces it is made of. -/
theorem splitTopLevel_eq_some_iff {s : List UInt8} {parts : List (List UInt8)} :
    splitTopLevel s = some parts ↔ SplitsInto s parts := by
  constructor
  · intro h
    obtain ⟨rest, rfl, hs⟩ := go_sound OpenPiece.nil h
    simpa using hs
  · intro hs
    obtain ⟨p, ps, rfl⟩ := List.exists_cons_of_ne_nil hs.ne_nil
    rw [hs.eq_intercalate, splitTopLevel,
      go_intercalate_top ((hs.pieces p (by simp)).transparent)
        (fun x hx => (hs.pieces x (List.mem_cons_of_mem p hx)).transparent)]
    rfl

/-- The element kinds of a tuple kind: its inside is empty and has none, or splits into them. -/
theorem tupleParts_eq_some_iff {K : List UInt8} {parts : List (List UInt8)} :
    tupleParts K = some parts ↔
      ∃ S, K = tuplePrefix ++ S ++ [41] ∧ (S = [] ∧ parts = [] ∨ S ≠ [] ∧ SplitsInto S parts) := by
  constructor
  · intro h
    refine ⟨[44].intercalate parts, eq_of_tupleParts h, ?_⟩
    rw [eq_of_tupleParts h, tupleParts_tuple] at h
    split at h
    · rename_i hS
      exact .inl ⟨hS, (Option.some.inj h).symm⟩
    · rename_i hS
      exact .inr ⟨hS, splitTopLevel_eq_some_iff.1 h⟩
  · rintro ⟨S, rfl, ⟨rfl, rfl⟩ | ⟨hS, hs⟩⟩
    · rw [tupleParts_tuple, if_pos rfl]
    · rw [tupleParts_tuple, if_neg hS, splitTopLevel_eq_some_iff]
      exact hs

theorem tupleParts_of_splits {K S : List UInt8} (hK : K = tuplePrefix ++ S ++ [41])
    {P : List UInt8 → Prop} (hS : S = [] ∨ ∃ parts, SplitsInto S parts ∧ ∀ p ∈ parts, P p) :
    ∃ parts, tupleParts K = some parts ∧ ∀ p ∈ parts, P p := by
  by_cases hS0 : S = []
  · exact ⟨[], tupleParts_eq_some_iff.2 ⟨S, hK, .inl ⟨hS0, rfl⟩⟩, by simp⟩
  · obtain ⟨parts, hs, hall⟩ := hS.resolve_left hS0
    exact ⟨parts, tupleParts_eq_some_iff.2 ⟨S, hK, .inr ⟨hS0, hs⟩⟩, hall⟩

theorem length_lt_of_tupleParts {K : List UInt8} {parts : List (List UInt8)}
    (h : tupleParts K = some parts) {p : List UInt8} (hp : p ∈ parts) : p.length < K.length := by
  have hle := length_le_intercalate [44] hp
  rw [eq_of_tupleParts h]
  simp only [List.length_append, List.length_singleton]
  omega

/-! ### Results of lists of readings -/

theorem mapM_congr_of_mem {ε α β : Type} {f g : α → Except ε β} :
    ∀ {l : List α}, (∀ x ∈ l, f x = g x) → l.mapM f = l.mapM g
  | [], _ => rfl
  | x :: l, h => by
    rw [List.mapM_cons, List.mapM_cons, h x (by simp),
      mapM_congr_of_mem (fun y hy => h y (List.mem_cons_of_mem x hy))]

theorem mapM_ok_iff {ε α β : Type} {f : α → Except ε β} :
    ∀ {l : List α}, (∃ bs, l.mapM f = .ok bs) ↔ ∀ x ∈ l, ∃ b, f x = .ok b
  | [] => by simp [pure, Except.pure]
  | x :: l => by
    rw [List.mapM_cons]
    cases hx : f x with
    | error e =>
      refine ⟨(fun ⟨bs, h⟩ => by cases h), fun h => ?_⟩
      obtain ⟨b, hb⟩ := h x (by simp)
      rw [hx] at hb
      cases hb
    | ok b =>
      have ih := mapM_ok_iff (f := f) (l := l)
      cases hl : l.mapM f with
      | error e =>
        refine ⟨(fun ⟨bs, h⟩ => by cases h), fun h => ?_⟩
        obtain ⟨bs, hbs⟩ := ih.2 fun y hy => h y (List.mem_cons_of_mem x hy)
        rw [hl] at hbs
        cases hbs
      | ok bs =>
        refine ⟨fun _ y hy => ?_, fun _ => ⟨b :: bs, rfl⟩⟩
        rcases List.mem_cons.1 hy with rfl | hy
        · exact ⟨b, hx⟩
        · exact ih.1 ⟨bs, hl⟩ y hy

/-! ### Reading without fuel -/

theorem ofKindWithin_congr : ∀ {f₁ f₂ : Nat} {K : List UInt8}, K.length < f₁ → K.length < f₂ →
    ofKindWithin f₁ K = ofKindWithin f₂ K := by
  intro f₁
  induction f₁ with
  | zero => intro f₂ K h; omega
  | succ n ih =>
    intro f₂ K h₁ h₂
    obtain ⟨m, rfl⟩ : ∃ m, f₂ = m + 1 := ⟨f₂ - 1, by omega⟩
    rw [ofKindWithin, ofKindWithin]
    split
    · rfl
    · split
      · rename_i parts hparts
        -- each element kind is shorter than the name, so both fuels suffice for it
        rw [mapM_congr_of_mem fun p hp =>
          @ih m p (by have := length_lt_of_tupleParts hparts hp; omega)
            (by have := length_lt_of_tupleParts hparts hp; omega)]
      · rfl

theorem ofKindWithin_eq_ofKind {fuel : Nat} {K : List UInt8} (h : K.length < fuel) :
    ofKindWithin fuel K = ofKind K :=
  ofKindWithin_congr h (Nat.lt_succ_self _)

theorem ofKind_named {K : List UInt8} {a : Acc}
    (h : named.find? (fun n => n.kind.toUTF8.toList == K) = some a) : ofKind K = .ok a := by
  rw [ofKind, ofKindWithin, h]

theorem ofKind_tuple {K : List UInt8} {parts : List (List UInt8)}
    (hn : named.find? (fun n => n.kind.toUTF8.toList == K) = none) (ht : tupleParts K = some parts) :
    ofKind K = (parts.mapM ofKind).map .composed := by
  rw [ofKind, ofKindWithin, hn]
  dsimp only
  rw [ht]
  dsimp only
  rw [mapM_congr_of_mem (f := ofKindWithin K.length) (g := ofKind) fun p hp =>
    ofKindWithin_eq_ofKind (length_lt_of_tupleParts ht hp)]

theorem ofKind_unknown {K : List UInt8}
    (hn : named.find? (fun n => n.kind.toUTF8.toList == K) = none) (ht : tupleParts K = none) :
    ofKind K = .error (unknownKind K) := by
  rw [ofKind, ofKindWithin, hn]
  dsimp only
  rw [ht]

/-! ### Which names are read -/

/-- A name is read exactly when it is a kind known by name, or `composed(` and a parenthesis
around an inside that is empty or splits into pieces that are all read. -/
theorem ofKind_ok_iff (K : List UInt8) :
    (∃ a, ofKind K = .ok a) ↔
      K ∈ named.map (fun n => n.kind.toUTF8.toList) ∨
      ∃ S, K = tuplePrefix ++ S ++ [41] ∧
        (S = [] ∨ ∃ parts, SplitsInto S parts ∧ ∀ p ∈ parts, ∃ a, ofKind p = .ok a) := by
  cases hn : named.find? (fun n => n.kind.toUTF8.toList == K) with
  | some n =>
    have hK : n.kind.toUTF8.toList = K := by simpa using List.find?_some hn
    exact ⟨fun _ => .inl (List.mem_map.2 ⟨n, List.mem_of_find?_eq_some hn, hK⟩),
      fun _ => ⟨n, ofKind_named hn⟩⟩
  | none =>
    have hnot : K ∉ named.map (fun n => n.kind.toUTF8.toList) := by
      intro hK
      obtain ⟨n, hn', rfl⟩ := List.mem_map.1 hK
      rw [find?_named hn'] at hn
      cases hn
    cases ht : tupleParts K with
    | none =>
      rw [ofKind_unknown hn ht]
      refine ⟨(fun ⟨a, h⟩ => by cases h), ?_⟩
      rintro (hK | ⟨S, hK, hS⟩)
      · exact absurd hK hnot
      · obtain ⟨parts, hp, -⟩ := tupleParts_of_splits hK hS
        rw [ht] at hp
        cases hp
    | some parts =>
      rw [ofKind_tuple hn ht]
      have hparts : (∃ a, (parts.mapM ofKind).map Acc.composed = .ok a) ↔
          ∀ p ∈ parts, ∃ a, ofKind p = .ok a := by
        rw [← mapM_ok_iff]
        cases parts.mapM ofKind with
        | error e => exact ⟨(fun ⟨a, h⟩ => by cases h), (fun ⟨bs, h⟩ => by cases h)⟩
        | ok bs => exact ⟨fun _ => ⟨bs, rfl⟩, fun _ => ⟨.composed bs, rfl⟩⟩
      rw [hparts]
      obtain ⟨S, hK, hS⟩ := tupleParts_eq_some_iff.1 ht
      constructor
      · intro hall
        refine .inr ⟨S, hK, ?_⟩
        rcases hS with ⟨hS0, -⟩ | ⟨-, hs⟩
        · exact .inl hS0
        · exact .inr ⟨parts, hs, hall⟩
      · rintro (hK' | ⟨S', hK', hS'⟩)
        · exact absurd hK' hnot
        · obtain ⟨parts', hp, hall⟩ := tupleParts_of_splits hK' hS'
          rw [ht] at hp
          cases hp
          exact hall

/-- What is read is its own identity: every whole number, floating-point number and mean in it
holds the unit of its reduction. -/
theorem identity_of_ofKind {K : List UInt8} {a : Acc} (h : ofKind K = .ok a) : a.identity = a := by
  have hk := ofKind_kind a
  rw [kind_ofKind h, h] at hk
  exact (Except.ok.inj hk).symm

/-- **Kind names read and print alike.** A name is read exactly when it is a kind known by name
or a tuple kind whose inside is empty or splits at its commas outside parentheses into names
that are all read. What is read has the name as its kind and holds the identity everywhere.
The kind of every accumulator is read, into an accumulator of that kind. -/
theorem kind_names_parse_and_print :
    (∀ K : List UInt8, (∃ a, ofKind K = .ok a) ↔
      K ∈ named.map (fun n => n.kind.toUTF8.toList) ∨
      ∃ S, K = tuplePrefix ++ S ++ [41] ∧
        (S = [] ∨ ∃ parts, SplitsInto S parts ∧ ∀ p ∈ parts, ∃ a, ofKind p = .ok a)) ∧
    (∀ (K : List UInt8) (a : Acc), ofKind K = .ok a → a.kind.toUTF8.toList = K ∧ a.identity = a) ∧
    (∀ a : Acc, ∃ b, ofKind a.kind.toUTF8.toList = .ok b ∧ b.kind = a.kind) :=
  ⟨ofKind_ok_iff, fun _ _ h => ⟨kind_ofKind h, identity_of_ofKind h⟩,
    fun a => ⟨a.identity, ofKind_kind a, Acc.kind_identity a⟩⟩

/-- A tuple of a sum, a tuple of a mean and an empty tuple is read from its kind. -/
theorem kind_names_parse_and_print_nested :
    let K := "composed(long.sum,composed(double.mean),composed())".toUTF8.toList
    let a : Acc := .composed [.long ⟨.sum, 0⟩, .composed [.mean Mean.empty], .composed []]
    ofKind K = .ok a ∧ a.kind.toUTF8.toList = K ∧ a.identity = a := by
  intro K a
  have hK : a.kind.toUTF8.toList = K := by decide +kernel
  have h : ofKind K = .ok a := by
    rw [← hK]
    exact ofKind_kind a
  exact ⟨h, kind_names_parse_and_print.2.1 K a h⟩

end Lanes.Accumulator
