import Lanes.Proofs.Interleaving

/-!
Where line sources draw the line.

A line source reads a text a line at a time: the bytes up to the next line feed, or up to the end
for a last line without one. Its scanner holds at most `maxLine` bytes, the line feed included,
so a line is given exactly when it is shorter than `maxLine` bytes, a carriage return before its
line feed counted. A line of `maxLine` bytes or more fails the read with `tooLong`, and the reader
stays failed. The lines given are numbered from one. A file source reads each of its files so,
numbering the lines of each file from one after the file's path; a line too long fails that read,
and reading goes on with the next file.

The texts are taken apart as `pre ++ line ++ rest`, the bytes before the cursor, the line it is
at and what follows, so each lemma holds wherever in a text the cursor stands.

Main statements: `line_boundary`, and `line_of_max_length_refused` for a line of exactly `maxLine`
bytes.
-/

namespace Lanes.Pipeline

/-! ### Texts as lines -/

/-- A line without the carriage return that may end it. -/
def trimCR (line : List UInt8) : List UInt8 :=
  if line.getLast? = some 13 then line.dropLast else line

/-- A text written as lines: each of `ls` ended by a line feed, then `last`, which has none. -/
def joinLines (ls : List (List UInt8)) (last : List UInt8) : List UInt8 :=
  (ls.map (· ++ [10])).flatten ++ last

/-- The lines such a text is read as: what follows the last line feed is a line when it is not
empty. -/
def lineList (ls : List (List UInt8)) (last : List UInt8) : List (List UInt8) :=
  if last = [] then ls else ls ++ [last]

/-- The records of lines, numbered on from `n`. -/
def numbered (n : Nat) (lines : List (List UInt8)) : List Record :=
  (lines.zipIdx (n + 1)).map fun p => ⟨toString p.2, (trimCR p.1).toByteArray⟩

@[simp] theorem numbered_nil (n : Nat) : numbered n [] = [] := rfl

@[simp] theorem numbered_cons (n : Nat) (l : List UInt8) (ls : List (List UInt8)) :
    numbered n (l :: ls) = ⟨toString (n + 1), (trimCR l).toByteArray⟩ :: numbered (n + 1) ls := by
  simp [numbered, List.zipIdx_cons]

/-- The lines a reader gives: those before the first that is not shorter than `maxLine`. -/
def givenLines (lines : List (List UInt8)) : List (List UInt8) :=
  lines.takeWhile (·.length < maxLine)

@[simp] theorem joinLines_cons (l : List UInt8) (ls : List (List UInt8)) (last : List UInt8) :
    joinLines (l :: ls) last = l ++ 10 :: joinLines ls last := by
  simp [joinLines]

@[simp] theorem joinLines_nil (last : List UInt8) : joinLines [] last = last := rfl

@[simp] theorem lineList_cons (l : List UInt8) (ls : List (List UInt8)) (last : List UInt8) :
    lineList (l :: ls) last = l :: lineList ls last := by
  unfold lineList
  split <;> rfl

/-- A text taken apart at its line feeds: the lines they end, and what follows the last one. -/
def splitLines : List UInt8 → List (List UInt8) × List UInt8
  | [] => ([], [])
  | b :: bs =>
    let (ls, last) := splitLines bs
    if b = 10 then ([] :: ls, last)
    else match ls with
      | [] => ([], b :: last)
      | l :: ls => ((b :: l) :: ls, last)

/-- The lines a text is read as. -/
def linesOf (bs : List UInt8) : List (List UInt8) := lineList (splitLines bs).1 (splitLines bs).2

/-- Taking a text apart at its line feeds and writing it back gives the text, and no piece holds
a line feed. -/
theorem splitLines_spec (bs : List UInt8) :
    (∀ l ∈ (splitLines bs).1, (10 : UInt8) ∉ l) ∧ (10 : UInt8) ∉ (splitLines bs).2 ∧
      joinLines (splitLines bs).1 (splitLines bs).2 = bs := by
  induction bs with
  | nil => exact ⟨by simp [splitLines], by simp [splitLines], rfl⟩
  | cons b bs ih =>
    obtain ⟨hls, hlast, hjoin⟩ := ih
    rcases hsplit : splitLines bs with ⟨ls, last⟩
    rw [hsplit] at hls hlast hjoin
    by_cases hb : b = 10
    · subst hb
      refine ⟨?_, ?_, ?_⟩ <;> simp_all [splitLines]
    · -- the byte joins the first line
      cases ls with
      | nil => refine ⟨?_, ?_, ?_⟩ <;> simp_all [splitLines, Ne.symm hb]
      | cons l ls => refine ⟨?_, ?_, ?_⟩ <;> simp_all [splitLines, Ne.symm hb]

/-! ### Bytes of a text -/

section Bytes

variable {d : ByteArray}

theorem size_eq_length (d : ByteArray) : d.size = d.data.toList.length := by
  rw [Array.length_toList]
  rfl

theorem byte_at {pre rest : List UInt8} {b : UInt8} (h : d.data.toList = pre ++ b :: rest) :
    ∃ hi : pre.length < d.size, d[pre.length] = b := by
  have hi : pre.length < d.size := by rw [size_eq_length, h]; simp
  refine ⟨hi, ?_⟩
  rw [ByteArray.getElem_eq_getElem_data, ← Array.getElem_toList]
  simp [h]

theorem get!_at {pre rest : List UInt8} {b : UInt8} (h : d.data.toList = pre ++ b :: rest) :
    d.get! pre.length = b := by
  obtain ⟨hi, hb⟩ := byte_at h
  cases d with
  | mk bs => exact (getElem!_pos bs pre.length hi).trans hb

theorem extract_at {pre line rest : List UInt8} (h : d.data.toList = pre ++ line ++ rest) :
    d.extract pre.length (pre.length + line.length) = line.toByteArray := by
  ext1
  apply Array.toList_inj.1
  simp [h]

theorem findNewline_line (line : List UInt8) : ∀ (pre rest : List UInt8) (fuel : Nat),
    d.data.toList = pre ++ line ++ 10 :: rest → (10 : UInt8) ∉ line → line.length < fuel →
      findNewline d pre.length fuel = some (pre.length + line.length) := by
  induction line with
  | nil =>
    intro pre rest fuel h _ hfuel
    obtain ⟨f, rfl⟩ : ∃ f, fuel = f + 1 := ⟨fuel - 1, by simp at hfuel; omega⟩
    obtain ⟨hi, hb⟩ := byte_at (show d.data.toList = pre ++ 10 :: rest by simpa using h)
    simp [findNewline, hi, hb]
  | cons b line ih =>
    intro pre rest fuel h hl hfuel
    obtain ⟨f, rfl⟩ : ∃ f, fuel = f + 1 := ⟨fuel - 1, by simp at hfuel; omega⟩
    simp only [List.mem_cons, not_or] at hl
    obtain ⟨hi, hb⟩ := byte_at (show d.data.toList = pre ++ b :: (line ++ 10 :: rest) by simpa using h)
    have hnext := ih (pre ++ [b]) rest f (by simpa using h) hl.2
      (by simp at hfuel; omega)
    simp only [List.length_append, List.length_singleton] at hnext
    simp only [findNewline, hi, dif_pos, hb, Ne.symm hl.1, if_false, hnext, List.length_cons]
    congr 1
    omega

theorem findNewline_last (line : List UInt8) : ∀ (pre : List UInt8) (fuel : Nat),
    d.data.toList = pre ++ line → (10 : UInt8) ∉ line → findNewline d pre.length fuel = none := by
  induction line with
  | nil =>
    intro pre fuel h _
    have hsize : ¬ pre.length < d.size := by rw [size_eq_length, h]; simp
    cases fuel <;> simp [findNewline, hsize]
  | cons b line ih =>
    intro pre fuel h hl
    simp only [List.mem_cons, not_or] at hl
    obtain ⟨hi, hb⟩ := byte_at (show d.data.toList = pre ++ b :: line by simpa using h)
    cases fuel with
    | zero => rfl
    | succ f =>
      have hnext := ih (pre ++ [b]) f (by simpa using h) hl.2
      simp only [List.length_append, List.length_singleton] at hnext
      simp only [findNewline, hi, dif_pos, hb, Ne.symm hl.1, if_false, hnext]

theorem trimmed_at {pre line rest : List UInt8} (h : d.data.toList = pre ++ line ++ rest) :
    (if pre.length + line.length > pre.length ∧ d.get! (pre.length + line.length - 1) = 13 then
        d.extract pre.length (pre.length + line.length - 1)
      else d.extract pre.length (pre.length + line.length)) = (trimCR line).toByteArray := by
  rcases List.eq_nil_or_concat line with rfl | ⟨init, x, rfl⟩
  · simp [trimCR]
  · rw [List.concat_eq_append] at h ⊢
    have hx : d.get! (pre.length + (init ++ [x]).length - 1) = x := by
      rw [show pre.length + (init ++ [x]).length - 1 = (pre ++ init).length by simp]
      exact get!_at (show d.data.toList = (pre ++ init) ++ x :: rest by simpa using h)
    have hinit := extract_at (show d.data.toList = pre ++ init ++ x :: rest by simpa using h)
    have hfull := extract_at h
    by_cases h13 : x = 13
    · subst h13
      have hlen : pre.length + (init ++ [(13 : UInt8)]).length - 1 = pre.length + init.length := by
        simp
      rw [if_pos ⟨by simp, hx⟩, hlen, hinit]
      simp [trimCR]
    · rw [if_neg (fun hc => h13 (hx ▸ hc.2)), hfull]
      simp [trimCR, h13]

end Bytes

/-! ### One line -/

section Scan

variable {d : ByteArray} {pre line rest : List UInt8}

theorem scanLine_line (h : d.data.toList = pre ++ line ++ 10 :: rest) (hl : (10 : UInt8) ∉ line) :
    scanLine d pre.length = some (if maxLine ≤ line.length then .error tooLong
      else .ok ((trimCR line).toByteArray, pre.length + line.length + 1)) := by
  have hsize : d.size = pre.length + line.length + 1 + rest.length := by
    rw [size_eq_length, h]; simp; omega
  have hfind := findNewline_line line pre rest (d.size - pre.length) h hl (by omega)
  have htrim := trimmed_at h
  simp only [scanLine, show ¬ pre.length ≥ d.size by omega, if_false, hfind]
  by_cases hlong : maxLine ≤ line.length
  · rw [if_pos (by omega), if_pos hlong]
  · rw [if_neg (by omega), if_neg hlong, htrim]

theorem scanLine_last (h : d.data.toList = pre ++ line) (hl : (10 : UInt8) ∉ line)
    (hne : line ≠ []) :
    scanLine d pre.length = some (if maxLine ≤ line.length then .error tooLong
      else .ok ((trimCR line).toByteArray, d.size)) := by
  have hsize : d.size = pre.length + line.length := by rw [size_eq_length, h]; simp
  have hpos : 0 < line.length := List.length_pos_iff.2 hne
  have hfind := findNewline_last line pre (d.size - pre.length) h hl
  have htrim := trimmed_at (show d.data.toList = pre ++ line ++ [] by simpa using h)
  simp only [scanLine, show ¬ pre.length ≥ d.size by omega, if_false, hfind]
  by_cases hlong : maxLine ≤ line.length
  · rw [if_pos (by omega), if_pos hlong]
  · rw [← hsize] at htrim
    rw [if_neg (by omega), if_neg hlong, htrim]

theorem scanLine_end {pos : Nat} (h : d.size ≤ pos) : scanLine d pos = none := by
  simp [scanLine, h]

end Scan

/-! ### Reading lines -/

namespace LineCursor

variable {c : LineCursor} {pre line rest : List UInt8}

theorem read_broken {f : Fault} (hb : c.broken = some f) : c.read = (.failed f, c) := by
  simp [read, hb]

theorem read_end (hb : c.broken = none) (h : c.data.size ≤ c.pos) : c.read = (.done, c) := by
  simp [read, hb, scanLine_end h]

/-- **The line boundary.** The next line, ended by a line feed, is given as the next record
exactly when it is shorter than `maxLine`; otherwise the read fails and the cursor breaks. -/
theorem read_line (hb : c.broken = none) (h : c.data.data.toList = pre ++ line ++ 10 :: rest)
    (hp : c.pos = pre.length) (hl : (10 : UInt8) ∉ line) :
    c.read = if maxLine ≤ line.length then (.failed tooLong, { c with broken := some tooLong })
      else (.record ⟨toString (c.line + 1), (trimCR line).toByteArray⟩,
        { c with pos := c.pos + line.length + 1, line := c.line + 1 }) := by
  by_cases hlong : maxLine ≤ line.length <;> simp [read, hb, hp, scanLine_line h hl, hlong]

/-- The same boundary for a last line without a line feed. -/
theorem read_last (hb : c.broken = none) (h : c.data.data.toList = pre ++ line)
    (hp : c.pos = pre.length) (hl : (10 : UInt8) ∉ line) (hne : line ≠ []) :
    c.read = if maxLine ≤ line.length then (.failed tooLong, { c with broken := some tooLong })
      else (.record ⟨toString (c.line + 1), (trimCR line).toByteArray⟩,
        { c with pos := c.data.size, line := c.line + 1 }) := by
  by_cases hlong : maxLine ≤ line.length <;> simp [read, hb, hp, scanLine_last h hl hne, hlong]

end LineCursor

/-! ### Reads, taken apart -/

namespace Reads

theorem append {r r' r'' : Reader} {xs ys : List Read} (h₁ : Reads r xs r') (h₂ : Reads r' ys r'') :
    Reads r (xs ++ ys) r'' := by
  induction h₂ with
  | nil => simpa using h₁
  | snoc _ hy ih =>
    rw [← List.append_assoc]
    exact .snoc ih hy

theorem eq_of_nil {r r' : Reader} (h : Reads r [] r') : r' = r := by
  generalize hxs : ([] : List Read) = xs at h
  cases h with
  | nil => rfl
  | snoc _ _ => simp at hxs

theorem snoc_inv {r r'' : Reader} {xs : List Read} {x : Read} (h : Reads r (xs ++ [x]) r'') :
    ∃ r', Reads r xs r' ∧ r'.read = (x, r'') := by
  generalize hys : xs ++ [x] = ys at h
  cases h with
  | nil => simp at hys
  | snoc h' hx =>
    obtain ⟨rfl, hx'⟩ := List.append_inj' hys (by simp)
    cases hx'
    exact ⟨_, h', hx⟩

theorem cons_inv {r r'' : Reader} {x : Read} {xs : List Read} (h : Reads r (x :: xs) r'') :
    ∃ r', r.read = (x, r') ∧ Reads r' xs r'' := by
  induction xs using List.reverseRecOn generalizing r'' with
  | nil =>
    obtain ⟨r', h₀, hx⟩ := snoc_inv (show Reads r ([] ++ [x]) r'' by simpa using h)
    rw [eq_of_nil h₀] at hx
    exact ⟨r'', hx, .nil _⟩
  | append_singleton xs y ih =>
    obtain ⟨r', hxs, hy⟩ := snoc_inv (show Reads r ((x :: xs) ++ [y]) r'' by simpa using h)
    obtain ⟨r₁, hx, hrest⟩ := ih hxs
    exact ⟨r₁, hx, .snoc hrest hy⟩

theorem of_read_eq {r₁ r₂ r'' : Reader} (he : r₁.read = r₂.read) {xs : List Read} (hne : xs ≠ [])
    (h : Reads r₂ xs r'') : Reads r₁ xs r'' := by
  obtain ⟨x, xs, rfl⟩ := List.exists_cons_of_ne_nil hne
  obtain ⟨r', hr, hrest⟩ := h.cons_inv
  exact .cons (he.trans hr) hrest

end Reads

/-! ### Reading a text -/

theorem givenLines_cons_short {l : List UInt8} (hl : l.length < maxLine) (ls : List (List UInt8)) :
    givenLines (l :: ls) = l :: givenLines ls := by
  simp [givenLines, hl]

theorem givenLines_cons_long {l : List UInt8} (hl : maxLine ≤ l.length) (ls : List (List UInt8)) :
    givenLines (l :: ls) = [] := by
  simp [givenLines, Nat.not_lt.2 hl]

theorem read_lines (c : LineCursor) : (Reader.lines c).read = (c.read.1, .lines c.read.2) := rfl

/-- **Reading a text from a cursor.** From a cursor at the start of a line, the reads give the
lines shorter than `maxLine`, up to the first that is not, numbered on from the cursor's count.
The cursor is then at the end of the text, where it reads the end, or at the line too long, where
it fails and breaks. -/
theorem cursor_reads (last : List UInt8) (hlast : (10 : UInt8) ∉ last) (ls : List (List UInt8)) :
    ∀ (c : LineCursor) (pre : List UInt8), (∀ l ∈ ls, (10 : UInt8) ∉ l) →
      c.broken = none → c.data.data.toList = pre ++ joinLines ls last → c.pos = pre.length →
      ∃ c', Reads (.lines c) ((numbered c.line (givenLines (lineList ls last))).map .record)
          (.lines c') ∧
        (givenLines (lineList ls last) = lineList ls last → c'.read = (.done, c')) ∧
        (givenLines (lineList ls last) ≠ lineList ls last →
          c'.read = (.failed tooLong, { c' with broken := some tooLong })) := by
  induction ls with
  | nil =>
    intro c pre _ hb hd hp
    rw [joinLines_nil] at hd
    have hsize : c.data.size = pre.length + last.length := by rw [size_eq_length, hd]; simp
    by_cases hl0 : last = []
    · -- nothing follows the last line feed: the text ends here
      subst hl0
      have hend := LineCursor.read_end hb (by simp at hsize; omega)
      exact ⟨c, .nil _, fun _ => hend, fun hne => absurd rfl hne⟩
    · have hread := LineCursor.read_last hb (by simpa using hd) hp hlast hl0
      simp only [lineList, hl0, if_false, List.nil_append]
      by_cases hlong : maxLine ≤ last.length
      · rw [givenLines_cons_long hlong]
        rw [if_pos hlong] at hread
        exact ⟨c, .nil _, fun h => absurd h (by simp), fun _ => hread⟩
      · -- the last line is given, and the text ends after it
        rw [if_neg hlong] at hread
        rw [givenLines_cons_short (Nat.not_le.1 hlong), givenLines]
        refine ⟨_, .cons (by rw [read_lines, hread]) (.nil _), fun _ => ?_, fun h => absurd rfl h⟩
        exact LineCursor.read_end hb (by simp)
  | cons l ls ih =>
    intro c pre hls hb hd hp
    simp only [List.mem_cons, forall_eq_or_imp] at hls
    rw [joinLines_cons, ← List.append_assoc] at hd
    have hread := LineCursor.read_line hb hd hp hls.1
    rw [lineList_cons]
    by_cases hlong : maxLine ≤ l.length
    · rw [givenLines_cons_long hlong]
      rw [if_pos hlong] at hread
      exact ⟨c, .nil _, fun h => absurd h (by simp), fun _ => hread⟩
    · -- the line is given, and reading goes on from the next one
      rw [if_neg hlong] at hread
      rw [givenLines_cons_short (Nat.not_le.1 hlong)]
      obtain ⟨c', hreads, hdone, hfail⟩ :=
        ih { c with pos := c.pos + l.length + 1, line := c.line + 1 } (pre ++ l ++ [10]) hls.2 hb
          (by simpa using hd) (by simp [hp]; omega)
      refine ⟨c', .cons (by rw [read_lines, hread]) hreads, fun h => hdone (by simpa using h),
        fun h => hfail (by simpa using h)⟩

/-- A reader reads `xs`, then `x`, and `x` again at every read after. -/
def ReadsThen (r : Reader) (xs : List Read) (x : Read) : Prop :=
  ∃ r', Reads r (xs ++ [x]) r' ∧ r'.read = (x, r')

/-- A text's lines, read by a line source: those shorter than `maxLine`, up to the first that is
not, numbered from one; then the end, or a failure that every later read repeats. -/
theorem text_reads (d : ByteArray) :
    let lines := linesOf d.data.toList
    ReadsThen (Reader.ofText d) ((numbered 0 (givenLines lines)).map .record)
      (if givenLines lines = lines then .done else .failed tooLong) := by
  intro lines
  obtain ⟨hls, hlast, hjoin⟩ := splitLines_spec d.data.toList
  obtain ⟨c', hreads, hdone, hfail⟩ := cursor_reads _ hlast _ ⟨d, 0, 0, none⟩ [] hls rfl
    (by simp [hjoin]) rfl
  by_cases hall : givenLines lines = lines
  · rw [if_pos hall]
    have hend : (Reader.lines c').read = (.done, .lines c') := by rw [read_lines, hdone hall]
    exact ⟨_, .snoc hreads hend, hend⟩
  · -- the cursor breaks at the line too long, and stays broken
    rw [if_neg hall]
    refine ⟨_, .snoc hreads (by rw [read_lines, hfail hall]), ?_⟩
    rw [read_lines, LineCursor.read_broken rfl]

/-! ### Reading files -/

section Files

variable {v : Volume}

theorem readFiles_open {p : String} {ps : List String} {d : ByteArray}
    (hd : resolve v p = .ok (.file d)) :
    readFiles v none (p :: ps) = readFiles v (some (p, ⟨d, 0, 0, none⟩)) ps := by
  conv_lhs => rw [readFiles]
  simp [hd]

theorem readFiles_closed {p : String} {ps : List String} (hp : fileOf v p = none) :
    ∃ f, readFiles v none (p :: ps) = (.failed f, .files none (p :: ps) v) := by
  unfold fileOf at hp
  rw [readFiles]
  split <;> rename_i heq <;> simp [heq] at hp ⊢

theorem readFiles_record {name : String} {rest : List String} {c c' : LineCursor} {r : Record}
    (hc : c.read = (.record r, c')) :
    readFiles v (some (name, c)) rest =
      (.record { r with id := name ++ ":" ++ r.id }, .files (some (name, c')) rest v) := by
  rw [readFiles]
  simp [hc]

theorem readFiles_failed {name : String} {rest : List String} {c c' : LineCursor} {f : Fault}
    (hc : c.read = (.failed f, c')) : readFiles v (some (name, c)) rest = (.failed f, .files none rest v) := by
  rw [readFiles]
  simp [hc]

theorem readFiles_done {name : String} {rest : List String} {c c' : LineCursor}
    (hc : c.read = (.done, c')) : readFiles v (some (name, c)) rest = readFiles v none rest := by
  rw [readFiles]
  simp [hc]

/-- The record of a line of a file, named after the file's path. -/
def Record.inFile (p : String) (r : Record) : Record := { r with id := p ++ ":" ++ r.id }

/-- While a file is open, a file source reads it as a line source would, naming each record after
the file's path. -/
theorem reads_files_of_lines (p : String) (ps : List String) {c : LineCursor} {xs : List Read}
    {r' : Reader} (h : Reads (.lines c) xs r') :
    ∀ recs : List Record, xs = recs.map .record →
      ∃ c', r' = .lines c' ∧
        Reads (.files (some (p, c)) ps v) ((recs.map (Record.inFile p)).map .record) (.files (some (p, c')) ps v) := by
  induction h with
  | nil =>
    intro recs hrecs
    obtain rfl : recs = [] := by simpa using hrecs.symm
    exact ⟨c, rfl, .nil _⟩
  | snoc _ hx ih =>
    intro recs hrecs
    obtain ⟨recs₁, recs₂, rfl, h₁, h₂⟩ := List.map_eq_append_iff.1 hrecs.symm
    obtain ⟨rec, rfl, rfl⟩ : ∃ rec, recs₂ = [rec] ∧ _ = Read.record rec := by
      rcases recs₂ with _ | ⟨rec, _ | ⟨_, _⟩⟩ <;> simp at h₂
      exact ⟨rec, rfl, h₂.symm⟩
    obtain ⟨c₁, rfl, hfiles⟩ := ih recs₁ h₁.symm
    -- the cursor's next read is the record, and the file source names it after the path
    rcases hc : c₁.read with ⟨x₁, c₂⟩
    rw [read_lines, hc] at hx
    obtain ⟨rfl, rfl⟩ := Prod.mk.inj hx
    exact ⟨c₂, rfl, by simpa using Reads.snoc hfiles (by
      show readFiles v (some (p, c₁)) ps = _
      rw [readFiles_record hc]
      rfl)⟩

/-- What a file source reads of one file: the given lines as records named after the path,
numbered from one, then a failure if a line was too long. -/
def fileReads (p : String) (lines : List (List UInt8)) : List Read :=
  ((numbered 0 (givenLines lines)).map (Record.inFile p)).map .record ++
    (if givenLines lines = lines then [] else [.failed tooLong])

theorem reads_file_then {p : String} {ps : List String} {d : ByteArray} {R : List Read}
    {r : Reader} (hR : Reads (.files none ps v) R r) (hne : R ≠ []) :
    Reads (.files (some (p, ⟨d, 0, 0, none⟩)) ps v) (fileReads p (linesOf d.data.toList) ++ R) r := by
  obtain ⟨hls, hlast, hjoin⟩ := splitLines_spec d.data.toList
  obtain ⟨c', hreads, hdone, hfail⟩ := cursor_reads _ hlast _ ⟨d, 0, 0, none⟩ [] hls rfl
    (by simp [hjoin]) rfl
  obtain ⟨c'', hc'', hlift⟩ := reads_files_of_lines p ps hreads _ rfl
  cases hc''
  unfold fileReads
  rw [List.append_assoc]
  refine hlift.append ?_
  by_cases hall : givenLines (linesOf d.data.toList) = linesOf d.data.toList
  · -- at the end of the file, the same read goes on with the next file
    rw [if_pos hall, List.nil_append]
    have hnext : (Reader.files (some (p, c')) ps v).read = (Reader.files none ps v).read :=
      readFiles_done (hdone hall)
    exact Reads.of_read_eq hnext hne hR
  · rw [if_neg hall]
    exact Reads.cons (readFiles_failed (hfail hall)) hR

/-- The paths of a list up to the first that names no file. -/
def givenFiles (v : Volume) (paths : List String) : List String :=
  paths.takeWhile fun p => (fileOf v p).isSome

/-- **Reading files.** A file source reads each of its paths in turn, as long as they name files:
each file as a line source reads its text, its records named after the file's path and numbered
from one again; a line too long fails that read, and reading goes on with the next file. After
the last file it ends; at a path that names no file, it fails, at every read from then on. -/
theorem files_reads (v : Volume) (paths : List String) :
    ∃ x, ReadsThen (.files none paths v) ((givenFiles v paths).flatMap fun p =>
        fileReads p (linesOf ((fileOf v p).getD .empty).data.toList)) x ∧
      (givenFiles v paths = paths → x = .done) ∧ (givenFiles v paths ≠ paths → ∃ f, x = .failed f) := by
  induction paths with
  | nil =>
    have hend : (Reader.files none [] v).read = (.done, .files none [] v) := by
      show readFiles v none [] = _
      rw [readFiles]
    exact ⟨.done, ⟨_, .snoc (.nil _) hend, hend⟩, fun _ => rfl, fun h => absurd rfl h⟩
  | cons p ps ih =>
    cases hf : fileOf v p with
    | none =>
      obtain ⟨f, hclosed⟩ : ∃ f, readFiles v none (p :: ps) = (.failed f, .files none (p :: ps) v) :=
        readFiles_closed hf
      have hgiven : givenFiles v (p :: ps) = [] := by simp [givenFiles, hf]
      rw [hgiven]
      exact ⟨.failed f, ⟨_, .snoc (.nil _) hclosed, hclosed⟩, fun h => absurd h (by simp),
        fun _ => ⟨f, rfl⟩⟩
    | some d =>
      -- the file opens at the first read, and its reads come before the rest's
      have hgiven : givenFiles v (p :: ps) = p :: givenFiles v ps := by simp [givenFiles, hf]
      obtain ⟨x, ⟨r, hrest, hx⟩, hdone, hfail⟩ := ih
      refine ⟨x, ⟨r, ?_, hx⟩, fun h => hdone (by simpa [hgiven] using h),
        fun h => hfail (by simpa [hgiven] using h)⟩
      rw [hgiven, List.flatMap_cons, hf, Option.getD_some, List.append_assoc]
      have hopen : (Reader.files none (p :: ps) v).read =
          (Reader.files (some (p, ⟨d, 0, 0, none⟩)) ps v).read :=
        readFiles_open (fileOf_resolve v p d hf)
      exact Reads.of_read_eq hopen (by simp) (reads_file_then hrest (by simp))

end Files

theorem fileSource_given {v : Volume} {paths : List String} {src : Reader}
    (h : fileSource v paths = .ok src) : src = .files none paths v ∧ givenFiles v paths = paths := by
  unfold fileSource at h
  split at h
  · cases h
  · split at h
    · cases h
    · rename_i hnone
      cases h
      refine ⟨rfl, List.takeWhile_eq_self_iff.2 fun p hp => ?_⟩
      have hstat : statFault v p = none := List.findSome?_eq_none_iff.1 hnone p hp
      unfold statFault at hstat
      split at hstat
      · simp [fileOf, *]
      · cases hstat
      · cases hstat

/-! ### The boundary -/

/-- **The line boundary.** A line source gives each line of its text that is shorter than
`maxLine` bytes, a carriage return before its line feed counted, as a record numbered from one,
up to the first line that is not; that line fails the read with `tooLong`, and so does every
read after it. A file source reads each of its files so, naming each record after the file's path
and numbering from one in every file; a line too long fails that read, and reading goes on with
the next file. -/
theorem line_boundary (d : ByteArray) (v : Volume) (paths : List String) :
    (let lines := linesOf d.data.toList;
      ReadsThen (Reader.ofText d) ((numbered 0 (givenLines lines)).map .record)
        (if givenLines lines = lines then .done else .failed tooLong)) ∧
    (∃ x, ReadsThen (.files none paths v)
        ((givenFiles v paths).flatMap fun p =>
          fileReads p (linesOf ((fileOf v p).getD .empty).data.toList)) x ∧
      (givenFiles v paths = paths → x = .done) ∧ (givenFiles v paths ≠ paths → ∃ f, x = .failed f)) :=
  ⟨text_reads d, files_reads v paths⟩

/-- A line of exactly `maxLine` bytes is not given: its read fails. -/
theorem line_of_max_length_refused :
    (Reader.ofText (List.replicate maxLine 97).toByteArray).read.1 = .failed tooLong := by
  -- the line stays abstract, so that nothing unfolds its sixteen million bytes
  generalize hbs : List.replicate maxLine (97 : UInt8) = bs
  have hlen : bs.length = maxLine := by rw [← hbs, List.length_replicate]
  have hne : bs ≠ [] := by
    rintro rfl
    simp [maxLine] at hlen
  have hl : (10 : UInt8) ∉ bs := by
    rw [← hbs, List.mem_replicate]
    decide
  have hd : (⟨bs.toByteArray, 0, 0, none⟩ : LineCursor).data.data.toList = [] ++ bs := by simp
  have hread := LineCursor.read_last (by rfl) hd (by rfl) hl hne
  rw [if_pos hlen.ge] at hread
  rw [Reader.ofText, read_lines, hread]

end Lanes.Pipeline
