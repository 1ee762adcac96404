import Lanes.Text.CanonicalTables

/-!
Canonical composition of strings: Unicode normalization form C, computed segment by segment.

The text is first scanned for the longest stretch that is already composed: every character
may stand in composed text, combining classes never fall, and no run of non-starters grows past
thirty. When the whole text passes it is returned as it is. Otherwise everything before the
segment where the scan stopped is kept, and from there the text is composed one segment at a
time, each followed by the next stretch that passes the scan.

A segment starts at a character of class zero that cannot join the one before it. Its
characters are decomposed into a buffer, each combining character placed after the last one
whose class is not above its own; a starter met inside a decomposition composes what came
before it first. The buffer is then composed from left to right: a character that may join
the one before it joins the last starter when the pair has a composition and the character
just before it has class zero, the same position as the starter, or a lower class. Pairs are
looked up by the low sixteen bits of each character, so a character beyond the first plane
composes as the character of the first plane with the same low bits. Once a jamo is met the
rest of the buffer composes by the Hangul arithmetic alone.

Non-starters are counted across segments, a character that begins with a starter restarting
the count from its trailing non-starters. The character that would take the count past thirty
ends its segment with a combining grapheme joiner (U+034F) and starts the count again.

Text whose characters all lie below U+0300 is already in this form, since every composition
joins a character from U+0300 up, and is returned as it is.

Main statements: a search of a sorted table only answers with an entry of the key asked for
(`searchSorted_key`), and text below U+0300 is unchanged (`compose_low`).
-/

namespace Lanes.Text

/-- The entry of a table sorted by `key` whose key is `k`, found by halving between `lo` and
`hi`. Only an entry with the key asked for is given back. -/
def searchSorted (t : Array UInt64) (key : UInt64 → Nat) (k : Nat) : Nat → Nat → Nat → Option UInt64
  | 0, _, _ => none
  | fuel + 1, lo, hi =>
    if lo < hi then
      let mid := (lo + hi) / 2
      let x := t.getD mid 0
      if key x = k then some x
      else if key x < k then searchSorted t key k fuel (mid + 1) hi
      else searchSorted t key k fuel lo mid
    else none

/-- The field of 21 bits that starts at bit `shift`. -/
def bitField (x : UInt64) (shift : UInt64) : Nat := ((x >>> shift) &&& 0x1FFFFF).toNat

/-- The class of a combining character, from the runs between `lo` and `hi`; zero for others. -/
def classWithin (c : Nat) : Nat → Nat → Nat → Nat
  | 0, _, _ => 0
  | fuel + 1, lo, hi =>
    if lo < hi then
      let mid := (lo + hi) / 2
      let x := combiningClasses.getD mid 0
      if c < bitField x 29 then classWithin c fuel lo mid
      else if bitField x 8 < c then classWithin c fuel (mid + 1) hi
      else (x &&& 0xFF).toNat
    else 0

/-- The canonical combining class of a character. -/
def combiningClass (c : Nat) : Nat :=
  if c < 0x300 then 0 else classWithin c 64 0 combiningClasses.size

/-! ### Hangul -/

/-- The first Hangul syllable. -/
def syllableBase : Nat := 0xAC00

/-- The first leading jamo. -/
def leadBase : Nat := 0x1100

/-- The first vowel jamo. -/
def vowelBase : Nat := 0x1161

/-- One before the first trailing jamo; it stands for a syllable without one. -/
def trailBase : Nat := 0x11A7

/-- How many leading jamo there are. -/
def leadCount : Nat := 19

/-- How many vowel jamo there are. -/
def vowelCount : Nat := 21

/-- How many trailing jamo there are, counting the absent one. -/
def trailCount : Nat := 28

/-- How many syllables there are. -/
def syllableCount : Nat := leadCount * vowelCount * trailCount

/-- The jamo of a Hangul syllable, or none for another character. -/
def jamo (c : Nat) : Option (List Nat) :=
  if syllableBase ≤ c ∧ c < syllableBase + syllableCount then
    let i := c - syllableBase
    let l := leadBase + i / (vowelCount * trailCount)
    let v := vowelBase + i % (vowelCount * trailCount) / trailCount
    let t := trailBase + i % trailCount
    some (if t = trailBase then [l, v] else [l, v, t])
  else none

/-! ### Decomposing -/

/-- A character's canonical decomposition one level deep, or none when it has none. -/
def decomposeOnce (c : Nat) : Option (List Nat) :=
  match jamo c with
  | some js => some js
  | none =>
    match searchSorted decompositions (fun x => bitField x 42) c 64 0 decompositions.size with
    | some x => some (if bitField x 0 = 0 then [bitField x 21] else [bitField x 21, bitField x 0])
    | none => none

/-- A character's full canonical decomposition; decompositions nest at most three deep, and
`fuel` bounds the depth. -/
def decompose : Nat → Nat → List Nat
  | 0, c => [c]
  | fuel + 1, c =>
    match decomposeOnce c with
    | some cs => cs.flatMap (decompose fuel)
    | none => [c]

/-! ### Character traits -/

/-- Whether a character lies in one of the runs between `lo` and `hi` of a table whose entries
hold the first character of a run in bits 21 to 41 and the last in bits 0 to 20. -/
def inRunsWithin (t : Array UInt64) (c : Nat) : Nat → Nat → Nat → Bool
  | 0, _, _ => false
  | fuel + 1, lo, hi =>
    if lo < hi then
      let mid := (lo + hi) / 2
      let x := t.getD mid 0
      if c < bitField x 21 then inRunsWithin t c fuel lo mid
      else if bitField x 0 < c then inRunsWithin t c fuel (mid + 1) hi
      else true
    else false

/-- Whether a character lies in one of the runs of a table. -/
def inRuns (t : Array UInt64) (c : Nat) : Bool := inRunsWithin t c 64 0 t.size

/-- Whether a character may join the character before it in a composition. -/
def joinsBack (c : Nat) : Bool := inRuns composingSeconds c

/-- The leading and trailing non-starter counts of a character, from the runs between `lo` and
`hi`; zero for the characters the table leaves out. -/
def countsWithin (c : Nat) : Nat → Nat → Nat → Nat × Nat
  | 0, _, _ => (0, 0)
  | fuel + 1, lo, hi =>
    if lo < hi then
      let mid := (lo + hi) / 2
      let x := nonStarterCounts.getD mid 0
      if c < bitField x 29 then countsWithin c fuel lo mid
      else if bitField x 8 < c then countsWithin c fuel (mid + 1) hi
      else (((x >>> 4) &&& 0xF).toNat, (x &&& 0xF).toNat)
    else (0, 0)

/-- How many non-starters begin and end a character's compatibility decomposition, where a
non-starter has a combining class or may join the character before it. A Hangul syllable ends
in its vowel, and in its trailing consonant when it has one, both of which may join. -/
def nonStarterRuns (c : Nat) : Nat × Nat :=
  match jamo c with
  | some js => (0, js.length - 1)
  | none => countsWithin c 64 0 nonStarterCounts.size

/-- What composition needs to know of a character. -/
structure Traits where
  /-- The class of the first character of its decomposition. -/
  leadClass : Nat
  /-- The class of the last character of its decomposition. -/
  trailClass : Nat
  /-- How many non-starters begin it. -/
  leadRun : Nat
  /-- How many non-starters end it. -/
  trailRun : Nat
  /-- Whether it may join the character before it. -/
  joins : Bool
  /-- Whether it may stand in composed text as it is. -/
  settled : Bool

/-- The traits of a character. -/
def traits (c : Nat) : Traits :=
  let d := decompose 8 c
  let (lead, trail) := nonStarterRuns c
  let joins := joinsBack c
  { leadClass := combiningClass (d.headD c), trailClass := combiningClass (d.getLastD c),
    leadRun := lead, trailRun := trail, joins := joins,
    settled := !joins && !inRuns uncomposedRuns c }

/-- Whether a character with these traits starts a segment: it has class zero and cannot join
the character before it. -/
def Traits.startsSegment (t : Traits) : Bool := t.leadClass == 0 && !t.joins

/-! ### Counting non-starters -/

/-- The combining grapheme joiner, which ends a segment whose non-starters run too long. -/
def graphemeJoiner : Nat := 0x34F

/-- What the count of non-starters becomes at a character. -/
inductive Tally where
  /-- The character begins with a starter; the count restarts at its trailing non-starters. -/
  | starter (count : Nat)
  /-- The character continues the run of non-starters. -/
  | more (count : Nat)
  /-- The character would make the run longer than thirty. -/
  | overflow

/-- The count of non-starters after a character, from the count before it. -/
def tally (count : Nat) (t : Traits) : Tally :=
  if count + t.leadRun > 30 then .overflow
  else if t.leadRun = 0 then .starter t.trailRun
  else .more (count + t.leadRun)

/-! ### Composed stretches -/

/-- How far text is already composed, read from position `i`: the whole length and true when
all of it is, else the start of the segment where it stops being so and false. `seg` is the
start of the current segment, `last` the class of the last character and `count` the run of
non-starters; a character below U+0080 starts a segment of its own. -/
def settledSpan : List Nat → Nat → Nat → Nat → Nat → Nat × Bool
  | [], i, _, _, _ => (i, true)
  | c :: rest, i, seg, last, count =>
    if c < 0x80 then settledSpan rest (i + 1) i 0 0
    else
      let t := traits c
      match tally count t with
      | .overflow => (seg, false)
      | .starter n =>
        if t.settled then settledSpan rest (i + 1) i t.leadClass n else (i, false)
      | .more n =>
        if last > t.leadClass || !t.settled then (seg, false)
        else settledSpan rest (i + 1) seg t.leadClass n

/-! ### Composing a buffer -/

/-- Puts a character with its class into a buffer: after the last entry whose class is not
above its own, and at the end when its class is zero. -/
def insertOrdered (buf : List (Nat × Nat)) (c : Nat) : List (Nat × Nat) :=
  let cc := combiningClass c
  if cc = 0 then buf ++ [(c, 0)]
  else
    let (above, rest) := buf.reverse.span (·.2 > cc)
    rest.reverse ++ (c, cc) :: above.reverse

/-- The character a pair composes into, the pair known by the low sixteen bits of each. -/
def composePair (a b : Nat) : Option Nat :=
  match searchSorted compositions (fun x => (x >>> 21).toNat) (a % Nat.pow 2 16 * Nat.pow 2 16 + b % Nat.pow 2 16)
      64 0 compositions.size with
  | some x => some (bitField x 0)
  | none => none

/-- Whether a character lies in the block of the jamo, U+1100 to U+11FF. -/
def inJamoBlock (c : Nat) : Bool := c / 256 == 0x11

/-- Composes the rest of a buffer by the Hangul arithmetic onto `out`, whose entry `s` is the
last starter: a leading jamo and a vowel make a syllable, and a syllable without a trailing
consonant takes one. A character is blocked when the last entry has a class other than zero
that is not below its own and is not the starter. A composed entry has class zero. -/
def hangulRun : List (Nat × Nat) → Array (Nat × Nat) → Nat → Array (Nat × Nat)
  | [], out, _ => out
  | (c, cc) :: rest, out, s =>
    let last := (out.back?.getD (0, 0)).2
    let s := if last = 0 then out.size - 1 else s
    if s ≠ out.size - 1 ∧ last ≥ cc then hangulRun rest (out.push (c, cc)) s
    else
      let l := (out.getD s (0, 0)).1
      if leadBase ≤ l ∧ l < leadBase + leadCount ∧ vowelBase ≤ c ∧ c < vowelBase + vowelCount then
        hangulRun rest
          (out.setIfInBounds s (syllableBase + ((l - leadBase) * vowelCount + (c - vowelBase)) * trailCount, 0)) s
      else if syllableBase ≤ l ∧ l < syllableBase + syllableCount ∧ (l - syllableBase) % trailCount = 0 ∧
          trailBase < c ∧ c < trailBase + trailCount then
        hangulRun rest (out.setIfInBounds s (l + (c - trailBase), 0)) s
      else hangulRun rest (out.push (c, cc)) s

/-- Composes the rest of a buffer onto `out`, whose entry `s` is the last starter. A character
that may join the one before it joins the starter when the pair composes and it is not blocked:
the last entry has a class other than zero that is not below its own and is not the starter.
The starter moves to the last entry whenever that has class zero. -/
def composeRun : List (Nat × Nat) → Array (Nat × Nat) → Nat → Array (Nat × Nat)
  | [], out, _ => out
  | (c, cc) :: rest, out, s =>
    if inJamoBlock c then hangulRun ((c, cc) :: rest) out s
    else if joinsBack c then
      let last := (out.back?.getD (0, 0)).2
      let s := if last = 0 then out.size - 1 else s
      let blocked := last ≠ 0 ∧ s ≠ out.size - 1 ∧ last ≥ cc
      match (if blocked then none else composePair (out.getD s (0, 0)).1 c) with
      | some k => composeRun rest (out.setIfInBounds s (k, 0)) s
      | none => composeRun rest (out.push (c, cc)) s
    else composeRun rest (out.push (c, cc)) s

/-- The characters of a composed buffer. -/
def composeBuffer : List (Nat × Nat) → List Nat
  | [] => []
  | b :: rest => (composeRun rest #[b] 0).toList.map (·.1)

/-! ### Segments -/

/-- Puts the characters of a decomposition into a buffer in turn; a starter that cannot join
the character before it composes and writes what the buffer holds first. Gives what was
written and the buffer. -/
def insertParts : List Nat → List Nat → List (Nat × Nat) → List Nat × List (Nat × Nat)
  | [], out, buf => (out, buf)
  | r :: rs, out, buf =>
    if (traits r).startsSegment && !buf.isEmpty then
      insertParts rs (out ++ composeBuffer buf) (insertOrdered [] r)
    else insertParts rs out (insertOrdered buf r)

/-- Puts a character into a buffer: a Hangul syllable as its jamo, another character as its
decomposition. Gives what was written and the buffer. -/
def insertChar (buf : List (Nat × Nat)) (c : Nat) : List Nat × List (Nat × Nat) :=
  match jamo c with
  | some js => ([], buf ++ js.map (·, 0))
  | none =>
    match decomposeOnce c with
    | some _ => insertParts (decompose 8 c) [] buf
    | none => ([], insertOrdered buf c)

/-- The rest of a segment: its characters go into the buffer up to the next character that
starts a segment, or to the one that would make the run of non-starters too long, which ends
the segment with a grapheme joiner. Gives what was written, what is left and the count. -/
def segmentRest : List Nat → List Nat → List (Nat × Nat) → Nat → List Nat × List Nat × Nat
  | [], out, buf, count => (out ++ composeBuffer buf, [], count)
  | c :: rest, out, buf, count =>
    let t := traits c
    if t.startsSegment then (out ++ composeBuffer buf, c :: rest, count)
    else match tally count t with
      | .overflow => (out ++ composeBuffer (buf ++ [(graphemeJoiner, 0)]), c :: rest, 0)
      | .starter n | .more n =>
        let (written, buf) := insertChar buf c
        segmentRest rest (out ++ written) buf n

/-- One segment composed from the start of text, with the count of non-starters before it:
what it writes, what is left and the count after it. When its first character would make the
run too long, only a grapheme joiner is written and nothing is read. -/
def segment (cs : List Nat) (count : Nat) : List Nat × List Nat × Nat :=
  match cs with
  | [] => ([], [], count)
  | c :: rest =>
    match tally count (traits c) with
    | .overflow => ([graphemeJoiner], cs, 0)
    | .starter n | .more n =>
      let (written, buf) := insertChar [] c
      segmentRest rest written buf n

/-- Composes text segment by segment, each followed by the stretch after it that is already
composed. Each step reads a character or resets the count so that the next one does, so twice
the length is fuel enough. -/
def composeFrom : Nat → List Nat → Nat → List Nat
  | 0, cs, _ => cs
  | _ + 1, [], _ => []
  | fuel + 1, cs, count =>
    let (written, rest, count) := segment cs count
    let kept := (settledSpan rest 0 0 0 0).1
    written ++ rest.take kept ++ composeFrom fuel (rest.drop kept) count

/-- Canonical composition of code points. -/
def composeCodes (cs : List Nat) : List Nat :=
  match settledSpan cs 0 0 0 0 with
  | (_, true) => cs
  | (n, false) => cs.take n ++ composeFrom (2 * cs.length + 2) (cs.drop n) 0

/-- A string in normalization form C. -/
def compose (s : String) : String :=
  if s.toList.all (·.toNat < 0x300) then s
  else String.ofList ((composeCodes (s.toList.map Char.toNat)).map Char.ofNat)

theorem searchSorted_key (t : Array UInt64) (key : UInt64 → Nat) (k : Nat) :
    ∀ fuel lo hi x, searchSorted t key k fuel lo hi = some x → key x = k := by
  intro fuel
  induction fuel with
  | zero => intro lo hi x h; simp [searchSorted] at h
  | succ fuel ih =>
    intro lo hi x h
    unfold searchSorted at h
    split at h
    · simp only at h
      split at h
      · simp only [Option.some.injEq] at h
        subst h
        assumption
      · split at h
        · exact ih _ _ _ h
        · exact ih _ _ _ h
    · simp at h

theorem compose_low (s : String) (h : ∀ c ∈ s.toList, c.toNat < 0x300) : compose s = s := by
  have hall : s.toList.all (·.toNat < 0x300) = true := List.all_eq_true.mpr fun c hc => by
    simpa using h c hc
  simp only [compose, hall, if_true]

end Lanes.Text
