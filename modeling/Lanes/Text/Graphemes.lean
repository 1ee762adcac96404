import Lanes.Text.GraphemeTables

/-!
Grapheme clusters: the runs of characters a reader sees as one, such as a letter with its
accents, a Hangul syllable spelled in jamo, a flag or an emoji joined from several.

Each character has a class, and a cluster is the longest run of characters, from where it
starts, that fits one of these shapes:

* a carriage return and a line feed;
* a control character alone (the replacement character U+FFFD counts as one);
* Hangul jamo in the order lead, vowel, trail, then an extension;
* a pictograph, then an extension;
* joiners, followed by joiners and extending marks;
* one or two regional indicators, then an extension;
* prepended marks, then any of the shapes above but the first two;
* any other character, followed by extending marks and joiners.

An extension is extending marks and joiners, where a joiner may bring one pictograph with it.
A character that fits no shape, such as a lone line feed, is a cluster of its own. Taking the
longest run reads the characters one by one: every state the reading passes through ends a
shape, so the run ends at the first character the state refuses (`ClusterState.next`).

Main statement: a text has no more clusters than characters (`countFrom_le`).
-/

namespace Lanes.Text

/-- The class of a character in telling clusters apart. -/
inductive Grapheme where
  | other
  | control
  | carriageReturn
  | extend
  | joiner
  | prepend
  | regional
  | lead
  | vowel
  | trail
  /-- A Hangul syllable of a lead and a vowel. -/
  | syllableLV
  /-- A Hangul syllable of a lead, a vowel and a trail. -/
  | syllableLVT
  | pictograph
deriving DecidableEq, Repr, Inhabited

/-- The class a run of the table names. -/
def Grapheme.ofCode : Nat → Grapheme
  | 1 => .control
  | 2 => .extend
  | 3 => .joiner
  | 4 => .prepend
  | 5 => .regional
  | 6 => .lead
  | 7 => .vowel
  | 8 => .trail
  | 9 => .pictograph
  | _ => .other

/-- The class of a character from the runs between `lo` and `hi`. -/
def graphemeWithin (c : Nat) : Nat → Nat → Nat → Grapheme
  | 0, _, _ => .other
  | fuel + 1, lo, hi =>
    if lo < hi then
      let mid := (lo + hi) / 2
      let x := graphemeRuns.getD mid 0
      if c < ((x >>> 29) &&& 0x1FFFFF).toNat then graphemeWithin c fuel lo mid
      else if ((x >>> 8) &&& 0x1FFFFF).toNat < c then graphemeWithin c fuel (mid + 1) hi
      else Grapheme.ofCode (x &&& 0xFF).toNat
    else .other

/-- The class of a character. Printable ASCII is of no class, the carriage return has a class of
its own, and Hangul syllables are told apart by whether they have a trail. -/
def graphemeOf (c : Nat) : Grapheme :=
  if 0x20 ≤ c ∧ c < 0x7F then .other
  else if c = 0x0D then .carriageReturn
  else if 0xAC00 ≤ c ∧ c ≤ 0xD7A3 then
    if (c - 0xAC00) % 28 = 0 then .syllableLV else .syllableLVT
  else graphemeWithin c 64 0 graphemeRuns.size

/-- Where a cluster stands after its characters so far, which decides what may follow. -/
inductive ClusterState where
  /-- Nothing may follow. -/
  | closed
  /-- A carriage return, which a line feed may follow. -/
  | carriage
  /-- A character of no other shape, followed by marks and joiners. -/
  | plain
  /-- Joiners, followed by joiners and marks. -/
  | joiners
  /-- An extension; when it ends with a joiner, a pictograph may follow. -/
  | extension (afterJoiner : Bool)
  /-- One regional indicator, which a second may follow. -/
  | halfFlag
  /-- Prepended marks, which any shape but a control character may follow. -/
  | prepended
  /-- Leading jamo. -/
  | leads
  /-- Leading jamo and a syllable of lead and vowel, which only vowels may extend. -/
  | leadsSyllable
  /-- Vowel jamo, or a syllable of lead and vowel. -/
  | vowels
  /-- Trailing jamo, or a syllable of lead, vowel and trail. -/
  | trails
deriving DecidableEq, Repr, Inhabited

namespace ClusterState

/-- The state after a cluster's first character. -/
def start : Grapheme → ClusterState
  | .control => .closed
  | .carriageReturn => .carriage
  | .joiner => .joiners
  | .prepend => .prepended
  | .regional => .halfFlag
  | .lead => .leads
  | .vowel | .syllableLV => .vowels
  | .trail | .syllableLVT => .trails
  | .pictograph => .extension false
  | .other | .extend => .plain

/-- The extension a mark or a joiner goes on with, if the character is one. -/
def extend? : Grapheme → Option ClusterState
  | .extend => some (.extension false)
  | .joiner => some (.extension true)
  | _ => none

/-- The state after a character of class `g` goes on with the cluster, or none when it starts
the next one. -/
def next : ClusterState → Grapheme → Option ClusterState
  | .closed, _ => none
  | .carriage, _ => none
  | .plain, g => if g = .extend || g = .joiner then some .plain else none
  | .joiners, g => if g = .extend || g = .joiner then some .joiners else none
  | .extension z, g => if z && g = .pictograph then some (.extension false) else extend? g
  | .halfFlag, g => if g = .regional then some (.extension false) else extend? g
  | .prepended, g =>
    if g = .prepend then some .prepended
    else if g = .control || g = .carriageReturn then none
    else some (start g)
  | .leads, g =>
    match g with
    | .lead => some .leads
    | .vowel => some .vowels
    | .syllableLV => some .leadsSyllable
    | .syllableLVT => some .trails
    | g => extend? g
  | .leadsSyllable, g => if g = .vowel then some .vowels else extend? g
  | .vowels, g =>
    if g = .vowel then some .vowels else if g = .trail then some .trails else extend? g
  | .trails, g => if g = .trail then some .trails else extend? g

end ClusterState

/-- Whether a character starts a new cluster, and the state after it, given the state before
it, if any. -/
def ClusterState.after (s : Option ClusterState) (g : Grapheme) : Bool × ClusterState :=
  match s with
  | some s =>
    match s.next g with
    | some s' => (false, s')
    | none => (true, start g)
  | none => (true, start g)

/-- How many clusters characters start, given the state before them. -/
def countFrom (s : Option ClusterState) : List Nat → Nat
  | [] => 0
  | c :: rest =>
    let (fresh, s') := ClusterState.after s (graphemeOf c)
    countFrom (some s') rest + (if fresh then 1 else 0)

/-- How many of the characters make up their first `left` clusters, given the state before them;
a carriage return and a line feed together are one cluster. -/
def prefixFrom (s : Option ClusterState) (left : Nat) : List Nat → Nat
  | [] => 0
  | c :: rest =>
    if s = some .carriage && c = 0x0A then 1 + prefixFrom (some .closed) left rest
    else
      let (fresh, s') := ClusterState.after s (graphemeOf c)
      if fresh then
        if left = 0 then 0 else 1 + prefixFrom (some s') (left - 1) rest
      else 1 + prefixFrom (some s') left rest

/-- How many of the characters make up their first `n` clusters. -/
def clusterPrefix (n : Nat) (cs : List Nat) : Nat := prefixFrom none n cs

theorem countFrom_le (cs : List Nat) : ∀ s, countFrom s cs ≤ cs.length := by
  induction cs with
  | nil => intro s; simp [countFrom]
  | cons c rest ih =>
    intro s
    simp only [countFrom, List.length_cons]
    have := ih (some (ClusterState.after s (graphemeOf c)).2)
    split <;> omega

end Lanes.Text
