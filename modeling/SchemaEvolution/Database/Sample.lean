import SchemaEvolution.Database.Cell

/-!
# Samples

Some entries of an index are kept as samples, so that it can be estimated how many entries there are
between two others.  Entries at regular distances are kept, and those that agree with many others in
their first columns.

The entries are looked at in their order.  Of each it is only known in which column it first differs
from the one before.

* `Sampling.push` looks at a further entry.
* `Sampling.finished` gives the samples once all entries have been looked at.
-/

namespace SchemaEvolution.Database

/-- An entry of an index, with numbers for each of its columns. -/
structure Sample where
  /-- The place of the entry in the index. -/
  entry : Nat := 0
  /-- How many entries agree with it up to the column, itself included; zero if that is not known
  yet. -/
  equal : List Nat
  /-- How many entries stand before those. -/
  less : List Nat
  /-- How many different ones there are among them. -/
  different : List Nat
  /-- The column because of which it is kept. -/
  column : Nat := 0
  /-- It is kept because of its place. -/
  isPeriodic : Bool := false
  /-- What decides between samples that are worth the same. -/
  weight : UInt32 := 0

namespace Sample

/-- The first entry is the only one so far. -/
def first (columns : Nat) : Sample where
  equal := List.replicate columns 1
  less := List.replicate columns 0
  different := List.replicate columns 0

/-- The numbers of the next entry, which differs in a column. -/
def next (s : Sample) (change : Nat) : Sample where
  equal := s.equal.zipIdx.map fun (n, i) => if i < change then n + 1 else 1
  less := (s.less.zip s.equal).zipIdx.map fun ((n, equal), i) => if i < change then n else n + equal
  different := s.different.zipIdx.map fun (n, i) => if i < change then n else n + 1

/-- It is worth more than another one that is kept because of the same column. -/
def isBetterBehind (s old : Sample) : Bool :=
  let pairs := (s.equal.zip old.equal).drop (s.column + 1)
  match pairs.find? fun (a, b) => a != b with
  | some (a, b) => b < a
  | none => old.weight < s.weight

/-- It is worth more than another one. -/
def isBetter (s old : Sample) : Bool :=
  let a := s.equal.getD s.column 0
  let b := old.equal.getD old.column 0
  if a != b then b < a
  else s.column < old.column || s.column = old.column && s.isBetterBehind old

/-- The same sample, kept because of another column in which so many entries agree. -/
def upgraded (s : Sample) (column equal : Nat) : Sample :=
  { s with column := column, equal := s.equal.set column equal }

end Sample

/-- The samples of an index, while its entries are looked at. -/
structure Sampling where
  columns : Nat
  /-- The distance of the entries that are kept because of their place. -/
  period : Nat
  weight : UInt32
  count : Nat := 0
  current : Sample
  /-- The best entry for each column, among those that agree up to the column. -/
  best : List Sample
  samples : List Sample := []
  /-- The place of the sample that is worth the least, if there are as many as there may be. -/
  worst : Nat := 0
  /-- Before this column, samples may agree with entries that are still to come. -/
  unknown : Nat := 0

namespace Sampling

/-- How many samples are kept. -/
def most : Nat := 24

/-- Nothing has been looked at of an index with so many columns and entries. -/
def start (columns entries : Nat) : Sampling where
  columns := columns
  period := entries / (most / 3 + 1) + 1
  weight := 0x689e962d * UInt32.ofNat columns ^^^ 0xd0944565 * UInt32.ofNat entries
  current := .first columns
  best := List.replicate columns (.first columns)

/-- The place of the sample that is worth the least, among those not kept because of their place. -/
def worstOf (samples : List Sample) : Nat :=
  let free := samples.zipIdx.filter fun (s, _) => !s.isPeriodic
  let pick (found : Sample × Nat) (s : Sample × Nat) : Sample × Nat :=
    if found.1.isBetter s.1 then s else found
  match free with
  | [] => 0
  | s :: rest => (rest.foldl pick s).2

/-- The sampling with other samples. -/
def withSamples (p : Sampling) (samples : List Sample) : Sampling :=
  { p with samples := samples
           worst := if most ≤ samples.length then worstOf samples else p.worst }

/-- The sample that agrees with another one up to its column, and is worth the most. -/
def sharing (samples : List Sample) (column : Nat) : Option (Sample × Nat) :=
  let shared := samples.zipIdx.filter fun (s, _) => s.equal.getD column 0 = 0
  shared.reverse.foldl (fun found s =>
    match found with
    | none => some s
    | some best => if s.1.isBetter best.1 then some s else found) none

/-- Keeps a sample of which it is not known yet how many entries agree up to so many columns.  If
one that agrees with it is kept, that one is worth more from now on. -/
def insert (p : Sampling) (s : Sample) (unknown : Nat) : Sampling :=
  let p := { p with unknown := max p.unknown unknown }
  let sharesPeriodic := p.samples.any fun old => old.isPeriodic && old.equal.getD s.column 0 = 0
  if !s.isPeriodic && sharesPeriodic then p
  else match if s.isPeriodic then none else sharing p.samples s.column with
    | some (old, i) =>
      p.withSamples (p.samples.set i (old.upgraded s.column (s.equal.getD s.column 0)))
    | none =>
      let kept := if most ≤ p.samples.length then p.samples.eraseIdx p.worst else p.samples
      let equal := s.equal.zipIdx.map fun (n, i) => if i < unknown then 0 else n
      p.withSamples (kept ++ [{ s with equal := equal }])

/-- Keeps the best entry for a column, if it is worth it. -/
def keepBest (p : Sampling) (column : Nat) : Sampling :=
  match p.best[column]? with
  | none => p
  | some s =>
    let s := { s with equal := s.equal.set column (p.current.equal.getD column 0) }
    let p := { p with best := p.best.set column s }
    let isKept := p.samples.length < most || (p.samples[p.worst]?).any s.isBetter
    if isKept then p.insert s column else p

/-- The sampling once it is known that no further entry agrees with the last one in a column. -/
def close (p : Sampling) (change : Nat) : Sampling :=
  let columns := (List.range (p.columns - 1)).filter (change ≤ ·)
  let p := columns.reverse.foldl keepBest p
  if p.unknown ≤ change then p
  else
    let known (s : Sample) : Sample := { s with
      equal := (s.equal.zip p.current.equal).zipIdx.map fun ((n, now), i) =>
        if change ≤ i && n = 0 then now else n }
    { p with samples := p.samples.map known, unknown := change }

/-- Looks at the next entry, which first differs from the one before in a column. -/
def push (p : Sampling) (change : Nat) : Sampling :=
  let p : Sampling :=
    if p.count = 0 then p else { p.close change with current := p.current.next change }
  let weight := p.weight * 1103515245 + 12345
  let current := { p.current with entry := p.count, weight := weight }
  let p : Sampling := { p with weight := weight, current := current, count := p.count + 1 }
  let before : Nat := current.less.getD (p.columns - 1) 0
  let p : Sampling :=
    if before / p.period = (before + 1) / p.period then p
    else p.insert { current with isPeriodic := true } (p.columns - 1)
  { p with best := p.best.zipIdx.map fun (old, i) =>
      let new := { current with column := i }
      if i < p.columns - 1 && (change ≤ i || new.isBetterBehind old) then new else old }

/-- The samples, where no further entry follows. -/
def finished (p : Sampling) : List Sample :=
  (p.close 0).samples

end Sampling

end SchemaEvolution.Database
