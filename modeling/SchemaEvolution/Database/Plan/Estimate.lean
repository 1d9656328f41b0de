import SchemaEvolution.Database.Store

/-!
# Estimates

How many rows there are, and how much work it is to look at them, is estimated before anything is
looked at.  Estimates are small: only about ten times the logarithm to the base two is kept.

* `estimate` and `Estimate.plus` make such logarithms, and add what they stand for.
* `columnWidth` and `rowWidth` estimate how long rows are.
* `indexRows` estimates how many rows agree in the first terms of an index.
-/

namespace SchemaEvolution.Database.Plan

/-- Ten times the logarithm of a number to the base two, about. -/
abbrev Estimate := Int

/-- The estimate of a number. -/
def estimate (n : Nat) : Estimate :=
  if n < 2 then 0
  else
    let whole := n.log2
    let part := [0, 2, 3, 5, 6, 7, 8, 9].getD (n * 8 / twoTo whole % 8) 0
    10 * whole + part

namespace Estimate

/-- What is to be added to the greater of two estimates, by their distance. -/
def surplus (distance : Nat) : Estimate :=
  [10, 10, 9, 9, 8, 8, 7, 7, 7, 6, 6, 6, 5, 5, 5, 4, 4, 4, 4, 3, 3, 3, 3, 3, 3, 2, 2, 2, 2, 2, 2,
    2].getD distance (if distance ≤ 49 then 1 else 0)

/-- The estimate of a sum. -/
def plus (a b : Estimate) : Estimate :=
  max a b + surplus (a - b).natAbs

/-- The estimate of the logarithm of a number. -/
def logarithm (n : Estimate) : Estimate :=
  if n ≤ 10 then 0 else estimate n.toNat - 33

end Estimate

/-! ## Tables -/

/-- How many rows a table is supposed to have. -/
def tableRows : Estimate := 200

/-- The digits of a number in a text, from the first of them on. -/
def firstNumber (cs : List Char) : Nat :=
  valueOfDigits ((cs.dropWhile (!·.isDigit)).takeWhile Char.isDigit)

/-- What stands behind a word in a text. -/
def behind? (word : List Char) : List Char → Option (List Char)
  | [] => none
  | c :: cs =>
    if word.isPrefixOf (c :: cs) then some ((c :: cs).drop word.length) else behind? word cs

/-- How wide a column is supposed to be; a number has the width one. -/
def columnWidth (c : StoredColumn) : Nat :=
  let upper := c.sqlType.toList.map Char.toUpper
  let ofNumber (cs : List Char) : Nat := min 255 (firstNumber cs / 4 + 1)
  if c.affinity.isNumeric || c.sqlType.isEmpty then 1
  else if upper = "TEXT".toList || upper = "BLOB".toList then 5
  else
    match behind? "CHAR".toList upper, behind? "BLOB(".toList upper with
    | some rest, _ => ofNumber rest
    | none, some rest => ofNumber rest
    | none, none => 5

/-- How wide the rows of a table are supposed to be. -/
def rowWidth (t : StoredTable) : Estimate :=
  let columns := sumOf (t.columns.map columnWidth)
  estimate (4 * (columns + if t.numberColumn.isSome then 0 else 1))

/-! ## Indexes -/

/-- How many rows are supposed to agree in so many of the first terms of an index. -/
def indexRows (terms : Nat) (isUnique isPartial : Bool) : List Estimate :=
  let whole := tableRows - if isPartial then 10 else 0
  let fewer := (List.range terms).map fun i => [33, 32, 30, 28, 27].getD i 23
  whole :: if isUnique then fewer.dropLast ++ [0] else fewer

end SchemaEvolution.Database.Plan
