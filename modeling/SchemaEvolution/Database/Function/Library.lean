import SchemaEvolution.Database.Function.Clock
import SchemaEvolution.Database.Function.Document

/-!
# The library of functions

A function is found by its name and the number of its arguments (`Library.find`).
-/

namespace SchemaEvolution.Database.Library

/-- The functions that give one cell for some others. -/
def scalars : List ScalarFunction :=
  ScalarFunction.ofNumbers ++ ScalarFunction.ofTexts ++ ScalarFunction.ofChoices ++
    ScalarFunction.ofSession ++ ScalarFunction.ofModules ++ Clock.all

/-- The functions that give one cell for several rows. -/
def aggregates : List AggregateFunction :=
  AggregateFunction.all ++ DocumentFunction.aggregates

/-- The functions of windows, with the least and greatest number of their arguments. -/
def windowNames : List (String × Nat × Nat) :=
  [("row_number", 0, 0), ("rank", 0, 0), ("dense_rank", 0, 0), ("percent_rank", 0, 0),
    ("cume_dist", 0, 0), ("ntile", 1, 1), ("lag", 1, 3), ("lead", 1, 3), ("first_value", 1, 1),
    ("last_value", 1, 1), ("nth_value", 2, 2)]

/-- What a name of a function stands for. -/
inductive Found where
  | scalar (f : ScalarFunction)
  | document (f : DocumentFunction)
  | aggregate (f : AggregateFunction)
  | window (name : String)
  /-- There is such a function, but not with so many arguments. -/
  | wrongCount
  | unknown

/-- The function of a name with so many arguments. -/
def find (name : String) (count : Nat) : Found :=
  let name := foldName name
  let fits (least : Nat) (most : Option Nat) : Bool := least ≤ count && most.all (count ≤ ·)
  let aggregates := aggregates.filter (·.name = name)
  let documents := DocumentFunction.all.filter (·.name = name)
  let scalars := scalars.filter fun f => foldName f.name = name
  let windows := windowNames.filter (·.1 = name)
  match aggregates.find? fun f => fits f.least (some f.most) with
  | some f => .aggregate f
  | none =>
    match scalars.find? fun f => fits f.least f.most with
    | some f => .scalar f
    | none =>
      match documents.find? fun f => fits f.least f.most with
      | some f => .document f
      | none =>
        match windows.find? fun (_, least, most) => fits least (some most) with
        | some (name, _, _) => .window name
        | none =>
          let isUnknown :=
            aggregates.isEmpty && scalars.isEmpty && documents.isEmpty && windows.isEmpty
          if isUnknown then .unknown else .wrongCount

end SchemaEvolution.Database.Library
