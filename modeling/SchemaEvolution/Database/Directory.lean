import SchemaEvolution.Database.Name

/-!
# Directories

A `Directory` lists items by their names, the newest first.  Once there are many, a new item is put
before those whose names have the same code, so that these stand together.

* `Directory.add` adds an item.
* `Directory.listed` lists items that are added one after another.
-/

namespace SchemaEvolution.Database

/-- Items in the order in which they are listed, and how many codes names can have; zero if names
have no codes. -/
structure Directory (α : Type) where
  codes : Nat := 0
  items : List (String × α) := []

namespace Directory

/-- The number of a name, whatever the case of its letters. -/
def number (name : String) : UInt32 :=
  (foldName name).toUTF8.toList.foldl (fun n b => (n + b.toUInt32) * 0x9e3779b1) 0

/-- The code of a name. -/
def code (codes : Nat) (name : String) : Nat :=
  (number name).toNat % codes

/-- Puts an item before those with the same code, or before all others. -/
def put {α : Type} (codes : Nat) (items : List (String × α)) (item : String × α) :
    List (String × α) :=
  let isOther (other : String × α) : Bool := code codes other.1 != code codes item.1
  let others := items.takeWhile isOther
  let same := items.dropWhile isOther
  if codes = 0 || same.isEmpty then item :: items else others ++ item :: same

/-- How many codes there are for so many names. -/
def codesFor (codes count : Nat) : Nat :=
  if count < 10 || count ≤ 2 * codes then codes else min (2 * count) 64

/-- Adds an item. -/
def add {α : Type} (d : Directory α) (item : String × α) : Directory α :=
  let codes := codesFor d.codes (d.items.length + 1)
  let items := if codes = d.codes then d.items else d.items.foldl (put codes) []
  { codes := codes, items := put codes items item }

/-- Lists items that are added one after another. -/
def listed {α : Type} (name : α → String) (items : List α) : List α :=
  let all : Directory α := items.foldl (fun d a => d.add (name a, a)) {}
  all.items.map Prod.snd

end Directory

end SchemaEvolution.Database
