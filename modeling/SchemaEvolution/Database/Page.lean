import SchemaEvolution.Database.PageTree
import SchemaEvolution.Database.Store

/-!
# Pages

Each table and each index of a store is a tree of pages that starts on a page of its own, and so is
the catalog.  A page that is given up is used again before the store grows: the first one that was
given up is the last to be used, and of the others the lowest is the first.

A store that gives free pages back keeps track of what its pages are for, on pages of their own, and
its trees start on the pages behind the first one, without gaps.

* `Store.takePage` gives a page for a new tree.
* `Store.withPages` gives all trees the pages that they need.
* `trackedCount` is the number of pages of a store that gives free pages back.
-/

namespace SchemaEvolution.Database

/-! ## Sizes -/

/-- How many bytes a number takes that is written with seven bits to a byte. -/
def lengthOfCount (n : Nat) : Nat :=
  if n < 128 then 1
  else if n < 16384 then 2
  else if n < 2097152 then 3
  else if n < 268435456 then 4
  else if n < 34359738368 then 5
  else if n < 4398046511104 then 6
  else if n < 562949953421312 then 7
  else if n < 72057594037927936 then 8
  else 9

/-- How many bytes an integer takes; nought and one are in the header of the row. -/
def lengthOfInteger (n : Int) : Nat :=
  let isSmall := n = 0 ∨ n = 1
  let n := if n < 0 then (-n - 1).toNat else n.toNat
  if isSmall then 0
  else if n < 128 then 1
  else if n < 32768 then 2
  else if n < 8388608 then 3
  else if n < 2147483648 then 4
  else if n < 140737488355328 then 6
  else 8

namespace Cell

/-- How many bytes a cell takes in a row, and how many in its header. -/
def lengths : Cell → Nat × Nat
  | null => (0, 1)
  | integer n => (lengthOfInteger n.toInt, 1)
  | real x =>
    match x.integer? with
    | some n => (lengthOfInteger n.toInt, 1)
    | none => (8, 1)
  | c =>
    let n := c.bytes.length
    (n, lengthOfCount (12 + 2 * n))

end Cell

/-- How many bytes a row takes. -/
def lengthOfRow (cells : List Cell) : Nat :=
  let lengths := cells.map Cell.lengths
  let header := sumOf (lengths.map Prod.snd)
  let own := if header + 1 < 128 then 1 else 2
  sumOf (lengths.map Prod.fst) + header + own

/-- How many bytes of a row may stay in a page of an index, or of a table if there are others. -/
def shareOf (pageSize part : Nat) : Nat :=
  (pageSize - 12) * part / 255 - 23

/-- How many bytes of a row stay in its page, and how many pages the others take, if so many bytes
may stay. -/
def keptLength (pageSize most length : Nat) : Nat × Nat :=
  if length ≤ most then (length, 0)
  else
    let least := shareOf pageSize 32
    let further := pageSize - 4
    let kept := least + (length - least) % further
    let kept := if kept ≤ most then kept else least
    (kept + 4, (length - kept + further - 1) / further)

/-! ## Entries -/

/-- The entry of a row in the tree of its table, with the number of its further pages. -/
def tableEntry (pageSize rank : Nat) (number : Int64) (cells : List Cell) : PageEntry × Nat :=
  let length := lengthOfRow cells
  let (kept, pages) := keptLength pageSize (pageSize - 35) length
  let key := lengthOfCount number.toUInt64.toNat
  ({ rank := rank, size := max 4 (lengthOfCount length + key + kept) + 2, dividing := key + 6 },
    pages)

/-- The entry of a row in the tree of an index, with the number of its further pages. -/
def indexEntry (pageSize rank : Nat) (cells : List Cell) : PageEntry × Nat :=
  let length := lengthOfRow cells
  let (kept, pages) := keptLength pageSize (shareOf pageSize 64) length
  let size := max 4 (lengthOfCount length + kept) + 2
  ({ rank := rank, size := size, dividing := size + 4 }, pages)

/-- How many pages entries take, with their further pages. -/
def pagesOfEntries (s : PageTree.Shape) (es : List (PageEntry × Nat)) : Nat :=
  PageTree.pagesOf s (es.map Prod.fst) + sumOf (es.map Prod.snd)

namespace StoredTable

/-- The cells of a row that are written. -/
def writtenCells (t : StoredTable) (row : StoredRow) : List Cell :=
  (row.cells.zipIdx.filter fun (_, i) => (t.column i).generation.all (·.isStored)).map fun (c, i) =>
    if t.numberColumn = some i then .null else c

/-- How many pages a table takes whose rows are in the order of their numbers. -/
def pagesOfRows (t : StoredTable) (pageSize : Nat) (lost : Nat := 0) : Nat :=
  pagesOfEntries { isTable := true, pageSize := pageSize, lost := lost } <|
    t.rows.zipIdx.map fun (row, i) => tableEntry pageSize i row.number (t.writtenCells row)

end StoredTable

namespace StoredIndex

/-- The order of the keys of an index, where the terms are given. -/
def keyOrder : List IndexTerm → List Cell → List Cell → Ordering
  | t :: ts, a :: as, b :: bs =>
    let o := a.compare t.collation b
    (if t.descending then o.swap else o).then (keyOrder ts as bs)
  | _, _, _ => .eq

/-- The cells of a row by which an index orders it; what it computes counts as nothing. -/
def keyCells (i : StoredIndex) (row : StoredRow) : List Cell :=
  i.terms.map fun t => (t.column.map fun c => row.cells.getD c .null).getD .null

/-- The cells of a row that an index writes. -/
def writtenCells (i : StoredIndex) (t : StoredTable) (row : StoredRow) : List Cell :=
  if t.hasNumbers then i.keyCells row ++ [.integer row.number]
  else
    let named := i.terms.filterMap (·.column)
    let others := (List.range row.cells.length).filter fun n => !named.contains n
    let own := if i.origin = .key then others else others.filter fun n => (t.column n).inKey
    i.keyCells row ++ own.map fun n => row.cells.getD n .null

/-- How many pages an index takes. -/
def pagesOfRows (i : StoredIndex) (t : StoredTable) (pageSize : Nat) : Nat :=
  let keyed := t.rows.zipIdx.map fun (row, n) => (i.keyCells row, n)
  let sorted := keyed.mergeSort fun a b => (keyOrder i.terms a.1 b.1).isLE
  let rank (n : Nat) : Nat := (sorted.findIdx? fun k => k.2 = n).getD 0
  pagesOfEntries { isTable := false, pageSize := pageSize } <|
    t.rows.zipIdx.map fun (row, n) => indexEntry pageSize (rank n) (i.writtenCells t row)

end StoredIndex

/-! ## Pages that keep track of others -/

/-- How many pages one page keeps track of. -/
def trackLength (pageSize : Nat) : Nat :=
  pageSize / 5

/-- How many pages there are, where so many are in use behind the first one, with those that keep
track of them.  It is the number of the last of them as well. -/
def trackedCount (pageSize count : Nat) : Nat :=
  let length := trackLength pageSize
  1 + count + (count + length - 1) / length

/-- How many pages of so many are neither the first one nor keep track of others. -/
def otherCount (pageSize pages : Nat) : Nat :=
  if pages < 2 then 0 else pages - 2 - (pages - 2) / (trackLength pageSize + 1)

/-! ## Stores -/

namespace Store

/-- The store gives free pages back. -/
def isReclaiming (s : Store) : Bool :=
  s.tuning.reclaims != 0

/-- The pages on which trees start. -/
def roots (s : Store) : List Nat :=
  (s.entries.map (·.page)).filter (· != 0)

/-- The first page behind those on which trees start, if there are no gaps between them. -/
def nextRoot (s : Store) : Nat :=
  trackedCount s.tuning.pageSize (s.roots.length + 1)

/-- A page for a new tree, and the store from which it was taken. -/
def takePage (s : Store) : Nat × Store :=
  if s.isReclaiming then (s.nextRoot, s) else
  match s.freePages with
  | [] => (s.pageCount + 1, { s with pageCount := s.pageCount + 1 })
  | [page] => (page, { s with freePages := [] })
  | last :: pages =>
    let page := pages.foldl min (pages.headD 0)
    (page, { s with freePages := last :: pages.filter (· != page) })

/-- So many pages for a tree that is there. -/
def takePages : (count : Nat) → Store → List Nat × Store
  | 0, s => ([], s)
  | count + 1, s =>
    let (page, s) := s.takePage
    let (pages, s) := takePages count s
    (page :: pages, s)

/-- The trees of a store by their first pages, each with the number of its pages. -/
def neededPages (s : Store) : List (Nat × Nat) :=
  let size := s.tuning.pageSize
  let catalog := s.catalog.pagesOfRows size 100
  let tables := s.tables.filter fun t => t.isStored && t.hasNumbers
  let ofIndex (i : StoredIndex) : Option (Nat × Nat) :=
    (s.tables.find? fun t => sameName t.name i.table).map fun t => (i.page, i.pagesOfRows t size)
  (1, catalog) :: tables.map (fun t => (t.page, t.pagesOfRows size)) ++ s.indexes.filterMap ofIndex

/-- The store without trees that are needed no more; those that start later are given up first. -/
def withoutTrees (roots : List Nat) (s : Store) : Store :=
  let (kept, dropped) := s.trees.partition fun t => roots.contains t.1
  let latest := dropped.mergeSort fun a b => decide (b.1 ≤ a.1)
  { s with
    trees := kept
    freePages := s.freePages ++ latest.flatMap fun t => t.2 ++ [t.1] }

/-- The store with a tree that has as many pages as it needs. -/
def withTree (s : Store) (need : Nat × Nat) : Store :=
  let (root, count) := need
  let own := (s.trees.lookup root).getD []
  let others := s.trees.filter fun t => t.1 != root
  if own.length < count then
    let (new, s) := s.takePages (count - 1 - own.length)
    { s with trees := others ++ [(root, own ++ new)] }
  else
    { s with
      trees := others ++ [(root, own.take (count - 1))]
      freePages := s.freePages ++ own.drop (count - 1) }

/-- The store with trees starting elsewhere. -/
def withRoots (moved : Nat → Nat) (s : Store) : Store :=
  { s with
    entries := s.entries.map fun e => { e with page := moved e.page }
    tables := s.tables.map fun t => { t with page := moved t.page }
    indexes := s.indexes.map fun i => { i with page := moved i.page } }

/-- The store without a gap between the pages on which trees start: the last of them goes there. -/
def fillGap (s : Store) (gap : Nat) : Store :=
  let last := s.roots.foldl max 0
  if last < gap then s else s.withRoots fun page => if page = last then gap else page

/-- The store without gaps between the pages on which trees start. -/
def closedUp (s : Store) : Store :=
  let last := s.roots.foldl max 0
  let pages := (List.range last).map fun n => trackedCount s.tuning.pageSize (n + 1)
  let gaps := pages.filter fun page => decide (page < last) && !s.roots.contains page
  gaps.reverse.foldl fillGap s

/-- A store that gives free pages back, with so many of them left. -/
def withFree (s : Store) (free : Nat) : Store :=
  let size := s.tuning.pageSize
  let used := otherCount size s.pageCount - s.freePages.length
  { s with
    freePages := List.replicate free 0
    pageCount := trackedCount size (used + free) }

/-- A store that gives free pages back, with all trees having the pages that they need: the others
are free until they are given back. -/
def withTrackedPages (s : Store) : Store :=
  let s := s.closedUp
  let size := s.tuning.pageSize
  let used := sumOf (s.neededPages.map Prod.snd) - 1
  let free := otherCount size s.pageCount - used
  { s with freePages := [], pageCount := trackedCount size used }.withFree
    (if s.tuning.reclaims = 1 then 0 else free)

/-- The store with all trees having the pages that they need. -/
def withPages (s : Store) : Store :=
  let s := { s with isWritten := s.isWritten || !s.entries.isEmpty }
  if s.isReclaiming then s.withTrackedPages
  else
    let needs := s.neededPages
    needs.foldl withTree (s.withoutTrees (needs.map Prod.fst))

end Store

end SchemaEvolution.Database
