import SchemaEvolution.Number.Basic

/-!
# Trees of pages

The rows of a table, and the entries of an index, are kept in a tree of pages of one size.  How many
pages a tree has depends on the sizes of its entries and on the order in which they came: a page
that is too full hands entries over to its neighbours, and a new page is taken only if they are full
as well.

* `PageTree` is such a tree, which knows of an entry only its place and its size.
* `PageTree.of` is the tree that entries make which come one after the other.
-/

namespace SchemaEvolution.Database

/-- An entry of a tree. -/
structure PageEntry where
  /-- Its place in the order of all entries. -/
  rank : Nat
  /-- How many bytes it takes in a page without further pages below. -/
  size : Nat
  /-- How many bytes it takes between two pages. -/
  dividing : Nat

/-- A tree of pages. -/
inductive PageTree where
  | leaf (entries : List PageEntry)
  /-- Pages with entries between them. -/
  | branch (children : List PageTree) (dividers : List PageEntry)

/-- What is particular to a kind of tree. -/
structure PageTree.Shape where
  /-- All entries are in leaves, which are in the order of numbers; otherwise those between pages
  are in no leaf. -/
  isTable : Bool
  /-- How many bytes a page has. -/
  pageSize : Nat := 4096
  /-- The root has less room than other pages. -/
  lost : Nat := 0

namespace PageTree

/-- How many bytes of a page entries can take. -/
def room (s : Shape) : Nat :=
  s.pageSize - 8

/-- How many bytes of a page entries can take that stand between others. -/
def branchRoom (s : Shape) : Nat :=
  s.pageSize - 12

/-- The size of all entries in leaves. -/
def totalSize (es : List PageEntry) : Nat :=
  sumOf (es.map (·.size))

/-- The entries that a page has are too many for it, where so many bytes are taken otherwise. -/
def isTooFull (s : Shape) (lost : Nat) : PageTree → Bool
  | leaf es => room s - lost < totalSize es
  | branch _ ds => branchRoom s - lost < sumOf (ds.map (·.dividing))

/-! ## Sharing out -/

/-- Where pages end among entries, if each takes as many as it can; `gap` entries are between two
pages. -/
def packed (most gap : Nat) : (tries : Nat) → (start : Nat) → List Nat → List Nat
  | 0, _, _ => []
  | tries + 1, start, sizes =>
    let count := (List.range sizes.length).takeWhile fun n => sumOf (sizes.take (n + 1)) ≤ most
    let next := start + count.length
    if sizes.length ≤ count.length then [next]
    else next :: packed most gap tries (next + gap) (sizes.drop (count.length + gap))

/-- The size of the entries from one place up to another. -/
def sizeBetween (sizes : List Nat) (start stop : Nat) : Nat :=
  sumOf ((sizes.drop start).take (stop - start))

/-- Where a page ends if it hands over its last entries to the next page as long as that stays the
smaller one. -/
def handedOver (sizes : List Nat) (gap : Nat) (isLast : Bool) :
    (stop left right : Nat) → Nat
  | 0, _, _ => 0
  | stop + 1, left, right =>
    let moved := sizes.getD (stop + gap) 0
    let own := sizes.getD stop 0
    let slack := if isLast then 2 else 0
    if right != 0 && left + slack < right + moved + own then stop + 1
    else handedOver sizes gap isLast stop (left - own) (right + moved)

/-- Where pages end, if the later ones are filled up from those before; the ends come last first. -/
def evened (sizes : List Nat) (gap : Nat) : (isLast : Bool) → (stop : Nat) → List Nat → List Nat
  | _, stop, [] => [stop]
  | isLast, stop, before :: earlier =>
    let start := match earlier with
      | e :: _ => e + gap
      | [] => 0
    let own := handedOver sizes gap isLast before (sizeBetween sizes start before)
      (sizeBetween sizes (before + gap) stop)
    stop :: evened sizes gap false (max own 1) earlier

/-- Where pages end among entries. -/
def ends (most gap : Nat) (sizes : List Nat) : List Nat :=
  match (packed most gap (sizes.length + 1) 0 sizes).reverse with
  | [] => []
  | last :: earlier => (evened sizes gap true last earlier).reverse

/-- The pages that end at some places, and what is between them. -/
def split {α : Type} (gap : Nat) : (start : Nat) → List Nat → List α → List (List α) × List α
  | _, [], _ => ([], [])
  | start, stop :: stops, items =>
    let page := items.take (stop - start)
    let rest := items.drop (stop - start)
    if stops.isEmpty then ([page], [])
    else
      let (pages, between) := split gap (stop + gap) stops (rest.drop gap)
      (page :: pages, rest.take gap ++ between)

/-! ## Neighbours -/

/-- Neighbouring pages with the entries between them, with their entries shared out anew. -/
def balanced (s : Shape) (children : List PageTree) (dividers : List PageEntry) :
    List PageTree × List PageEntry :=
  let leaves := children.filterMap fun
    | leaf es => some es
    | branch .. => none
  if leaves.length = children.length then
    if s.isTable then
      let all := leaves.flatten
      let stops := ends (room s) 0 (all.map (·.size))
      let (pages, _) := split 0 0 stops all
      (pages.map leaf, pages.dropLast.filterMap List.getLast?)
    else
      let all := join leaves
      let (pages, between) := split 1 0 (ends (room s) 1 (all.map (·.size))) all
      (pages.map leaf, between)
  else
    let below := children.flatMap fun
      | branch cs _ => cs
      | leaf _ => []
    let all := join <| children.map fun
      | branch _ ds => ds
      | leaf _ => []
    let stops := ends (branchRoom s) 1 (all.map (·.dividing))
    let (pages, between) := split 1 0 stops all
    (share pages below, between)
where
  /-- The entries of pages with those between them. -/
  join (pages : List (List PageEntry)) : List PageEntry :=
    match pages with
    | [] => []
    | first :: rest => first ++ (dividers.zip rest).flatMap fun (d, es) => d :: es
  /-- Pages that have entries, with the pages between them. -/
  share (pages : List (List PageEntry)) (below : List PageTree) : List PageTree :=
    match pages with
    | [] => []
    | ds :: rest =>
      branch (below.take (ds.length + 1)) ds :: share rest (below.drop (ds.length + 1))

/-- The pages of a branch, where one of them, which was changed, may be too full. -/
def relieved (s : Shape) (isQuick : Bool) (children : List PageTree) (dividers : List PageEntry)
    (place : Nat) : PageTree :=
  match children[place]? with
  | none => branch children dividers
  | some child =>
    if !child.isTooFull s 0 then branch children dividers
    else
      match isQuick && s.isTable && place + 1 = children.length, child with
      | true, leaf es =>
        let kept := es.dropLast
        branch (children.dropLast ++ [leaf kept, leaf (es.drop kept.length)])
          (dividers ++ kept.getLast?.toList)
      | _, _ =>
        let count := dividers.length
        let first :=
          if count < 2 || place = 0 then 0 else if place = count then count - 2 else place - 1
        let width := min count 2
        let (pages, between) := balanced s ((children.drop first).take (width + 1))
          ((dividers.drop first).take width)
        branch (children.take first ++ pages ++ children.drop (first + width + 1))
          (dividers.take first ++ between ++ dividers.drop (first + width))

/-! ## Growing -/

/-- A tree with a further entry; its root may be too full. -/
def insert (s : Shape) : (depth : Nat) → (isRoot : Bool) → PageEntry → PageTree → PageTree
  | 0, _, _, t => t
  | _ + 1, _, e, leaf es =>
    let before := es.takeWhile fun o => decide (o.rank < e.rank)
    leaf (before ++ e :: es.drop before.length)
  | depth + 1, isRoot, e, branch cs ds =>
    let place := (ds.takeWhile fun o => decide (o.rank < e.rank)).length
    let changed := cs.modify place (insert s depth false e)
    let isLastEntry := match changed[place]? with
      | some (leaf es) => es.getLast?.any (·.rank == e.rank)
      | _ => false
    relieved s (isLastEntry && !(isRoot && s.lost != 0)) changed ds place

/-- A tree whose root is not too full: if it is, it gets pages below it. -/
def deepened (s : Shape) (t : PageTree) : PageTree :=
  if t.isTooFull s s.lost then
    match t with
    | leaf es =>
      let (pages, between) := balanced s [leaf es] []
      if s.isTable && s.lost = 0 then relieved s true [leaf es] [] 0 else branch pages between
    | t =>
      let (pages, between) := balanced s [t] []
      branch pages between
  else t

/-- How many pages deep a tree can be. -/
def mostDeep : Nat := 20

/-- The tree of entries in the order in which they come. -/
def of (s : Shape) (es : List PageEntry) : PageTree :=
  es.foldl (fun t e => deepened s (insert s mostDeep true e t)) (leaf [])

/-- How many pages a tree has. -/
def count : (depth : Nat) → PageTree → Nat
  | 0, _ => 0
  | _ + 1, leaf _ => 1
  | depth + 1, branch cs _ => sumOf (cs.map (count depth)) + 1

/-- How many pages entries take that come one after the other. -/
def pagesOf (s : Shape) (es : List PageEntry) : Nat :=
  if totalSize es ≤ room s - s.lost then 1 else count mostDeep (of s es)

end PageTree

end SchemaEvolution.Database
