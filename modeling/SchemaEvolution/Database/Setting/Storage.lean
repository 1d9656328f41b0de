import SchemaEvolution.Database.Page
import SchemaEvolution.Database.Setting.Basic

/-!
# Settings of a store

The numbers that a store keeps for whoever uses it, and how a session handles its pages.

* `Setting.ofStores` lists them.
-/

namespace SchemaEvolution.Database.Setting

/-! ## Numbers in a store -/

/-- A number of thirty-two bits with its sign. -/
def signed32 (n : Nat) : Int :=
  let n : Int := n % twoTo 32
  if n < twoTo 31 then n else n - twoTo 32

/-- A number that a store keeps, which may not be changed where nothing may. -/
def inStore (name : String) (shown : Store → Cell) (given : Int → Store → Store) : Setting :=
  kept name (fun i db => shown (i.subject db)) fun i value db =>
    if db.isOn .queriesOnly then .error .readOnly
    else .ok (i.modify (fun s => { given (Value.integer value) s with isWritten := true }) db)

/-- How many pages are kept at hand by default. -/
def defaultCache : Setting :=
  { inStore "default_cache_size"
      (fun s => if s.defaultCache = 0 then .integer (-2000) else .ofNat s.defaultCache)
      (fun n s => { s with
        defaultCache := n.natAbs, tuning := { s.tuning with cache := n.natAbs } }) with
    columns := ["cache_size"] }

/-- The numbers that a store keeps. -/
def storeNumbers : List Setting := [
  inStore "user_version" (fun s => .integer s.userVersion) fun n s =>
    { s with userVersion := Int64.ofInt n },
  inStore "application_id" (fun s => .integer s.applicationId) fun n s =>
    { s with applicationId := Int64.ofInt n },
  inStore "schema_version" (fun s => .ofInt (signed32 s.version)) fun n s =>
    { s with version := (n % twoTo 32).toNat, isStale := true },
  defaultCache.ofStore,
  constant "data_version" fun i db => .ofNat ((i.subject db).tuning.pageSizes + 1),
  constant "freelist_count" fun i db => .ofNat (i.subject db).freePages.length]

/-! ## Safety -/

/-- How safe changes are, which stays as it is within a transaction. -/
def synchronous : Setting :=
  kept "synchronous" (fun i db => .ofNat (i.subject db).tuning.safety) fun i value db =>
    if db.isInTransaction then .error .safetyInTransaction
    else if (i.subject db).isTemporary then .ok db
    else
      let level := (Value.safety value 1 + 1) % 8
      .ok (i.tune (fun t => { t with safety := level - 1 }) db)

/-- Something has been changed in a store since the beginning of the transaction. -/
def isChanged (db : Database) (s : Store) : Bool :=
  match db.saved with
  | none => false
  | some earlier =>
    let before := (earlier.find? fun e => e.name == s.name).getD { name := s.name }
    before.entries != s.entries || before.tables.map (·.rows) != s.tables.map (·.rows)

/-- The store with another way to keep what may be undone, if it allows that. -/
def journaled (db : Database) (m : JournalMode) (s : Store) : Store :=
  let t := s.tuning
  let isInMemory := !s.isTemporary || db.settings.temporaryPlace = 2
  let isAllowed := if isInMemory then m = .memory || m = .off else m != .ahead
  if isAllowed && t.isOpen && !isChanged db s then { s with tuning := { t with journal := m } }
  else s

/-- The first mode whose name begins with a text. -/
def journalMode? (value : String) : Option JournalMode :=
  let folded := (foldName value).toList
  (JournalMode.named.find? fun (name, _) => folded.isPrefixOf name.toList).map Prod.snd

/-- The name of the way in which a store keeps what may be undone. -/
def journalCell (i : Inquiry) (db : Database) : Cell :=
  .text (i.subject db).tuning.journal.name

/-- How stores keep what may be undone. -/
def journal : Setting :=
  answered "journal_mode" journalCell fun i value db =>
    match journalMode? value with
    | none => db
    | some m =>
      match i.store with
      | some _ => i.modify (journaled db m) db
      | none => { db with stores := db.stores.map (journaled db m) }

/-- The greatest length of what a store keeps to be undone. -/
def journalLimit : Setting :=
  answered "journal_size_limit" (fun i db => .ofInt (i.subject db).tuning.journalLimit)
    fun i value db => i.tune (fun t => { t with journalLimit := max (-1) (Value.long value).2 }) db

/-- Stores are kept from others; all that there are, are so already. -/
def locking : Setting where
  name := "locking_mode"
  columns := ["locking_mode"]
  takesStore := true
  ask := fun _ i db =>
    let mode? : Option Bool := i.argument.bind fun value =>
      if sameName value "exclusive" then some true
      else if sameName value "normal" then some false
      else none
    let shown (isExclusive : Bool) : Cell := .text (if isExclusive then "exclusive" else "normal")
    match i.store, mode? with
    | none, none => .ok ([[shown db.settings.isExclusive]], db)
    | none, some m =>
      .ok ([[shown true]], { db with settings := { db.settings with isExclusive := m } })
    | some _, _ => .ok ([[shown true]], db)

/-- What is given up is overwritten. -/
def erasure : Setting :=
  answered "secure_delete" (fun i db => .ofNat (i.subject db).tuning.erasure) fun i value db =>
    let n := if sameName value "fast" then 2 else if Value.isOn value then 1 else 0
    let change (t : Tuning) : Tuning := { t with erasure := n }
    match i.store with
    | some _ => i.tune change db
    | none => { db with stores := db.stores.map fun s => { s with tuning := change s.tuning } }

/-! ## Pages -/

/-- How many pages are kept at hand. -/
def cache : Setting :=
  kept "cache_size" (fun i db => .ofInt (i.subject db).tuning.cache) fun i value db =>
    .ok (i.tune (fun t => { t with cache := Value.integer value }) db)

/-- From how many pages on some are given up before the end of a transaction. -/
def spillSize (db : Database) (t : Tuning) : Nat :=
  if !db.isOn .cacheSpilling then 0 else max t.spill (if db.hasRead then t.cachedPages else 100)

/-- Pages may be given up before the end of a transaction. -/
def spill : Setting :=
  kept "cache_spill" (fun i db => .ofNat (spillSize db (i.subject db).tuning)) fun i value db =>
    let size := (Value.integer? value).getD 1
    let pages (t : Tuning) : Nat :=
      if size = 0 || (Value.integer? value).isNone then t.spill
      else if 0 < size then size.toNat
      else 1024 * size.natAbs / (t.pageSize + 136)
    let isOn := Value.isOn value (size != 0)
    .ok { i.tune (fun t => { t with spill := pages t }) db with
      settings := db.settings.turned .cacheSpilling isOn }

/-- The length of a page is one that there can be. -/
def isPageSize (n : Int) : Bool :=
  (List.range 8).any fun e => n == (512 * twoTo e : Nat)

/-- How long pages are, which stays as it is once something has been written. -/
def pageSize : Setting :=
  kept "page_size" (fun i db => .ofNat (i.subject db).tuning.pageSize) fun i value db =>
    let n := Value.integer value
    let change (s : Store) : Store :=
      let t := s.tuning
      if s.isWritten || !isPageSize n || n == t.pageSize then s
      else { s with tuning := { t with pageSize := n.toNat, pageSizes := t.pageSizes + 1 } }
    .ok (i.modify change db)

/-- How many pages a store has; there are none before something is written. -/
def pageCount (s : Store) : Nat :=
  if s.isWritten then s.pageCount else 0

/-- How many pages a store may have: not fewer than it has. -/
def mostPages : Setting :=
  answered "max_page_count" (fun i db => .ofNat (i.subject db).tuning.mostPages) fun i value db =>
    let (isWhole, n) := Value.long value
    let n := if isWhole then (max 0 (min n 4294967294)).toNat else 0
    if n = 0 then db
    else i.tune (fun t => { t with mostPages := max n (pageCount (i.subject db)) }) db

/-- How free pages are given back: never, at the end of each change, or when that is asked for. -/
def reclaiming (value : String) : Nat :=
  if sameName value "full" then 1
  else if sameName value "incremental" then 2
  else
    let n := Value.integer value
    if 0 ≤ n && n ≤ 2 then n.toNat else 0

/-- How a store gives free pages back.  Whether it ever does stays as it is once something has been
written. -/
def reclaims : Setting :=
  kept "auto_vacuum" (fun i db => .ofNat (i.subject db).tuning.reclaims) fun i value db =>
    let n := reclaiming value
    let s := i.subject db
    let isAllowed := !s.isWritten || (n != 0) == (s.tuning.reclaims != 0)
    let settings := { db.settings with nextReclaims := some n }
    let tuned := if isAllowed then i.tune (fun t => { t with reclaims := n }) db else db
    let db := { tuned with settings := settings }
    if !isAllowed || n = 0 then .ok db
    else if db.isOn .queriesOnly then .error .readOnly
    else .ok (i.modify (fun s => { s with isWritten := true }) db)

/-- Gives back as many free pages as are asked for, or all; each of them counts as a row. -/
def reclaim : Setting where
  name := "incremental_vacuum"
  columns := []
  needsDefinitions := true
  ask := fun _ i db =>
    let s := i.subject db
    if db.isOn .queriesOnly then .error .readOnly
    else if s.tuning.reclaims = 0 then .ok ([], i.modify (fun s => { s with isWritten := true }) db)
    else
      let wanted := (i.argument.bind Value.integer?).getD 0
      let free := s.freePages.length
      let count := if 0 < wanted then min wanted.toNat free else free
      .ok (List.replicate count [], i.modify (fun s => s.withFree (free - count)) db)

/-- What becomes of a log: there is none, and within a transaction it may not be asked for. -/
def checkpoint : Setting :=
  computed "wal_checkpoint" ["busy", "log", "checkpointed"] fun _ db =>
    if db.isInTransaction then .error .tableLocked
    else .ok [[.integer 0, .integer (-1), .integer (-1)]]

/-- The settings of a store. -/
def ofStores : List Setting :=
  storeNumbers ++ [
    synchronous.ofStore, journal.ofStore, { journalLimit with takesStore := true }, locking,
    erasure, cache.ofStore, { spill with takesStore := true },
    { pageSize with takesStore := true }, mostPages.ofStore,
    (constant "page_count" fun i db => .ofNat (pageCount (i.subject db))).ofStore,
    reclaims.ofStore, reclaim, { checkpoint with needsDefinitions := true }]

end SchemaEvolution.Database.Setting
