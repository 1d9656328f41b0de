import SchemaEvolution.Database.Setting.Basic

/-!
# Settings of a session

The settings that do not belong to a store: switches, numbers, the encoding, and where temporary
tables are kept.
-/

namespace SchemaEvolution.Database.Setting

/-! ## Switches -/

/-- The database with a switch turned.  Foreign keys stay as they are within a transaction. -/
def turn (w : Switch) (value : String) (db : Database) : Database :=
  if w = .foreignKeys && db.isInTransaction then db
  else
    let isOn := Value.isOn value
    let new := { db with settings := db.settings.turned w isOn }
    if isOn then new
    else if w = .deferredKeys then { new with leniences := 0 }
    else if w = .writableCatalog && sameName value "reset" then
      { new with stores := new.stores.map fun s => { s with isStale := true } }
    else new

/-- A switch as a setting. -/
def ofSwitch (name : String) (w : Switch) : Setting :=
  kept name (fun _ db => .ofBool (db.isOn w)) fun _ value db => .ok (turn w value db)

/-! ## Numbers -/

/-- A number of the session; a value says what becomes of the settings. -/
def ofSession (name : String) (shown : Settings → Int)
    (given : String → Settings → Settings) : Setting :=
  answered name (fun _ db => .ofInt (shown db.settings)) fun _ value db =>
    { db with settings := given value db.settings }

/-- A number that is not negative, if a value is nothing else. -/
def natural? (value : String) : Option Nat :=
  let (isWhole, n) := Value.long value
  if isWhole && 0 ≤ n then some n.toNat else none

/-- The settings with the length to which memory should be kept down. -/
def limitSoftly (value : String) (s : Settings) : Settings :=
  let (isWhole, n) := Value.long value
  if !isWhole || n < 0 then s
  else if 0 < s.hardLimit && (s.hardLimit < n || n = 0) then { s with softLimit := s.hardLimit }
  else { s with softLimit := n }

/-- The settings with the length to which memory must be kept down, which never grows. -/
def limitHard (value : String) (s : Settings) : Settings :=
  let (isWhole, n) := Value.long value
  if !isWhole || n ≤ 0 || s.hardLimit != 0 && s.hardLimit ≤ n then s
  else
    let soft := if n < s.softLimit || s.softLimit = 0 then n else s.softLimit
    { s with hardLimit := n, softLimit := soft }

/-- The numbers of a session. -/
def numbers : List Setting := [
  ofSession "analysis_limit" (fun s => s.analysisLimit) fun value s =>
    match natural? value with
    | some n => { s with analysisLimit := n % twoTo 31 }
    | none => s,
  { ofSession "busy_timeout" (fun s => s.patience) fun value s =>
      { s with patience := (Value.integer value).toNat } with columns := ["timeout"] },
  ofSession "threads" (fun s => s.threads) fun value s =>
    match natural? value with
    | some n => { s with threads := min 8 (n % twoTo 31) }
    | none => s,
  ofSession "soft_heap_limit" (·.softLimit) limitSoftly,
  ofSession "hard_heap_limit" (·.hardLimit) limitHard,
  ofSession "wal_autocheckpoint" (fun s => s.logLength) fun value s =>
    { s with logLength := (Value.integer value).toNat }]

/-! ## Texts and temporary tables -/

/-- The database with an encoding, which can only be chosen before something is defined. -/
def encode (value : String) (db : Database) : Except Fault Database :=
  if db.settings.isEncodingFixed then .ok db
  else
    match Encoding.names.find? fun (name, _) => sameName name value with
    | some (_, e) => .ok { db with settings := { db.settings with encoding := e } }
    | none => .error (.unknownEncoding value)

/-- Where temporary tables are to be kept. -/
def temporaryPlace (value : String) : Nat :=
  match value.toList.head? with
  | some '1' => 1
  | some '2' => 2
  | _ => if sameName value "file" then 1 else if sameName value "memory" then 2 else 0

/-- The temporary store as it is before it is used. -/
def freshTemporary (place : Nat) : Store where
  name := "temp"
  tuning := { Tuning.temporary with journal := if place = 2 then .memory else .delete }

/-- The database with temporary tables kept elsewhere: those that there are, are lost. -/
def moveTemporary (value : String) (db : Database) : Except Fault Database :=
  let place := temporaryPlace value
  if place = db.settings.temporaryPlace then .ok db
  else if (db.store "temp").tuning.isOpen && db.isInTransaction then .error .temporaryInUse
  else .ok { db with
    settings := { db.settings with temporaryPlace := place }
    stores := db.stores.map fun s => if s.isTemporary then freshTemporary place else s }

/-- The settings of a session. -/
def ofSessions : List Setting :=
  Switch.named.map (fun (name, w) => ofSwitch name w) ++ numbers ++ [
    silent "case_sensitive_like" (turn .caseSensitiveLike),
    { kept "encoding" (fun _ db => .text db.settings.encoding.name) (fun _ => encode) with
      needsDefinitions := true },
    kept "temp_store" (fun _ db => .ofNat db.settings.temporaryPlace) (fun _ => moveTemporary),
    silent "temp_store_directory", silent "shrink_memory", silent "mmap_size"]

end SchemaEvolution.Database.Setting
