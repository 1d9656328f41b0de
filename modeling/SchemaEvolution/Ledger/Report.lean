import SchemaEvolution.Ledger.Entry

/-!
# Reports on the ledger

The entries of the ledger as a list for people, or as JSON for programs.
-/

namespace SchemaEvolution.Ledger

/-- A character inside a JSON string: quotes, backslashes and controls are escaped. -/
def jsonChar (c : Char) : List Char :=
  if c = '"' ∨ c = '\\' then ['\\', c]
  else if c = '\n' then ['\\', 'n']
  else if c = '\r' then ['\\', 'r']
  else if c = '\t' then ['\\', 't']
  else if c.toNat = 8 then ['\\', 'b']
  else if c.toNat = 12 then ['\\', 'f']
  else if c.toNat < 32 then
    let code := Nat.toDigits 16 c.toNat
    '\\' :: 'u' :: List.replicate (4 - code.length) '0' ++ code
  else [c]

/-- A text as a JSON string. -/
def jsonText (s : String) : String :=
  String.ofList ('"' :: s.toList.flatMap jsonChar ++ ['"'])

/-- An entry as an object, one field to a line. -/
def jsonEntry (e : LedgerEntry) : String :=
  let fields := [
    ("id", String.ofList (signedDigits e.id.toInt)),
    ("name", jsonText e.name),
    ("created_at", jsonText e.createdAt.exact),
    ("updated_at", jsonText e.updatedAt.exact)]
  let line (name value : String) := "    " ++ jsonText name ++ ": " ++ value
  "  \x7b\n" ++ ",\n".intercalate (fields.map fun (name, value) => line name value) ++ "\n  \x7d"

/-- Entries as an array, in order. -/
def json (entries : List LedgerEntry) : String :=
  if entries.isEmpty then "[]"
  else "[\n" ++ ",\n".intercalate (entries.map jsonEntry) ++ "\n]"

/-- The time of an entry up to the second, with a space between date and time of day. -/
def timeText (t : Timestamp) : String :=
  String.ofList (t.clockText.map fun c => if c = 'T' then ' ' else c)

/-- Entries under a heading, one to a line. -/
def overview (entries : List LedgerEntry) : String :=
  let line (e : LedgerEntry) := " [X] " ++ e.name ++ " (" ++ timeText e.createdAt ++ ")\n"
  "\nApplied migrations:\n" ++ String.ofList (List.replicate 60 '-') ++ "\n" ++
    String.join (entries.map line)

end SchemaEvolution.Ledger
