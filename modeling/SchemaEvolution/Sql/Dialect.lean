import SchemaEvolution.Sql.Capabilities
import SchemaEvolution.Text.Quoting
import SchemaEvolution.Sql.Statement

/-!
# Dialects

A `Dialect` holds everything in which databases differ before a statement is sent: their
capabilities, how names are quoted, how key columns are written, and where the tables are listed.
These are the answers of a session to `features`, `quote_style`, `key_column` and `table_catalog`.
They are constants here: a session has one dialect and keeps it, whatever is called on it.  Clauses,
quoted names, literals and rendered statements are made from them in one way, which no session
replaces (`clause`, `quote_identifier`, `quote_literal`, `render`).
-/

namespace SchemaEvolution

/-- Options of a column that is a primary or a foreign key (`KeyColumn`). -/
structure KeyOptions where
  primary : Bool
  /-- Whether the column may be empty; nothing is said about it without a value. -/
  nullable : Option Bool := none
deriving DecidableEq

/-- Where a database lists its tables. -/
structure TableCatalog where
  /-- The relation that lists them. -/
  relation : Identifier
  /-- Its column with the name of a table. -/
  nameColumn : Identifier
  /-- A column and the value it has for tables, if the relation lists other things too. -/
  kind : Option (Identifier × Value) := none
deriving DecidableEq

namespace TableCatalog

/-- The standard's catalog. -/
def informationSchema : TableCatalog where
  relation := ⟨["information_schema", "tables"]⟩
  nameColumn := .of "table_name"

/-- The catalog that lists tables and indexes in one relation. -/
def sqliteMaster : TableCatalog where
  relation := .of "sqlite_master"
  nameColumn := .of "name"
  kind := some (.of "type", .text "table")

end TableCatalog

/-- A value as a literal (`quote_literal`, with `quote_text` and `quote_blob`). -/
def Value.literal : Value → String
  | null => "NULL"
  | boolean true => "TRUE"
  | boolean false => "FALSE"
  | integer n => String.ofList (signedDigits n.toInt)
  | real x => x.plain
  | text s => Quoting.write '\x27' s
  | blob bytes => String.ofList ('X' :: '\x27' :: bytes.flatMap hexByte ++ ['\x27'])
  | timestamp t => Quoting.write '\x27' t.micros

/-- The definition of a key column of some type, its name already quoted (`key_column`). -/
def keyDefinition (quoted sqlType : String) (key : KeyOptions) : String :=
  let suffix :=
    if key.primary then " PRIMARY KEY"
    else if key.nullable = some false then " NOT NULL"
    else ""
  quoted ++ " " ++ sqlType ++ suffix

/-- The ways of one database with statements. -/
structure Dialect where
  capabilities : Capabilities
  quoting : QuoteStyle
  /-- The definition of a key column of a name. -/
  keyColumn : String → KeyOptions → String
  catalog : TableCatalog

namespace Dialect

/-- A dialect of the standard, with `BIGINT` keys: what a session has that says nothing else. -/
def standard (capabilities : Capabilities) (quoting : QuoteStyle) : Dialect where
  capabilities := capabilities
  quoting := quoting
  keyColumn name key := keyDefinition (quoting.quote name) "BIGINT" key
  catalog := .informationSchema

/-- The dialect of SQLite.  Its keys are of type `INTEGER`, since only that type makes a primary key
number its rows; its names are between backticks, since it may read a name between double quotes as
a text. -/
def sqlite (capabilities : Capabilities) : Dialect where
  capabilities := capabilities
  quoting := .backtick
  keyColumn name key := keyDefinition (QuoteStyle.backtick.quote name) "INTEGER" key
  catalog := .sqliteMaster

/-- A name, each of its parts quoted (`quote_identifier`). -/
def renderIdentifier (d : Dialect) (i : Identifier) : String :=
  ".".intercalate (i.parts.map d.quoting.quote)

/-- One fragment as text. -/
def renderFragment (d : Dialect) : Fragment → String
  | .clause text => text
  | .identifier i => d.renderIdentifier i
  | .literal v => v.literal

/-- A statement as text (`render`). -/
def render (d : Dialect) (s : Statement) : String :=
  s.join d.renderFragment

end Dialect

end SchemaEvolution
