/-!
# Names

Names of tables, indexes and columns.  Two names are the same if they differ at most in the case of
ASCII letters.  A bare word is a name unless the language reserves it.
-/

namespace SchemaEvolution.Database

/-- A name in small letters. -/
def foldName (s : String) : String :=
  s.map Char.toLower

/-- The names are the same. -/
def sameName (a b : String) : Bool :=
  foldName a == foldName b

/-- The words of joins, which are names in some places. -/
def joinWords : List String :=
  ["CROSS", "FULL", "INNER", "LEFT", "NATURAL", "OUTER", "RIGHT"]

/-- The bare words that are no names. -/
def reservedWords : List String :=
  ["ADD", "ALL", "ALTER", "AND", "AS", "AUTOINCREMENT", "BETWEEN", "CASE", "CHECK", "COLLATE",
    "COMMIT", "CONSTRAINT", "CREATE", "DEFAULT", "DEFERRABLE", "DELETE", "DISTINCT", "DROP", "ELSE",
    "ESCAPE", "EXCEPT", "EXISTS", "FOREIGN", "FROM", "GROUP", "HAVING", "IN", "INDEX", "INSERT",
    "INTERSECT", "INTO", "IS", "ISNULL", "JOIN", "LIMIT", "NOT", "NOTHING", "NOTNULL", "NULL", "ON",
    "OR", "ORDER", "PRIMARY", "REFERENCES", "RETURNING", "SELECT", "SET", "TABLE", "THEN", "TO",
    "TRANSACTION", "UNION", "UNIQUE", "UPDATE", "USING", "VALUES", "WHEN", "WHERE"]

/-- The words of the language that are names wherever they have no other meaning. -/
def flexibleWords : List String :=
  ["ABORT", "ACTION", "AFTER", "ALWAYS", "ANALYZE", "ASC", "ATTACH", "BEFORE", "BEGIN", "BY",
    "CASCADE", "CAST", "COLUMN", "CONFLICT", "CURRENT", "CURRENT_DATE", "CURRENT_TIME",
    "CURRENT_TIMESTAMP", "DATABASE", "DEFERRED", "DESC", "DETACH", "DO", "EACH", "END", "EXCLUDE",
    "EXCLUSIVE", "EXPLAIN", "FAIL", "FILTER", "FIRST", "FOLLOWING", "FOR", "GENERATED", "GLOB",
    "GROUPS", "IF", "IGNORE", "IMMEDIATE", "INDEXED", "INITIALLY", "INSTEAD", "KEY", "LAST", "LIKE",
    "MATCH", "MATERIALIZED", "NO", "NULLS", "OF", "OFFSET", "OTHERS", "OVER", "PARTITION", "PLAN",
    "PRAGMA", "PRECEDING", "QUERY", "RAISE", "RANGE", "RECURSIVE", "REGEXP", "REINDEX", "RELEASE",
    "RENAME", "REPLACE", "RESTRICT", "ROLLBACK", "ROW", "ROWS", "SAVEPOINT", "TEMP", "TEMPORARY",
    "TIES", "TRIGGER", "UNBOUNDED", "VACUUM", "VIEW", "VIRTUAL", "WINDOW", "WITH", "WITHOUT"]

/-- A bare word is a name in every place where names stand. -/
def isFreeWord (s : String) : Bool :=
  let upper := s.map Char.toUpper
  !reservedWords.contains upper && !joinWords.contains upper && upper != "INDEXED"

/-- A bare word is a name where a name must stand. -/
def isNameWord (s : String) : Bool :=
  !reservedWords.contains (s.map Char.toUpper)

/-- The word belongs to the language. -/
def isKeyword (s : String) : Bool :=
  let upper := s.map Char.toUpper
  reservedWords.contains upper || joinWords.contains upper || flexibleWords.contains upper

/-- A name in quotation marks, unless it can stand bare. -/
def bareOrQuoted (s : String) : String :=
  let isPlain := s.toList.all fun c => c.isAlphanum || c == '_'
  if s.isEmpty || s.toList.head?.any Char.isDigit || !isPlain || isKeyword s then
    "\"" ++ String.ofList (s.toList.flatMap fun c => if c == '"' then ['"', '"'] else [c]) ++ "\""
  else s

/-- The name is kept for the database's own tables. -/
def isInternalName (s : String) : Bool :=
  "sqlite_".toList.isPrefixOf (foldName s).toList

/-- The names of a row's number, where no column has them. -/
def isRowNumberName (s : String) : Bool :=
  ["rowid", "_rowid_", "oid"].contains (foldName s)

/-- A name as it stands in a statement. -/
structure Name where
  text : String
  /-- The characters it was written in. -/
  written : String := text
  /-- The number of its lexeme. -/
  place : Nat := 0
deriving DecidableEq, Inhabited

namespace Name

/-- The names are the same. -/
def isSame (a b : Name) : Bool :=
  sameName a.text b.text

/-- The name is one of some. -/
def isIn (a : Name) (names : List String) : Bool :=
  names.any (sameName a.text)

/-- The name stands between quotation marks. -/
def isInQuotationMarks (a : Name) : Bool :=
  a.written.toList.head? == some '"'

end Name

/-- The name of a table or the like, with the database before it if there is one. -/
structure ObjectName where
  database : Option Name := none
  name : Name
deriving DecidableEq, Inhabited

namespace ObjectName

/-- The parts of the name. -/
def path (n : ObjectName) : List String :=
  n.database.toList.map (·.text) ++ [n.name.text]

end ObjectName

end SchemaEvolution.Database
