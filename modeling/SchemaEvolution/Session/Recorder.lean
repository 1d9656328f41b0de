import SchemaEvolution.Session.Basic

/-!
# Recording sessions

A recording session writes down the text of every statement instead of sending it anywhere.  It can
be given rows for statements that begin in some way; any other statement returns none.
-/

namespace SchemaEvolution

/-- A text begins with another one. -/
def beginsWith (text opening : String) : Bool :=
  opening.toList.isPrefixOf text.toList

/-- Rows for the statements that begin in some way. -/
structure Response where
  opening : String
  rows : List Row

namespace Session

/-- The rows of the first response that fits a statement, or none (`respond`). -/
def responseTo (responses : List Response) (sql : String) : List Row :=
  match responses.find? fun r => beginsWith sql r.opening with
  | some response => response.rows
  | none => []

/-- A session whose state is the list of statements called so far (`RecordingSession`). -/
def recording (d : Dialect) (responses : List Response) : Session (List String) where
  dialect := d
  call s log :=
    let sql := d.render s
    (.ok (responseTo responses sql), log ++ [sql])

end Session

end SchemaEvolution
