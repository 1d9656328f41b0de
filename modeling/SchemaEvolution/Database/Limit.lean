/-!
# Limits

How much of something a statement may have.  The limits on what a text says are found while it is
read, and the others when its meaning is found.
-/

namespace SchemaEvolution.Database

/-- The greatest depth of an expression. -/
def mostDepth : Nat := 1000

/-- The greatest number of arguments of a function. -/
def mostArguments : Nat := 127

/-- The greatest number of sources that stand side by side. -/
def mostSources : Nat := 200

/-- The greatest number of selections that a query consists of. -/
def mostSelections : Nat := 500

/-- The greatest number of columns of a table, an index, or a result. -/
def mostColumns : Nat := 2000

/-- The greatest number of sources whose rows are joined. -/
def mostJoined : Nat := 64

end SchemaEvolution.Database
