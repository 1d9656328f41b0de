import SchemaEvolution.Change.Preview
import SchemaEvolution.Main
import SchemaEvolution.Proofs.ColumnIndexes
import SchemaEvolution.Proofs.Conduct
import SchemaEvolution.Proofs.Declarations
import SchemaEvolution.Proofs.Entries
import SchemaEvolution.Proofs.Equality
import SchemaEvolution.Proofs.History
import SchemaEvolution.Proofs.Influence
import SchemaEvolution.Proofs.Literals
import SchemaEvolution.Proofs.Neighbours
import SchemaEvolution.Proofs.Previews
import SchemaEvolution.Proofs.QualifiedNames
import SchemaEvolution.Proofs.Quotes
import SchemaEvolution.Proofs.Race
import SchemaEvolution.Proofs.RealLiterals
import SchemaEvolution.Proofs.Recovery
import SchemaEvolution.Proofs.Rehearsal
import SchemaEvolution.Proofs.TimeForms
import SchemaEvolution.Proofs.Timestamps
import SchemaEvolution.Session.Interception
