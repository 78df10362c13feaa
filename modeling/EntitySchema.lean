import EntitySchema.Compile.Generate
import EntitySchema.Ddl.Reading
import EntitySchema.Diagram.Loading
import EntitySchema.Proofs.ColumnNames
import EntitySchema.Proofs.ConstraintNames
import EntitySchema.Proofs.Delivery
import EntitySchema.Proofs.EmissionOrder
import EntitySchema.Proofs.Failures
import EntitySchema.Proofs.LocalScope
import EntitySchema.Proofs.PlainKeys
import EntitySchema.Proofs.PrimaryKeys
import EntitySchema.Proofs.Raises
import EntitySchema.Proofs.TriggerNames
import EntitySchema.Report.Console
import EntitySchema.Settings.Sources
import EntitySchema.Proofs.Copy
import EntitySchema.Proofs.Mirroring
import EntitySchema.Proofs.Questions
import EntitySchema.Proofs.Counterparts
import EntitySchema.Proofs.WholeCopies
import EntitySchema.Proofs.Classification
import EntitySchema.Proofs.Direction
import EntitySchema.Proofs.LocalOrder
import EntitySchema.Proofs.Renaming
import EntitySchema.Proofs.Juxtaposition
import EntitySchema.Proofs.Independence
import EntitySchema.Proofs.Rebasing
import EntitySchema.Proofs.TriggerBodies
import EntitySchema.Proofs.StoredAttributes
import EntitySchema.Proofs.Tidying
import EntitySchema.Proofs.TidyingParts
import EntitySchema.Proofs.ProperKeys
import EntitySchema.Proofs.RaisedMessages
import EntitySchema.Proofs.LetterCase
import EntitySchema.Proofs.FirmText
import EntitySchema.Proofs.HarmlessText
import EntitySchema.Proofs.FirmStatements
import EntitySchema.Proofs.WellNamedKeys
import EntitySchema.Proofs.UntidiedScript
import EntitySchema.Proofs.HierarchyTriggers
import EntitySchema.Proofs.BinaryRelationships
import EntitySchema.Proofs.ReferenceTables
import EntitySchema.Proofs.Reservations
import EntitySchema.Proofs.ViewNames
import EntitySchema.Proofs.Indexing
import EntitySchema.Proofs.Ascent
import EntitySchema.Proofs.Machine
import EntitySchema.Key.Naming
import EntitySchema.Proofs.Naming
import EntitySchema.Proofs.Lookups
import EntitySchema.Proofs.CanonicalNames
