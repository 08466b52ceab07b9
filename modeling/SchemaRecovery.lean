import SchemaRecovery.Main
import SchemaRecovery.Proofs.Check.Scoping
import SchemaRecovery.Proofs.Check.Syntax
import SchemaRecovery.Proofs.Document.Data
import SchemaRecovery.Proofs.Document.Modifiers
import SchemaRecovery.Proofs.Layout.Reference
import SchemaRecovery.Proofs.Layout.Siblings
import SchemaRecovery.Proofs.Layout.TextualName
import SchemaRecovery.Proofs.Reading.Document
import SchemaRecovery.Proofs.Recovery.EnumAgreement
import SchemaRecovery.Proofs.Recovery.EnumForms
import SchemaRecovery.Proofs.Recovery.Exports
import SchemaRecovery.Proofs.Recovery.FieldType
import SchemaRecovery.Proofs.Recovery.Filing
import SchemaRecovery.Proofs.Recovery.Joining
import SchemaRecovery.Proofs.Recovery.Lookup
import SchemaRecovery.Proofs.Recovery.Mismatch
import SchemaRecovery.Proofs.Recovery.SharedName
import SchemaRecovery.Proofs.Recovery.TableMembers
import SchemaRecovery.Proofs.Run.Outcome
import SchemaRecovery.Proofs.Run.Session
import SchemaRecovery.Proofs.Schema.Children
import SchemaRecovery.Proofs.Script.Excerpt
import SchemaRecovery.Proofs.Script.Postorder
import SchemaRecovery.Proofs.Text.SourcePatch
