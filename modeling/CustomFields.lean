import CustomFields.Main
import CustomFields.Http.Server
import CustomFields.Metrics.Exposition
import CustomFields.Settings.Layers
import CustomFields.Proofs.Decimal.Notation
import CustomFields.Proofs.Validation.Blocks
import CustomFields.Proofs.Json.Printer
import CustomFields.Proofs.Schema.CanonicalText
import CustomFields.Proofs.Data.Entries
import CustomFields.Proofs.Data.Program
import CustomFields.Proofs.Json.Decoder
import CustomFields.Proofs.Schema.Check
import CustomFields.Proofs.Service.Accesses
import CustomFields.Proofs.Service.Calls
import CustomFields.Proofs.Service.Runs
import CustomFields.Proofs.Service.ConfigUpdates
import CustomFields.Proofs.Service.RecordWrites
import CustomFields.Proofs.Validation.Meaning
import CustomFields.Proofs.Http.Tenants
import CustomFields.Proofs.Store.Linearization
import CustomFields.Proofs.Service.Writes
import CustomFields.Proofs.Service.Surfaces
import CustomFields.Proofs.Validation.Structural
import CustomFields.Proofs.Validation.Footprint
import CustomFields.Proofs.Store.RoundTrip
import CustomFields.Proofs.Service.Accounting
import CustomFields.Proofs.Calendar.IsoText
import CustomFields.Proofs.Http.Envelope
import CustomFields.Proofs.Http.Writes
import CustomFields.Proofs.Rule.Parameters
import CustomFields.Proofs.Rule.References
import CustomFields.Proofs.Store.Pages
import CustomFields.Proofs.Schema.Faults
import CustomFields.Proofs.Validation.CacheSharing
import CustomFields.Proofs.CommandLine.SchemaChecks
import CustomFields.Proofs.Settings.Layers
import CustomFields.Proofs.Rule.Registrations
import CustomFields.Proofs.Rule.Integers
import CustomFields.Proofs.Rule.DigitGroups
import CustomFields.Proofs.Store.Scans
import CustomFields.Proofs.Calendar.Safety
