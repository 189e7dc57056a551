import TenantReports.Catalog.SourceJson
import TenantReports.Cells.Stored
import TenantReports.Cli.Memory
import TenantReports.Main
import TenantReports.Proofs.Compile.Isolation
import TenantReports.Proofs.Compile.Totality
import TenantReports.Proofs.Compile.Values
import TenantReports.Proofs.Compile.Readable
import TenantReports.Proofs.Sql.Quoting
import TenantReports.Proofs.Process.Operations
import TenantReports.Proofs.Validation.Completeness
import TenantReports.Text.Uuid
import TenantReports.Proofs.Scheduling.Timeliness
import TenantReports.Proofs.Reports.Coherence
import TenantReports.Proofs.Scheduling.Steps
import TenantReports.Proofs.Store.Records
import TenantReports.Proofs.Store.Defaults
import TenantReports.Proofs.Reports.Defaults
import TenantReports.Proofs.Scheduling.Stages
import TenantReports.Proofs.Scheduling.Serial
import TenantReports.Proofs.Scheduling.Stops
import TenantReports.Proofs.Scheduling.Recovery
import TenantReports.Proofs.Tenants.Isolation
import TenantReports.Proofs.Compile.Conditions
import TenantReports.Proofs.Compile.Vocabulary
import TenantReports.Proofs.Run.Exports
import TenantReports.Proofs.Reports.Together
import TenantReports.Proofs.Recurrence.Least
import TenantReports.Proofs.Compile.Contains
import TenantReports.Proofs.Compile.Narrowing
import TenantReports.Proofs.Reports.Saving
import TenantReports.Proofs.Validation.OutputNames
import TenantReports.Proofs.Compile.Selection
import TenantReports.Proofs.Sql.Escapes
import TenantReports.Proofs.Compile.Searches
import TenantReports.Proofs.Time.Stamps
import TenantReports.Proofs.Compile.WholeDays
import TenantReports.Proofs.Report.ReadBack
import TenantReports.Proofs.Compile.OrderNames
import TenantReports.Proofs.Run.RowCaps
import TenantReports.Proofs.Reports.Versions
import TenantReports.Proofs.Scheduling.ByTime
import TenantReports.Proofs.Export.Records
import TenantReports.Proofs.Export.Paths
import TenantReports.Proofs.Advice.Indexes
import TenantReports.Proofs.Compile.Growth
import TenantReports.Proofs.Validation.Limits
import TenantReports.Proofs.Validation.Order
import TenantReports.Proofs.Run.Faults
import TenantReports.Proofs.Settings.Expansion
import TenantReports.Proofs.Cells.Amounts
