import TableGateway.Client.Driver
import TableGateway.Error.Build
import TableGateway.Gateway
import TableGateway.Journal.Method
import TableGateway.Outcome
import TableGateway.Proofs.Accounting
import TableGateway.Proofs.Balance
import TableGateway.Proofs.Blanks
import TableGateway.Proofs.ConnectionStrings
import TableGateway.Proofs.Custody
import TableGateway.Proofs.Entries
import TableGateway.Proofs.Execution
import TableGateway.Proofs.Isolation
import TableGateway.Proofs.Openings
import TableGateway.Proofs.Origins
import TableGateway.Proofs.Placeholders
import TableGateway.Proofs.QuotedNames
import TableGateway.Proofs.Recorded
import TableGateway.Proofs.Reflected
import TableGateway.Proofs.Refusals
import TableGateway.Proofs.RowLimits
import TableGateway.Proofs.Sent
import TableGateway.Proofs.Sessions
import TableGateway.Proofs.Sources
import TableGateway.Proofs.Texts
import TableGateway.Text.Delimited
import TableGateway.Value.Arithmetic
import TableGateway.Proofs.Services
import TableGateway.Proofs.Untouched
import TableGateway.Proofs.Places
import TableGateway.Proofs.Courses
import TableGateway.Proofs.Tables
import TableGateway.Proofs.Registrations
import TableGateway.Proofs.Teardowns
import TableGateway.Proofs.OneTable
import TableGateway.Proofs.Reported
import TableGateway.Proofs.RawConnections
import TableGateway.Proofs.Uncommitted
import TableGateway.Proofs.Scopes
import TableGateway.Proofs.Pairs
import TableGateway.Proofs.PairedServices
import TableGateway.Proofs.Passwords
import TableGateway.Proofs.Trail
import TableGateway.Proofs.Handover
import TableGateway.Proofs.RowsAndColumns
import TableGateway.Proofs.Unambiguous
import TableGateway.Proofs.Dropping
import TableGateway.Proofs.CheckedOptions
import TableGateway.Proofs.TwoForms
import TableGateway.Proofs.OneRow
import TableGateway.Proofs.BareDescriptions
import TableGateway.Proofs.CatalogRows
import TableGateway.Proofs.LastRows
import TableGateway.Proofs.WrittenSchemas
import TableGateway.Proofs.BadSettings
import TableGateway.Proofs.AddedContext
import TableGateway.Proofs.NamedStates
import TableGateway.Proofs.ToldContext
