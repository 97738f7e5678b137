import AccessFix.Extension.Several
import AccessFix.Main
import AccessFix.Proofs.CommandLine.Emitted
import AccessFix.Proofs.CommandLine.Handed
import AccessFix.Proofs.Completion.Answers
import AccessFix.Proofs.Completion.Body
import AccessFix.Proofs.Completion.Content
import AccessFix.Proofs.Config.Blank
import AccessFix.Proofs.Document.Reached
import AccessFix.Proofs.Document.Reopened
import AccessFix.Proofs.Document.Separated
import AccessFix.Proofs.Edit.Locality
import AccessFix.Proofs.Edit.Order
import AccessFix.Proofs.Edit.Rollback
import AccessFix.Proofs.Edit.Shared
import AccessFix.Proofs.Extension.Lifecycle
import AccessFix.Proofs.Extension.Order
import AccessFix.Proofs.Findings.Mapping
import AccessFix.Proofs.Findings.Ranges
import AccessFix.Proofs.IssueStore.History
import AccessFix.Proofs.IssueStore.Shared
import AccessFix.Proofs.Reply.Patterns
import AccessFix.Proofs.Reply.Written
import AccessFix.Proofs.Secrecy
