import GovernanceDesk.Api.Server
import GovernanceDesk.Main
import GovernanceDesk.Proofs.Action.Visible
import GovernanceDesk.Proofs.Api.Confirmation
import GovernanceDesk.Proofs.Api.LostUpdates
import GovernanceDesk.Proofs.Api.Notifications
import GovernanceDesk.Proofs.Form.Dispatch
import GovernanceDesk.Proofs.Form.Phases
import GovernanceDesk.Proofs.Form.Refused
import GovernanceDesk.Proofs.Recipients
import GovernanceDesk.Proofs.Store.FeedbackGrowth
import GovernanceDesk.Proofs.Store.History
import GovernanceDesk.Proofs.Store.Independence
import GovernanceDesk.Proofs.Store.LcidAllocation
import GovernanceDesk.Proofs.Store.LcidExpiry
import GovernanceDesk.Proofs.Store.Outcome
import GovernanceDesk.Proofs.Store.Reordered
import GovernanceDesk.Proofs.Store.Reused
import GovernanceDesk.Proofs.TaskList.Decided
import GovernanceDesk.Proofs.Tree.Reading
import GovernanceDesk.Proofs.TaskList.Requested
import GovernanceDesk.Proofs.Cli.Lines
import GovernanceDesk.Proofs.FrontEnds.Asking
import GovernanceDesk.Proofs.FrontEnds.Feedback
import GovernanceDesk.Proofs.FrontEnds.Requests
import GovernanceDesk.Proofs.Calendar.Years
import GovernanceDesk.Proofs.Files.Paths
import GovernanceDesk.Proofs.Store.Confined
import GovernanceDesk.Proofs.Calendar.Typed
import GovernanceDesk.Proofs.Form.Dates
import GovernanceDesk.Proofs.Text.Margins
import GovernanceDesk.Proofs.FrontEnds.Candidates
