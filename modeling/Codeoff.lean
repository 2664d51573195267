import Codeoff.Channel.Theorems.DeliveryStatus
import Codeoff.Channel.Theorems.EventQueue
import Codeoff.Channel.Theorems.ProcessingStream
import Codeoff.Codex.Theorems.FinalAnswer
import Codeoff.Codex.Theorems.HttpDecoder
import Codeoff.Codex.Theorems.IsolationAuthority
import Codeoff.Codex.Theorems.IsolationPermit
import Codeoff.Codex.Theorems.PolicyTools
import Codeoff.Codex.Theorems.PreviousSuccess
import Codeoff.Codex.Theorems.PromptBudget
import Codeoff.Core.Theorems.Retry
import Codeoff.Mcp.Theorems.Server
import Codeoff.Runtime.Theorems.DeliveryRoute
import Codeoff.Runtime.Theorems.ExecutorSession
import Codeoff.Runtime.Theorems.FrameRelay
import Codeoff.Runtime.Theorems.ScheduleService
import Codeoff.Runtime.Theorems.SignedFormats
import Codeoff.Runtime.Theorems.SilentRun
import Codeoff.Runtime.Theorems.StartWrite
import Codeoff.Serve.Theorems.FeedbackEnds
import Codeoff.Serve.Theorems.ReplyReaches
import Codeoff.Serve.Theorems.ReplySurvives
import Codeoff.Serve.Theorems.StatusCleared
import Codeoff.Serve.Theorems.StatusRetired
import Codeoff.Slack.Theorems.Delivery
import Codeoff.Slack.Theorems.Intake
import Codeoff.Slack.Theorems.Redaction
import Codeoff.Slack.Theorems.ScheduledDelivery
import Codeoff.Slack.Theorems.Shutdown
import Codeoff.Slack.Theorems.WebApi
import Codeoff.State.Theorems.ActiveJobs
import Codeoff.State.Theorems.AttestedCapability
import Codeoff.State.Theorems.DailyCadence
import Codeoff.State.Theorems.DeliverySafety
import Codeoff.State.Theorems.Execution
import Codeoff.State.Theorems.Framing
import Codeoff.State.Theorems.Idempotency
import Codeoff.State.Theorems.OperatorRetry
import Codeoff.State.Theorems.Permits
import Codeoff.State.Theorems.RunHistory
import Codeoff.Runtime.Theorems.ExecutionFate
import Codeoff.Runtime.Theorems.StartBoundary
