import Probing.Json.Reader
import Probing.Log.Call
import Probing.Main
import Probing.Proofs.Condition.Grammar
import Probing.Proofs.Condition.Reading
import Probing.Proofs.Number.Whole
import Probing.Proofs.OutcomeMap.Layout
import Probing.Proofs.OutcomeMap.Window
import Probing.Proofs.Condition.Satisfaction
import Probing.Proofs.Tracker.Update
import Probing.Proofs.OutcomeMap.Supply
import Probing.Proofs.OutcomeMap.Arrangement
import Probing.Proofs.OutcomeMap.Requests
import Probing.Proofs.OutcomeMap.Ladder
import Probing.Proofs.OutcomeMap.Characters
import Probing.Proofs.Tracker.Recount
import Probing.Proofs.Tracker.Records
import Probing.Proofs.Session.Stop
import Probing.Proofs.Session.Course
import Probing.Proofs.Settings.Loading
import Probing.Proofs.Services.Startup
import Probing.Proofs.Command.Preparation
import Probing.Proofs.Command.ExitCode
import Probing.Proofs.Command.Replay
import Probing.Proofs.Command.Diagnostics
import Probing.Proofs.Tracker.Erasure
import Probing.Proofs.Tracker.Interruption
import Probing.Proofs.Session.Reuse
import Probing.Proofs.Report.Shape
import Probing.Proofs.Command.ReportLine
import Probing.Proofs.Command.Characters
import Probing.Proofs.Condition.Rejection
import Probing.Proofs.Number.Decimal
import Probing.Proofs.Condition.Description
import Probing.Proofs.Condition.Mirror
import Probing.Proofs.Command.Account
import Probing.Proofs.Command.Continuation
import Probing.Proofs.Command.Description
import Probing.Proofs.Command.Mirror
import Probing.Proofs.Condition.Concatenation
import Probing.Proofs.Condition.Progress
import Probing.Proofs.Outcome.Pattern
import Probing.Proofs.Session.Strictness
import Probing.Proofs.Number.ReadBack
import Probing.Proofs.Report.Decoding
