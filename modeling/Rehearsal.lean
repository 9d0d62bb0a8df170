import Rehearsal.Action
import Rehearsal.Action.Payload
import Rehearsal.Action.Reading
import Rehearsal.Action.Registry
import Rehearsal.Action.Request
import Rehearsal.Address
import Rehearsal.Address.Host
import Rehearsal.Address.Mention
import Rehearsal.Browser.Locating
import Rehearsal.Browser.Page
import Rehearsal.Browser.Service
import Rehearsal.Browser.Stability
import Rehearsal.Decimal.Binary
import Rehearsal.Decimal.Fixed
import Rehearsal.Decimal.Numeral
import Rehearsal.Decimal.Shortest
import Rehearsal.Decimal.Whole
import Rehearsal.Failure
import Rehearsal.Files
import Rehearsal.Files.Path
import Rehearsal.Hints
import Rehearsal.Json
import Rehearsal.Play
import Rehearsal.Popup
import Rehearsal.Proofs.ActionCourse
import Rehearsal.Proofs.ActionsCourse
import Rehearsal.Proofs.Announcements
import Rehearsal.Proofs.BrowserDeeds
import Rehearsal.Proofs.CaptureFiles
import Rehearsal.Proofs.CaptureNames
import Rehearsal.Proofs.CapturePoints
import Rehearsal.Proofs.CurrentPage
import Rehearsal.Proofs.Deeds
import Rehearsal.Proofs.Diagnosis
import Rehearsal.Proofs.Exchanges
import Rehearsal.Proofs.FileNames
import Rehearsal.Proofs.FilePlaces
import Rehearsal.Proofs.ListedAddresses
import Rehearsal.Proofs.Listening
import Rehearsal.Proofs.LoopCalls
import Rehearsal.Proofs.LoopCondition
import Rehearsal.Proofs.LoopCourse
import Rehearsal.Proofs.Marks
import Rehearsal.Proofs.MarkupRetrieval
import Rehearsal.Proofs.Noticing
import Rehearsal.Proofs.PageAges
import Rehearsal.Proofs.PageLimits
import Rehearsal.Proofs.PageSuccession
import Rehearsal.Proofs.PopupBaseline
import Rehearsal.Proofs.PopupPriority
import Rehearsal.Proofs.PopupReturn
import Rehearsal.Proofs.PopupSignals
import Rehearsal.Proofs.Raises
import Rehearsal.Proofs.RecordedImages
import Rehearsal.Proofs.RunBalance
import Rehearsal.Proofs.RunCourse
import Rehearsal.Proofs.RunDeeds
import Rehearsal.Proofs.RunFiles
import Rehearsal.Proofs.RunLedger
import Rehearsal.Proofs.RunOutcome
import Rehearsal.Proofs.RunPrefix
import Rehearsal.Proofs.RunReplies
import Rehearsal.Proofs.SessionEnds
import Rehearsal.Proofs.SettingsSources
import Rehearsal.Proofs.SingleClick
import Rehearsal.Proofs.TargetDeeds
import Rehearsal.Proofs.WaitSpans
import Rehearsal.Proofs.Waiting
import Rehearsal.Proofs.WireForm
import Rehearsal.Proofs.Within
import Rehearsal.Run
import Rehearsal.Screenshot.Label
import Rehearsal.Screenshot.Ledger
import Rehearsal.Screenshot.Record
import Rehearsal.Screenshot.Store
import Rehearsal.Selector
import Rehearsal.Selector.Fallback
import Rehearsal.Selector.Predicate
import Rehearsal.Server
import Rehearsal.Server.Route
import Rehearsal.Session
import Rehearsal.Session.Endpoint
import Rehearsal.Session.Launch
import Rehearsal.Settings
import Rehearsal.Settings.Loading
import Rehearsal.Settings.Override
import Rehearsal.Settings.Reading
import Rehearsal.Site
import Rehearsal.Stage
import Rehearsal.Stage.Call
import Rehearsal.Stage.Effects
import Rehearsal.Stage.Page
import Rehearsal.Stage.Watch
import Rehearsal.Stage.Watching
import Rehearsal.Target.Clicking
import Rehearsal.Target.Field
import Rehearsal.Target.Looping
import Rehearsal.Text.Blank
import Rehearsal.Text.Bytes
import Rehearsal.Text.Case
import Rehearsal.Text.Cut
import Rehearsal.Text.Digit
import Rehearsal.Text.Encoding
import Rehearsal.Text.Printable
import Rehearsal.Text.Quoted
import Rehearsal.Text.Word
import Rehearsal.Time.Clock
import Rehearsal.Time.Date
import Rehearsal.Time.Moment
import Rehearsal.Time.Temporal
import Rehearsal.Toml.Document
import Rehearsal.Toml.Fault
import Rehearsal.Toml.Number
import Rehearsal.Toml.Text
import Rehearsal.Validation.Fault
import Rehearsal.Validation.Reading
import Rehearsal.Value
import Rehearsal.Proofs.FileTrees
import Rehearsal.Proofs.StoredImages
import Rehearsal.Proofs.ImageReplies
import Rehearsal.Proofs.SoundReplies
import Rehearsal.Proofs.AttributeSelectors
import Rehearsal.Proofs.RegistryMemory
import Rehearsal.Proofs.ClickCourse
import Rehearsal.Proofs.Dispatch
import Rehearsal.Proofs.HintSources
import Rehearsal.Proofs.PathPredicates
import Rehearsal.Proofs.AccountEntry
import Rehearsal.Proofs.ExactClock
import Rehearsal.Proofs.PopupBudget
import Rehearsal.Proofs.LaunchFailure
import Rehearsal.Proofs.EndpointProbe
import Rehearsal.Proofs.Doubles
import Rehearsal.Proofs.EndlessRuns
import Rehearsal.Proofs.PopupWindows
import Rehearsal.Proofs.CalendarDays
import Rehearsal.Proofs.DateText
import Rehearsal.Proofs.DatedLoops
