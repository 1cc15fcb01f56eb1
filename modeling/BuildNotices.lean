import BuildNotices.Main
import BuildNotices.Proofs.Classification
import BuildNotices.Proofs.Delivery.Acceptance
import BuildNotices.Proofs.Delivery.Address
import BuildNotices.Proofs.Delivery.Document
import BuildNotices.Proofs.Delivery.FanOut
import BuildNotices.Proofs.Delivery.Message
import BuildNotices.Proofs.Delivery.Request
import BuildNotices.Proofs.Json.Pretty
import BuildNotices.Proofs.Notification.Summary
import BuildNotices.Proofs.Notifier.AdHoc
import BuildNotices.Proofs.Notifier.Call
import BuildNotices.Proofs.Notifier.Card
import BuildNotices.Proofs.Notifier.Equivalence
import BuildNotices.Proofs.Notifier.Message
import BuildNotices.Proofs.Notifier.Policy
import BuildNotices.Proofs.Program.Event
import BuildNotices.Proofs.Program.Send
import BuildNotices.Proofs.Template.Blank
import BuildNotices.Proofs.Template.Modifier
import BuildNotices.Proofs.Template.Piece
import BuildNotices.Proofs.Template.Reference
import BuildNotices.Proofs.Template.Resolution
import BuildNotices.Proofs.Text.Dictionary
import BuildNotices.Proofs.Url.Escape
import BuildNotices.Proofs.Url.Form
import BuildNotices.Proofs.Url.Path
import BuildNotices.Proofs.Url.Segment
import BuildNotices.Proofs.Variables.Listing
import BuildNotices.Proofs.Variables.Reading
import BuildNotices.Proofs.Variables.Reserved
import BuildNotices.Proofs.Delivery.Form
import BuildNotices.Proofs.Template.Commit
import BuildNotices.Proofs.Config.Redaction
import BuildNotices.Proofs.Toml.Number
import BuildNotices.Proofs.Toml.Text
import BuildNotices.Proofs.Toml.Document
import BuildNotices.Proofs.Toml.Bounded
import BuildNotices.Proofs.Config.Reading
import BuildNotices.Proofs.Config.Shown
import BuildNotices.Proofs.Template.Untouched
import BuildNotices.Proofs.Variables.ChangeOrder
import BuildNotices.Proofs.Delivery.Server
import BuildNotices.Proofs.Delivery.Room
import BuildNotices.Proofs.Delivery.Truncation
import BuildNotices.Proofs.Notification.Table
import BuildNotices.Proofs.Time.Span
import BuildNotices.Proofs.Config.EmptyServer
import BuildNotices.Proofs.Notifier.BlankToken
import BuildNotices.Proofs.Notification.Lines
import BuildNotices.Proofs.Run.RoundTrip
import BuildNotices.Proofs.Delivery.Retry
import BuildNotices.Proofs.Variables.Counts
import BuildNotices.Proofs.Variables.Address
import BuildNotices.Proofs.Config.Files
import BuildNotices.Proofs.Template.Exchange
import BuildNotices.Proofs.Template.Flag
