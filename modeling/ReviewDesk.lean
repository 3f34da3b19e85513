import ReviewDesk.Json.Printer
import ReviewDesk.Report.Plain
import ReviewDesk.Startup
import ReviewDesk.Page.Folder
import ReviewDesk.Web.Route
import ReviewDesk.Proofs.Java.MissingReturn
import ReviewDesk.Proofs.Java.Seam
import ReviewDesk.Proofs.Shelf.History
import ReviewDesk.Proofs.Review.Answers
import ReviewDesk.Proofs.Review.Sources
import ReviewDesk.Proofs.Reply.RoundTrip
import ReviewDesk.Proofs.Analysis.Concatenation
import ReviewDesk.Proofs.Analysis.Mending
import ReviewDesk.Proofs.Analysis.Padding
import ReviewDesk.Proofs.Analysis.Placement
import ReviewDesk.Proofs.Page.Assembly
import ReviewDesk.Proofs.Page.IssueBlocks
import ReviewDesk.Proofs.Status.Probes
import ReviewDesk.Proofs.Web.Download
import ReviewDesk.Proofs.Web.Shelving
import ReviewDesk.Proofs.Review.Consistency
import ReviewDesk.Proofs.Report.Injective
import ReviewDesk.Proofs.Reply.Classification
import ReviewDesk.Proofs.Schema.Faults
import ReviewDesk.Proofs.Reply.Dropping
import ReviewDesk.Proofs.Schema.Normalisation
import ReviewDesk.Proofs.Java.EndlessLoop
import ReviewDesk.Proofs.Analysis.DetectionOrder
import ReviewDesk.Proofs.Status.Agreement
import ReviewDesk.Proofs.Java.ClosingBrace
import ReviewDesk.Proofs.Download.FileName
import ReviewDesk.Proofs.Reply.Scoring
import ReviewDesk.Proofs.Report.Grouping
import ReviewDesk.Proofs.Source.Splitting
import ReviewDesk.Proofs.Source.Calls
import ReviewDesk.Proofs.Java.Tracking
import ReviewDesk.Proofs.Number.Spelling
import ReviewDesk.Proofs.Settings.Reading
