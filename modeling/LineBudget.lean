import LineBudget.Json.Reader
import LineBudget.Main
import LineBudget.Message.Argument
import LineBudget.Progress.Screen
import LineBudget.Proofs.Line.Coverage
import LineBudget.Proofs.Files.Archive
import LineBudget.Proofs.Command.Examine
import LineBudget.Proofs.Count.Content
import LineBudget.Proofs.Analysis.Tally
import LineBudget.Proofs.Config.Validity
import LineBudget.Proofs.Command.Stages
import LineBudget.Proofs.Config.Load
import LineBudget.Proofs.Command.Ending
import LineBudget.Proofs.Scan.Target
import LineBudget.Proofs.Command.Links
import LineBudget.Proofs.Command.Misconfiguration
import LineBudget.Proofs.Command.Flags
import LineBudget.Proofs.Command.Excluding
import LineBudget.Proofs.Command.Presentation
import LineBudget.Proofs.Command.Unseen
import LineBudget.Proofs.Command.Location
import LineBudget.Proofs.Count.Stripping
import LineBudget.Proofs.Progress.Batch
import LineBudget.Proofs.Line.Syntax
import LineBudget.Proofs.Count.Filled
import LineBudget.Proofs.Command.Verdict
import LineBudget.Proofs.Command.Loosening
import LineBudget.Proofs.Command.Accepted
import LineBudget.Proofs.Config.Document
import LineBudget.Proofs.Scan.Barred
import LineBudget.Proofs.Command.Unscanned
import LineBudget.Proofs.Config.Patterns
import LineBudget.Proofs.Language.Table
import LineBudget.Proofs.Message.Filling
import LineBudget.Proofs.Problem.Wording
import LineBudget.Proofs.Command.Init
import LineBudget.Proofs.Files.Drafting
import LineBudget.Proofs.Count.Blank
