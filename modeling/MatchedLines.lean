import MatchedLines.Command.Reading
import MatchedLines.Command.Words
import MatchedLines.Main
import MatchedLines.Options.Items
import MatchedLines.Proofs.DryRun
import MatchedLines.Proofs.ExitCodes
import MatchedLines.Proofs.InputFailure
import MatchedLines.Proofs.InputIndependence
import MatchedLines.Proofs.Notices
import MatchedLines.Proofs.RunCoverage
import MatchedLines.Proofs.RunPrefix
import MatchedLines.Proofs.SearchOutputRoundTrip
import MatchedLines.Proofs.Verbosity
import MatchedLines.Request.Grouping
import MatchedLines.SearchOutput
import MatchedLines.Proofs.WellFormedCalls
import MatchedLines.Proofs.FailureReports
import MatchedLines.Proofs.ColourPresentation
import MatchedLines.Proofs.FileOperands
import MatchedLines.Proofs.ShellReading
import MatchedLines.Proofs.Utf8Fields
import MatchedLines.Proofs.RawPaths
import MatchedLines.Proofs.LineCutting
import MatchedLines.Proofs.QuotingRoundTrip
import MatchedLines.Proofs.StableGrouping
import MatchedLines.Proofs.FileExtensions
import MatchedLines.Proofs.OptionLanguage
