import Sentinels.CommandLine
import Sentinels.Config.Reader
import Sentinels.Extraction
import Sentinels.FileTree
import Sentinels.Listing
import Sentinels.Main
import Sentinels.Report
import Sentinels.Proofs.Extraction.GroupBy
import Sentinels.Proofs.Block.Recognition
import Sentinels.Proofs.CharSet
import Sentinels.Proofs.RoundTrip
import Sentinels.Proofs.Pattern.Progress
import Sentinels.Proofs.Substitution
import Sentinels.Proofs.Listing.Functions
import Sentinels.Proofs.Block.Seam
import Sentinels.Proofs.Concatenation
import Sentinels.Proofs.LineEnd.Text
import Sentinels.Proofs.LineEnd.Document
import Sentinels.Proofs.LineEnd.Block
import Sentinels.Proofs.Extraction.Rename
import Sentinels.Proofs.LineEnd
import Sentinels.Proofs.Decimal
import Sentinels.Proofs.Listing.Recovery
import Sentinels.Proofs.Listing.Terminator
import Sentinels.Proofs.CommandLine
import Sentinels.Proofs.Config.Reader
import Sentinels.Proofs.Document.Segment
import Sentinels.Proofs.Sentinel.Rule
import Sentinels.Proofs.Utf8.Sequence
import Sentinels.Proofs.Utf8.Split
import Sentinels.Proofs.NormalForm.Control
import Sentinels.Proofs.Normalization
import Sentinels.Proofs.Json.Integer
import Sentinels.Proofs.Config.Terminator
import Sentinels.Proofs.Config.List
import Sentinels.Proofs.Demand
import Sentinels.Proofs.Pattern.Openings
