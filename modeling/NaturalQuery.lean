import NaturalQuery.Json.Value
import NaturalQuery.Decimal.Binary
import NaturalQuery.Decimal.Shortest
import NaturalQuery.Decimal.Notation
import NaturalQuery.Decimal.Round
import NaturalQuery.Json.Write
import NaturalQuery.Json.Read
import NaturalQuery.Text.Ranges
import NaturalQuery.Text.Blank
import NaturalQuery.Text.Digit
import NaturalQuery.Text.Word
import NaturalQuery.Text.Cased
import NaturalQuery.Text.LowerTable
import NaturalQuery.Text.Lower
import NaturalQuery.Text.Clean
import NaturalQuery.Failure
import NaturalQuery.Time.Calendar
import NaturalQuery.Time.Rule
import NaturalQuery.Time.Zone
import NaturalQuery.Time.ZoneData
import NaturalQuery.Time.Moment
import NaturalQuery.Time.Local
import NaturalQuery.Time.Iso
import NaturalQuery.Entity
import NaturalQuery.Query.Basic
import NaturalQuery.Query.Check
import NaturalQuery.Vocabulary
import NaturalQuery.Text.Scan
import NaturalQuery.Period
import NaturalQuery.Detect.Entity
import NaturalQuery.Detect.Status
import NaturalQuery.Detect.Name
import NaturalQuery.Detect.Sort
import NaturalQuery.Detect.Limit
import NaturalQuery.Detect.Aggregation
import NaturalQuery.Amount
import NaturalQuery.Time.Stamp
import NaturalQuery.Query.Read
import NaturalQuery.Score
import NaturalQuery.Text.Printable
import NaturalQuery.Text.Literal
import NaturalQuery.Describe
import NaturalQuery.Validation
import NaturalQuery.Interpret
import NaturalQuery.EnvFile
import NaturalQuery.Settings
import NaturalQuery.Cli
import NaturalQuery.Main
import NaturalQuery.Proofs.Calendar
import NaturalQuery.Proofs.Seasons
import NaturalQuery.Proofs.Clock
import NaturalQuery.Proofs.LocalClock
import NaturalQuery.Proofs.Window
import NaturalQuery.Proofs.Checks
import NaturalQuery.Proofs.Detection
import NaturalQuery.Proofs.Interpretation
import NaturalQuery.Proofs.Findings
import NaturalQuery.Proofs.FindingOrder
import NaturalQuery.Proofs.CommandLine
import NaturalQuery.Proofs.Reading
import NaturalQuery.Proofs.Days
import NaturalQuery.Proofs.Placement
import NaturalQuery.Proofs.Containment
import NaturalQuery.Proofs.Agreement
import NaturalQuery.Proofs.Tiling
import NaturalQuery.Proofs.LongestKeyword
import NaturalQuery.Proofs.Characters
import NaturalQuery.Proofs.Cleaning
import NaturalQuery.Proofs.AmountTokens
import NaturalQuery.Proofs.AmountRange
import NaturalQuery.Proofs.RangeLaw
import NaturalQuery.Proofs.AmountReading
import NaturalQuery.Proofs.NameMention
