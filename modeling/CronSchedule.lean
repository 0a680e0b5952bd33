import CronSchedule.Binary64.Arithmetic
import CronSchedule.Binary64.Basic
import CronSchedule.Binary64.Reading
import CronSchedule.Binary64.Shortest
import CronSchedule.Calendar
import CronSchedule.CommandLine.Arguments
import CronSchedule.CommandLine.Outcome
import CronSchedule.Error
import CronSchedule.Field
import CronSchedule.Field.English
import CronSchedule.Field.Names
import CronSchedule.FieldTexts
import CronSchedule.Horizon
import CronSchedule.Ini.Document
import CronSchedule.Json.Document
import CronSchedule.Json.Number
import CronSchedule.Json5.Document
import CronSchedule.Json5.Scalar
import CronSchedule.LocalTime
import CronSchedule.Main
import CronSchedule.Numeral
import CronSchedule.Options.Basic
import CronSchedule.Options.File
import CronSchedule.Options.FileFormat
import CronSchedule.Options.KeyPath
import CronSchedule.Options.Layers
import CronSchedule.Pattern.Basic
import CronSchedule.Pattern.Canonical
import CronSchedule.Pattern.English
import CronSchedule.Pattern.Matching
import CronSchedule.Pattern.Printing
import CronSchedule.Pattern.Reading
import CronSchedule.Proofs.FieldTexts
import CronSchedule.Proofs.FieldTexts.NormalForm
import CronSchedule.Proofs.LocalTime
import CronSchedule.Proofs.Months
import CronSchedule.Proofs.Numeral
import CronSchedule.Proofs.Outcome
import CronSchedule.Proofs.Pattern.DateFree
import CronSchedule.Proofs.Pattern.Grammar
import CronSchedule.Proofs.Pattern.Meaning
import CronSchedule.Proofs.Pattern.MonthWeeks
import CronSchedule.Proofs.Pattern.NumberList
import CronSchedule.Proofs.Pattern.Reading
import CronSchedule.Proofs.Pattern.RoundTrip
import CronSchedule.Proofs.Pattern.Steps
import CronSchedule.Proofs.Pattern.SundayFirst
import CronSchedule.Proofs.Pattern.WellFormed
import CronSchedule.Proofs.Schedule.Compiled
import CronSchedule.Proofs.Schedule.Description
import CronSchedule.Proofs.Schedule.RoundTrip
import CronSchedule.Proofs.Schedule.WellFormed
import CronSchedule.Proofs.Search.Days
import CronSchedule.Proofs.Search.Direction
import CronSchedule.Proofs.Search.FirstAccepted
import CronSchedule.Proofs.Search.FixedOffset
import CronSchedule.Proofs.Search.Fold
import CronSchedule.Proofs.Search.Gap
import CronSchedule.Proofs.Search.Horizon
import CronSchedule.Proofs.Search.Listing
import CronSchedule.Proofs.Search.Nearest
import CronSchedule.Proofs.Search.Readings
import CronSchedule.Proofs.Search.Run
import CronSchedule.Proofs.Search.Scan
import CronSchedule.Proofs.Search.Shift
import CronSchedule.Proofs.Search.Stride
import CronSchedule.Proofs.Search.Sweep
import CronSchedule.Proofs.Text.Blank
import CronSchedule.Proofs.Text.Uppercase
import CronSchedule.Proofs.Text.WordCharacter
import CronSchedule.Proofs.Years
import CronSchedule.Proofs.Zone.Clock
import CronSchedule.Proofs.Zone.FallBack
import CronSchedule.Proofs.Zone.OtherReading
import CronSchedule.Proofs.Zone.Table
import CronSchedule.Report
import CronSchedule.Ron.Document
import CronSchedule.Ron.Scalar
import CronSchedule.Schedule.Basic
import CronSchedule.Schedule.Description
import CronSchedule.Schedule.Search
import CronSchedule.Setting
import CronSchedule.Text.Blank
import CronSchedule.Text.CodePoints
import CronSchedule.Text.CodeUnits
import CronSchedule.Text.DecimalDigit
import CronSchedule.Text.Hexadecimal
import CronSchedule.Text.Quoted
import CronSchedule.Text.Separated
import CronSchedule.Text.Uppercase
import CronSchedule.Text.WordCharacter
import CronSchedule.Toml.Document
import CronSchedule.Toml.Moment
import CronSchedule.Toml.Node
import CronSchedule.Toml.Scalar
import CronSchedule.Yaml.Block
import CronSchedule.Yaml.Character
import CronSchedule.Yaml.Composition
import CronSchedule.Yaml.Cursor
import CronSchedule.Yaml.Document
import CronSchedule.Yaml.Gap
import CronSchedule.Yaml.Node
import CronSchedule.Yaml.Plain
import CronSchedule.Yaml.Quoted
import CronSchedule.Yaml.Token
import CronSchedule.Yaml.Tokenization
import CronSchedule.Zone.Africa
import CronSchedule.Zone.America
import CronSchedule.Zone.Asia
import CronSchedule.Zone.Basic
import CronSchedule.Zone.Europe
import CronSchedule.Zone.Oceania
import CronSchedule.Zone.Registry
import CronSchedule.Zone.Yearly
import CronSchedule.Proofs.Pattern.MonthDays
import CronSchedule.Proofs.Schedule.Reconfiguration
import CronSchedule.Proofs.Schedule.Rejection
import CronSchedule.Proofs.Options.Layers
import CronSchedule.Proofs.Options.Merging
import CronSchedule.Proofs.Pattern.NumberSet
import CronSchedule.Proofs.Pattern.Label
import CronSchedule.Proofs.Schedule.Tree
import CronSchedule.Proofs.Zone.Inverse
import CronSchedule.Proofs.CommandLine.Layers
