import BoolQuery.Condition.Printer
import BoolQuery.Grammar
import BoolQuery.Main
import BoolQuery.Parser.Descent
import BoolQuery.Parser.Cursor
import BoolQuery.Proofs.Parser.ViablePrefix
import BoolQuery.Proofs.Query
import BoolQuery.Token.Segmentation
import BoolQuery.Proofs.Parser.Derivations
import BoolQuery.Proofs.Parser.OpenLevels
import BoolQuery.Proofs.Parser.Acceptance
import BoolQuery.Proofs.Condition.Derivation
import BoolQuery.Proofs.Condition.Economy
import BoolQuery.Proofs.Condition.RoundTrip
import BoolQuery.Proofs.Parser.Descent
import BoolQuery.Proofs.Parser.Restoring
import BoolQuery.Proofs.Parser.Cursor
import BoolQuery.Proofs.Parser.NestingLimit
import BoolQuery.Proofs.Token.MaximalMunch
import BoolQuery.Proofs.Parser.Combination
import BoolQuery.Proofs.Parser.OptionalOr
import BoolQuery.Proofs.Parser.Conservation
import BoolQuery.Proofs.Json.Text
import BoolQuery.Json.Reorder
import BoolQuery.Proofs.Json.Nesting
import BoolQuery.Proofs.Condition.Depth
import BoolQuery.Proofs.Condition.Chain
import BoolQuery.Proofs.Condition.Decoding
import BoolQuery.Proofs.Condition.Encoding
import BoolQuery.Proofs.Json.Reorder
import BoolQuery.Proofs.Json.TooDeep
import BoolQuery.Proofs.Condition.JsonLimits
import BoolQuery.Proofs.Toml.Quoted
import BoolQuery.Proofs.Toml.Scalar
import BoolQuery.Proofs.Toml.Lines
import BoolQuery.Proofs.Settings.Reload
import BoolQuery.Proofs.FileTree
import BoolQuery.Proofs.Token.Parity
import BoolQuery.Proofs.Settings.Discovery
import BoolQuery.Proofs.Settings.Template
import BoolQuery.Proofs.Command.Init
import BoolQuery.Proofs.Command.Batch
import BoolQuery.Proofs.Token.Boundary
import BoolQuery.Proofs.Text.Lines
import BoolQuery.Proofs.Parser.Refusal
import BoolQuery.Proofs.QueryError.Position
import BoolQuery.Proofs.QueryError.Hint
import BoolQuery.Proofs.QueryError.Plain
import BoolQuery.Proofs.Palette.Strip
import BoolQuery.Proofs.QueryError.Painted
import BoolQuery.Proofs.QueryError.Colored
import BoolQuery.Proofs.Condition.Equality
import BoolQuery.Proofs.QueryError.Stripped
import BoolQuery.Proofs.Condition.Recovery
import BoolQuery.Proofs.Condition.Quoting
import BoolQuery.Proofs.Settings.Precedence
import BoolQuery.Proofs.Settings.Merging
import BoolQuery.Proofs.Settings.FormatName
import BoolQuery.Proofs.Command.BatchJson
