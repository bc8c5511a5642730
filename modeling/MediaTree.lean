import MediaTree.Catalog.Call
import MediaTree.Catalog.Codec
import MediaTree.Catalog.Error
import MediaTree.Catalog.Item
import MediaTree.Catalog.Kind
import MediaTree.Catalog.Memory
import MediaTree.Catalog.Query
import MediaTree.Catalog.Tags
import MediaTree.Command.Arguments
import MediaTree.Command.Help
import MediaTree.Command.Run
import MediaTree.Decimal.Layout
import MediaTree.Decimal.Nearest
import MediaTree.Decimal.Reading
import MediaTree.Decimal.Shortest
import MediaTree.Files.Directory
import MediaTree.Format.Datum
import MediaTree.Format.Ini
import MediaTree.Format.Json5
import MediaTree.Format.JsonText
import MediaTree.Format.Ron
import MediaTree.Format.Ron.Scalar
import MediaTree.Format.Toml
import MediaTree.Format.Toml.Scalar
import MediaTree.Format.Yaml
import MediaTree.Format.Yaml.Cursor
import MediaTree.Format.Yaml.Lexer
import MediaTree.Format.Yaml.Node
import MediaTree.Format.Yaml.Style
import MediaTree.Format.Yaml.Token
import MediaTree.Http.Exchange
import MediaTree.Http.Status
import MediaTree.Json.Basic
import MediaTree.Json.Decoder
import MediaTree.Json.Numeral
import MediaTree.Json.Printer
import MediaTree.Json.Problem
import MediaTree.Json.Reading
import MediaTree.Json.Token
import MediaTree.Log.Entry
import MediaTree.Log.Filter
import MediaTree.Log.Pattern
import MediaTree.Log.Sink
import MediaTree.Main
import MediaTree.Mime.Basic
import MediaTree.Mime.Table
import MediaTree.Node.Basic
import MediaTree.Node.Codec
import MediaTree.Server.Session
import MediaTree.Settings.Basic
import MediaTree.Settings.Codec
import MediaTree.Settings.Conversion
import MediaTree.Settings.Environment
import MediaTree.Settings.Error
import MediaTree.Settings.File
import MediaTree.Settings.Load
import MediaTree.Settings.Path
import MediaTree.Settings.Value
import MediaTree.Text.Blank
import MediaTree.Text.CaseFold
import MediaTree.Text.Category
import MediaTree.Text.Composition
import MediaTree.Text.Direction
import MediaTree.Text.Form
import MediaTree.Text.Hex
import MediaTree.Text.Hidden
import MediaTree.Text.Identifier
import MediaTree.Text.Joining
import MediaTree.Text.Percent
import MediaTree.Text.Quoted
import MediaTree.Text.Runs
import MediaTree.Text.Scan
import MediaTree.Text.Utf8
import MediaTree.Tree.Builder
import MediaTree.Tree.Level
import MediaTree.Tree.Sort
import MediaTree.Tree.Source
import MediaTree.Url.Basic
import MediaTree.Url.Bootstring
import MediaTree.Url.Host
import MediaTree.Url.Mapping
import MediaTree.Url.Name
import MediaTree.Url.Parser
import MediaTree.Proofs.Server.Refinement
import MediaTree.Proofs.Settings.Load
import MediaTree.Proofs.Source.Interleaving
import MediaTree.Proofs.Tree.Navigation
import MediaTree.Proofs.Node.Nesting
import MediaTree.Proofs.Tree.Discretion
import MediaTree.Proofs.Catalog.RoundTrip
import MediaTree.Proofs.Catalog.Spelling
import MediaTree.Proofs.Tree.Children
import MediaTree.Proofs.Server.Endpoint
import MediaTree.Proofs.Server.Classification
import MediaTree.Proofs.Server.Origin
import MediaTree.Proofs.Server.Links
import MediaTree.Proofs.Server.Wire
import MediaTree.Proofs.Tree.Resolution
import MediaTree.Proofs.Mime.Inference
import MediaTree.Proofs.Settings.Validation
import MediaTree.Proofs.Command.Stages
