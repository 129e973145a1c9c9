import Ontograph.Artifacts
import Ontograph.Builtin.Catalog
import Ontograph.Builtin.Congressional
import Ontograph.Builtin.Edgar
import Ontograph.CommandLine.Arguments
import Ontograph.CommandLine.Run
import Ontograph.Completion.Backend
import Ontograph.Cypher.Name
import Ontograph.Cypher.Schema
import Ontograph.Cypher.Script
import Ontograph.Digest.Sha256
import Ontograph.Embedding.Backend
import Ontograph.Entity.Basic
import Ontograph.Entity.Identity
import Ontograph.Entity.Properties
import Ontograph.Entity.Value
import Ontograph.Extraction.Basic
import Ontograph.Extraction.Completion
import Ontograph.Extraction.Prompt
import Ontograph.Failure
import Ontograph.Graph.Remote
import Ontograph.Graph.Session
import Ontograph.Http.Address
import Ontograph.Http.Exchange
import Ontograph.Json.Number
import Ontograph.Json.Parser
import Ontograph.Json.Printer
import Ontograph.Json.Record
import Ontograph.Json.Shape
import Ontograph.Json.Value
import Ontograph.LinkedData.Context
import Ontograph.Loader.Basic
import Ontograph.Loader.Error
import Ontograph.Loader.Report
import Ontograph.Loader.Search
import Ontograph.Loader.Statement
import Ontograph.Main
import Ontograph.Number.Binary
import Ontograph.Number.Decimal
import Ontograph.Number.Literal
import Ontograph.Number.Notation
import Ontograph.Ontology.Basic
import Ontograph.Ontology.Definition
import Ontograph.Ontology.Document
import Ontograph.Ontology.PropertyType
import Ontograph.Ontology.Template
import Ontograph.Proto.Interface
import Ontograph.Registry
import Ontograph.Settings.Basic
import Ontograph.Settings.Environment
import Ontograph.Settings.EnvironmentFile
import Ontograph.Settings.Files
import Ontograph.Settings.Ini
import Ontograph.Settings.JsonDocument
import Ontograph.Settings.JsonFive
import Ontograph.Settings.Path
import Ontograph.Settings.Ron
import Ontograph.Settings.Setting
import Ontograph.Settings.Toml.Document
import Ontograph.Settings.Toml.Quoted
import Ontograph.Settings.Toml.Scalar
import Ontograph.Settings.Toml.Table
import Ontograph.Settings.Toml.Time
import Ontograph.Settings.Yaml.Cursor
import Ontograph.Settings.Yaml.Document
import Ontograph.Settings.Yaml.Scalar
import Ontograph.Text.Alphanumeric
import Ontograph.Text.Base64
import Ontograph.Text.Blank
import Ontograph.Text.CaseTable
import Ontograph.Text.Lines
import Ontograph.Text.Lowercase
import Ontograph.Time.Instant
import Ontograph.Proofs.Observation
import Ontograph.Proofs.Text.Blank
import Ontograph.Proofs.Text.Lines
import Ontograph.Proofs.Text.Lowercase
import Ontograph.Proofs.Text.Separator
import Ontograph.Proofs.Registry
import Ontograph.Proofs.Json.Number
import Ontograph.Proofs.Number.Shortest
import Ontograph.Proofs.Number.Display
import Ontograph.Proofs.Number.WideInteger
import Ontograph.Proofs.Number.Finite
import Ontograph.Proofs.Json.Compact
import Ontograph.Proofs.Json.Record
import Ontograph.Proofs.Json.Surroundings
import Ontograph.Proofs.Json.Held
import Ontograph.Proofs.Ontology.Basic
import Ontograph.Proofs.Ontology.Document
import Ontograph.Proofs.Ontology.Registration
import Ontograph.Proofs.Ontology.Template
import Ontograph.Proofs.Ontology.Validation
import Ontograph.Proofs.Cypher.Name
import Ontograph.Proofs.Cypher.Script
import Ontograph.Proofs.Cypher.Layout
import Ontograph.Proofs.Cypher.Schema
import Ontograph.Proofs.Cypher.Header
import Ontograph.Proofs.Cypher.VectorIndex
import Ontograph.Proofs.Cypher.ObjectName
import Ontograph.Proofs.Proto.Symbols
import Ontograph.Proofs.Proto.Declarations
import Ontograph.Proofs.Proto.Messages
import Ontograph.Proofs.Proto.Fields
import Ontograph.Proofs.LinkedData.Graph
import Ontograph.Proofs.LinkedData.Namespaces
import Ontograph.Proofs.Artifacts
import Ontograph.Proofs.Entity.Confidence
import Ontograph.Proofs.Entity.Identity
import Ontograph.Proofs.Entity.Document
import Ontograph.Proofs.Entity.StableIdentity
import Ontograph.Proofs.Entity.BagText
import Ontograph.Proofs.Entity.NumericIdentity
import Ontograph.Proofs.Entity.Decoding
import Ontograph.Proofs.Store.Table
import Ontograph.Proofs.Store.Basic
import Ontograph.Proofs.Store.Rerun
import Ontograph.Proofs.Loader.Names
import Ontograph.Proofs.Loader.Statement
import Ontograph.Proofs.Loader.Report
import Ontograph.Proofs.Loader.Batch
import Ontograph.Proofs.Loader.Rerun
import Ontograph.Proofs.Loader.Schema
import Ontograph.Proofs.Loader.SearchRun
import Ontograph.Proofs.Loader.SearchIndex
import Ontograph.Proofs.Loader.Ranking
import Ontograph.Proofs.Loader.SearchHits
import Ontograph.Proofs.Loader.Refusals
import Ontograph.Proofs.Loader.Balance
import Ontograph.Proofs.Loader.Templates
import Ontograph.Proofs.Extraction.Saved
import Ontograph.Proofs.Extraction.Items
import Ontograph.Proofs.Extraction.Fence
import Ontograph.Proofs.Client.Accounts
import Ontograph.Proofs.Client.Transience
import Ontograph.Proofs.Loader.StoredVector
import Ontograph.Proofs.Number.Fraction
import Ontograph.Proofs.Loader.ObjectNames
import Ontograph.Proofs.Loader.NodeProperties
import Ontograph.Proofs.Loader.EmbeddingFailure
