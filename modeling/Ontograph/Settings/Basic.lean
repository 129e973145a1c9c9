/-
Ontograph.Settings.Basic — the settings of the program.

Settings come in sections. A setting that is not given has its default, one
that has no meaning is passed over, and one that cannot be read makes the
whole of them unreadable. A file is laid over the defaults and the environment
over the file; the password of the graph store stands in the environment only.
-/
import Ontograph.Completion.Backend
import Ontograph.Embedding.Backend
import Ontograph.Graph.Remote
import Ontograph.Settings.Environment
import Ontograph.Settings.Files

namespace Ontograph

/-! ## Sections -/

structure ServiceSettings where
  logLevel : String := "info"
  domain : String := "congressional"
  ontologyPath : Option String := none
  deriving DecidableEq, Repr

structure LoaderSettings where
  registry : Option (List String) := none
  searchLimit : Nat := 10
  deriving DecidableEq, Repr

structure Settings where
  service : ServiceSettings := {}
  graph : GraphSettings := { url := "http://localhost:7474", user := "neo4j", password := "" }
  embeddingBackend : String := "ollama-fallback"
  embedding : EmbeddingSettings := {}
  completion : CompletionSettings := {}
  loader : LoaderSettings := {}
  outputDir : String := "generated"
  deriving DecidableEq, Repr

namespace Settings

def embeddingDisabled (s : Settings) : Bool :=
  s.embeddingBackend.toList.map Char.toLower = "none".toList

/-! ## Reading -/

def sections : List (String × List String) :=
  [("service", ["log_level", "domain", "ontology_path"]),
   ("graph", ["url", "database", "user", "timeout_seconds", "max_retries", "retry_delay_ms"]),
   ("embedding", ["backend", "url", "model", "dimensions", "timeout_seconds", "max_retries",
      "retry_delay_ms"]),
   ("completion", ["url", "model", "json_mode", "temperature", "timeout_seconds", "max_retries",
      "retry_delay_ms"]),
   ("loader", ["relationship_registry", "search_limit"]),
   ("output", ["dir"])]

/-- The settings of a section, which may also be a list of them in their order. -/
def section? (document : SettingTable) (key : String) : Option SettingTable :=
  match document.get? key with
  | none => some []
  | some (.table entries) => some entries
  | some (.list items) => some (((findNamed? key sections).elim [] Prod.snd).zip items)
  | some _ => none

/-- A setting of a section, or its default. -/
def setting? (t : SettingTable) (key : String) (absent : α) (decode : Setting → Option α) :
    Option α :=
  match t.get? key with
  | none => some absent
  | some value => decode value

def ofDocument? (s : Settings) (document : SettingTable) : Option Settings := do
  let service ← section? document "service"
  let graph ← section? document "graph"
  let embedding ← section? document "embedding"
  let completion ← section? document "completion"
  let loader ← section? document "loader"
  let output ← section? document "output"
  pure {
    service := {
      logLevel := ← setting? service "log_level" s.service.logLevel Setting.text?
      domain := ← setting? service "domain" s.service.domain Setting.text?
      ontologyPath := ← setting? service "ontology_path" s.service.ontologyPath
        (Setting.optional Setting.text?) }
    graph := { s.graph with
      url := ← setting? graph "url" s.graph.url Setting.text?
      database := ← setting? graph "database" s.graph.database Setting.text?
      user := ← setting? graph "user" s.graph.user Setting.text?
      timeoutSeconds := ← setting? graph "timeout_seconds" s.graph.timeoutSeconds Setting.count?
      maxRetries := ← setting? graph "max_retries" s.graph.maxRetries Setting.count?
      retryDelayMs := ← setting? graph "retry_delay_ms" s.graph.retryDelayMs Setting.count? }
    embeddingBackend := ← setting? embedding "backend" s.embeddingBackend Setting.text?
    embedding := {
      url := ← setting? embedding "url" s.embedding.url Setting.text?
      model := ← setting? embedding "model" s.embedding.model Setting.text?
      dimensions := ← setting? embedding "dimensions" s.embedding.dimensions Setting.count?
      timeoutSeconds :=
        ← setting? embedding "timeout_seconds" s.embedding.timeoutSeconds Setting.count?
      maxRetries := ← setting? embedding "max_retries" s.embedding.maxRetries Setting.count?
      retryDelayMs := ← setting? embedding "retry_delay_ms" s.embedding.retryDelayMs Setting.count? }
    completion := {
      url := ← setting? completion "url" s.completion.url Setting.text?
      model := ← setting? completion "model" s.completion.model Setting.text?
      jsonMode := ← setting? completion "json_mode" s.completion.jsonMode Setting.truth?
      temperature := ← setting? completion "temperature" s.completion.temperature
        fun v => v.real?.map Binary.convert
      timeoutSeconds :=
        ← setting? completion "timeout_seconds" s.completion.timeoutSeconds Setting.count?
      maxRetries := ← setting? completion "max_retries" s.completion.maxRetries Setting.count?
      retryDelayMs :=
        ← setting? completion "retry_delay_ms" s.completion.retryDelayMs Setting.count? }
    loader := {
      registry := ← setting? loader "relationship_registry" s.loader.registry
        (Setting.optional Setting.texts?)
      searchLimit := ← setting? loader "search_limit" s.loader.searchLimit Setting.count? }
    outputDir := ← setting? output "dir" s.outputDir Setting.text? }

def ofSources? (document : SettingTable) (env : Environment) : Option Settings := do
  let s ← ofDocument? {} (env.overlay (SettingTable.overlay [] document))
  pure { s with graph := { s.graph with password := (env.get? "NEO4J_PASSWORD").getD "" } }

/-- The environment variables that hold settings, in their usual spelling, and the password. -/
def variableNames : List String :=
  let upper := fun s : String => String.ofList (s.toList.map Char.toUpper)
  "NEO4J_PASSWORD" :: sections.flatMap fun (part, keys) =>
    keys.map fun key => "CORPUS__" ++ upper part ++ "__" ++ upper key

/-! ## Loading -/

/-- Settings from a file and the environment. A missing file is a failure only if it is
required; a file that is there has to be readable. -/
def load [Monad m] (read : String → m (Option String)) (required : Bool) (file : String)
    (env : Environment) : m (Option Settings) := do
  match ← readFile read file with
  | none => pure (if required then none else ofSources? [] env)
  | some document => pure (document.bind (ofSources? · env))

end Settings

end Ontograph
