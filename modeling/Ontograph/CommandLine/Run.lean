/-
Ontograph.CommandLine.Run — carrying out a command line.

A command reads and writes files and posts requests through its host and comes
back with a status, the text it prints and the lines it complains in. Settings
are read before anything else and the ontology is resolved before any command
begins, so a command never starts on settings or an ontology that are not
sound.
-/
import Ontograph.Artifacts
import Ontograph.Builtin.Catalog
import Ontograph.CommandLine.Arguments
import Ontograph.Extraction.Basic
import Ontograph.Failure
import Ontograph.Loader.Search
import Ontograph.Ontology.Document
import Ontograph.Settings.Basic
import Ontograph.Settings.EnvironmentFile

namespace Ontograph.CommandLine

def programName : String := "corpus"

def programVersion : String := "0.1.0"

/-- What a command can do to the world. Reading finds a text or nothing, writing succeeds or
not. -/
structure Host (m : Type → Type) where
  read : String → m (Option String)
  write : String → String → m Bool
  transport : Http.Transport m
  /-- What the host's reader of records says of a line that holds no entity. -/
  faultOf : String → String := fun _ => "no entity can be read"

structure Outcome where
  status : Nat := 0
  output : String := ""
  complaints : List String := []
  deriving DecidableEq, Repr

/-! ## Failures -/

inductive CommandError where
  | unknownDomain (domain : String)
  | unreadable (path : String)
  | unwritable (path : String)
  | ontology (path : String) (error : Option Ontology.TextError)
  | backend (error : EmbeddingError)
  | graph (error : GraphError)
  | load (error : LoadError)
  | completion (error : CompletionError)
  | unreachable (url : String) (error : GraphError)

namespace CommandError

def ontologyText : Option Ontology.TextError → String
  | none => "IO error: file not found"
  | some .malformed => "JSON error: not an ontology"
  | some (.defective e) => (Failure.definition e).message ++ ": " ++ e.message

def loadText (e : LoadError) : String :=
  match e with
  | .graph cause => e.message ++ ": " ++ cause.message
  | .embedding cause => e.message ++ ": " ++ cause.message
  | .validation _ | .missingEndpoint .. | .noResult _ _ => e.message

/-- A failure in words. For a file that cannot be read or written, and for a text that is no
ontology, there is one fixed phrase for what the system or the reader says of the cause. -/
def message : CommandError → String
  | unknownDomain domain =>
    "unknown domain '" ++ domain ++ "' (built-in: " ++ ", ".intercalate builtinNames ++ ")"
  | unreadable path => "failed to read " ++ path ++ ": file not found"
  | unwritable path => "IO error: cannot write " ++ path
  | ontology path error => "failed to load ontology from " ++ path ++ ": " ++ ontologyText error
  | backend error => error.message
  | graph error => error.message
  | load error => loadText error
  | completion error => error.message
  | unreachable url error => "cannot reach Neo4j at " ++ url ++ ": " ++ error.message

end CommandError

def failed (f : CommandError) (output : String) : Outcome :=
  { status := 1, output, complaints := [programName ++ ": " ++ f.message] }

def printed (lines : List String) : String := String.join (lines.map (· ++ "\n"))

/-! ## Setting up -/

variable {m : Type → Type} [Monad m]

/-- The ontology to work with: a document named on the command line, one named in the settings, or
a built-in one. -/
def resolveOntology (host : Host m) (i : Invocation) (s : Settings) :
    m (Except CommandError Ontology) := do
  match i.ontology.or s.service.ontologyPath with
  | some path =>
    match ← host.read path with
    | none => pure (.error (.ontology path none))
    | some text =>
      match Ontology.ofText text with
      | .ok o => pure (.ok o)
      | .error e => pure (.error (.ontology path (some e)))
  | none =>
    let domain := i.domain.getD s.service.domain
    match builtin? domain with
    | some o => pure (.ok o)
    | none => pure (.error (.unknownDomain domain))

def buildLoader (host : Host m) (s : Settings) (o : Ontology) : Except CommandError (Loader m) :=
  let session := GraphSession.remote host.transport s.graph
  let registry := s.loader.registry.getD o.relationships.names
  if s.embeddingDisabled then .ok { ontology := o, session, registry }
  else
    match EmbeddingBackend.ofName host.transport s.embeddingBackend s.embedding with
    | .ok backend => .ok { ontology := o, session, backend := some backend, registry }
    | .error e => .error (.backend e)

/-! ## Commands -/

/-- Writes files in order; the first that cannot be written is the failure. -/
def writeAll (host : Host m) : List Artifact → m (Except CommandError Unit)
  | [] => pure (.ok ())
  | a :: rest => do
    if ← host.write a.path a.content then writeAll host rest
    else pure (.error (.unwritable a.path))

def generate (host : Host m) (o : Ontology) (dir : String) : m Outcome := do
  match ← writeAll host (artifacts o dir) with
  | .ok () => pure { output := printed ((artifacts o dir).map (·.path)) }
  | .error f => pure (failed f "")

def render (o : Ontology) : ArtifactFormat → String
  | .cypher => Cypher.script o
  | .proto => Proto.interface o
  | .jsonld => LinkedData.documentText o

def reported (r : LoadReport) : Outcome :=
  { output := printed [r.summary], complaints := r.errors.map ("  " ++ ·) }

def applySchema (l : Loader m) : m Outcome := do
  match ← l.applySchema with
  | .ok n => pure { output := printed ["applied " ++ toString n ++ " schema statements"] }
  | .error e => pure (failed (.graph e) "")

def load (host : Host m) (l : Loader m) (file : String) : m Outcome := do
  match ← host.read file with
  | none => pure (failed (.unreadable file) "")
  | some text => pure (reported (← l.loadLines host.faultOf text))

def extract (host : Host m) (s : Settings) (o : Ontology) (file : String) (andLoad : Bool) :
    m Outcome := do
  match ← host.read file with
  | none => pure (failed (.unreadable file) "")
  | some text =>
    let extractor : Extractor m := ⟨o, .remote host.transport s.completion⟩
    if andLoad then
      match buildLoader host s o with
      | .error f => pure (failed f "")
      | .ok l =>
        match ← extractor.ingest l text with
        | .ok r => pure (reported r)
        | .error e => pure (failed (.completion e) "")
    else
      match ← extractor.extract text with
      | .ok es => pure { output := printed [(Json.array (es.map Entity.toJson)).pretty] }
      | .error e => pure (failed (.completion e) "")

/-- The properties that a hit is labelled with, the first choice first. -/
def labelProperties : List String := ["name", "title", "number"]

def hitLines (h : SearchHit) : List String :=
  let label := (labelProperties.findSome? fun key =>
    (Fields.get? key h.properties).bind Json.string?).getD ""
  let percent : Double := h.score.mul (Binary.ofInt 100)
  [h.type ++ " " ++ h.id ++ " " ++ label, "Score:  " ++ percent.wholeText ++ "%", ""]

def search (l : Loader m) (query : String) (type : Option String) (limit : Nat) (json : Bool) :
    m Outcome := do
  match ← l.semanticSearch query type limit with
  | .error e => pure (failed (.load e) "")
  | .ok hits =>
    if json then pure { output := printed [(Json.array (hits.map SearchHit.toJson)).pretty] }
    else if hits.isEmpty then pure { complaints := ["No results found for: " ++ query] }
    else pure { output := printed (hits.flatMap hitLines) }

/-- Says what ontology and backends are in use and whether the graph store answers. -/
def status (host : Host m) (s : Settings) (o : Ontology) : m Outcome := do
  let summary := printed
    ["Ontology:     " ++ o.domain ++ " v" ++ o.version ++ " (" ++ toString o.nodes.size ++
        " node types, " ++ toString o.relationships.size ++ " relationship types)",
      "Embeddings:   " ++ s.embeddingBackend ++ " (" ++ s.embedding.model ++ ", " ++
        toString s.embedding.dimensions ++ " dims)"]
  match ← (GraphSession.remote host.transport s.graph).healthCheck with
  | .ok health =>
    pure { output := summary ++ printed ["Neo4j:        " ++ health ++ " at " ++ s.graph.url] }
  | .error e => pure (failed (.unreachable s.graph.url e) summary)

def withLoader (host : Host m) (s : Settings) (o : Ontology) (f : Loader m → m Outcome) :
    m Outcome :=
  match buildLoader host s o with
  | .ok l => f l
  | .error failure => pure (failed failure "")

def perform (host : Host m) (s : Settings) (o : Ontology) : Command → m Outcome
  | .generate out => generate host o (out.getD s.outputDir)
  | .schema format => pure { output := render o format }
  | .applySchema => withLoader host s o applySchema
  | .load file => withLoader host s o fun l => load host l file
  | .extract file andLoad => extract host s o file andLoad
  | .search query type limit json => withLoader host s o fun l =>
      search l query type (limit.getD s.loader.searchLimit) json
  | .status => status host s o

/-! ## Command lines -/

def defaultConfig : String := "corpus.toml"

def environmentFile : String := ".env"

def usage : String :=
  printed ["Usage: " ++ programName ++ " [-c FILE] [--domain NAME] [--ontology FILE] COMMAND", "",
    "Commands:", "  generate [-o DIR]", "  schema cypher|proto|jsonld", "  apply-schema",
    "  load FILE", "  extract FILE [--load]", "  search QUERY [-t TYPE] [-n LIMIT] [--json]",
    "  status"]

def execute (host : Host m) (i : Invocation) (env : Environment) : m Outcome := do
  match ← Settings.load host.read false i.config env with
  | none => pure { status := 1, complaints := ["Failed to load config from " ++ i.config] }
  | some s =>
    match ← resolveOntology host i s with
    | .ok o => perform host s o i.command
    | .error f => pure (failed f "")

/-- Runs the program with arguments, in an environment that the environment file may add to. -/
def run (host : Host m) (args : List String) (env : Environment) : m Outcome := do
  let text := (← host.read environmentFile).getD ""
  match parse defaultConfig args with
  | .ok i => execute host i (EnvironmentFile.load env text)
  | .error .help => pure { output := usage }
  | .error .version => pure { output := printed [programName ++ " " ++ programVersion] }
  | .error .misuse => pure { status := 2, complaints := [usage] }

end Ontograph.CommandLine
