/-
Ontograph.Loader.Report — what became of a batch.

A report counts; it never stops a batch. It is made from the outcomes of the
entities, one after another, and every failure adds one line to its errors.
-/
import Ontograph.Json.Value
import Ontograph.Loader.Error

namespace Ontograph

/-- What became of an entity whose node was written: the node's identity, and what became of each
relationship. -/
structure EntityLoad where
  id : String
  relationships : List (Except LoadError Unit)

namespace EntityLoad

def relationshipsLoaded (load : EntityLoad) : Nat :=
  load.relationships.countP fun r => match r with
    | .ok _ => true
    | .error _ => false

/-- Why the other relationships were not written, in order. -/
def relationshipErrors (load : EntityLoad) : List LoadError :=
  load.relationships.filterMap fun r => match r with
    | .ok _ => none
    | .error e => some e

end EntityLoad

structure LoadReport where
  attempted : Nat := 0
  loaded : Nat := 0
  failed : Nat := 0
  relationshipsLoaded : Nat := 0
  relationshipsFailed : Nat := 0
  ids : List String := []
  errors : List String := []
  deriving DecidableEq, Repr

namespace LoadReport

/-- Whether nothing failed. -/
def isComplete (r : LoadReport) : Bool := r.failed = 0 && r.relationshipsFailed = 0

def errorLine (entityType : String) (e : LoadError) : String := entityType ++ ": " ++ e.message

def record (r : LoadReport) (entityType : String) : Except LoadError EntityLoad → LoadReport
  | .ok load => { r with
      attempted := r.attempted + 1
      loaded := r.loaded + 1
      relationshipsLoaded := r.relationshipsLoaded + load.relationshipsLoaded
      relationshipsFailed := r.relationshipsFailed + load.relationshipErrors.length
      ids := r.ids ++ [load.id]
      errors := r.errors ++ load.relationshipErrors.map (errorLine entityType) }
  | .error e => { r with
      attempted := r.attempted + 1
      failed := r.failed + 1
      errors := r.errors ++ [errorLine entityType e] }

def ofOutcomes (outcomes : List (String × Except LoadError EntityLoad)) : LoadReport :=
  outcomes.foldl (fun r (entityType, outcome) => r.record entityType outcome) {}

/-- The report with an input that never became an entity: attempted, and failed. -/
def recordRejected (r : LoadReport) (error : String) : LoadReport :=
  { r with attempted := r.attempted + 1, failed := r.failed + 1, errors := r.errors ++ [error] }

def summary (r : LoadReport) : String :=
  "loaded " ++ toString r.loaded ++ " of " ++ toString r.attempted ++ " entities (" ++
    toString r.failed ++ " failed), " ++ toString r.relationshipsLoaded ++ " relationships (" ++
    toString r.relationshipsFailed ++ " failed)"

def toJson (r : LoadReport) : Json :=
  .object [("attempted", .int r.attempted), ("loaded", .int r.loaded), ("failed", .int r.failed),
    ("relationships_loaded", .int r.relationshipsLoaded),
    ("relationships_failed", .int r.relationshipsFailed), ("ids", Json.strings r.ids),
    ("errors", Json.strings r.errors)]

end LoadReport

end Ontograph
