/-
Ontograph.CommandLine.Arguments — what a command line asks for.

Options stand anywhere around the command and its operands. An option's value
is the next argument or follows its name directly; a value of its own may not
look like an option. Every option may be given once before and once behind the
command, and then the later counts, but both have to be acceptable. Arguments
are judged in order, so help is given only if nothing before it is wrong. An
option whose value is the argument before the command is judged last.
-/
import Ontograph.Number.Literal

namespace Ontograph.CommandLine

/-! ## Commands -/

inductive ArtifactFormat where
  | cypher
  | proto
  | jsonld
  deriving DecidableEq, Repr

def ArtifactFormat.ofName? : String → Option ArtifactFormat
  | "cypher" => some cypher
  | "proto" => some proto
  | "jsonld" => some jsonld
  | _ => none

inductive Command where
  | generate (out : Option String)
  | schema (format : ArtifactFormat)
  | applySchema
  | load (file : String)
  | extract (file : String) (load : Bool)
  | search (query : String) (type : Option String) (limit : Option Nat) (json : Bool)
  | status
  deriving DecidableEq, Repr

structure Invocation where
  config : String
  domain : Option String
  ontology : Option String
  command : Command
  deriving DecidableEq, Repr

inductive Refusal where
  | help
  | version
  | misuse
  deriving DecidableEq, Repr

/-! ## Forms -/

def isPath (text : String) : Bool := !text.isEmpty

def isLimit (text : String) : Bool := (Literal.unsigned64? text).isSome

/-- An option: its long name, its letter, whether it has a value, and which values it accepts. -/
structure OptionForm where
  long : String
  letter : Option Char := none
  hasValue : Bool := true
  accepts : String → Bool := fun _ => true

/-- What may stand behind the name of a command: options, the common ones apart, and operands,
each by what it accepts. -/
structure CommandForm where
  options : List OptionForm := []
  operands : List (String → Bool) := []

def commonOptions : List OptionForm :=
  [{ long := "config", letter := some 'c' }, { long := "domain" },
    { long := "ontology", accepts := isPath }]

/-- The form of a command; none if there is no such command. -/
def commandForm? : String → Option CommandForm
  | "generate" => some { options := [{ long := "out", letter := some 'o', accepts := isPath }] }
  | "schema" => some { operands := [fun text => (ArtifactFormat.ofName? text).isSome] }
  | "load" => some { operands := [isPath] }
  | "extract" =>
    some { options := [{ long := "load", hasValue := false }], operands := [isPath] }
  | "search" => some {
      options := [{ long := "type", letter := some 't' },
        { long := "limit", letter := some 'n', accepts := isLimit },
        { long := "json", hasValue := false }]
      operands := [fun _ => true] }
  | "apply-schema" | "status" => some {}
  | _ => none

/-! ## What is given -/

/-- What stands on a command line: options by their long names, with an empty value if they have
none, an option that is still to be judged, and operands. -/
structure Given where
  options : List (String × String) := []
  pending : Option (OptionForm × String) := none
  operands : List String := []

namespace Given

def value? (g : Given) (long : String) : Option String :=
  (g.options.find? (·.1 = long)).map Prod.snd

def has (g : Given) (long : String) : Bool := (g.value? long).isSome

/-- The pending option judged: it may not be given yet, and has to accept its value. -/
def settle (g : Given) : Except Refusal Given :=
  match g.pending with
  | none => .ok g
  | some (form, value) =>
    if g.has form.long || !form.accepts value then .error .misuse
    else .ok { g with options := g.options ++ [(form.long, value)], pending := none }

/-- One more option, to be judged with the next argument. -/
def hold (g : Given) (form : OptionForm) (value : String) : Except Refusal Given := do
  pure { ← g.settle with pending := some (form, value) }

/-- One more option, judged at once. -/
def add (g : Given) (form : OptionForm) (value : String) : Except Refusal Given := do
  (← g.hold form value).settle

def addOperand (forms : List (String → Bool)) (g : Given) (text : String) :
    Except Refusal Given := do
  let g ← g.settle
  match forms[g.operands.length]? with
  | some accepts =>
    if accepts text then pure { g with operands := g.operands ++ [text] } else throw .misuse
  | none => throw .misuse

end Given

/-! ## Scanning -/

def looksLikeOption (arg : String) : Bool :=
  match arg.toList with
  | ['-'] => false
  | '-' :: _ => true
  | _ => false

def splitValue (cs : List Char) : List Char × Option (List Char) :=
  match cs.dropWhile (· ≠ '=') with
  | [] => (cs, none)
  | _ :: value => (cs.takeWhile (· ≠ '='), some value)

/-- The option that an argument begins, and the value that is part of the argument. -/
def optionOf (forms : List OptionForm) (withVersion : Bool) (arg : List Char) :
    Except Refusal (OptionForm × Option String) :=
  match arg with
  | '-' :: '-' :: body =>
    let (nameChars, value) := splitValue body
    let name := String.ofList nameChars
    match forms.find? (·.long = name) with
    | some form => .ok (form, value.map String.ofList)
    | none =>
      if name = "help" ∧ value.isNone then .error .help
      else if name = "version" ∧ value.isNone ∧ withVersion then .error .version
      else .error .misuse
  | '-' :: c :: body =>
    match forms.find? (·.letter = some c) with
    | some form =>
      match body with
      | [] => .ok (form, none)
      | '=' :: value => .ok (form, some (String.ofList value))
      | value => .ok (form, some (String.ofList value))
    | none =>
      if c = 'h' then .error .help
      else if c = 'V' ∧ withVersion then .error .version
      else .error .misuse
  | _ => .error .misuse

/-- The arguments before the command, the command's name, and the arguments behind it; `awaiting` is
an option whose value comes next. -/
def scanOuter : Option OptionForm → Given → List String →
    Except Refusal (Given × Option (String × List String))
  | none, g, [] => do pure (← g.settle, none)
  | some _, _, [] => .error .misuse
  | some form, g, value :: rest =>
    if looksLikeOption value then .error .misuse
    else g.hold form value >>= fun g => scanOuter none g rest
  | none, g, arg :: rest =>
    if looksLikeOption arg then do
      let g ← g.settle
      let (form, attached) ← optionOf commonOptions true arg.toList
      match attached with
      | some value => scanOuter none (← g.add form value) rest
      | none => scanOuter (some form) g rest
    else .ok (g, some (arg, rest))

def scanInner (form : CommandForm) : Option OptionForm → Given → List String → Except Refusal Given
  | none, g, [] => g.settle
  | some _, _, [] => .error .misuse
  | some option, g, value :: rest =>
    if looksLikeOption value then .error .misuse
    else g.hold option value >>= fun g => scanInner form none g rest
  | none, g, arg :: rest =>
    if arg = "--" then rest.foldlM (Given.addOperand form.operands) g >>= Given.settle
    else if looksLikeOption arg then do
      let g ← g.settle
      let (option, attached) ← optionOf (form.options ++ commonOptions) false arg.toList
      match option.hasValue, attached with
      | true, some value => scanInner form none (← g.add option value) rest
      | true, none => scanInner form (some option) g rest
      | false, some _ => throw .misuse
      | false, none => scanInner form none (← g.add option "") rest
    else g.addOperand form.operands arg >>= fun g => scanInner form none g rest

/-! ## Meaning -/

def command? (commandName : String) (g : Given) : Option Command :=
  match commandName, g.operands with
  | "generate", [] => some (.generate (g.value? "out"))
  | "schema", [format] => (ArtifactFormat.ofName? format).map .schema
  | "apply-schema", [] => some .applySchema
  | "load", [file] => some (.load file)
  | "extract", [file] => some (.extract file (g.has "load"))
  | "search", [query] =>
    let limit := ((g.value? "limit").bind Literal.unsigned64?).map Int.toNat
    some (.search query (g.value? "type") limit (g.has "json"))
  | "status", [] => some .status
  | _, _ => none

def isTopic : List String → Bool
  | [] | ["help"] => true
  | [commandName] => (commandForm? commandName).isSome
  | _ => false

def parse (defaultConfig : String) (args : List String) : Except Refusal Invocation := do
  match ← scanOuter none {} args with
  | (_, none) => throw .misuse
  | (_, some ("help", topic)) => throw (if isTopic topic then .help else .misuse)
  | (outer, some (commandName, rest)) =>
    match commandForm? commandName with
    | none => throw .misuse
    | some form =>
      let inner ← scanInner form none {} rest
      let outer ← outer.settle
      let given := fun long => (inner.value? long).or (outer.value? long)
      match command? commandName inner with
      | none => throw .misuse
      | some command =>
        return {
          config := (given "config").getD defaultConfig
          domain := given "domain"
          ontology := given "ontology"
          command }

end Ontograph.CommandLine
