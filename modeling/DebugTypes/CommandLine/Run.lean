import DebugTypes.Catalog.Definition
import DebugTypes.Catalog.Json
import DebugTypes.Catalog.Resolution
import DebugTypes.CommandLine.Arguments
import DebugTypes.CommandLine.Folder
import DebugTypes.Decoding.Named

/-!
# Running commands

A command loads the catalog of a document and prints something about it.  It may fail at any point;
a failure comes with a report of what was tried and why it went wrong.

## Main definitions

* `Failure`, `Failure.report` — why a command failed, and the report of it.
* `Outcome` — what a command printed, logged and failed with.
* `run` — the outcome of a list of arguments.
-/

namespace DebugTypes.CommandLine

/-- Why a command failed. -/
inductive Failure where
  | cannotLoad (path : String) (cause : ReadError)
  | cannotDecode (path : String) (cause : ReadError)
  | noSuchType (name path : String)
  | unresolved (count : Nat) (path : String)
  | cannotWrite (path : String) (cause : FileFault)
  deriving DecidableEq, Repr

namespace Failure

/-- What was tried. -/
def summary : Failure → String
  | cannotLoad path _ => s!"Failed to load type database: {path}"
  | cannotDecode path _ => s!"Failed to decode types from {path}"
  | noSuchType name path => s!"Type '{name}' not found in {path}"
  | unresolved count path => s!"{count} referenced type(s) missing from {path}"
  | cannotWrite path _ => s!"Failed to write {path}"

/-- The lines about the cause of a read error.  A fault of a file or of markup is a cause of its
own, so that the lines are numbered. -/
def readCauses (e : ReadError) : List String :=
  match e with
  | .unreadable fault => ["0: " ++ e.message, "1: " ++ fault.message]
  | .malformedMarkup => ["0: " ++ e.message]
  | e => [e.message]

/-- The lines about the cause of a failure. -/
def causes : Failure → List String
  | cannotLoad _ cause => readCauses cause
  | cannotDecode _ cause => readCauses cause
  | noSuchType _ _ => []
  | unresolved _ _ => []
  | cannotWrite _ cause => [cause.message]

/-- The report of a failure. -/
def report (f : Failure) : String :=
  let heading := "Error: " ++ f.summary
  if f.causes.isEmpty then heading
  else
    heading ++ "\n\nCaused by:\n" ++ "\n".intercalate (f.causes.map fun line => "    " ++ line)

end Failure

/-- What a command printed and logged, and what it failed with. -/
structure Outcome where
  output : String := ""
  log : List Event := []
  failure : Option Failure := none

namespace Outcome

/-- The exit code: one after a failure. -/
def exitCode (o : Outcome) : Nat := if o.failure.isSome then 1 else 0

/-- The report of the failure, which is empty without one. -/
def report (o : Outcome) : String := (o.failure.map Failure.report).getD ""

/-- The outcome with only the events that a verbosity shows. -/
def atVerbosity (o : Outcome) (verbosity : Nat) : Outcome :=
  { o with log := o.log.filter fun e => e.level.verbosity ≤ verbosity }

end Outcome

/-- The exit code of a usage error. -/
def usageExitCode : Nat := 2

/-- Lines of text, each with its line break. -/
def lines (ls : List String) : String := String.join (ls.map (· ++ "\n"))

/-- A rule under a heading. -/
def rule (width : Nat) : String := String.ofList (List.replicate width '=')

/-- A word with blanks after it up to a width. -/
def padded (width : Nat) (word : String) : String :=
  word ++ String.ofList (List.replicate (width - word.length) ' ')

/-- Whether a listing with a filter shows a kind of type. -/
def KindFilter.shows (f : KindFilter) (k : CType.Kind) : Bool :=
  if f.structs || f.unions || f.enums then
    (k == .struct && f.structs) || (k == .union && f.unions) || (k == .enum && f.enums)
  else true

/-- The entries that a listing with a filter shows. -/
def KindFilter.select (f : KindFilter) (c : Catalog) : List (String × CType) :=
  c.entries.filter fun e => f.shows e.2.kind

/-- The listing of a catalog. -/
def listing (path : String) (f : KindFilter) (c : Catalog) : String :=
  let entries := f.select c
  lines (s!"Types in {path} ({entries.length} shown):" :: rule 50 ::
    entries.map fun e => s!"  {padded 10 e.2.kind.label} {e.1}")

/-- The text about one type of a catalog, with the names in it that have no entry. -/
def description (name : String) (t : CType) (c : Catalog) : String :=
  let missing := c.missingFrom t
  lines ([s!"Type: {name} ({t.kind.label})", rule 40, c.definition name] ++
    if missing.isEmpty then [] else ["", "// Missing: " ++ ", ".intercalate missing])

/-- The text about the numbers of a catalog, with the names that have no entry. -/
def summary (path : String) (c : Catalog) : String :=
  let s := c.statistics
  lines ([s!"Type database: {path}", rule 50,
      s!"Structs:       {s.structs}", s!"Unions:        {s.unions}",
      s!"Enums:         {s.enums}", s!"Other:         {s.others}",
      s!"Total:         {s.total}", "", s!"Unresolved:    {c.unresolved.length}"] ++
    c.unresolved.map fun name => "  " ++ name)

/-- The catalog of a document file, and what there is to report about loading it. -/
def loadCatalog (path : String) (strict : Bool) (file : Except FileFault ByteArray) :
    Except Failure Catalog × List Event :=
  match Document.load file with
  | .error e => (.error (.cannotLoad path e), [])
  | .ok d =>
    match Catalog.ofDocument d strict with
    | (.error e, log) => (.error (.cannotDecode path e), log.toList)
    | (.ok c, log) => (.ok c, log.toList ++ [.loaded c.size path])

/-- The outcome of a command on a loaded catalog. -/
def perform {m : Type → Type} [Monad m] (files : Files m) (command : Command) (c : Catalog) :
    m Outcome :=
  match command with
  | .listTypes path f => pure { output := listing path f c }
  | .showType path name =>
    match c.get? name with
    | none => pure { failure := some (.noSuchType name path) }
    | some t => pure { output := description name t c }
  | .writeJson _ none => pure { output := c.toJsonText ++ "\n" }
  | .writeJson _ (some output) => do
    match ← files.write output (c.toJsonText ++ "\n") with
    | .ok _ => pure { log := [.wrote c.size output] }
    | .error fault => pure { failure := some (.cannotWrite output fault) }
  | .checkTypes path =>
    let unresolved := c.unresolved
    pure {
      output := summary path c
      failure :=
        if unresolved.isEmpty then none else some (.unresolved unresolved.length path) }

/-- The outcome of an invocation. -/
def Invocation.run {m : Type → Type} [Monad m] (files : Files m) (inv : Invocation) :
    m Outcome := do
  let file ← files.read inv.command.path
  match loadCatalog inv.command.path inv.strict file with
  | (.error failure, log) =>
    return ({ log, failure := some failure } : Outcome).atVerbosity inv.verbosity
  | (.ok c, log) =>
    let outcome ← perform files inv.command c
    return { outcome with log := log ++ outcome.log }.atVerbosity inv.verbosity

/-- The outcome of a list of arguments; nothing for a usage error. -/
def run {m : Type → Type} [Monad m] (files : Files m) (args : List String) :
    m (Option Outcome) :=
  match Invocation.ofArguments? args with
  | none => pure none
  | some inv => some <$> inv.run files

end DebugTypes.CommandLine
