/-!
# Arguments of the command line

The arguments name one of four commands and give it options and positional arguments.  Options may
stand before or after positional arguments; two of them, the strict mode and the verbosity, may also
stand before the command.  A lone `--` makes every later argument positional.

## Main definitions

* `Command`, `Invocation` — what the arguments ask for.
* `Invocation.ofArguments?` — the reading of the arguments; anything out of the ordinary is a usage
  error.
-/

namespace DebugTypes.CommandLine

/-- Which kinds of named types a listing shows; without a choice it shows all. -/
structure KindFilter where
  structs : Bool := false
  unions : Bool := false
  enums : Bool := false
  deriving DecidableEq, Repr

/-- A command with its arguments. -/
inductive Command where
  /-- List the named types of a document. -/
  | listTypes (path : String) (filter : KindFilter)
  /-- Show the definition of one type. -/
  | showType (path name : String)
  /-- Write the catalog of a document as JSON, to a file or to the standard output. -/
  | writeJson (path : String) (output : Option String)
  /-- Count the types of a document, and look for names without an entry. -/
  | checkTypes (path : String)
  deriving DecidableEq, Repr

/-- The document that a command reads. -/
def Command.path : Command → String
  | listTypes path _ => path
  | showType path _ => path
  | writeJson path _ => path
  | checkTypes path => path

/-- What the arguments ask for. -/
structure Invocation where
  command : Command
  strict : Bool
  verbosity : Nat
  deriving DecidableEq, Repr

/-- Which options are known at a place: the names of flags, and whether an output is. -/
structure Known where
  flags : List String
  output : Bool

/-- The arguments read so far. -/
structure Given where
  flags : List String := []
  verbosity : Nat := 0
  output : Option String := none
  positional : List String := []

namespace Given

/-- Add a flag, which has to be known and may not be repeated. -/
def flag? (known : Known) (g : Given) (name : String) : Option Given :=
  if known.flags.contains name && !g.flags.contains name then
    some { g with flags := name :: g.flags }
  else none

/-- Raise the verbosity by one. -/
def louder (g : Given) : Given := { g with verbosity := g.verbosity + 1 }

/-- Set the output, which may not be empty and may not be repeated. -/
def output? (g : Given) (value : String) : Option Given :=
  if g.output.isNone && !value.isEmpty then some { g with output := some value } else none

/-- Add a positional argument. -/
def push (g : Given) (value : String) : Given := { g with positional := g.positional ++ [value] }

end Given

/-- What has been read, and whether the next argument has to be the output. -/
abbrev Step := Given × Bool

/-- Read the letters of an argument with a single hyphen.  After the letter for the output the rest
of the argument is its value, with an equals sign in front of it dropped. -/
def letters? (known : Known) : List Char → Given → Option Step
  | [], g => some (g, false)
  | 'v' :: cs, g => letters? known cs g.louder
  | 'o' :: cs, g =>
    if known.output then
      match cs with
      | [] => if g.output.isNone then some (g, true) else none
      | '=' :: value => (g.output? (String.ofList value)).map (·, false)
      | value => (g.output? (String.ofList value)).map (·, false)
    else none
  | _ :: _, _ => none

/-- The part of a text before an equals sign, and the part after it if there is one. -/
def splitAtEquals (cs : List Char) : String × Option String :=
  match cs.dropWhile (· != '=') with
  | [] => (String.ofList cs, none)
  | _ :: value => (String.ofList (cs.takeWhile (· != '=')), some (String.ofList value))

/-- Read an argument with two hyphens, which have been dropped. -/
def longOption? (known : Known) (cs : List Char) (g : Given) : Option Step :=
  match splitAtEquals cs with
  | (name, none) =>
    if name == "verbose" then some (g.louder, false)
    else if name == "output" && known.output then
      if g.output.isNone then some (g, true) else none
    else (g.flag? known name).map (·, false)
  | (name, some value) =>
    if name == "output" && known.output then (g.output? value).map (·, false) else none

/-- Whether an argument is an option, which a lone hyphen is not. -/
def isOption (arg : String) : Bool :=
  match arg.toList with
  | '-' :: _ :: _ => true
  | _ => false

/-- Read an argument that is an option. -/
def option? (known : Known) (arg : String) (g : Given) : Option Step :=
  match arg.toList with
  | '-' :: '-' :: cs => longOption? known cs g
  | '-' :: cs => letters? known cs g
  | _ => none

/-- Read the arguments after the command; `awaited` says that the next one has to be the output. -/
def arguments? (known : Known) : (awaited : Bool) → List String → Given → Option Given
  | true, [], _ => none
  | true, arg :: args, g =>
    if isOption arg then none else (g.output? arg).bind (arguments? known false args)
  | false, [], g => some g
  | false, arg :: args, g =>
    if arg == "--" then some { g with positional := g.positional ++ args }
    else if isOption arg then
      (option? known arg g).bind fun (g, awaited) => arguments? known awaited args g
    else arguments? known false args (g.push arg)

/-- The options that every place knows. -/
def everywhere : Known := ⟨["strict"], false⟩

/-- Read the arguments up to the command: the options before it, its word, and what follows it. -/
def leading? : List String → Given → Option (Given × String × List String)
  | [], _ => none
  | arg :: args, g =>
    if arg == "--" then none
    else if isOption arg then (option? everywhere arg g).bind fun (g, _) => leading? args g
    else some (g, arg, args)

/-- The options that a command knows. -/
def knownTo (word : String) : Known :=
  if word == "list" then ⟨["strict", "structs", "unions", "enums"], false⟩
  else if word == "json" then ⟨["strict"], true⟩
  else everywhere

/-- The command of a word with what was given to it.  The path of a document may not be empty. -/
def Command.ofGiven? (word : String) (g : Given) : Option Command :=
  if word == "list" then
    match g.positional with
    | [path] => some (listTypes path
        ⟨g.flags.contains "structs", g.flags.contains "unions", g.flags.contains "enums"⟩)
    | _ => none
  else if word == "show" then
    match g.positional with
    | [path, name] => some (showType path name)
    | _ => none
  else if word == "json" then
    match g.positional with
    | [path] => some (writeJson path g.output)
    | _ => none
  else if word == "check" then
    match g.positional with
    | [path] => some (checkTypes path)
    | _ => none
  else none

/-- What the arguments ask for.  Of the two places for the verbosity the one after the command
counts if it is used; the strict mode counts from either. -/
def Invocation.ofArguments? (args : List String) : Option Invocation := do
  let (early, word, args) ← leading? args {}
  let late ← arguments? (knownTo word) false args {}
  let command ← Command.ofGiven? word late
  if command.path.isEmpty then none
  else
    some {
      command
      strict := early.flags.contains "strict" || late.flags.contains "strict"
      verbosity := if late.verbosity = 0 then early.verbosity else late.verbosity }

end DebugTypes.CommandLine
