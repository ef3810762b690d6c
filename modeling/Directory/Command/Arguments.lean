/-!
# Command lines

- `Command.Invocation`: what a command line asks for.
- `Command.Usage`: why a command line asks for nothing that can be run.
- `Command.Invocation.ofArguments`: reads a command line.
- `Command.Given`: the options read so far, `Command.Shape`: the form of a single argument.

An option may be written as two arguments or as one with an equals sign. Its value is settled no
sooner than the next option or the end, so an argument that is not known is reported first.
-/

namespace Directory.Command

/-- The configuration file if none is given. -/
def defaultConfig : String := "./dirquery.json"

/-- What is to be done. -/
inductive Action where
  /-- Answers one filter, or those on the standard input. -/
  | query (config : String) (filter : Option String)
  /-- Explains how a filter would be answered. -/
  | explain (config : String) (filter : String)
  /-- Lists the attack methods. -/
  | methods
deriving DecidableEq, Repr

/-- What a command line asks for. -/
structure Invocation where
  /-- Whether the log tells of every single query. -/
  verbose : Bool
  /-- What is to be done. -/
  action : Action
deriving DecidableEq, Repr

/-- Why a command line asks for nothing that can be run. -/
inductive Usage where
  /-- It asks for help. -/
  | help
  /-- It asks for the version. -/
  | version
  /-- It is empty. -/
  | empty
  /-- It names no command. -/
  | noCommand
  /-- It names a command that does not exist. -/
  | unknownCommand
  /-- It has an argument that is not accepted there. -/
  | unknownArgument
  /-- It lacks an option that is required. -/
  | missingOption
  /-- It has an option without a value, or with an empty path. -/
  | missingValue
  /-- It has an option twice. -/
  | repeatedOption
  /-- It gives a value to an option that takes none. -/
  | superfluousValue
deriving DecidableEq, Repr

/-! ## Single arguments -/

/-- The form of an argument. -/
inductive Shape where
  /-- Two hyphens, after which no options follow. -/
  | escape
  /-- An option by its name, perhaps with a value after an equals sign. -/
  | long (name : String) (value : Option String)
  /-- An option by its letter. -/
  | short (letter : Char)
  /-- Anything else. -/
  | word (text : String)
deriving DecidableEq, Repr

/-- The form of an argument. A single hyphen is a word. -/
def Shape.ofArgument (s : String) : Shape :=
  match s.toList with
  | ['-', '-'] => .escape
  | '-' :: '-' :: l =>
    let name := String.ofList (l.takeWhile (· ≠ '='))
    match l.dropWhile (· ≠ '=') with
    | [] => .long name none
    | _ :: value => .long name (some (String.ofList value))
  | '-' :: c :: _ => .short c
  | _ => .word s

/-! ## Options of a command -/

/-- An option with a value. -/
inductive Setting where
  /-- The path of the configuration file. -/
  | config
  /-- The text of a filter. -/
  | filter
deriving DecidableEq, Repr

/-- The option of a name. -/
def Setting.ofName? (name : String) : Option Setting :=
  if name = "config" then some .config else if name = "filter" then some .filter else none

/-- The options read so far. -/
structure Given where
  /-- Whether the log is to tell of every single query. -/
  verbose : Bool := false
  /-- The path of the configuration file. -/
  config : Option String := none
  /-- The text of a filter. -/
  filter : Option String := none
  /-- The last option, with its value if that has been read, until it is settled. -/
  pending : Option (Setting × Option String) := none
deriving DecidableEq, Repr

namespace Given

/-- Sets an option. It may not be set yet, and a path may not be empty. -/
def put (g : Given) (o : Setting) (value : String) : Except Usage Given :=
  match o with
  | .config =>
    if g.config.isSome then .error .repeatedOption
    else if value = "" then .error .missingValue
    else .ok { g with config := some value }
  | .filter =>
    if g.filter.isSome then .error .repeatedOption else .ok { g with filter := some value }

/-- Settles the last option, which must have a value by now. -/
def settle (g : Given) : Except Usage Given :=
  match g.pending with
  | none => .ok g
  | some (_, none) => .error .missingValue
  | some (o, some value) => { g with pending := none }.put o value

/-- Reads an option that asks for help. -/
def askHelp {α : Type} (g : Given) : Except Usage α := do
  let _ ← g.settle
  throw .help

/-- Reads the option that makes the log tell more. -/
def beVerbose (g : Given) (value : Option String) : Except Usage Given := do
  if value.isSome then throw .superfluousValue
  let g ← g.settle
  if g.verbose then throw .repeatedOption
  return { g with verbose := true }

/-- Reads the arguments of a command that takes the given options. -/
def read (takes : List Setting) : Given → List Shape → Except Usage Given
  | g, [] => g.settle
  | g, .escape :: rest => if rest.isEmpty then g.settle else .error .unknownArgument
  | g, .short letter :: _ => if letter = 'h' then g.askHelp else .error .unknownArgument
  | g, .word text :: rest =>
    match g.pending with
    | some (o, none) => read takes { g with pending := some (o, some text) } rest
    | _ => .error .unknownArgument
  | g, .long name value :: rest => do
    if name = "verbose" then read takes (← g.beVerbose value) rest
    else if name = "help" then
      if value.isSome then throw .superfluousValue
      g.askHelp
    else
      match (Setting.ofName? name).filter (· ∈ takes) with
      | none => throw .unknownArgument
      | some o =>
        let g ← g.settle
        match value with
        | some value => read takes (← g.put o value) rest
        | none => read takes { g with pending := some (o, none) } rest

/-- The path of the configuration file. -/
def configPath (g : Given) : String :=
  g.config.getD defaultConfig

end Given

/-! ## Command lines -/

/-- The names of the commands. -/
def commandNames : List String :=
  ["query", "explain", "methods", "help"]

/-- What is asked of a command that takes the given options. -/
def readCommand (verbose : Bool) (takes : List Setting) (rest : List Shape)
    (action : Given → Except Usage Action) : Except Usage Invocation := do
  let g ← Given.read takes {} rest
  return ⟨verbose || g.verbose, ← action g⟩

/-- What the command of a name is asked. -/
def readNamed (verbose : Bool) (name : String) (rest : List Shape) : Except Usage Invocation :=
  match name with
  | "query" =>
    readCommand verbose [.config, .filter] rest fun g => .ok (.query g.configPath g.filter)
  | "explain" =>
    readCommand verbose [.config, .filter] rest fun g =>
      match g.filter with
      | some filter => .ok (.explain g.configPath filter)
      | none => .error .missingOption
  | "methods" => readCommand verbose [] rest fun _ => .ok .methods
  | "help" =>
    match rest with
    | [] => .error .help
    | [.word topic] => .error (if topic ∈ commandNames then .help else .unknownCommand)
    | _ => .error .unknownCommand
  | _ => .error .unknownCommand

/-- What is wrong with a command line that ends before a command. -/
def endsEarly (verbose : Bool) : Usage :=
  if verbose then .noCommand else .empty

/-- What a command line asks for, of which the options before the command may have been read. -/
def readLine (verbose : Bool) : List Shape → Except Usage Invocation
  | [] => .error (endsEarly verbose)
  | [.escape] => .error (endsEarly verbose)
  | .escape :: .word text :: _ =>
    .error (if text ∈ commandNames then .unknownArgument else .unknownCommand)
  | .escape :: _ => .error .unknownCommand
  | .short letter :: _ =>
    .error (if letter = 'h' then .help else if letter = 'V' then .version else .unknownArgument)
  | .word name :: rest => readNamed verbose name rest
  | .long name value :: rest =>
    if name ∉ ["verbose", "help", "version"] then .error .unknownArgument
    else if value.isSome then .error .superfluousValue
    else if name = "help" then .error .help
    else if name = "version" then .error .version
    else if verbose then .error .repeatedOption
    else readLine true rest

/-- What a command line asks for. -/
def Invocation.ofArguments (arguments : List String) : Except Usage Invocation :=
  readLine false (arguments.map Shape.ofArgument)

end Directory.Command
