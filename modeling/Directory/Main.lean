import Directory.Command.Run

/-!
# The program

Reads the command line, runs the command on the real files and puts out what it has to say.
-/

open Directory

namespace Directory.Program

/-- How the program is used. -/
def usageText : String :=
  Text.unlines
    ["Attack-path queries over directory object graphs", "",
     "Usage: dirquery [--verbose] query [--config <CONFIG>] [--filter <FILTER>]",
     "       dirquery [--verbose] explain [--config <CONFIG>] --filter <FILTER>",
     "       dirquery [--verbose] methods"]

/-- The version of the program. -/
def versionText : String := "dirquery 0.1.0"

/-- What is said of a command line that cannot be run. -/
def usageMessage : Command.Usage → String
  | .help | .empty => usageText
  | .version => versionText ++ "\n"
  | .noCommand => "error: a command is required\n\n" ++ usageText
  | .unknownCommand => "error: unrecognized command\n\n" ++ usageText
  | .unknownArgument => "error: unexpected argument\n\n" ++ usageText
  | .missingOption => "error: a required option is missing\n\n" ++ usageText
  | .missingValue => "error: an option lacks its value\n\n" ++ usageText
  | .repeatedOption => "error: an option is given twice\n\n" ++ usageText
  | .superfluousValue => "error: an option takes no value\n\n" ++ usageText

/-- The text of a file, if it can be read. -/
def readFile (path : String) : IO (Option String) := do
  try
    return some (← IO.FS.readFile path)
  catch _ =>
    return none

/-- The bytes of the standard input. -/
def readInput : IO (List UInt8) := do
  return (← (← IO.getStdin).readBinToEnd).toList

/-- Random bytes as a number. -/
def randomNumber (bytes : USize) : IO Nat := do
  return (← IO.getRandomBytes bytes).toList.foldl (fun n b => 256 * n + b.toNat) 0

/-- An identifier of the kind that is drawn at random: version four, first variant. -/
def randomGuid (n : Nat) : Guid :=
  let keep : BitVec 128 := ~~~ (BitVec.ofNat 128 (15 <<< 76 ||| 3 <<< 62))
  ⟨(BitVec.ofNat 128 n &&& keep) ||| BitVec.ofNat 128 (4 <<< 76 ||| 2 <<< 62)⟩

/-- The files, the input and the chance of the machine. -/
def surroundings : IO (Command.Surroundings IO) := do
  let spares := Draws.ofSeed (UInt64.ofNat (← randomNumber 8))
  let chance := Draws.ofSeed (UInt64.ofNat (← randomNumber 8))
  return {
    file := readFile
    input := readInput
    spares := fun n =>
      randomGuid ((spares.stream (2 * n)).toNat <<< 64 ||| (spares.stream (2 * n + 1)).toNat)
    chance }

end Directory.Program

open Directory.Program in
/-- Runs the program. -/
def main (arguments : List String) : IO UInt32 := do
  match Command.Invocation.ofArguments arguments with
  | .error .help =>
    IO.print usageText
    return 0
  | .error .version =>
    IO.println versionText
    return 0
  | .error usage =>
    IO.eprint (usageMessage usage)
    return 2
  | .ok invocation =>
    let outcome ← Command.run (← surroundings) invocation
    for record in outcome.log do
      IO.eprint record.written
    IO.print outcome.output
    match outcome.failure with
    | none => return 0
    | some failure =>
      IO.eprintln (failure.kind.code ++ ": " ++ failure.message)
      return 1
