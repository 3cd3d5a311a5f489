import LotterySlip.CommandLine.Run

/-! The program as it is run. -/
open LotterySlip
open LotterySlip.CommandLine

def readPath (path : String) : IO (Except FileFault String) := do
  try
    return .ok (← IO.FS.readFile path)
  catch
    | .inappropriateType _ code _ =>
      return .error (if code = 21 then .isDirectory else .notDirectory)
    | .invalidArgument .. => return .error .nameTooLong
    | _ => return .error .missing

def snapshot (paths : List String) : IO Files := do
  let found ← paths.mapM fun path => do return (path, ← readPath path)
  return fun path => ((found.find? fun f => f.1 == path).map fun f => f.2).getD (.error .missing)

def mentionedNames (text : String) : List String :=
  let runs (p : Char → Bool) := (Text.pieces (fun c => !p c) text.toList).map String.ofList
  runs Dotenv.isNamePart ++ runs Text.isLetterOrNumber

def readEnvironment (dotenv : Files) : IO Environment := do
  let mentioned := match dotenv dotenvFile with
    | .ok text => mentionedNames text
    | .error _ => []
  let found ← ([configVariable, homeVariable] ++ mentioned).mapM fun name => do
    return (← IO.getEnv name).map fun value => (name, value)
  return found.filterMap id

def main (args : List String) : IO UInt32 := do
  let dotenv ← snapshot [dotenvFile]
  let env ← readEnvironment dotenv
  let full := (fullEnvironment? dotenv env).getD env
  let paths := ((Invocation.read? args full).map fun inv => inv.paths full).getD []
  let files ← snapshot (dotenvFile :: paths)
  let piped ← (← IO.getStdin).readToEnd
  let output := run args files env piped
  IO.print output.stdout
  IO.eprint output.stderr
  return output.exit.toUInt32
