import LotterySlip.CommandLine.Dotenv
import LotterySlip.CommandLine.Invocation
import LotterySlip.CommandLine.Listing
import LotterySlip.Config
import LotterySlip.Document.Json.Printer
import LotterySlip.Document.Report
import LotterySlip.Shipped

/-! The program: a command is carried out on files and a text, and its outcome is shown. -/
namespace LotterySlip.CommandLine

structure Output where
  exit : Nat
  stdout : String
  stderr : String
  deriving DecidableEq

inductive ConfigSource
  | directory (path : String)
  | shipped
  deriving DecidableEq

def homeVariable : String := "CARGO_MANIFEST_DIR"

def configDirectory : String := "config"

def holdsConfig (files : Files) (dir : String) : Bool :=
  files.has (joinPath dir Config.stationsFile)

/-- The configuration that is used: the one asked for, else the one in the working directory, else
the one in the directory of the environment, else the shipped one. -/
def configSource (files : Files) (env : Environment) (asked : Option String) : ConfigSource :=
  match asked with
  | some dir => .directory dir
  | none =>
    if holdsConfig files configDirectory then .directory configDirectory
    else match env.get? homeVariable with
      | none => .shipped
      | some home =>
        let dir := joinPath home configDirectory
        if holdsConfig files dir then .directory dir else .shipped

namespace ConfigSource

def stations (files : Files) : ConfigSource → Except ConfigError (List Station)
  | directory dir => Config.loadStations files dir
  | shipped => .ok Shipped.stations

def combinations (files : Files) : ConfigSource → Except ConfigError (List Combination)
  | directory dir => Config.loadCombinations files dir
  | shipped => .ok Shipped.combinations

def house (files : Files) : ConfigSource → Except ConfigError (Catalogs × Settings)
  | directory dir => Config.loadHouse files dir
  | shipped =>
    .ok (Shipped.catalogs.applyOverrides Shipped.settings.payoutOverrides, Shipped.settings)

end ConfigSource

def Output.success (text : String) : Output := ⟨0, text, ""⟩

def Output.failure (format : Format) (message : String) : Output :=
  match format with
  | .json => ⟨1, Json.compact (.object [("error", .text message)]) ++ "\n", ""⟩
  | _ => ⟨1, "", "error: " ++ message ++ "\n"⟩

def Output.usage : Output := ⟨2, "", "error: invalid arguments\n"⟩

def Output.overflow : Output := ⟨101, "", SubmissionResult.overflowMessage ++ "\n"⟩

def Output.unsettable : Output := ⟨101, "", "a variable cannot hold the character zero\n"⟩

def documentText (d : Document) : String := Json.pretty 0 d ++ "\n"

def sortMembers (members : List (String × Document)) : List (String × Document) :=
  members.mergeSort fun a b => a.1 ≤ b.1

def refusalDocument (e : SlipError) : Document :=
  .object [("error", .object (sortMembers e.members)), ("kind", .text e.kind.name),
    ("message", .text e.message)]

def showSubmission (format : Format) : SubmissionResult → Output
  | .totalOverflow => .overflow
  | .refused e =>
    match format with
    | .json => ⟨1, documentText (refusalDocument e), ""⟩
    | _ => .failure format e.message
  | .accepted s =>
    match format with
    | .json => .success (documentText (.object s.members))
    | .text => .success (s.formatted ++ "\n")
    | .pretty => .success (unlines (submissionLines s))

def showList {α : Type} (format : Format) (document : α → Document) (line : α → String)
    (items : List α) : Output :=
  match format with
  | .json => .success (documentText (.list (items.map document)))
  | _ => .success (unlines (items.map line))

def readSlip (files : Files) (piped : String) : Option String → Except String String
  | none => .ok piped
  | some path =>
    match files path with
    | .ok text => .ok text
    | .error fault =>
      let reason := fault.message
      .error s!"Failed to read '{path}': {reason}"

def submitAt (house : Catalogs × Settings) (accessible : List Int64) (priceRate : Option Decimal)
    (text : String) : SubmissionResult :=
  let (catalogs, settings) := house
  (catalogs.house settings.options).submit (catalogs.stationsWithIds accessible)
    (priceRate.getD settings.priceRate) text

def showLoaded {α : Type} (format : Format) (present : α → Output) :
    Except ConfigError α → Output
  | .ok a => present a
  | .error e => .failure format e.fullMessage

def Invocation.run (inv : Invocation) (files : Files) (env : Environment) (piped : String) :
    Output :=
  let source := configSource files env inv.config
  match inv.command with
  | .parse file accessible priceRate =>
    match readSlip files piped file with
    | .error message => .failure inv.format message
    | .ok text =>
      showLoaded inv.format
        (fun house => showSubmission inv.format (submitAt house accessible priceRate text))
        (source.house files)
  | .stations =>
    showLoaded inv.format (showList inv.format Station.toDocument stationLine)
      (source.stations files)
  | .betTypes =>
    showLoaded inv.format
      (fun house => showList inv.format BetType.toDocument betTypeLine house.1.betTypes)
      (source.house files)
  | .combinations =>
    showLoaded inv.format (showList inv.format Combination.toDocument combinationLine)
      (source.combinations files)

def dotenvFile : String := ".env"

def fullEnvironment? (files : Files) (env : Environment) : Option Environment :=
  match files dotenvFile with
  | .ok text => env.extend? text
  | .error _ => some env

def run (args : List String) (files : Files) (env : Environment) (piped : String) : Output :=
  match fullEnvironment? files env with
  | none => .unsettable
  | some env =>
    match Invocation.read? args env with
    | some inv => inv.run files env piped
    | none => .usage

def configPaths (dir : String) : List String :=
  [Config.stationsFile, Config.betTypesFile, Config.combinationsFile, Config.settingsFile].map
    (joinPath dir)

def Invocation.paths (inv : Invocation) (env : Environment) : List String :=
  let dirs := inv.config.toList ++ [configDirectory] ++
    ((env.get? homeVariable).map fun home => joinPath home configDirectory).toList
  let slip := match inv.command with
    | .parse (some path) _ _ => [path]
    | _ => []
  slip ++ dirs.flatMap configPaths

end LotterySlip.CommandLine
