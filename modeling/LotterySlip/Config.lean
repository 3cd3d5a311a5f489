import LotterySlip.Document.Decoding
import LotterySlip.Document.Yaml.Reader
import LotterySlip.Files

/-! The configuration of a house: a directory with the catalogs and the settings. What is accepted
has stations with names and different numbers, bet types with aliases and different numbers,
combinations with different names, and settings without a negative price rate. -/
namespace LotterySlip
open Text

inductive ConfigError
  | unreadable (path : String) (fault : FileFault)
  | malformed (path : String)
  | duplicateStation (id : Int64)
  | namelessStation (id : Int64)
  | duplicateBetType (id : Int64)
  | betTypeWithoutAlias (name : String) (id : Int64)
  | duplicateCombination (name : String)
  | negativePriceRate
  | noExpansion
  deriving DecidableEq

namespace ConfigError

def message : ConfigError → String
  | unreadable path _ => s!"Failed to read {path}"
  | malformed path => s!"Failed to parse {path}"
  | duplicateStation id => s!"Duplicate station ID: {id}"
  | namelessStation id => s!"Station {id} has an empty name"
  | duplicateBetType id => s!"Duplicate bet type ID: {id}"
  | betTypeWithoutAlias name id => s!"Bet type '{name}' ({id}) declares no alias"
  | duplicateCombination name => s!"Duplicate combination: {name}"
  | negativePriceRate => "settings.yaml: price_rate must not be negative"
  | noExpansion => "settings.yaml: max_expanded_numbers must be positive"

def fullMessage (e : ConfigError) : String :=
  match e with
  | unreadable _ fault => e.message ++ ": " ++ fault.message
  | _ => e.message

end ConfigError

namespace Config

def stationsFile : String := "stations.yaml"

def betTypesFile : String := "bet_types.yaml"

def combinationsFile : String := "combinations.yaml"

def settingsFile : String := "settings.yaml"

/-- The first fault of a list, when each item is tested against the marks of those before it. -/
def firstFault {α μ : Type} (mark : α → μ) (test : List μ → α → Option ConfigError)
    (seen : List μ) : List α → Option ConfigError
  | [] => none
  | a :: as => (test seen a).or (firstFault mark test (mark a :: seen) as)

def stationFault (seen : List Int64) (s : Station) : Option ConfigError :=
  if seen.contains s.id then some (.duplicateStation s.id)
  else if isBlankText s.name.toList then some (.namelessStation s.id)
  else none

def betTypeFault (seen : List Int64) (b : BetType) : Option ConfigError :=
  if seen.contains b.id then some (.duplicateBetType b.id)
  else if b.aliases.all fun a => isBlankText a.toList then some (.betTypeWithoutAlias b.name b.id)
  else none

def combinationFault (seen : List String) (c : Combination) : Option ConfigError :=
  if seen.contains c.name then some (.duplicateCombination c.name) else none

def settingsFault (s : Settings) : Option ConfigError :=
  if s.priceRate.negative then some .negativePriceRate
  else if s.options.maxExpandedNumbers = 0 then some .noExpansion
  else none

def faultless {α : Type} (fault : α → Option ConfigError) (a : α) : Except ConfigError α :=
  match fault a with
  | some e => .error e
  | none => .ok a

def parse {α : Type} (read : Document → Option α) (path text : String) : Except ConfigError α :=
  match (Yaml.read? text.toList).bind read with
  | some a => .ok a
  | none => .error (.malformed path)

def stationsOf? (d : Document) : Option (List Station) := do
  required? (← d.fields? ["stations"]) "stations" (Document.listOf? Station.ofDocument?)

def betTypesOf? (d : Document) : Option (List BetType) := do
  required? (← d.fields? ["bet_types"]) "bet_types" (Document.listOf? BetType.ofDocument?)

def combinationsOf? (d : Document) : Option (List Combination) := do
  defaulted? (← d.fields? ["combinations"]) "combinations" []
    (Document.listOf? Combination.ofDocument?)

def stations (path text : String) : Except ConfigError (List Station) :=
  parse stationsOf? path text >>= faultless (firstFault Station.id stationFault [])

def betTypes (path text : String) : Except ConfigError (List BetType) :=
  parse betTypesOf? path text >>= faultless (firstFault BetType.id betTypeFault [])

def combinations (path text : String) : Except ConfigError (List Combination) :=
  parse combinationsOf? path text >>= faultless (firstFault Combination.name combinationFault [])

def settings (path text : String) : Except ConfigError Settings :=
  parse Settings.ofDocument? path text >>= faultless settingsFault

def readFile {α : Type} (files : Files) (path : String)
    (read : String → String → Except ConfigError α) : Except ConfigError α :=
  match files path with
  | .ok text => read path text
  | .error fault => .error (.unreadable path fault)

def readOptionalFile {α : Type} (files : Files) (path : String) (absent : α)
    (read : String → String → Except ConfigError α) : Except ConfigError α :=
  if files.has path then readFile files path read else .ok absent

def loadStations (files : Files) (dir : String) : Except ConfigError (List Station) :=
  readFile files (joinPath dir stationsFile) stations

def loadBetTypes (files : Files) (dir : String) : Except ConfigError (List BetType) :=
  readFile files (joinPath dir betTypesFile) betTypes

def loadCombinations (files : Files) (dir : String) : Except ConfigError (List Combination) :=
  readOptionalFile files (joinPath dir combinationsFile) [] combinations

def loadSettings (files : Files) (dir : String) : Except ConfigError Settings :=
  readOptionalFile files (joinPath dir settingsFile) .standard settings

/-- The catalogs of a directory; the first fault counts, in this order of the files. -/
def loadCatalogs (files : Files) (dir : String) : Except ConfigError Catalogs := do
  let stations ← loadStations files dir
  let betTypes ← loadBetTypes files dir
  let combinations ← loadCombinations files dir
  pure ⟨stations, betTypes, combinations⟩

def loadHouse (files : Files) (dir : String) : Except ConfigError (Catalogs × Settings) := do
  let catalogs ← loadCatalogs files dir
  let settings ← loadSettings files dir
  pure (catalogs.applyOverrides settings.payoutOverrides, settings)

end Config
end LotterySlip
