import LotterySlip.CommandLine.Environment
import LotterySlip.CommandLine.Option
import LotterySlip.Decimal.Text

/-! What the program is asked to do. -/
namespace LotterySlip.CommandLine
open Text

inductive Format
  | json
  | text
  | pretty
  deriving DecidableEq

def Format.named? : String → Option Format
  | "json" => some .json
  | "text" => some .text
  | "pretty" => some .pretty
  | _ => none

inductive Command
  | parse (file : Option String) (accessible : List Int64) (priceRate : Option Decimal)
  | stations
  | betTypes
  | combinations
  deriving DecidableEq

structure Invocation where
  format : Format
  config : Option String
  command : Command
  deriving DecidableEq

def configVariable : String := "BETCODE_CONFIG_DIR"

def globalOptions : List OptionSpec := [⟨"format", some 'o', false⟩, ⟨"config", none, false⟩]

def parseOptions : List OptionSpec :=
  [⟨"file", some 'f', false⟩, ⟨"accessible", none, true⟩, ⟨"price-rate", none, false⟩]

def readId? (cs : List Char) : Option Int64 :=
  let (negative, digits) := Decimal.splitSign cs
  let i : Int := if negative then -(runNumber digits : Int) else runNumber digits
  if isNumber digits ∧ Int64.minValue.toInt ≤ i ∧ i ≤ Int64.maxValue.toInt then
    some (Int64.ofInt i)
  else none

def readIds? (s : String) : Option (List Int64) := (s.toList.splitOn ',').mapM readId?

def readPath? (s : String) : Option String := if s.isEmpty then none else some s

def single? {α : Type} (given : List Given) (name : String) (read : String → Option α) :
    Option (Option α) :=
  match valuesOf given name with
  | [] => some none
  | value :: _ => (read value).map some

def optionsOf? : String → Option (List OptionSpec)
  | "parse" => some parseOptions
  | "stations" => some []
  | "bet-types" => some []
  | "combinations" => some []
  | _ => none

def command? (name : String) (given : List Given) : Option Command :=
  match name with
  | "parse" => do
    let file ← single? given "file" readPath?
    let ids ← (valuesOf given "accessible").mapM readIds?
    let rate ← single? given "price-rate" fun s => Decimal.read? s.toList
    some (.parse file ids.flatten rate)
  | "stations" => some .stations
  | "bet-types" => some .betTypes
  | "combinations" => some .combinations
  | _ => none

/-- Whether the directory that the environment names, if it does, has a name. The environment is
asked in front of the command and behind it, wherever no directory is given. -/
def isConfigNamed (env : Environment) (front behind : List Given) : Bool :=
  (env.get? configVariable) ≠ some "" ||
    [front, behind].all fun given => !(valuesOf given "config").isEmpty

/-- Reads the arguments of the program: options, a command, and more options. An option behind the
command counts before the same one in front of it, and an option before the environment. The mark
that ends the options may stand at the very end. -/
def Invocation.read? (args : List String) (env : Environment) : Option Invocation :=
  match options? globalOptions args.length args with
  | some (front, name :: rest) => do
    let specs := globalOptions ++ (← optionsOf? name)
    let (behind, rest) ← options? specs rest.length rest
    let given := behind ++ front
    let formats ← (valuesOf given "format").mapM Format.named?
    let configs ← (valuesOf given "config").mapM readPath?
    let command ← command? name given
    if (rest.isEmpty ∨ rest = [terminator]) ∧ isConsistent globalOptions front ∧
        isConsistent specs behind ∧ isConfigNamed env front behind then
      some ⟨formats.headD .pretty, configs.head?.or (env.get? configVariable), command⟩
    else none
  | _ => none

end LotterySlip.CommandLine
