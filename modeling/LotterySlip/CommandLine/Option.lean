/-! Options on a command line: `--name value`, `--name=value`, `-x value`, `-xvalue` and `-x=value`.
-/
namespace LotterySlip.CommandLine

structure OptionSpec where
  long : String
  letter : Option Char
  repeats : Bool
  deriving DecidableEq

structure Given where
  name : String
  value : String
  deriving DecidableEq

def isPlain (arg : String) : Bool := arg = "-" || arg.toList.head? ≠ some '-'

def nextValue? (name : String) : List String → Option (Given × List String)
  | arg :: rest => if isPlain arg then some (⟨name, arg⟩, rest) else none
  | [] => none

def long? (specs : List OptionSpec) (cs : List Char) (rest : List String) :
    Option (Given × List String) := do
  let name := String.ofList (cs.takeWhile fun c => c != '=')
  let spec ← specs.find? fun s => s.long == name
  match cs.dropWhile fun c => c != '=' with
  | [] => nextValue? spec.long rest
  | _ :: value => some (⟨spec.long, String.ofList value⟩, rest)

def letter? (specs : List OptionSpec) (letter : Char) (cs : List Char) (rest : List String) :
    Option (Given × List String) := do
  let spec ← specs.find? fun s => s.letter == some letter
  match cs with
  | [] => nextValue? spec.long rest
  | '=' :: value => some (⟨spec.long, String.ofList value⟩, rest)
  | value => some (⟨spec.long, String.ofList value⟩, rest)

def option? (specs : List OptionSpec) (arg : String) (rest : List String) :
    Option (Given × List String) :=
  match arg.toList with
  | '-' :: '-' :: cs => long? specs cs rest
  | '-' :: c :: cs => letter? specs c cs rest
  | _ => none

def terminator : String := "--"

/-- Splits off the options in front. Every step takes an argument off the list, so its length is
enough for `size`. -/
def options? (specs : List OptionSpec) (size : Nat) (args : List String) :
    Option (List Given × List String) :=
  match size, args with
  | _, [] => some ([], [])
  | 0, _ => none
  | size + 1, arg :: rest =>
    if isPlain arg ∨ arg = terminator then some ([], arg :: rest)
    else do
      let (given, rest) ← option? specs arg rest
      let (more, rest) ← options? specs size rest
      some (given :: more, rest)

def valuesOf (given : List Given) (name : String) : List String :=
  (given.filter fun g => g.name == name).map fun g => g.value

def isConsistent (specs : List OptionSpec) (given : List Given) : Bool :=
  specs.all fun s => s.repeats || (valuesOf given s.long).length ≤ 1

end LotterySlip.CommandLine
