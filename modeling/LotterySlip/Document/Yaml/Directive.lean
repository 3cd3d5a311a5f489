import LotterySlip.Document.Yaml.Tag
import LotterySlip.Text.Digits

/-! Directives in front of a document: the version of the format, and the handles of tags. -/
namespace LotterySlip.Yaml
open Text

inductive Directive
  | version (major minor : Nat)
  | handle (name stem : String)
  deriving DecidableEq, Repr

def versionNumber? (cs : List Cell) : Option (Nat × List Cell) :=
  let digits := (cs.takeWhile fun c => c.char.isDigit).map Cell.char
  if digits.isEmpty || 9 < digits.length then none
  else some (runNumber digits, cs.drop digits.length)

def version? (cs : List Cell) : Option (Directive × List Cell) := do
  let (major, rest) ← versionNumber? cs
  let (minor, rest) ←
    if rest.head?.any fun c => c.char == '.' then versionNumber? rest.tail else none
  some (.version major minor, rest)

def handleName? : List Cell → Option (String × List Cell)
  | [] => none
  | c :: cs =>
    let (name, rest) := spanName cs
    if c.char ≠ '!' then none
    else if rest.head?.any fun d => d.char == '!' then some ("!" ++ name ++ "!", rest.tail)
    else if name = "" then some ("!", rest)
    else none

def handle? (cs : List Cell) : Option (Directive × List Cell) := do
  let (name, rest) ← handleName? cs
  let (stem, rest) ←
    if rest.head?.any Cell.isSpace then properAddress? true (rest.dropWhile Cell.isSpace) else none
  if atGap rest then some (.handle name stem, rest) else none

def directive? (cs : List Cell) : Option (Directive × List Cell) := do
  let (name, rest) := spanName cs
  let body := rest.dropWhile Cell.isSpace
  let (directive, rest) ←
    if !atGap rest then none
    else if name = "YAML" then version? body
    else if name = "TAG" then handle? body
    else none
  some (directive, ← lineEnd? rest)

end LotterySlip.Yaml
