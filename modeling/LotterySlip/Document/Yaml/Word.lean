import LotterySlip.Document
import LotterySlip.Document.Json.Reader

/-! What an unquoted word of a catalog file denotes. -/
namespace LotterySlip.Yaml
open Text

def nullWords : List String := ["", "~", "null", "Null", "NULL"]

def trueWords : List String := ["true", "True", "TRUE"]

def falseWords : List String := ["false", "False", "FALSE"]

def boolWord? (s : String) : Option Bool :=
  if trueWords.contains s then some true else if falseWords.contains s then some false else none

/-- The digits behind zeros that stand before other digits: such a word is no number. -/
def hasSpareZero (cs : List Char) : Bool := 1 < cs.length && cs.head? == some '0' && isNumber cs

def baseNumber? (base : Nat) (cs : List Char) : Option Nat :=
  if cs.isEmpty then none
  else cs.foldl (fun n c => n.bind fun n =>
    (Json.hexValue? c).bind fun d => if d < base then some (base * n + d) else none) (some 0)

def markedNumber? : List Char → Option Nat
  | '0' :: 'x' :: cs => baseNumber? 16 cs
  | '0' :: 'o' :: cs => baseNumber? 8 cs
  | '0' :: 'b' :: cs => baseNumber? 2 cs
  | _ => none

def wholeNumber? (cs : List Char) : Option Nat :=
  (markedNumber? cs).or (if isNumber cs && !hasSpareZero cs then some (runNumber cs) else none)

def numberLimit : Nat := 0x100000000000000000000000000000000

def intWord? (cs : List Char) : Option Int := do
  let (negative, rest) := Decimal.splitSign cs
  let n ← wholeNumber? rest
  if negative then if n ≤ numberLimit / 2 then some (-(n : Int)) else none
  else if n < numberLimit then some n else none

def unboundedWords : List String :=
  [".inf", ".Inf", ".INF", "+.inf", "+.Inf", "+.INF", "-.inf", "-.Inf", "-.INF", ".nan", ".NaN",
    ".NAN"]

def loosePlaces (cs : List Char) : List Char × List Char :=
  match cs with
  | '.' :: cs => spanDigits cs
  | cs => ([], cs)

def binaryWord? (cs : List Char) : Option Binary := do
  let (whole, rest) := spanDigits cs
  let (places, rest) := loosePlaces rest
  let (exponent, rest) ← Json.exponent? rest
  if rest.isEmpty ∧ !(whole.isEmpty && places.isEmpty) then
    Binary.ofDecimal? (runNumber (whole ++ places)) (exponent.getD 0 - places.length)
  else none

def realText? (s : String) : Option String :=
  let (negative, cs) := Decimal.splitSign s.toList
  if unboundedWords.contains s then some s
  else (binaryWord? cs).map fun b =>
    String.ofList ((if negative then ['-'] else []) ++ b.text)

def realWord? (s : String) : Option String :=
  if hasSpareZero (Decimal.splitSign s.toList).2 then none else realText? s

def denote (s : String) : Scalar :=
  if nullWords.contains s then .null
  else match boolWord? s, intWord? s.toList, realWord? s with
    | some b, _, _ => .bool b
    | none, some i, _ => .int i
    | none, none, some digits => .real digits
    | none, none, none => .text s

def resolve : Scalar → Scalar
  | .plain s => denote s
  | s => s

def denoteAs? (tag : Tag) (s : String) : Option Scalar :=
  match tag with
  | .null => if s ≠ "" && nullWords.contains s then some .null else none
  | .bool => (boolWord? s).map .bool
  | .int => (intWord? s.toList).map .int
  | .real => (realText? s).map .real
  | .named _ => none
  | .other => some (.text s)

def resolveAs? (tag : Tag) : Scalar → Option Scalar
  | .plain s => denoteAs? tag s
  | .text s => denoteAs? tag s
  | _ => none

end LotterySlip.Yaml
