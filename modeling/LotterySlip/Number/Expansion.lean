import LotterySlip.Catalog
import LotterySlip.Number.Sequence
import LotterySlip.Text.Fold

/-! What the text before a bet type stands for: a combination, a sequence or a list of numbers. -/
namespace LotterySlip.Number
open Text

inductive Expansion
  | combination (name : String) (numbers : List String)
  | unsupported (name method : String)
  | sequence (numbers : List String)
  | tooLong (limit : Nat)
  | literal (numbers : List String)
  | empty
  deriving DecidableEq, Repr

def Expansion.numbers : Expansion → List String
  | combination _ numbers => numbers
  | sequence numbers => numbers
  | literal numbers => numbers
  | _ => []

def findCombination? (combinations : List Combination) (key : List Char) : Option Combination :=
  combinations.find? fun c => c.lookupKeys.any fun k => foldKey k.toList == key

def expandCombination (c : Combination) : Expansion :=
  match c.rule.numbers? with
  | some numbers => .combination c.name numbers
  | none => .unsupported c.name c.rule.methodText

def isSeparator (c : Char) : Bool := c == '.' || c == ',' || c == '-' || isBlank c

def listed (cs : List Char) : List String :=
  let parts := pieces isSeparator cs
  if parts.all fun p => p.all Char.isDigit then parts.map String.ofList else []

def expandList (cs : List Char) : Expansion :=
  match listed cs with
  | [] => .empty
  | numbers => .literal numbers

def expandForm (cs : List Char) (limit : Nat) : Expansion :=
  match SequenceForm.read? (foldKey cs) with
  | none => expandList cs
  | some s =>
    match s.value limit with
    | .numbers ns => if ns.isEmpty then expandList cs else .sequence ns
    | .tooLong => .tooLong limit
    | .nothing => expandList cs

/-- Expands a text: a combination before a sequence, a sequence before a list. -/
def expand (combinations : List Combination) (limit : Nat) (text : List Char) : Expansion :=
  let cs := trim text
  if cs.isEmpty then .empty
  else match findCombination? combinations (foldKey cs) with
    | some c => expandCombination c
    | none => expandForm cs limit

end LotterySlip.Number
