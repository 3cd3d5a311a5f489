import LotterySlip.Document
import LotterySlip.Binary

/-! Documents as JSON text. -/
namespace LotterySlip.Json
open Text

def shortEscapes : List (Char × Char) :=
  [('"', '"'), ('\\', '\\'), ('\x08', 'b'), ('\x0c', 'f'), ('\n', 'n'), ('\r', 'r'), ('\t', 't')]

def hexDigit (n : Nat) : Char := (Nat.toDigits 16 (n % 16)).headD '0'

def escapeChar (c : Char) : List Char :=
  match shortEscapes.find? fun e => e.1 == c with
  | some e => ['\\', e.2]
  | none =>
    if c.toNat < 0x20 then
      ['\\', 'u', '0', '0', hexDigit (c.toNat / 16), hexDigit c.toNat]
    else [c]

def quote (s : String) : String :=
  String.ofList ('"' :: s.toList.flatMap escapeChar ++ ['"'])

def scalarText : Scalar → String
  | .null => "null"
  | .bool b => if b then "true" else "false"
  | .int i => toString i
  | .real digits => digits
  | .text s => quote s
  | .plain s => quote s

mutual

def compact : Document → String
  | .scalar s => scalarText s
  | .list items => "[" ++ ",".intercalate (compactItems items) ++ "]"
  | .object members => "\x7b" ++ ",".intercalate (compactMembers members) ++ "\x7d"
  | .sequence items => "[" ++ ",".intercalate (compactItems items) ++ "]"
  | .mapping pairs => "[" ++ ",".intercalate (compactPairs pairs) ++ "]"
  | .tagged _ d => compact d

def compactItems : List Document → List String
  | [] => []
  | d :: ds => compact d :: compactItems ds

def compactMembers : List (String × Document) → List String
  | [] => []
  | (name, d) :: ms => (quote name ++ ":" ++ compact d) :: compactMembers ms

def compactPairs : List (Document × Document) → List String
  | [] => []
  | (k, d) :: ps => ("[" ++ compact k ++ "," ++ compact d ++ "]") :: compactPairs ps

end

def lineBreak (depth : Nat) : String :=
  String.ofList ('\n' :: List.replicate (2 * depth) ' ')

def block (depth : Nat) (opening closing : String) (parts : List String) : String :=
  if parts.isEmpty then opening ++ closing
  else
    opening ++ lineBreak (depth + 1) ++ ("," ++ lineBreak (depth + 1)).intercalate parts ++
      lineBreak depth ++ closing

mutual

/-- A document with every part on a line of its own, indented by two spaces a level, without tags. A
mapping is a list of pairs. -/
def pretty (depth : Nat) : Document → String
  | .scalar s => scalarText s
  | .list items => block depth "[" "]" (prettyItems (depth + 1) items)
  | .object members => block depth "\x7b" "\x7d" (prettyMembers (depth + 1) members)
  | .sequence items => block depth "[" "]" (prettyItems (depth + 1) items)
  | .mapping pairs => block depth "[" "]" (prettyPairs (depth + 1) pairs)
  | .tagged _ d => pretty depth d

def prettyItems (depth : Nat) : List Document → List String
  | [] => []
  | d :: ds => pretty depth d :: prettyItems depth ds

def prettyMembers (depth : Nat) : List (String × Document) → List String
  | [] => []
  | (name, d) :: ms => (quote name ++ ": " ++ pretty depth d) :: prettyMembers depth ms

def prettyPairs (depth : Nat) : List (Document × Document) → List String
  | [] => []
  | (k, d) :: ps =>
    block depth "[" "]" [pretty (depth + 1) k, pretty (depth + 1) d] :: prettyPairs depth ps

end

end LotterySlip.Json
