import LotterySlip.Document
import LotterySlip.Binary
import LotterySlip.Text.Blank

/-! Reading JSON text. Of two members of one object with the same name the later counts. -/
namespace LotterySlip.Json
open Text

def isSpace (c : Char) : Bool := c == ' ' || c == '\t' || c == '\n' || c == '\r'

def skipSpace (cs : List Char) : List Char := cs.dropWhile isSpace

def hexValue? (c : Char) : Option Nat :=
  if c.isDigit then some (digitValue c)
  else if 'a' ≤ c ∧ c ≤ 'f' then some (c.toNat - 'a'.toNat + 10)
  else if 'A' ≤ c ∧ c ≤ 'F' then some (c.toNat - 'A'.toNat + 10)
  else none

def hexNumber? (cs : List Char) : Option Nat :=
  cs.foldl (fun n c => n.bind fun n => (hexValue? c).map fun d => 16 * n + d) (some 0)

def escaped? : Char → Option Char
  | '"' => some '"'
  | '\\' => some '\\'
  | '/' => some '/'
  | 'b' => some '\x08'
  | 'f' => some '\x0c'
  | 'n' => some '\n'
  | 'r' => some '\r'
  | 't' => some '\t'
  | _ => none

def pairChar (high low : Nat) : Char :=
  Char.ofNat (0x10000 + (high - 0xD800) * 0x400 + (low - 0xDC00))

/-- The rest of a string behind its opening quote, and what follows the closing one. `size` bounds
the length of the text. -/
def stringBody (size : Nat) (cs : List Char) : Option (List Char × List Char) :=
  match size, cs with
  | 0, _ => none
  | _, [] => none
  | size + 1, c :: cs =>
    let push (c : Char) (cs : List Char) :=
      (stringBody size cs).map fun r => (c :: r.1, r.2)
    if c = '"' then some ([], cs)
    else if c = '\\' then
      match cs with
      | [] => none
      | e :: cs =>
        if e = 'u' then do
          let n ← if cs.length < 4 then none else hexNumber? (cs.take 4)
          let cs := cs.drop 4
          if 0xD800 ≤ n ∧ n < 0xDC00 then do
            let cs ← after? ['\\', 'u'] cs
            let low ← if cs.length < 4 then none else hexNumber? (cs.take 4)
            if 0xDC00 ≤ low ∧ low < 0xE000 then push (pairChar n low) (cs.drop 4) else none
          else if 0xDC00 ≤ n ∧ n < 0xE000 then none
          else push (Char.ofNat n) cs
        else (escaped? e).bind fun c => push c cs
    else if c.toNat < 0x20 then none
    else push c cs

def gather (n : Nat) : List Char → Nat × List Char
  | [] => (n, [])
  | c :: cs =>
    if 10 * n + digitValue c < countLimit then gather (10 * n + digitValue c) cs else (n, c :: cs)

def powerOfTen? (n : Nat) : Option Binary := Binary.ofDecimal? 1 n

def maxPower : Nat := 308

/-- A number of 64 bits times a power of ten, formed from binary numbers: first the number is
rounded, then the product or the quotient. -/
def scaled? (significand : Nat) (exponent : Int) : Option Binary := do
  let f ← Binary.nearest? significand 1
  if f.mantissa = 0 then some .zero
  else if 0 ≤ exponent then
    if exponent ≤ maxPower then f.mul? (← powerOfTen? exponent.toNat) else none
  else if -maxPower ≤ exponent then f.div? (← powerOfTen? (-exponent).toNat)
  else
    let g ← f.div? (← powerOfTen? maxPower)
    if -(2 * maxPower) ≤ exponent then g.div? (← powerOfTen? (-exponent - maxPower).toNat)
    else some .zero

def realScalar? (negative : Bool) (significand : Nat) (exponent : Int) : Option Scalar :=
  (scaled? significand exponent).map fun b =>
    .real (String.ofList ((if negative then ['-'] else []) ++ b.text))

def exponent? (cs : List Char) : Option (Option Int × List Char) :=
  match cs with
  | c :: cs' =>
    if c = 'e' ∨ c = 'E' then
      let (negative, cs') := match cs' with
        | '-' :: r => (true, r)
        | '+' :: r => (false, r)
        | r => (false, r)
      let (digits, rest) := spanDigits cs'
      if digits.isEmpty then none
      else some (some (if negative then -(runNumber digits : Int) else runNumber digits), rest)
    else some (none, cs)
  | [] => some (none, [])

def places? (cs : List Char) : Option (Option (List Char) × List Char) :=
  match cs with
  | '.' :: cs' =>
    let (digits, rest) := spanDigits cs'
    if digits.isEmpty then none else some (some digits, rest)
  | _ => some (none, cs)

/-- A whole number: of 64 bits with or without a sign, or else a binary number. Minus zero is no
whole number. -/
def wholeScalar? (negative : Bool) (n : Nat) : Option Scalar :=
  if negative then
    if 0 < n ∧ -(n : Int) ≥ Int64.minValue.toInt then some (.int (-(n : Int))) else realScalar? true n 0
  else some (.int n)

def number? (cs : List Char) : Option (Scalar × List Char) := do
  let (negative, cs) := match cs with
    | '-' :: r => (true, r)
    | _ => (false, cs)
  let (whole, cs) := spanDigits cs
  if whole.isEmpty ∨ (whole.head? = some '0' ∧ 1 < whole.length) then none
  else
    let (n, dropped) := gather 0 whole
    let (places, cs) ← places? cs
    let (exponent, rest) ← exponent? cs
    if places.isNone ∧ exponent.isNone ∧ dropped.isEmpty then
      (wholeScalar? negative n).map fun s => (s, rest)
    else
      let digits := places.getD []
      let (n, unused) := gather n digits
      let place : Int := dropped.length - ((digits.length - unused.length : Nat) : Int)
      (realScalar? negative n (place + exponent.getD 0)).map fun s => (s, rest)

def literals : List (List Char × Scalar) :=
  [("null".toList, .null), ("true".toList, .bool true), ("false".toList, .bool false)]

def bare? (cs : List Char) : Option (Scalar × List Char) :=
  (literals.findSome? fun l => (after? l.1 cs).map fun rest => (l.2, rest)).or (number? cs)

def putMember (name : String) (value : Document) :
    List (String × Document) → List (String × Document)
  | [] => [(name, value)]
  | m :: ms => if m.1 = name then (name, value) :: ms else m :: putMember name value ms

mutual

def value? (size : Nat) (cs : List Char) : Option (Document × List Char) :=
  match size with
  | 0 => none
  | size + 1 =>
    match skipSpace cs with
    | '"' :: cs =>
      (stringBody size cs).map fun r => (.text (String.ofList r.1), r.2)
    | '[' :: cs =>
      match skipSpace cs with
      | ']' :: cs => some (.list [], cs)
      | cs => (items? size cs).map fun r => (.list r.1, r.2)
    | '\x7b' :: cs =>
      match skipSpace cs with
      | '\x7d' :: cs => some (.object [], cs)
      | cs => (members? size [] cs).map fun r => (.object r.1, r.2)
    | cs => (bare? cs).map fun r => (.scalar r.1, r.2)

def items? (size : Nat) (cs : List Char) : Option (List Document × List Char) :=
  match size with
  | 0 => none
  | size + 1 => do
    let (item, cs) ← value? size cs
    match skipSpace cs with
    | ']' :: cs => some ([item], cs)
    | ',' :: cs => (items? size cs).map fun r => (item :: r.1, r.2)
    | _ => none

def members? (size : Nat) (before : List (String × Document)) (cs : List Char) :
    Option (List (String × Document) × List Char) :=
  match size with
  | 0 => none
  | size + 1 =>
    match skipSpace cs with
    | '"' :: cs => do
      let (name, cs) ← stringBody size cs
      let cs ← after? [':'] (skipSpace cs)
      let (value, cs) ← value? size cs
      let members := putMember (String.ofList name) value before
      match skipSpace cs with
      | '\x7d' :: cs => some (members, cs)
      | ',' :: cs => members? size members cs
      | _ => none
    | _ => none

end

def read? (cs : List Char) : Option Document :=
  match value? (cs.length + 1) cs with
  | some (d, rest) => if (skipSpace rest).isEmpty then some d else none
  | none => none

end LotterySlip.Json
