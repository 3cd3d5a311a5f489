/-! The characters of a catalog file with their places. -/
namespace LotterySlip.Yaml

structure Cell where
  char : Char
  index : Nat
  line : Nat
  column : Nat
  deriving DecidableEq, Repr

def isSeparator (c : Char) : Bool := c == '\u2028' || c == '\u2029'

def cellsFrom (index line column : Nat) : List Char → List Cell
  | [] => []
  | '\r' :: '\n' :: cs => ⟨'\n', index, line, column⟩ :: cellsFrom (index + 2) (line + 1) 0 cs
  | c :: cs =>
    if c = '\n' ∨ c = '\r' ∨ c = '\u0085' then
      ⟨'\n', index, line, column⟩ :: cellsFrom (index + 1) (line + 1) 0 cs
    else
      ⟨c, index, line, column⟩ ::
        if isSeparator c then cellsFrom (index + 1) (line + 1) 0 cs
        else cellsFrom (index + 1) line (column + 1) cs

def isPrintable (c : Char) : Bool :=
  let n := c.toNat
  n == 0x9 || n == 0xA || n == 0xD || (0x20 ≤ n && n ≤ 0x7E) || n == 0x85 ||
    (0xA0 ≤ n && n ≤ 0xFFFD) || 0x10000 ≤ n

def cells? (cs : List Char) : Option (List Cell) :=
  if cs.all isPrintable then some (cellsFrom 0 0 0 cs) else none

def Cell.isSpace (c : Cell) : Bool := c.char == ' ' || c.char == '\t'

def Cell.isBreak (c : Cell) : Bool := c.char == '\n' || isSeparator c.char

def Cell.isGap (c : Cell) : Bool := c.isSpace || c.isBreak

def atGap : List Cell → Bool
  | [] => true
  | c :: _ => c.isGap

def atTriple (mark : Char) : List Cell → Bool
  | a :: b :: c :: cs =>
    a.column == 0 && a.char == mark && b.char == mark && c.char == mark && atGap cs
  | _ => false

def atBoundary (cs : List Cell) : Bool := atTriple '-' cs || atTriple '.' cs

def lineEnd? (cs : List Cell) : Option (List Cell) :=
  match cs.dropWhile Cell.isSpace with
  | [] => some []
  | c :: cs =>
    if c.isBreak then some cs
    else if c.char = '#' then some (cs.dropWhile fun d => !d.isBreak).tail
    else none

/-- What the breaks between two lines stand for: a single one for a space, and more for those after
the first. A line or paragraph separator in front is kept with those that follow. -/
def foldBreaks : List Char → List Char
  | ['\n'] => [' ']
  | '\n' :: later => later
  | breaks => breaks

def foldGap (gap : List Cell) : List Char :=
  match (gap.filter Cell.isBreak).map Cell.char with
  | [] => gap.map Cell.char
  | breaks => foldBreaks breaks

end LotterySlip.Yaml
