import LotterySlip.Document.Yaml.Cell

/-! Unquoted texts in a catalog file, on one line or folded over several. -/
namespace LotterySlip.Yaml

def flowMarks : List Char := [',', '[', ']', '\x7b', '\x7d']

def reserved : List Char :=
  ['-', '?', ':', '#', '&', '*', '!', '|', '>', '\'', '"', '%', '@', '\u0060'] ++ flowMarks

/-- Whether a word begins here. A reserved mark that a character follows may begin one: a hyphen
anywhere, a question mark or a colon outside brackets. -/
def startsWord (inside : Bool) : List Cell → Bool
  | [] => false
  | c :: cs =>
    if c.isGap then false
    else if !reserved.contains c.char then true
    else if c.char = '-' then !atGap cs
    else !inside && (c.char == '?' || c.char == ':') && !atGap cs

def strayColon (inside : Bool) : List Cell → Bool
  | c :: d :: _ => inside && c.char == ':' && (flowMarks.contains d.char || d.char == '?')
  | _ => false

def atMark (inside : Bool) : List Cell → Bool
  | [] => false
  | c :: cs => (c.char == ':' && atGap cs) || (inside && flowMarks.contains c.char)

def hasStrayTab (least : Nat) (gap : List Cell) : Bool :=
  (gap.dropWhile fun c => !c.isBreak).any fun c => c.char == '\t' && c.column < least

/-- Whether a text that a gap interrupts is not taken up again by what follows: a comment, the end
of the document, or a line that begins before column `least`. -/
def endsBehind (inside : Bool) (least : Nat) (gap : List Cell) : List Cell → Bool
  | [] => true
  | c :: cs =>
    !gap.isEmpty && (c.char == '#' || atBoundary (c :: cs) ||
      (gap.any Cell.isBreak && !inside && c.column < least))

structure PlainText where
  chars : List Char
  broken : Bool
  rest : List Cell

def plainFrom? (inside : Bool) (least : Nat) (gap : List Cell) : List Cell → Option PlainText
  | [] => if hasStrayTab least gap then none else some ⟨[], gap.any Cell.isBreak, []⟩
  | c :: cs =>
    if c.isGap then plainFrom? inside least (gap ++ [c]) cs
    else if hasStrayTab least gap then none
    else if endsBehind inside least gap (c :: cs) || atMark inside (c :: cs) then
      some ⟨[], gap.any Cell.isBreak, c :: cs⟩
    else if strayColon inside (c :: cs) then none
    else (plainFrom? inside least [] cs).map fun t =>
      { t with chars := foldGap gap ++ c.char :: t.chars }

def plainText? (inside : Bool) (least : Nat) (cs : List Cell) : Option PlainText :=
  plainFrom? inside least [] cs

end LotterySlip.Yaml
