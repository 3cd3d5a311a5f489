import LotterySlip.Document.Json.Reader
import LotterySlip.Document.Yaml.Cell

/-! Quoted texts in a catalog file, on one line or folded over several. -/
namespace LotterySlip.Yaml

def escapes : List (Char × Char) :=
  [('0', '\x00'), ('a', '\x07'), ('b', '\x08'), ('t', '\t'), ('\t', '\t'), ('n', '\n'),
    ('v', '\x0b'), ('f', '\x0c'), ('r', '\r'), ('e', '\x1b'), (' ', ' '), ('"', '"'), ('/', '/'),
    ('\\', '\\'), ('N', '\u0085'), ('_', '\u00a0'), ('L', '\u2028'), ('P', '\u2029')]

def codeEscapes : List (Char × Nat) := [('x', 2), ('u', 4), ('U', 8)]

def codeChar? (n : Nat) (cs : List Cell) : Option Char := do
  let code ← Json.hexNumber? ((cs.take n).map Cell.char)
  if (cs.take n).length = n ∧ code < 0x110000 ∧ (code < 0xD800 ∨ 0xDFFF < code) then
    some (Char.ofNat code)
  else none

def escape? : List Cell → Option (List Char × List Cell)
  | [] => none
  | e :: cs =>
    if e.isBreak then
      some (((cs.takeWhile Cell.isGap).filter Cell.isBreak).map Cell.char, cs.dropWhile Cell.isGap)
    else match escapes.find? fun x => x.1 == e.char, codeEscapes.find? fun x => x.1 == e.char with
      | some x, _ => some ([x.2], cs)
      | none, some x => (codeChar? x.2 cs).map fun c => ([c], cs.drop x.2)
      | none, none => none

def isPair (mark : Char) (c d : Cell) : Bool :=
  if mark = '\'' then c.char == '\'' && d.char == '\'' else c.char == '\\'

def quotedSpan? (mark : Char) : List Cell → Option (List Cell × List Cell)
  | [] => none
  | [c] => if c.char = mark then some ([], []) else none
  | c :: d :: cs =>
    if atBoundary (c :: d :: cs) then none
    else if isPair mark c d then (quotedSpan? mark cs).map fun r => (c :: d :: r.1, r.2)
    else if c.char = mark then some ([], d :: cs)
    else (quotedSpan? mark (d :: cs)).map fun r => (c :: r.1, r.2)

/-- What stands for itself within quotes, with gaps folded and pairs resolved. Every step takes a
cell at least, so the number of cells is enough for `size`. -/
def unquote? (size : Nat) (mark : Char) (cs : List Cell) : Option (List Char) :=
  match size, cs with
  | _, [] => some []
  | 0, _ => none
  | size + 1, c :: rest =>
    let push (front : List Char) (cs : List Cell) := (unquote? size mark cs).map (front ++ ·)
    if c.isGap then push (foldGap (cs.takeWhile Cell.isGap)) (rest.dropWhile Cell.isGap)
    else if mark = '\'' then push [c.char] (if c.char = '\'' then rest.drop 1 else rest)
    else if c.char = '\\' then (escape? rest).bind fun r => push r.1 r.2
    else push [c.char] rest

def quoted? (mark : Char) (cs : List Cell) : Option (String × List Cell) := do
  let (body, rest) ← quotedSpan? mark cs
  some (String.ofList (← unquote? body.length mark body), rest)

end LotterySlip.Yaml
