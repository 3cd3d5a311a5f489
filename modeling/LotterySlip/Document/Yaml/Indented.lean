import LotterySlip.Document.Yaml.Cell
import LotterySlip.Text.Digits

/-! Texts of a catalog file that stand on lines of their own, set off by their indentation. Their
line breaks are kept as they are, or folded between lines that begin without a blank. -/
namespace LotterySlip.Yaml
open Text

inductive Ending
  | strip
  | clip
  | keep
  deriving DecidableEq, Repr

def Ending.ofMark? (c : Char) : Option Ending :=
  if c = '-' then some .strip else if c = '+' then some .keep else none

def Ending.breaks (gap : List Char) : Ending → List Char
  | strip => []
  | clip => gap.take 1
  | keep => gap

/-- What the mark of an indented text is followed by: how the text ends, and its indentation,
counted from the block around it, unless it is to be found out. -/
structure Heading where
  ending : Ending
  indent : Option Nat
  deriving DecidableEq, Repr

def headingIndent? : List Cell → Option (Option Nat × List Cell)
  | [] => some (none, [])
  | c :: cs =>
    if !c.char.isDigit then some (none, c :: cs)
    else if c.char = '0' then none
    else some (some (digitValue c.char), cs)

def headingEnding : List Cell → Option Ending × List Cell
  | [] => (none, [])
  | c :: cs =>
    match Ending.ofMark? c.char with
    | some ending => (some ending, cs)
    | none => (none, c :: cs)

def heading? (cs : List Cell) : Option (Heading × List Cell) := do
  let (first, cs) := headingEnding cs
  let (indent, cs) ← headingIndent? cs
  let (second, cs) := if first.isNone && indent.isSome then headingEnding cs else (none, cs)
  some (⟨(first.or second).getD .clip, indent⟩, ← lineEnd? cs)

structure Line where
  cells : List Cell
  break? : Option Cell

def linesOf : List Cell → List Line
  | [] => [⟨[], none⟩]
  | c :: cs =>
    if c.isBreak then ⟨[], some c⟩ :: linesOf cs
    else match linesOf cs with
      | [] => [⟨[c], none⟩]
      | l :: ls => ⟨c :: l.cells, l.break?⟩ :: ls

namespace Line

def spaces (l : Line) : Nat := (l.cells.takeWhile fun c => c.char == ' ').length

def chars (l : Line) : List Char := l.cells.map Cell.char

def breakChars (l : Line) : List Char := l.break?.toList.map Cell.char

def beginsBlank (l : Line) : Bool := l.cells.head?.any Cell.isSpace

def toCells (l : Line) : List Cell := l.cells ++ l.break?.toList

end Line

/-- The indentation of a text at column `least` or deeper: that of its first line, unless an empty
line before it has more spaces. No tab may stand there. -/
def findIndent? (least : Nat) : List Line → Option Nat
  | [] => some least
  | l :: ls =>
    match l.cells.drop l.spaces with
    | [] =>
      if l.break?.isSome then (findIndent? least ls).map (max l.spaces)
      else some (max l.spaces least)
    | c :: _ => if c.char = '\t' then none else some (max l.spaces least)

/-- Splits off the lines of a text, without their indentation. Less indentation ends the text, but a
line without anything else does not. -/
def indentedLines? (indent : Nat) : List Line → Option (List Line × List Line)
  | [] => some ([], [])
  | l :: ls =>
    let body : Line := ⟨l.cells.drop (min l.spaces indent), l.break?⟩
    let isShallow : Bool := l.spaces < indent
    match body.cells with
    | [] =>
      if l.break?.isSome then (indentedLines? indent ls).map fun r => (body :: r.1, r.2)
      else some ([], l :: ls)
    | c :: _ =>
      if isShallow && c.char == '\t' then none
      else if isShallow then some ([], l :: ls)
      else (indentedLines? indent ls).map fun r => (body :: r.1, r.2)

def joinLinesFrom (folded : Bool) (ending : Ending) (blank : Bool) (gap : List Char) :
    List Line → List Char
  | [] => ending.breaks gap
  | l :: ls =>
    if l.cells.isEmpty then joinLinesFrom folded ending blank (gap ++ l.breakChars) ls
    else
      (if folded && !blank && !l.beginsBlank then foldBreaks gap else gap) ++ l.chars ++
        joinLinesFrom folded ending l.beginsBlank l.breakChars ls

/-- The text of lines. Without a line that holds anything, breaks stay only if all do. -/
def joinLines (folded : Bool) (ending : Ending) (lines : List Line) : List Char :=
  let isEmpty (l : Line) : Bool := l.cells.isEmpty
  let front := (lines.takeWhile isEmpty).flatMap Line.breakChars
  match lines.dropWhile isEmpty with
  | [] => if ending = .keep then front else []
  | l :: ls => front ++ l.chars ++ joinLinesFrom folded ending l.beginsBlank l.breakChars ls

def indentedText? (folded : Bool) (least : Nat) (cs : List Cell) :
    Option (String × List Cell) := do
  let (heading, cs) ← heading? cs
  let lines := linesOf cs
  let indent ← match heading.indent with
    | some n => some (least - 1 + n)
    | none => findIndent? (max least 1) lines
  let (body, rest) ← indentedLines? indent lines
  some (String.ofList (joinLines folded heading.ending body), rest.flatMap Line.toCells)

end LotterySlip.Yaml
