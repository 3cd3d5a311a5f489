import LotterySlip.Document
import LotterySlip.Document.Yaml.Directive
import LotterySlip.Document.Yaml.Indented
import LotterySlip.Document.Yaml.Plain
import LotterySlip.Document.Yaml.Quoted

/-! The marks and texts of a catalog file in their order. Blocks, which are written by indentation,
get a mark at both ends, and a key gets one in front, even if only the colon behind it tells that it
is one. -/
namespace LotterySlip.Yaml

inductive Token
  | directive
  | documentStart
  | documentEnd
  | sequenceStart
  | mappingStart
  | blockEnd
  | openBracket
  | closeBracket
  | openBrace
  | closeBrace
  | entry
  | comma
  | key
  | value
  | anchor (name : String)
  | alias (name : String)
  | tag (address : String)
  | scalar (s : Scalar)
  deriving DecidableEq, Repr

/-- A place where a key may turn out to begin: the number of tokens before it and its first cell. It
is required if nothing but a key can stand there. -/
structure KeyStart where
  count : Nat
  cell : Cell
  required : Bool
  deriving DecidableEq, Repr

def maxKeyLength : Nat := 1024

def KeyStart.isBehind (k : KeyStart) (c : Cell) : Bool :=
  k.cell.line < c.line || k.cell.index + maxKeyLength < c.index

/-- How far a file has been read: the tokens so far, latest first, and their number; the columns of
the open blocks, innermost first; the key that may have begun at this level of brackets and those of
the levels around it; whether a key may begin here; and what directives have told. -/
structure Scan where
  tokens : List Token
  count : Nat
  columns : List Nat
  pending : Option KeyStart
  outer : List (Option KeyStart)
  keyAllowed : Bool
  hasVersion : Bool
  handles : Handles

namespace Scan

def start : Scan := ⟨[], 0, [], none, [], true, false, []⟩

def inside (s : Scan) : Bool := !s.outer.isEmpty

def least (s : Scan) : Nat := (s.columns.head?.map (· + 1)).getD 0

def push (s : Scan) (t : Token) : Scan := { s with tokens := t :: s.tokens, count := s.count + 1 }

def insert (s : Scan) (count : Nat) (t : Token) : Scan :=
  { s with
    tokens := s.tokens.take (s.count - count) ++ t :: s.tokens.drop (s.count - count)
    count := s.count + 1 }

def openBlock (s : Scan) (column count : Nat) (mark : Token) : Scan :=
  if !s.inside && s.least ≤ column then
    { s.insert count mark with columns := column :: s.columns }
  else s

def closeBlocks (s : Scan) (least : Nat) : Scan :=
  if s.inside then s
  else
    let isDeep (column : Nat) : Bool := least ≤ column
    let ends := (s.columns.takeWhile isDeep).map fun _ => Token.blockEnd
    { s with
      tokens := ends ++ s.tokens
      count := s.count + ends.length
      columns := s.columns.dropWhile isDeep }

def dropKey? (s : Scan) : Option Scan :=
  if s.pending.any KeyStart.required then none else some { s with pending := none }

def noteKey? (s : Scan) (c : Cell) : Option Scan :=
  if s.keyAllowed then
    s.dropKey?.map fun s =>
      { s with pending := some ⟨s.count, c, !s.inside && s.least == c.column + 1⟩ }
  else some s

def dropKeysBehind? (s : Scan) (c : Cell) : Option Scan :=
  let isBehind (k : KeyStart) : Bool := k.isBehind c
  if (s.pending :: s.outer).any fun k => k.any fun k => k.required && isBehind k then none
  else
    let keep (k : Option KeyStart) : Option KeyStart := k.filter fun k => !isBehind k
    some { s with pending := keep s.pending, outer := s.outer.map keep }

/-- Goes on to the next cell that is neither space nor break nor comment. Outside brackets a tab may
not stand where a key may begin, and a key may begin on every line. A byte order mark may stand at
the start of a line. -/
def skipGap (s : Scan) (inComment : Bool) : List Cell → Scan × List Cell
  | [] => (s, [])
  | c :: cs =>
    if c.isBreak then skipGap { s with keyAllowed := s.keyAllowed || !s.inside } false cs
    else if inComment || c.char == ' ' || (c.char == '\t' && (s.inside || !s.keyAllowed)) ||
        (c.char == '\ufeff' && c.column == 0) then
      skipGap s inComment cs
    else if c.char = '#' then skipGap s true cs
    else (s, c :: cs)

def documentMark? (s : Scan) (mark : Token) : Option Scan :=
  (s.closeBlocks 0).dropKey?.map fun s => { s.push mark with keyAllowed := false }

def learn? (s : Scan) : Directive → Option Scan
  | .version major minor =>
    if !s.hasVersion && major == 1 && (minor == 1 || minor == 2) then
      some { s with hasVersion := true }
    else none
  | .handle name stem =>
    if s.handles.any fun h => h.1 == name then none
    else some { s with handles := (name, stem) :: s.handles }

def directive? (s : Scan) (cs : List Cell) : Option (Scan × List Cell) := do
  let s ← s.documentMark? .directive
  let (directive, rest) ← Yaml.directive? cs
  some (← s.learn? directive, rest)

def opening? (s : Scan) (c : Cell) (mark : Token) : Option Scan :=
  (s.noteKey? c).map fun s =>
    { s.push mark with pending := none, outer := s.pending :: s.outer, keyAllowed := true }

def closing? (s : Scan) (mark : Token) : Option Scan :=
  s.dropKey?.map fun s =>
    { s.push mark with
      pending := s.outer.head?.join
      outer := s.outer.tail
      keyAllowed := false }

def comma? (s : Scan) : Option Scan :=
  s.dropKey?.map fun s => { s.push .comma with keyAllowed := true }

def leading? (s : Scan) (c : Cell) (blockMark mark : Token) (keyAllowed : Bool) : Option Scan :=
  if !s.inside && !s.keyAllowed then none
  else
    (s.openBlock c.column s.count blockMark).dropKey?.map fun s =>
      { s.push mark with keyAllowed }

def colon? (s : Scan) (c : Cell) : Option Scan :=
  match s.pending with
  | some k =>
    let s := (s.insert k.count .key).openBlock k.cell.column k.count .mappingStart
    some { s.push .value with pending := none, keyAllowed := false }
  | none =>
    if !s.inside && !s.keyAllowed then none
    else
      let s := s.openBlock c.column s.count .mappingStart
      some { s.push .value with keyAllowed := !s.inside }

def name? (s : Scan) (c : Cell) (cs : List Cell) : Option (Scan × List Cell) := do
  let s ← s.noteKey? c
  let (name, rest) ← anchorName? cs
  let token : Token := if c.char = '*' then .alias name else .anchor name
  some ({ s.push token with keyAllowed := false }, rest)

def tag? (s : Scan) (c : Cell) (cs : List Cell) : Option (Scan × List Cell) := do
  let s ← s.noteKey? c
  let (tag, rest) ← Yaml.tag? s.handles s.inside cs
  some ({ s.push (.tag tag) with keyAllowed := false }, rest)

def quotedText? (s : Scan) (c : Cell) (cs : List Cell) : Option (Scan × List Cell) := do
  let s ← s.noteKey? c
  let (text, rest) ← quoted? c.char cs
  some ({ s.push (.scalar (.text text)) with keyAllowed := false }, rest)

def unquotedText? (s : Scan) (c : Cell) (cs : List Cell) : Option (Scan × List Cell) := do
  let s ← s.noteKey? c
  let t ← plainText? s.inside s.least (c :: cs)
  some ({ s.push (.scalar (.plain (String.ofList t.chars))) with keyAllowed := t.broken }, t.rest)

def blockText? (s : Scan) (c : Cell) (cs : List Cell) : Option (Scan × List Cell) := do
  let s ← s.dropKey?
  let (text, rest) ← indentedText? (c.char == '>') s.least cs
  some ({ s.push (.scalar (.text text)) with keyAllowed := true }, rest)

def next? (s : Scan) (c : Cell) (cs : List Cell) : Option (Scan × List Cell) := do
  let s := (← s.dropKeysBehind? c).closeBlocks (c.column + 1)
  let behind (s : Option Scan) : Option (Scan × List Cell) := s.map fun s => (s, cs)
  let standsAlone := s.inside || atGap cs
  if c.char = '%' ∧ c.column = 0 then s.directive? cs
  else if atTriple '-' (c :: cs) then (s.documentMark? .documentStart).map fun s => (s, cs.drop 2)
  else if atTriple '.' (c :: cs) then (s.documentMark? .documentEnd).map fun s => (s, cs.drop 2)
  else if c.char = '[' then behind (s.opening? c .openBracket)
  else if c.char = ']' then behind (s.closing? .closeBracket)
  else if c.char = '\x7b' then behind (s.opening? c .openBrace)
  else if c.char = '\x7d' then behind (s.closing? .closeBrace)
  else if c.char = ',' then behind s.comma?
  else if c.char = '-' ∧ atGap cs = true then behind (s.leading? c .sequenceStart .entry true)
  else if c.char = '?' ∧ standsAlone = true then
    behind (s.leading? c .mappingStart .key !s.inside)
  else if c.char = ':' ∧ standsAlone = true then behind (s.colon? c)
  else if c.char = '*' ∨ c.char = '&' then s.name? c cs
  else if c.char = '!' then s.tag? c cs
  else if (c.char = '|' ∨ c.char = '>') ∧ s.inside = false then s.blockText? c cs
  else if c.char = '"' ∨ c.char = '\'' then s.quotedText? c cs
  else if startsWord s.inside (c :: cs) then s.unquotedText? c cs
  else none

/-- Reads all tokens. Every token takes a cell at least, so the number of cells is enough for
`size`. -/
def run? (size : Nat) (s : Scan) (cs : List Cell) : Option (List Token) :=
  match size with
  | 0 => none
  | size + 1 =>
    match s.skipGap false cs with
    | (s, []) => (s.closeBlocks 0).dropKey?.map fun s => s.tokens.reverse
    | (s, c :: cs) => (s.next? c cs).bind fun r => run? size r.1 r.2

end Scan

def Token.ofCells? (cs : List Cell) : Option (List Token) := Scan.start.run? (cs.length + 1) cs

end LotterySlip.Yaml
