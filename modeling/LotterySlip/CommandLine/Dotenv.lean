import LotterySlip.CommandLine.Environment
import LotterySlip.Text.Blank
import LotterySlip.Text.Letter

/-! Variables set in a file: one `NAME=value` a line, perhaps behind the word `export`. A value may
be quoted, may go on over several lines within its quotes, and may mention variables as `$NAME`. -/
namespace LotterySlip.CommandLine
open Text

namespace Dotenv

/-- Where the search for the end of a line stands: outside quotes, behind a blank, within quotes, or
behind a backslash there or elsewhere. -/
inductive LineState
  | plain
  | gap
  | quoted (mark : Char)
  | escaped (mark : Option Char)
  deriving DecidableEq

def LineState.outside (c : Char) : LineState :=
  if c = '\\' then .escaped none else if c = '"' ∨ c = '\'' then .quoted c else .plain

def LineState.next : LineState → Char → LineState
  | plain, c => if isBlank c ∧ c ≠ '\n' ∧ c ≠ '\r' then .gap else outside c
  | gap, c => outside c
  | quoted mark, c =>
    if c = '\\' then .escaped (some mark) else if c = mark then .plain else .quoted mark
  | escaped none, _ => .plain
  | escaped (some mark), _ => .quoted mark

def behindBreak (cs : List Char) : List Char := (cs.dropWhile fun c => c != '\n').drop 1

/-- Splits off a line that breaks only outside quotes, without a comment behind its last blank.
There is none if the text ends within quotes or behind a backslash or a blank. -/
def splitLine? (state : LineState) : List Char → Option (List Char × List Char)
  | [] => if state = .plain then some ([], []) else none
  | c :: cs =>
    if state = .gap ∧ c = '#' then some ([], behindBreak cs)
    else if c = '\n' ∧ state.next c = .plain then some ([], cs)
    else (splitLine? (state.next c) cs).map fun r => (c :: r.1, r.2)

def startsComment (cs : List Char) : Bool :=
  ((cs.takeWhile fun c => c != '\n').dropWhile isBlank).head? == some '#'

/-- The lines of a text without comments, up to one that does not end. Every line takes a character
at least, so the length of the text is enough for `size`. -/
def lines (size : Nat) (cs : List Char) : List (List Char) :=
  match size with
  | 0 => []
  | size + 1 =>
    if cs.isEmpty then []
    else if startsComment cs then lines size (behindBreak cs)
    else match splitLine? .plain cs with
      | some (line, rest) => line :: lines size rest
      | none => []

def escape? (c : Char) : Option Char :=
  if c = 'n' then some '\n'
  else if ['\\', '\'', '"', '$', ' '].contains c then some c
  else none

inductive ValueState
  | inside (weak : Bool)
  | escaped (weak : Bool)
  | strong
  | name (weak : Bool) (start : List Char)
  | braced (weak : Bool) (start : List Char)
  | ended
  deriving DecidableEq

def substitute (env : Environment) (name : List Char) : List Char :=
  ((env.get? (String.ofList name)).getD "").toList

/-- Goes on by a character: what the value gains, and where its reading stands then. The character
behind the name of a variable stands for itself, whatever it is. -/
def ValueState.step? (env : Environment) : ValueState → Char → Option (List Char × ValueState)
  | inside weak, c =>
    if c = '$' then some ([], .name weak [])
    else if c = '\\' then some ([], .escaped weak)
    else if c = '"' then some ([], .inside !weak)
    else if weak then some ([c], .inside weak)
    else if c = '\'' then some ([], .strong)
    else if c = ' ' ∨ c = '\t' then some ([], .ended)
    else some ([c], .inside weak)
  | escaped weak, c => (escape? c).map fun e => ([e], .inside weak)
  | strong, c => if c = '\'' then some ([], .inside false) else some ([c], .strong)
  | name weak start, c =>
    if isLetterOrNumber c then some ([], .name weak (start ++ [c]))
    else if c = '\x7b' ∧ start = [] then some ([], .braced weak [])
    else if c = '$' then some (substitute env start, .name weak [])
    else some (substitute env start ++ [c], .inside weak)
  | braced weak start, c =>
    if c = '\x7d' then some (substitute env start, .inside weak)
    else some ([], .braced weak (start ++ [c]))
  | ended, c => if c = ' ' ∨ c = '\t' then some ([], .ended) else none

def ValueState.finish? (env : Environment) : ValueState → Option (List Char)
  | inside weak => if weak then none else some []
  | escaped weak => if weak then none else some []
  | strong => none
  | name weak start => if weak then none else some (substitute env start)
  | braced _ _ => none
  | ended => some []

def valueFrom? (env : Environment) (state : ValueState) : List Char → Option (List Char)
  | [] => state.finish? env
  | c :: cs =>
    if state = .ended ∧ c = '#' then some []
    else do
      let (gained, state) ← state.step? env c
      (valueFrom? env state cs).map (gained ++ ·)

def value? (env : Environment) (cs : List Char) : Option String :=
  let cs := cs.dropWhile isBlank
  if cs.isEmpty ∨ cs.head? = some '#' then some ""
  else (valueFrom? env (.inside false) cs).map String.ofList

def isNameStart (c : Char) : Bool := c.isAlpha || c == '_'

def isNamePart (c : Char) : Bool := c.isAlphanum || c == '_' || c == '.'

def name? (cs : List Char) : Option (String × List Char) := do
  if isNameStart (← cs.head?) then
    some (String.ofList (cs.takeWhile isNamePart), (cs.dropWhile isNamePart).dropWhile isBlank)
  else none

def declared? (cs : List Char) : Option (String × List Char) := do
  let (name, rest) ← name? cs
  if name = "export" ∧ rest.head? ≠ some '=' then
    let (name, rest) ← name? rest
    (after? ['='] rest).map fun rest => (name, rest)
  else (after? ['='] rest).map fun rest => (name, rest)

def assignment? (env : Environment) (line : List Char) : Option (Option (String × String)) :=
  let cs := trim line
  if cs.isEmpty ∨ cs.head? = some '#' then some none
  else do
    let (name, rest) ← declared? cs
    (value? env rest).map fun value => some (name, value)

/-- Sets the variables of lines, up to the first that cannot be read, in an environment. Variables
that are set already keep their values. There is no environment with the character zero in a value.
-/
def extendBy? (env : Environment) : List (List Char) → Option Environment
  | [] => some env
  | line :: rest =>
    match assignment? env line with
    | none => some env
    | some none => extendBy? env rest
    | some (some (name, value)) =>
      if (env.get? name).isNone ∧ value.contains '\x00' then none
      else extendBy? (env.declare name value) rest

end Dotenv

def Environment.extend? (env : Environment) (text : String) : Option Environment :=
  let cs := text.toList
  let cs := (after? ['\ufeff'] cs).getD cs
  Dotenv.extendBy? env (Dotenv.lines cs.length cs)

end LotterySlip.CommandLine
