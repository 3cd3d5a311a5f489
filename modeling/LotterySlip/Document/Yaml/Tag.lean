import LotterySlip.Document
import LotterySlip.Document.Json.Reader
import LotterySlip.Document.Yaml.Cell

/-! Names in front of the values of a catalog file: anchors, by which other places refer to a value,
and tags. A tag is an address, and most often written with a handle, which stands for the stem that
many addresses have in common. -/
namespace LotterySlip.Yaml

def isNameChar (c : Char) : Bool := c.isAlphanum || c == '_' || c == '-'

def spanName (cs : List Cell) : String × List Cell :=
  (String.ofList ((cs.takeWhile fun c => isNameChar c.char).map Cell.char),
    cs.dropWhile fun c => isNameChar c.char)

def nameEnds : List Char := ['?', ':', ',', ']', '\x7d', '%', '@', '\u0060']

def anchorName? (cs : List Cell) : Option (String × List Cell) :=
  let (name, rest) := spanName cs
  if name ≠ "" && (atGap rest || rest.head?.any fun c => nameEnds.contains c.char) then
    some (name, rest)
  else none

def addressMarks : List Char :=
  [';', '/', '?', ':', '@', '&', '=', '+', '$', '.', '!', '~', '*', '\'', '(', ')']

def fullAddressMarks : List Char := [',', '[', ']']

def addressBytes? (isFull : Bool) : List Cell → Option (List UInt8 × List Cell)
  | [] => some ([], [])
  | c :: cs =>
    if c.char = '%' then
      match cs with
      | high :: low :: cs => do
        let n := 16 * (← Json.hexValue? high.char) + (← Json.hexValue? low.char)
        let (bytes, rest) ← addressBytes? isFull cs
        some (UInt8.ofNat n :: bytes, rest)
      | _ => none
    else if isNameChar c.char || addressMarks.contains c.char ||
        (isFull && fullAddressMarks.contains c.char) then
      (addressBytes? isFull cs).map fun r => (UInt8.ofNat c.char.toNat :: r.1, r.2)
    else some ([], c :: cs)

def address? (isFull : Bool) (cs : List Cell) : Option (String × List Cell) := do
  let (bytes, rest) ← addressBytes? isFull cs
  some (← String.fromUTF8? ⟨bytes.toArray⟩, rest)

def properAddress? (isFull : Bool) (cs : List Cell) : Option (String × List Cell) :=
  (address? isFull cs).filter fun r => r.1 ≠ ""

abbrev Handles := List (String × String)

def standardHandles : Handles := [("!", "!"), ("!!", "tag:yaml.org,2002:")]

def expandHandle? (handles : Handles) (handle ending : String) : Option String :=
  ((handles ++ standardHandles).find? fun h => h.1 == handle).map fun h => h.2 ++ ending

def emptyTag : String := "!"

/-- Splits off a tag, given what follows its exclamation mark: an address in angle brackets, the end
of one behind a handle, or the end of one for the shortest handle. -/
def tagAddress? (handles : Handles) (cs : List Cell) : Option (String × List Cell) :=
  let (name, rest) := spanName cs
  match cs, rest with
  | [], _ => some (emptyTag, [])
  | c :: cs, rest =>
    if c.char = '<' then do
      let (tag, rest) ← properAddress? true cs
      if rest.head?.any fun d => d.char == '>' then some (tag, rest.tail) else none
    else if rest.head?.any fun d => d.char == '!' then do
      let (ending, rest) ← properAddress? false rest.tail
      some (← expandHandle? handles ("!" ++ name ++ "!") ending, rest)
    else do
      let (ending, rest) ← address? false (c :: cs)
      some (← if ending = "" then some emptyTag else expandHandle? handles "!" ending, rest)

def tag? (handles : Handles) (inside : Bool) (cs : List Cell) : Option (String × List Cell) :=
  (tagAddress? handles cs).filter fun r =>
    atGap r.2 || (inside && r.2.head?.any fun c => c.char == ',')

def kindStem : String := "tag:yaml.org,2002:"

def kindOfAddress (address : String) : Tag :=
  if address = kindStem ++ "null" then .null
  else if address = kindStem ++ "bool" then .bool
  else if address = kindStem ++ "int" then .int
  else if address = kindStem ++ "float" then .real
  else match address.toList with
    | ['!'] => .named "!"
    | '!' :: name => .named (String.ofList name)
    | _ => .other

def withTag (tag : Option String) (d : Document) : Document :=
  match tag, d with
  | none, d => d
  | some address, .scalar s =>
    if address = emptyTag then .scalar s else .tagged (kindOfAddress address) (.scalar s)
  | some address, d => .tagged (kindOfAddress address) d

end LotterySlip.Yaml
