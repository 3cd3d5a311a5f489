import LotterySlip.Catalog
import LotterySlip.Document.Encoding
import LotterySlip.Document.Yaml.Word

/-! Catalogs and settings read from documents. A record is an object or a mapping with its fields by
name, or a list with its fields in order. Fields that are not known are passed over; a known field
may not occur twice. There is no conversion between texts, numbers and booleans, except that an
unquoted word is text where text is asked for. -/
namespace LotterySlip
open Text

namespace Document

def isEmptyPlace (d : Document) : Bool :=
  match d.bare with
  | scalar (.plain s) => s.isEmpty
  | _ => false

def text? (d : Document) : Option String :=
  match d.bare with
  | scalar (.text s) => some s
  | scalar (.plain s) => some s
  | _ => none

def int? (d : Document) : Option Int :=
  match d.bare with
  | scalar s =>
    match Yaml.resolve s with
    | .int i => some i
    | _ => none
  | _ => none

def bool? (d : Document) : Option Bool :=
  match d.bare with
  | scalar s =>
    match Yaml.resolve s with
    | .bool b => some b
    | _ => none
  | _ => none

/-- What a value is to a reader who does not know what to expect. A name as its tag tells such a
reader nothing, so that the value cannot be read. -/
def meaning? : Document → Option Document
  | scalar s => some (scalar (Yaml.resolve s))
  | tagged tag (scalar s) => (Yaml.resolveAs? tag s).map scalar
  | tagged (.named _) _ => none
  | d => some d.bare

def properText? (d : Document) : Option String :=
  match d.meaning? with
  | some (scalar (.text s)) => some s
  | _ => none

def isAbsent : Document → Bool
  | scalar .null => true
  | scalar (.plain s) => Yaml.nullWords.contains s
  | tagged .null (scalar (.plain s)) => Yaml.denoteAs? .null s = some .null
  | _ => false

def optional? {α : Type} (read : Document → Option α) (d : Document) : Option (Option α) :=
  if d.isAbsent then some none else (read d).map some

def listOf? {α : Type} (read : Document → Option α) (d : Document) : Option (List α) :=
  if d.isEmptyPlace then some [] else d.items?.bind fun items => items.mapM read

def members? (d : Document) : Option (List (String × Document)) :=
  d.pairs?.bind fun pairs => pairs.mapM fun p => p.1.text?.map fun name => (name, p.2)

def fields? (names : List String) (d : Document) : Option (List (String × Document)) :=
  match d with
  | list items => if items.length ≤ names.length then some (names.zip items) else none
  | d =>
    if d.isEmptyPlace then some []
    else do
      let known := (← d.members?).filter fun m => names.contains m.1
      if (known.map fun m => m.1).Nodup then some known else none

end Document

def field? (fields : List (String × Document)) (name : String) : Option Document :=
  (fields.find? fun f => f.1 == name).map fun f => f.2

def required? {α : Type} (fields : List (String × Document)) (name : String)
    (read : Document → Option α) : Option α :=
  (field? fields name).bind read

def defaulted? {α : Type} (fields : List (String × Document)) (name : String) (default : α)
    (read : Document → Option α) : Option α :=
  match field? fields name with
  | some d => read d
  | none => some default

def id? (d : Document) : Option Int64 :=
  d.int?.bind fun i =>
    if Int64.minValue.toInt ≤ i ∧ i ≤ Int64.maxValue.toInt then some (Int64.ofInt i) else none

def Document.hasMinus (d : Document) : Bool := d.text?.any fun s => s.toList.head? == some '-'

def count? (d : Document) : Option UInt64 :=
  if d.hasMinus then none
  else d.int?.bind fun i =>
    if 0 ≤ i ∧ i < UInt64.size then some (UInt64.ofNat i.toNat) else none

def byte? (d : Document) : Option UInt8 := do
  let i ← (← d.meaning?).int?
  if 0 ≤ i ∧ i < UInt8.size then some (UInt8.ofNat i.toNat) else none

def fitsWord (i : Int) : Bool := Int64.minValue.toInt ≤ i && i < UInt64.size

def Decimal.ofDocument? (d : Document) : Option Decimal :=
  match d.meaning? with
  | some (.scalar (.text s)) => Decimal.read? s.toList
  | some (.scalar (.int i)) => if fitsWord i then Decimal.ofInt? i else none
  | some (.scalar (.real digits)) => Decimal.ofChars? digits.toList
  | _ => none

/-- A region by its key; a member or a tag of that name without a value stands for it too. -/
def Region.ofDocument? : Document → Option Region
  | .object [(key, .scalar .null)] => Region.ofKey? key
  | .tagged (.named key) d => if d.isAbsent then Region.ofKey? key else none
  | d => d.text?.bind Region.ofKey?

def RegionEntry.ofDocument? (d : Document) : Option RegionEntry := do
  let fields ← d.fields? ["id", "name", "code"]
  some ⟨← required? fields "id" id?, ← required? fields "name" Document.text?,
    ← required? fields "code" Region.ofDocument?⟩

def Station.ofDocument? (d : Document) : Option Station := do
  let fields ← d.fields? ["id", "name", "region", "aliases"]
  some ⟨← required? fields "id" id?, ← required? fields "name" Document.text?,
    ← required? fields "region" RegionEntry.ofDocument?,
    ← defaulted? fields "aliases" [] (Document.listOf? Document.text?)⟩

def ratesOfDocument? (d : Document) : Option (Table String Decimal) := do
  let entries ← (← (← d.meaning?).pairs?).mapM fun p => do
    some (← p.1.properText?, ← Decimal.ofDocument? p.2)
  some (.ofList entries)

def PayoutRate.ofDocument? (d : Document) : Option PayoutRate :=
  ((Decimal.ofDocument? d).map flat).or ((ratesOfDocument? d).map table)

def BetType.ofDocument? (d : Document) : Option BetType := do
  let fields ← d.fields? ["id", "name", "aliases", "applicable_regions", "is_permutation",
    "payout_rate", "custom_payout_rate"]
  some ⟨← required? fields "id" id?, ← required? fields "name" Document.text?,
    ← defaulted? fields "aliases" [] (Document.listOf? Document.text?),
    ← defaulted? fields "applicable_regions" [] (Document.listOf? Region.ofDocument?),
    ← defaulted? fields "is_permutation" false Document.bool?,
    ← defaulted? fields "payout_rate" none (Document.optional? PayoutRate.ofDocument?),
    ← defaulted? fields "custom_payout_rate" none (Document.optional? Decimal.ofDocument?)⟩

namespace Rule

mutual

/-- Whether a value can be kept until it is known what it is about: it is at most `depth` deep, and
the whole numbers in it fit in 64 bits. A JSON text is never too deep, nor are its whole numbers too
large. -/
def isKeepable (depth : Nat) : Document → Bool
  | .scalar s =>
    match Yaml.resolve s with
    | .int i => fitsWord i
    | _ => true
  | .list _ => true
  | .object _ => true
  | .sequence items =>
    match depth with
    | 0 => false
    | depth + 1 => areKeepable depth items
  | .mapping pairs =>
    match depth with
    | 0 => false
    | depth + 1 => arePairsKeepable depth pairs
  | .tagged tag d =>
    match tag, d with
    | tag, .scalar s =>
      match Yaml.resolveAs? tag s with
      | some (.int i) => fitsWord i
      | s => s.isSome
    | .named _, _ => false
    | _, d => isKeepable depth d

def areKeepable (depth : Nat) : List Document → Bool
  | [] => true
  | d :: ds => isKeepable depth d && areKeepable depth ds

def arePairsKeepable (depth : Nat) : List (Document × Document) → Bool
  | [] => true
  | (k, d) :: ps => isKeepable depth k && isKeepable depth d && arePairsKeepable depth ps

end

def maxDepth : Nat := 124

/-- What the name of a member stands for: a text for itself, and a whole number without a minus sign
for the place of a detail, of which a rule has at most one. -/
inductive DetailKey
  | name (s : String)
  | place (n : Nat)

def DetailKey.ofDocument? (d : Document) : Option DetailKey :=
  match d.meaning? with
  | some (.scalar (.text s)) => some (.name s)
  | some (.scalar (.int i)) => if d.hasMinus then none else some (.place i.toNat)
  | _ => none

def DetailKey.isOf (name : String) : DetailKey → Bool
  | .name s => s == name
  | .place n => n == 0

def detail? (name : String) (d : Document) : Option Document :=
  match d.items? with
  | some [d] => some d
  | some _ => none
  | none => do
    let named ← (← d.pairs?).mapM fun p => (DetailKey.ofDocument? p.1).map fun k => (k, p.2)
    match named.filter fun m => m.1.isOf name with
    | [m] => some m.2
    | _ => none

/-- A rule of a given name. Nothing may stand behind a rule of one word in a list; members are
passed over. -/
def ofTag? (tag : String) (rest : Document) : Option Rule :=
  if tag = "head" then ((detail? "digit" rest).bind byte?).map head
  else if tag = "tail" then ((detail? "digit" rest).bind byte?).map tail
  else if tag = "custom" then
    ((detail? "calculation_method" rest).bind Document.properText?).map custom
  else match rest.items? with
    | some (_ :: _) => none
    | _ => (named.find? fun n => n.1 == tag).map fun n => n.2

def isTag (p : Document × Document) : Bool := p.1.properText? == some "rule"

def ofDocument? (d : Document) : Option Rule := do
  let d ← d.meaning?
  match d.items?, d.pairs? with
  | some (tag :: rest), _ =>
    if areKeepable maxDepth rest then tag.text?.bind fun t => ofTag? t (.list rest) else none
  | none, some pairs =>
    let rest := pairs.filter fun p => !isTag p
    match pairs.filter isTag with
    | [tag] =>
      if arePairsKeepable maxDepth rest then tag.2.text?.bind fun t => ofTag? t (.mapping rest)
      else none
    | _ => none
  | _, _ => none

end Rule

def Combination.ofDocument? (d : Document) : Option Combination := do
  let fields ← d.fields? ["name", "aliases", "generator"]
  some ⟨← required? fields "name" Document.text?,
    ← defaulted? fields "aliases" [] (Document.listOf? Document.text?),
    ← required? fields "generator" Rule.ofDocument?⟩

def Options.ofDocument? (d : Document) : Option Options := do
  let fields ← d.fields? ["strict_combinations", "max_expanded_numbers", "stake_multiplier",
    "default_payout_rate"]
  some ⟨← defaulted? fields "strict_combinations" standard.strictCombinations Document.bool?,
    ← defaulted? fields "max_expanded_numbers" standard.maxExpandedNumbers count?,
    ← defaulted? fields "stake_multiplier" standard.stakeMultiplier Decimal.ofDocument?,
    ← defaulted? fields "default_payout_rate" standard.defaultPayoutRate Decimal.ofDocument?⟩

def idOfName? (name : String) : Option Int64 :=
  match Json.number? name.toList with
  | some (number, []) => id? (.scalar number)
  | _ => none

def overridesOfDocument? (d : Document) : Option PayoutOverrides :=
  let entries? : Option (List (Int64 × Decimal)) :=
    match d.bare with
    | .object members => members.mapM fun m => do
      some (← idOfName? m.1, ← Decimal.ofDocument? m.2)
    | .mapping pairs => pairs.mapM fun p => do
      some (← id? p.1, ← Decimal.ofDocument? p.2)
    | d => if d.isEmptyPlace then some [] else none
  entries?.map .ofList

def Settings.ofDocument? (d : Document) : Option Settings := do
  let fields ← d.fields? ["price_rate", "options", "payout_overrides"]
  some ⟨← required? fields "price_rate" Decimal.ofDocument?,
    ← defaulted? fields "options" .standard Options.ofDocument?,
    ← defaulted? fields "payout_overrides" .empty overridesOfDocument?⟩

end LotterySlip
