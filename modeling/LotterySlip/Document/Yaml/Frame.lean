import LotterySlip.Document.Yaml.Token

/-! Values of a catalog file put together from its tokens. The collections that are open form a
stack; every token acts on the innermost of them. -/
namespace LotterySlip.Yaml

/-- Where the reading of a mapping stands: before a key, behind the mark of a key, behind a key,
behind the mark of a value, or, in braces, behind a pair. -/
inductive PairStage
  | ready
  | keyMark
  | key (k : Document)
  | valueMark (k : Document)
  | full

/-- The anchors so far with the values behind them, which are not known until they are complete. -/
abbrev Anchors := List (String × Option Document)

def Anchors.value? (anchors : Anchors) (name : String) : Option Document :=
  (anchors.reverse.find? fun a => a.1 == name).bind fun a => a.2

def Anchors.complete (anchors : Anchors) (place : Nat) (d : Document) : Anchors :=
  anchors.modify place fun a => (a.1, some d)

/-- An open collection with its parts so far, latest first: the whole document, with the anchors in
it; a block of entries, or one without marks at its ends, perhaps behind the mark of an entry; a
block of pairs; entries in brackets, perhaps behind one of them; pairs in braces; or a single pair
in brackets. A value behind an anchor or a tag counts as open too, with the place of the anchor. -/
inductive Frame
  | whole (d : Option Document) (anchors : Anchors)
  | entries (items : List Document) (marked : Bool)
  | looseEntries (items : List Document) (marked : Bool)
  | pairs (done : List (Document × Document)) (stage : PairStage)
  | brackets (items : List Document) (full : Bool)
  | braces (done : List (Document × Document)) (stage : PairStage)
  | single (stage : PairStage)
  | named (place : Option Nat) (tag : Option String)

abbrev Frames := List Frame

namespace Frames

def anchors : Frames → Anchors
  | [] => []
  | .whole _ as :: _ => as
  | _ :: fs => anchors fs

def withAnchors (change : Anchors → Anchors) : Frames → Frames
  | [] => []
  | .whole d as :: fs => .whole d (change as) :: fs
  | f :: fs => f :: withAnchors change fs

def put? (d : Document) : Frames → Option Frames
  | .whole none as :: fs => some (.whole (some d) as :: fs)
  | .entries items true :: fs => some (.entries (d :: items) false :: fs)
  | .looseEntries items true :: fs => some (.looseEntries (d :: items) false :: fs)
  | .pairs done .keyMark :: fs => some (.pairs done (.key d) :: fs)
  | .pairs done (.valueMark k) :: fs => some (.pairs ((k, d) :: done) .ready :: fs)
  | .brackets items false :: fs => some (.brackets (d :: items) true :: fs)
  | .braces done .ready :: fs => some (.braces ((d, .nothing) :: done) .full :: fs)
  | .braces done .keyMark :: fs => some (.braces done (.key d) :: fs)
  | .braces done (.valueMark k) :: fs => some (.braces ((k, d) :: done) .full :: fs)
  | .single .keyMark :: fs => some (.single (.key d) :: fs)
  | .single (.valueMark k) :: fs => put? (.mapping [(k, d)]) fs
  | .named place tag :: fs =>
    let d := withTag tag d
    let complete (as : Anchors) : Anchors := (place.map fun n => as.complete n d).getD as
    (put? d fs).map (withAnchors complete)
  | _ => none

def isLeftOut (t : Token) : Frames → Bool
  | .entries _ true :: _ => t = .entry || t = .blockEnd
  | .looseEntries _ true :: _ => t = .entry || t = .key || t = .value || t = .blockEnd
  | .pairs _ .keyMark :: _ => t = .key || t = .value || t = .blockEnd
  | .pairs _ (.valueMark _) :: _ => t = .key || t = .value || t = .blockEnd
  | .braces _ .keyMark :: _ => t = .value || t = .comma || t = .closeBrace
  | .braces _ (.valueMark _) :: _ => t = .comma || t = .closeBrace
  | .single (.valueMark _) :: _ => t = .comma || t = .closeBracket
  | _ => false

def fillLeftOut? (t : Token) (fs : Frames) : Option Frames :=
  if isLeftOut t fs then put? .nothing fs else some fs

def closeLoose? (t : Token) : Frames → Option Frames
  | .looseEntries items false :: fs =>
    if t = .entry then some (.looseEntries items false :: fs)
    else put? (.sequence items.reverse) fs
  | fs => some fs

def completePair? (t : Token) : Frames → Option Frames
  | .pairs done (.key k) :: fs =>
    if t = .value then some (.pairs done (.key k) :: fs)
    else some (.pairs ((k, .nothing) :: done) .ready :: fs)
  | .braces done (.key k) :: fs =>
    if t = .value then some (.braces done (.key k) :: fs)
    else some (.braces ((k, .nothing) :: done) .full :: fs)
  | .single (.key k) :: fs =>
    if t = .value then some (.single (.key k) :: fs)
    else put? (.mapping [(k, .nothing)]) fs
  | fs => some fs

def settle? (t : Token) (fs : Frames) : Option Frames :=
  fillLeftOut? t fs >>= closeLoose? t >>= completePair? t

def admitsBlock : Frames → Bool
  | .named _ _ :: fs => admitsBlock fs
  | .brackets _ _ :: _ => false
  | .braces _ _ :: _ => false
  | .single _ :: _ => false
  | _ => true

def admitsLoose : Frames → Bool
  | .named _ _ :: fs => admitsLoose fs
  | .pairs _ .keyMark :: _ => true
  | .pairs _ (.valueMark _) :: _ => true
  | _ => false

def entry? : Frames → Option Frames
  | .entries items false :: fs => some (.entries items true :: fs)
  | .looseEntries items false :: fs => some (.looseEntries items true :: fs)
  | fs => if admitsLoose fs then some (.looseEntries [] true :: fs) else none

def key? : Frames → Option Frames
  | .pairs done .ready :: fs => some (.pairs done .keyMark :: fs)
  | .braces done .ready :: fs => some (.braces done .keyMark :: fs)
  | .brackets items false :: fs => some (.single .keyMark :: .brackets items false :: fs)
  | _ => none

def value? : Frames → Option Frames
  | .pairs done (.key k) :: fs => some (.pairs done (.valueMark k) :: fs)
  | .braces done (.key k) :: fs => some (.braces done (.valueMark k) :: fs)
  | .single (.key k) :: fs => some (.single (.valueMark k) :: fs)
  | _ => none

def comma? : Frames → Option Frames
  | .brackets items true :: fs => some (.brackets items false :: fs)
  | .braces done .full :: fs => some (.braces done .ready :: fs)
  | _ => none

def blockEnd? : Frames → Option Frames
  | .entries items false :: fs => put? (.sequence items.reverse) fs
  | .pairs done .ready :: fs => put? (.mapping done.reverse) fs
  | _ => none

def closeBracket? : Frames → Option Frames
  | .brackets items _ :: fs => put? (.sequence items.reverse) fs
  | _ => none

def closeBrace? : Frames → Option Frames
  | .braces done .ready :: fs => put? (.mapping done.reverse) fs
  | .braces done .full :: fs => put? (.mapping done.reverse) fs
  | _ => none

def anchor? (name : String) (fs : Frames) : Option Frames :=
  let place := fs.anchors.length
  let add : Frames → Frames := withAnchors fun as => as ++ [(name, none)]
  match fs with
  | .named none tag :: fs => some (.named (some place) tag :: add fs)
  | .named _ _ :: _ => none
  | fs => if (put? .nothing fs).isSome then some (.named (some place) none :: add fs) else none

def tag? (address : String) : Frames → Option Frames
  | .named place none :: fs => some (.named place (some address) :: fs)
  | .named _ _ :: _ => none
  | fs => if (put? .nothing fs).isSome then some (.named none (some address) :: fs) else none

def act? (t : Token) (fs : Frames) : Option Frames :=
  match t with
  | .scalar s => put? (.scalar s) fs
  | .anchor name => anchor? name fs
  | .tag address => tag? address fs
  | .alias name => (fs.anchors.value? name).bind fun d => put? d fs
  | .sequenceStart => if admitsBlock fs then some (.entries [] false :: fs) else none
  | .mappingStart => if admitsBlock fs then some (.pairs [] .ready :: fs) else none
  | .openBracket => some (.brackets [] false :: fs)
  | .openBrace => some (.braces [] .ready :: fs)
  | .blockEnd => blockEnd? fs
  | .closeBracket => closeBracket? fs
  | .closeBrace => closeBrace? fs
  | .entry => entry? fs
  | .comma => comma? fs
  | .key => key? fs
  | .value => value? fs
  | .directive => none
  | .documentStart => none
  | .documentEnd => none

/-- Goes on by a token behind which no anchor or tag is without its value. In brackets, a token that
shows the key behind its mark to be left out is passed over. -/
def advance? (t : Token) : Frames → Option Frames
  | .single .keyMark :: fs =>
    if t = .value ∨ t = .comma ∨ t = .closeBracket then
      put? .nothing (.single .keyMark :: fs)
    else act? t (.single .keyMark :: fs)
  | fs => settle? t fs >>= act? t

def belongsToNamed (t : Token) (fs : Frames) : Bool :=
  match t with
  | .scalar _ => true
  | .anchor _ => true
  | .tag _ => true
  | .sequenceStart => true
  | .mappingStart => true
  | .openBracket => true
  | .openBrace => true
  | .entry => admitsLoose fs
  | _ => false

def step? (t : Token) : Frames → Option Frames
  | .named place tag :: fs =>
    if belongsToNamed t fs then act? t (.named place tag :: fs)
    else put? .nothing (.named place tag :: fs) >>= advance? t
  | fs => advance? t fs

def finish? : Frames → Option Document
  | [.whole d _] => d
  | .named place tag :: fs =>
    match put? .nothing (.named place tag :: fs) with
    | some [.whole d _] => d
    | _ => none
  | _ => none

def steps? : List Token → Frames → Option Frames
  | [], fs => some fs
  | t :: ts, fs => (step? t fs).bind (steps? ts)

end Frames

def valueOf? (ts : List Token) : Option Document :=
  if ts.isEmpty then some .nothing
  else (Frames.steps? ts [.whole none []]).bind Frames.finish?

/-- The value of the one document of a file. A mark may stand in front of it, and must behind
directives; behind it there may be marks that end it. -/
def documentOf? (ts : List Token) : Option Document :=
  let isMark (t : Token) : Bool := t = .directive || t = .documentStart || t = .documentEnd
  let rest := ts.dropWhile (· = .directive)
  let body := if rest.head? = some .documentStart then rest.tail else rest
  let marks := body.dropWhile fun t => !isMark t
  if (ts.head? = some .directive ∧ rest.head? ≠ some .documentStart) ∨
      ts.head? = some .documentEnd ∨ marks.any (· ≠ .documentEnd) = true then none
  else valueOf? (body.takeWhile fun t => !isMark t)

end LotterySlip.Yaml
