import LotterySlip.Header.Quota
import LotterySlip.Refusal
import LotterySlip.Selection
import LotterySlip.Text.Similarity

/-! From a header to the stations it chooses. Only accessible stations are ever chosen. -/
namespace LotterySlip
open Text

def stationsIn (region : Region) (stations : List Station) : List Station :=
  stations.filter fun s => s.region.code = region

def Quota.resolve (q : Quota) (catalog accessible : List Station) :
    Except SlipError Selection :=
  let available := stationsIn q.region accessible
  if (stationsIn q.region catalog).isEmpty then .error (.unknownRegion q.region)
  else if available.length < q.count then
    .error (.insufficientRegionalAccess q.region q.count available.length)
  else .ok (.regional q.count q.region (available.take q.count))

structure KeyedStation where
  station : Station
  keys : List (List Char)

def keyed (catalog : List Station) : List KeyedStation :=
  catalog.map fun s => ⟨s, s.lookupKeys.map fun k => foldKey k.toList⟩

def isAmong (ids : List Int64) (s : Station) : Bool := ids.contains s.id

def pickStation (token : List Char) (ids : List Int64) :
    List Station → Except SlipError (Option Station)
  | [] => .ok none
  | [s] => .ok (some s)
  | candidates =>
    match candidates.filter (isAmong ids) with
    | [s] => .ok (some s)
    | _ => .error (.ambiguousStation (String.ofList token) (candidates.map fun s => s.name))

def stationsWith (index : List KeyedStation) (test : List Char → Bool) : List Station :=
  (index.filter fun e => e.keys.any test).map fun e => e.station

def suggestionThreshold : Float := 0.85

def betterSuggestion (best : Option (Float × Station)) (next : Float × Station) :
    Option (Float × Station) :=
  match best with
  | some b => if b.1 ≤ next.1 then some next else best
  | none => some next

def suggest (index : List KeyedStation) (key : List Char) : Option String :=
  let scored := index.flatMap fun e => e.keys.map fun k => (similarity key k, e.station)
  let likely := scored.filter fun s => s.1 ≥ suggestionThreshold
  (likely.foldl betterSuggestion none).map fun s => s.2.name

def occursIn (key : List Char) : List Char → Bool
  | [] => key.isEmpty
  | c :: cs => key.isPrefixOf (c :: cs) || occursIn key cs

/-- The station that a token means: one with that name, else one with a name that contains it. -/
def resolveToken (index : List KeyedStation) (ids : List Int64) (token : List Char) :
    Except SlipError Station :=
  let key := foldKey token
  match pickStation token ids (stationsWith index (· == key)) with
  | .error e => .error e
  | .ok (some s) => .ok s
  | .ok none =>
    match pickStation token ids (stationsWith index (occursIn key)) with
    | .error e => .error e
    | .ok (some s) => .ok s
    | .ok none => .error (.unknownStation (String.ofList token) (suggest index key))

def resolveAccessible (index : List KeyedStation) (ids : List Int64) (token : List Char) :
    Except SlipError Station :=
  match resolveToken index ids token with
  | .error e => .error e
  | .ok s => if isAmong ids s then .ok s else .error (.stationAccessDenied s.name)

def resolveTokens (index : List KeyedStation) (ids : List Int64) :
    List (List Char) → Except SlipError (List Station)
  | [] => .ok []
  | token :: tokens =>
    match resolveAccessible index ids token with
    | .error e => .error e
    | .ok s => (resolveTokens index ids tokens).map (s :: ·)

/-- The stations of a list that do not repeat an earlier one, and the names of those that do. -/
def collapse (seen : List Int64) : List Station → List Station × List String
  | [] => ([], [])
  | s :: ss =>
    if seen.contains s.id then
      let (kept, repeated) := collapse seen ss
      (kept, s.name :: repeated)
    else
      let (kept, repeated) := collapse (s.id :: seen) ss
      (s :: kept, repeated)

def headerTokens (header : List Char) : List (List Char) :=
  ((header.splitOnP fun c => c == '.' || c == ',').map trim).filter fun t => !t.isEmpty

def resolveNamed (catalog accessible : List Station) (header : List Char) :
    Except SlipError Selection :=
  let tokens := headerTokens header
  if tokens.isEmpty then .error .missingStationHeader
  else
    match resolveTokens (keyed catalog) (accessible.map fun s => s.id) tokens with
    | .error e => .error e
    | .ok stations =>
      let (kept, repeated) := collapse [] stations
      .ok (.named kept repeated)

def resolveHeader (catalog accessible : List Station) (header : List Char) :
    Except SlipError Selection :=
  let header := trim header
  if header.isEmpty then .error .missingStationHeader
  else
    match Quota.read? catalog header with
    | some q => q.resolve catalog accessible
    | none => resolveNamed catalog accessible header

/-- The divisions of a text before a blank, the longest first part first. `front` holds the
characters before the text, the last one first. -/
def divisionsFrom (front : List Char) : List Char → List (List Char × List Char)
  | [] => []
  | c :: cs =>
    divisionsFrom (c :: front) cs ++ if isBlank c then [(front.reverse, c :: cs)] else []

def divisions (cs : List Char) : List (List Char × List Char) :=
  ((divisionsFrom [] cs).map fun d => (trim d.1, trim d.2)).filter fun d =>
    !d.1.isEmpty && !d.2.isEmpty

/-- The first division whose first part is a header, unless one before it chooses stations that may
not be played. -/
def resolveDivisions (catalog accessible : List Station) :
    List (List Char × List Char) → Except SlipError (Selection × List Char)
  | [] => .error .missingStationHeader
  | (header, body) :: rest =>
    match resolveHeader catalog accessible header with
    | .ok selection => .ok (selection, body)
    | .error e => if e.isAccessFailure then .error e else resolveDivisions catalog accessible rest

def resolveImplicit (catalog accessible : List Station) (line : List Char) :
    Except SlipError (Selection × List Char) :=
  resolveDivisions catalog accessible (divisions (trim line))

def resolveSingle (catalog accessible : List Station) (line : List Char) :
    Except SlipError (Selection × List Char) :=
  match resolveHeader catalog accessible line with
  | .ok selection => .ok (selection, [])
  | .error e =>
    if e.isAccessFailure then .error e else resolveImplicit catalog accessible line

end LotterySlip
