import LotterySlip.Proofs.Reading
import LotterySlip.Proofs.Region
import LotterySlip.Proofs.Submission

/-! Bet types and regions. Of the bet types that declare the alias of a line, the first one counts that
is offered in the regions of all stations; where there is none, the line is refused for the first of
them all. -/
namespace LotterySlip
open Text

namespace Tariff

theorem chooseBetType_eq_ok_iff (candidates : List BetType) (regions : List Region) (b : BetType) :
    chooseBetType candidates regions = .ok b ↔
      candidates.find? (fun c => c.covers regions) = some b := by
  unfold chooseBetType
  cases candidates.find? fun c => c.covers regions with
  | some c => simp
  | none => cases candidates <;> simp

/-- Where there are candidates, a refusal names the first of them. -/
theorem chooseBetType_eq_error_iff {candidates : List BetType} (hne : candidates ≠ [])
    (regions : List Region) (e : LineError) : chooseBetType candidates regions = .error e ↔
      (∀ c ∈ candidates, c.covers regions = false) ∧ ∃ b, candidates.head? = some b ∧
        e = .betTypeNotApplicable b.name (missingRegion b regions) := by
  obtain ⟨b, bs, rfl⟩ := List.exists_cons_of_ne_nil hne
  unfold chooseBetType
  cases hfind : (b :: bs).find? fun c => c.covers regions with
  | some c =>
    have hc : c.covers regions = true := by simpa using List.find?_some hfind
    simp only [reduceCtorEq, false_iff, not_and]
    intro hall
    rw [hall c (List.mem_of_find?_eq_some hfind)] at hc
    cases hc
  | none =>
    have hall : ∀ c ∈ b :: bs, c.covers regions = false := by
      simpa only [List.find?_eq_none, Bool.not_eq_true] using hfind
    simp only [Except.error.injEq, List.head?_cons, Option.some.injEq, exists_eq_left']
    exact ⟨fun h => ⟨hall, h.symm⟩, fun h => h.2.symm⟩

/-- A region that is missed is one of those asked for: the region that stands in for none is never
needed. -/
theorem find?_missingRegion {b : BetType} {regions : List Region} (h : b.covers regions = false) :
    regions.find? (fun r => !b.appliesTo r) = some (missingRegion b regions) := by
  rw [missingRegion]
  cases hfind : regions.find? fun r => !b.appliesTo r with
  | some r => rfl
  | none =>
    have hall : b.covers regions = true := by
      rw [BetType.covers, List.all_eq_true]
      simpa using hfind
    rw [hall] at h
    cases h

/-- No stage behind the choice of a bet type refuses a line for its regions. -/
theorem readBet_notApplicable_iff (t : Tariff) (ctx : LineContext) (line : List Char) (name : String)
    (region : Region) :
    (∃ r, t.readBet ctx line = .error r ∧ r.cause = .betTypeNotApplicable name region) ↔
      ∃ hit, t.index.find? line = some hit ∧
        chooseBetType (t.betTypes.filter (BetType.declares hit.group.key)) ctx.regions =
          .error (.betTypeNotApplicable name region) := by
  constructor
  · rintro ⟨r, hr, hcause⟩
    have hreads := t.reads_readBet ctx line
    rw [hr] at hreads
    cases hreads with
    | noAlias => cases hcause
    | noBetType hfind h =>
      obtain rfl : _ = LineError.betTypeNotApplicable name region := hcause
      exact ⟨_, hfind, h⟩
    | noNumbers _ h =>
      cases h with
      | unsupported =>
        dsimp only at hcause
        split at hcause <;> cases hcause
      | tooLong => cases hcause
      | nothing => cases hcause
      | uneven => cases hcause
    | noAmount => cases hcause
    | noTickets => cases hcause
    | noPrice => cases hcause
  · rintro ⟨hit, hfind, h⟩
    exact ⟨_, (Reads.noBetType hfind h).readBet_eq, rfl⟩

end Tariff

def Tariff.matchedKey? (t : Tariff) (line : List Char) : Option (List Char) :=
  (t.index.find? line).map fun hit => hit.group.key

def BetType.isOfferedAt (stations : List Station) (b : BetType) : Bool :=
  stations.all fun s => b.appliesTo s.region.code

def Tariff.offered? (t : Tariff) (stations : List Station) (key : List Char) : Option BetType :=
  t.betTypes.find? fun b => b.declares key && b.isOfferedAt stations

structure Bet.IsUnder (t : Tariff) (s : Selection) (b : BetType) (bet : Bet) : Prop where
  id_eq : bet.betType.id = b.id
  name_eq : bet.betType.name = b.name
  tickets_eq : Number.tickets? bet.numbers b.isPermutation t.limit = some bet.tickets
  payoutRate_eq : bet.payoutRate =
    b.rateFor s.pricingRegion? (Tariff.digitCount bet.numbers) t.options.defaultPayoutRate

/-- What a line owes to the regions of the stations that were chosen. -/
structure BetLine.KeepsToRegions (t : Tariff) (s : Selection) (l : BetLine) : Prop where
  bet : ∀ bet, l.bet? = some bet → ∃ key b, t.matchedKey? l.text.toList = some key ∧
    t.offered? s.stations key = some b ∧ bet.IsUnder t s b
  refused_iff : (∃ name region, l.error? = some (.betTypeNotApplicable name region)) ↔
    ∃ key, t.matchedKey? l.text.toList = some key ∧
      ∀ b ∈ t.betTypes, b.declares key = true → b.isOfferedAt s.stations = false
  refusal : ∀ name region, l.error? = some (.betTypeNotApplicable name region) →
    ∃ key b, t.matchedKey? l.text.toList = some key ∧
      t.betTypes.find? (BetType.declares key) = some b ∧ name = b.name ∧
      (∃ a ∈ s.stations, a.region.code = region) ∧ b.appliesTo region = false ∧
      ∀ a ∈ s.stations, b.appliesTo a.region.code = false → region.rank ≤ a.region.code.rank

theorem Selection.mem_regions_iff (s : Selection) (r : Region) :
    r ∈ s.regions ↔ ∃ a ∈ s.stations, a.region.code = r := by
  rw [regions, Region.mem_sortedSet_iff, List.mem_map]

/-- It is enough to ask for every region once. -/
theorem BetType.covers_regions (b : BetType) (s : Selection) :
    b.covers s.regions = b.isOfferedAt s.stations := by
  rw [Bool.eq_iff_iff, covers, isOfferedAt, List.all_eq_true, List.all_eq_true]
  constructor
  · intro h a ha
    exact h _ ((s.mem_regions_iff _).mpr ⟨a, ha, rfl⟩)
  · intro h r hr
    obtain ⟨a, ha, rfl⟩ := (s.mem_regions_iff r).mp hr
    exact h a ha

namespace Tariff

/-- Choosing among the candidates is searching the catalog. -/
theorem chooseBetType_declares_iff (t : Tariff) (s : Selection) (key : List Char) (b : BetType) :
    chooseBetType (t.betTypes.filter (BetType.declares key)) s.regions = .ok b ↔
      t.offered? s.stations key = some b := by
  rw [chooseBetType_eq_ok_iff, List.find?_filter, offered?]
  simp only [BetType.covers_regions, Bool.decide_and, Bool.decide_eq_true]

theorem keepsToRegions_readLine (t : Tariff) (s : Selection) (priceRate : Decimal)
    (line : Nat × List Char) :
    (t.readLine (.ofSelection s priceRate) line).KeepsToRegions t s := by
  have hregions : (LineContext.ofSelection s priceRate).regions = s.regions := rfl
  have hkey : t.matchedKey? (t.readLine (.ofSelection s priceRate) line).text.toList =
      t.matchedKey? line.2 := by
    rw [matchedKey?, find?_readLine, matchedKey?]
  have hrefused (name : String) (region : Region) :=
    (t.error?_readLine (.ofSelection s priceRate) line (.betTypeNotApplicable name region)).trans
      (t.readBet_notApplicable_iff (.ofSelection s priceRate) line.2 name region)
  refine ⟨fun bet hbet => ?_, ?_, fun name region herror => ?_⟩
  · rw [bet?_readLine] at hbet
    have hreads := t.reads_readBet (.ofSelection s priceRate) line.2
    rw [hbet] at hreads
    cases hreads with
    | @bet hit b numbers tickets amount price hb hn ha ht h =>
      have hchoice := hb.choice
      rw [hregions, chooseBetType_declares_iff] at hchoice
      refine ⟨hit.group.key, b, ?_, hchoice, rfl, rfl, ht, rfl⟩
      rw [hkey, matchedKey?, hb.find]
      rfl
  · simp only [hrefused, hkey, hregions]
    constructor
    · rintro ⟨name, region, hit, hfind, h⟩
      obtain ⟨hall, -⟩ := (chooseBetType_eq_error_iff (candidates_ne_nil hfind) _ _).mp h
      refine ⟨hit.group.key, by rw [matchedKey?, hfind]; rfl, fun b hb hd => ?_⟩
      rw [← BetType.covers_regions]
      exact hall b (List.mem_filter.mpr ⟨hb, hd⟩)
    · rintro ⟨key, hmatched, hall⟩
      obtain ⟨hit, hfind, rfl⟩ := Option.map_eq_some_iff.mp hmatched
      have hne := candidates_ne_nil hfind
      obtain ⟨b, bs, hb⟩ := List.exists_cons_of_ne_nil hne
      refine ⟨b.name, missingRegion b s.regions, hit, hfind, ?_⟩
      rw [chooseBetType_eq_error_iff hne]
      refine ⟨fun c hc => ?_, b, by rw [hb]; rfl, rfl⟩
      obtain ⟨hc, hd⟩ := List.mem_filter.mp hc
      rw [BetType.covers_regions]
      exact hall c hc hd
  · obtain ⟨hit, hfind, h⟩ := (hrefused name region).mp herror
    obtain ⟨hall, b, hb, he⟩ := (chooseBetType_eq_error_iff (candidates_ne_nil hfind) _ _).mp h
    obtain ⟨rfl, rfl⟩ := LineError.betTypeNotApplicable.inj he
    have hmissing := find?_missingRegion (hall b (List.mem_of_head? hb))
    obtain ⟨hmem, hnot, hfirst⟩ := Region.of_find?_sortedSet hmissing
    refine ⟨hit.group.key, b, ?_, ?_, rfl, ?_, ?_, ?_⟩
    · rw [hkey, matchedKey?, hfind]
      rfl
    · rw [← List.head?_filter]
      exact hb
    · exact List.mem_map.mp hmem
    · simpa using hnot
    · intro a ha hnota
      exact hfirst _ (List.mem_map_of_mem ha) (by simpa using hnota)

end Tariff

def Sample.sharedAlias : Catalogs :=
  ⟨stations, [⟨1, "Xỉu chủ", ["xc"], [.south, .central], false, none, none⟩,
    ⟨2, "Xỉu chủ miền Bắc", ["XC"], [.north], false, none, none⟩], []⟩

namespace House

/-- Every bet of a slip is made under the first bet type of its alias that is offered at all of the
stations, and a line is refused for its regions exactly if there is none; then the first bet type of
the alias is named, with the first region in which it is missed. -/
theorem submit_keepsToRegions (h : House) (accessible : List Station) (priceRate : Decimal)
    (text : String) (s : Submission)
    (hs : h.submit accessible priceRate text = .accepted s) :
    ∀ l ∈ s.lines, l.KeepsToRegions h.tariff s.selection := by
  obtain ⟨layout, -, hc⟩ := (h.submit_eq_accepted_iff accessible priceRate text s).mp hs
  obtain ⟨-, -, hsel, hlines, -⟩ := (h.complete_eq_accepted_iff priceRate text layout s).mp hc
  intro l hl
  rw [hlines] at hl
  obtain ⟨line, -, rfl⟩ := List.mem_map.mp hl
  rw [hsel]
  exact h.tariff.keepsToRegions_readLine layout.selection priceRate line

/-- Two bet types share an alias. In the north the second one counts, and in the north and the centre
together neither does. -/
theorem submit_keepsToRegions_shared_alias : ∃ s s',
    (Sample.sharedAlias.house .standard).submit Sample.stations .one "mb\n123xc1" = .accepted s ∧
      s.lines.map (fun l => l.betType?.map BetTypeRef.id) = [some 2] ∧
      (∀ l ∈ s.lines, l.KeepsToRegions (Sample.sharedAlias.tariff .standard) s.selection) ∧
      (Sample.sharedAlias.house .standard).submit Sample.stations .one "dng,mb\n123xc1" =
        .accepted s' ∧
      s'.lines.map BetLine.error? = [some (.betTypeNotApplicable "Xỉu chủ" .north)] ∧
      ∀ l ∈ s'.lines, l.KeepsToRegions (Sample.sharedAlias.tariff .standard) s'.selection := by
  have hbets : ((Sample.sharedAlias.house .standard).submit Sample.stations .one
      "mb\n123xc1").accepted?.map (fun s => s.lines.map fun l => l.betType?.map BetTypeRef.id) =
        some [some 2] := by
    decide +kernel
  have herrors : ((Sample.sharedAlias.house .standard).submit Sample.stations .one
      "dng,mb\n123xc1").accepted?.map (fun s => s.lines.map BetLine.error?) =
        some [some (.betTypeNotApplicable "Xỉu chủ" .north)] := by
    decide +kernel
  obtain ⟨s, hs, hids⟩ := Option.map_eq_some_iff.mp hbets
  obtain ⟨s', hs', hlines⟩ := Option.map_eq_some_iff.mp herrors
  have h := (SubmissionResult.accepted?_eq_some_iff _ s).mp hs
  have h' := (SubmissionResult.accepted?_eq_some_iff _ s').mp hs'
  exact ⟨s, s', h, hids, submit_keepsToRegions _ _ _ _ s h, h', hlines,
    submit_keepsToRegions _ _ _ _ s' h'⟩

end House
end LotterySlip
