import LotterySlip.Proofs.Diagnostics

/-! Combinations taken strictly. The lines that are reported for a combination are then refused for it,
and nothing else on a slip changes. -/
namespace LotterySlip
open Text

/-- A refusal for a combination that nobody evaluates, as it is worded where these are taken strictly
or not. Any other refusal is left as it is. -/
def Refusal.enforce (strict : Bool) (r : Refusal) : Refusal :=
  match r.finding with
  | some (.unsupportedCombination name _) =>
    { r with cause := if strict then .unsupportedCombinationRule name else .noValidNumbers }
  | _ => r

def Options.withStrictness (o : Options) (strict : Bool) : Options :=
  { o with strictCombinations := strict }

namespace Tariff

def withStrictness (t : Tariff) (strict : Bool) : Tariff :=
  { t with options := t.options.withStrictness strict }

variable {t : Tariff} {ctx : LineContext} {line : List Char}

theorem Names.withStrictness {hit : AliasHit} {b : BetType} (h : t.Names ctx line hit b)
    (strict : Bool) : (t.withStrictness strict).Names ctx line hit b := ⟨h.find, h.choice⟩

theorem ReadsNumbers.withStrictness {text : List Char} {x : Except Refusal (List String)}
    (h : t.ReadsNumbers text x) (strict : Bool) :
    (t.withStrictness strict).ReadsNumbers text (x.mapError (Refusal.enforce strict)) := by
  have hkept {e : Number.Expansion} (hr : t.refuseExpansion? text e = none) :
      (t.withStrictness strict).refuseExpansion? text e = none := by
    cases e <;> first | rfl | cases hr
  cases h with
  | unsupported h => exact .unsupported h
  | tooLong h => exact .tooLong h
  | nothing hr h => exact .nothing (hkept hr) h
  | uneven hr hn h => exact .uneven (hkept hr) hn h
  | numbers hr hn h => exact .numbers (hkept hr) hn h

/-- Whether combinations are taken strictly makes a difference to the wording of a refusal only. -/
theorem readBet_withStrictness (t : Tariff) (ctx : LineContext) (line : List Char) (strict : Bool) :
    (t.withStrictness strict).readBet ctx line =
      (t.readBet ctx line).mapError (Refusal.enforce strict) := by
  apply Reads.readBet_eq
  have hreads := t.reads_readBet ctx line
  generalize t.readBet ctx line = x at hreads
  cases hreads with
  | noAlias h => exact .noAlias h
  | noBetType hfind h => exact .noBetType hfind h
  | noNumbers hb h => exact .noNumbers (hb.withStrictness strict) (h.withStrictness strict)
  | noAmount hb hn h => exact .noAmount (hb.withStrictness strict) (hn.withStrictness strict) h
  | noTickets hb hn ha h =>
    exact .noTickets (hb.withStrictness strict) (hn.withStrictness strict) ha h
  | noPrice hb hn ha ht h =>
    exact .noPrice (hb.withStrictness strict) (hn.withStrictness strict) ha ht h
  | bet hb hn ha ht h => exact .bet (hb.withStrictness strict) (hn.withStrictness strict) ha ht h

end Tariff

inductive BetLine.Enforced (ds : List Diagnostic) (l l' : BetLine) : Prop
  | same (hnone : ∀ name method, ⟨.unsupportedCombination name method, some l.number⟩ ∉ ds)
    (h : l' = l)
  | refused {name method : String}
    (hmem : ⟨.unsupportedCombination name method, some l.number⟩ ∈ ds)
    (hl : l.error? = some .noValidNumbers)
    (h : l' = { l with outcome := .error (.unsupportedCombinationRule name) })

structure Submission.Enforced (s s' : Submission) : Prop where
  text : s'.text = s.text
  selection : s'.selection = s.selection
  lines : List.Forall₂ (BetLine.Enforced s.diagnostics) s.lines s'.lines
  totalStake : s'.totalStake = s.totalStake
  totalPrize : s'.totalPrize = s.totalPrize
  diagnostics : s'.diagnostics = s.diagnostics

inductive SubmissionResult.Enforced : SubmissionResult → SubmissionResult → Prop
  | refused (e : SlipError) : Enforced (.refused e) (.refused e)
  | totalOverflow : Enforced .totalOverflow .totalOverflow
  | accepted {s s' : Submission} (h : s.Enforced s') : Enforced (.accepted s) (.accepted s')

theorem readingFindings_enforce (strict : Bool) (x : Except Refusal Bet) :
    readingFindings (x.mapError (Refusal.enforce strict)) = readingFindings x := by
  cases x with
  | ok b => rfl
  | error r =>
    have hfinding : (r.enforce strict).finding = r.finding := by
      rw [Refusal.enforce]
      split <;> rfl
    exact congrArg Option.toList hfinding

theorem betsOf_withStrictness (t : Tariff) (ctx : LineContext) (body : List (Nat × List Char))
    (strict : Bool) : betsOf (body.map ((t.withStrictness strict).readLine ctx)) =
      betsOf (body.map (t.readLine ctx)) := by
  rw [betsOf, betsOf, List.filterMap_map, List.filterMap_map]
  refine List.filterMap_congr fun line _ => Option.ext fun bet => ?_
  simp only [Function.comp_def, Tariff.bet?_readLine, Tariff.readBet_withStrictness,
    mapError_eq_ok_iff]

namespace House

def withStrictness (h : House) (strict : Bool) : House :=
  { h with tariff := h.tariff.withStrictness strict }

theorem complete_withStrictness_iff (h : House) (priceRate : Decimal) (text : String) (l : Layout)
    (strict : Bool) (s' : Submission) :
    (h.withStrictness strict).complete priceRate text l = .accepted s' ↔
      h.complete priceRate text l = .accepted
        { s' with lines := l.body.map (h.tariff.readLine (.ofSelection l.selection priceRate)) } ∧
      s'.lines = l.body.map ((h.tariff.withStrictness strict).readLine
        (.ofSelection l.selection priceRate)) := by
  have hfindings : ((h.withStrictness strict).readBody (.ofSelection l.selection priceRate)
        l.body).flatMap (fun r => r.2) =
      (h.readBody (.ofSelection l.selection priceRate) l.body).flatMap fun r => r.2 := by
    rw [readBody, readBody, List.flatMap_map, List.flatMap_map]
    refine List.flatMap_congr fun line _ => ?_
    simp only [withStrictness, Tariff.readBet_withStrictness, readingFindings_enforce]
  have htotals {lines lines' : List BetLine} (hb : betsOf lines' = betsOf lines) :
      totals? lines' = totals? lines := by
    rw [totals?, totals?, hb]
  have hbets := betsOf_withStrictness h.tariff (.ofSelection l.selection priceRate) l.body strict
  rw [complete_eq_accepted_iff, complete_eq_accepted_iff, hfindings]
  constructor
  · rintro ⟨hsums, ht, hsel, hlines, hd⟩
    refine ⟨⟨?_, ht, hsel, rfl, hd⟩, hlines⟩
    rw [← htotals hbets, ← hsums, hlines]
    rfl
  · rintro ⟨⟨hsums, ht, hsel, -, hd⟩, hlines⟩
    refine ⟨?_, ht, hsel, hlines, hd⟩
    rw [hlines, htotals hbets, hsums]

/-- A line that is reported for a combination is refused for it, and any other line stays as it is. -/
theorem enforced_readLine {h : House} {accessible : List Station} {priceRate : Decimal}
    {text : String} {l : Layout} {s : Submission} (hc : h.complete priceRate text l = .accepted s)
    (hl : l.IsOf h.stations accessible text.toList)
    (hstrict : h.tariff.options.strictCombinations = false) {line : Nat × List Char}
    (hline : line ∈ l.body) : BetLine.Enforced s.diagnostics
      (h.tariff.readLine (.ofSelection l.selection priceRate) line)
      ((h.tariff.withStrictness true).readLine (.ofSelection l.selection priceRate) line) := by
  have hmem {f : Finding} (hf : f.isAboutLine = true) := mem_diagnostics_iff hc hl hline hf
  have htold := h.tariff.told_readBet (.ofSelection l.selection priceRate) line.2
  simp only [Tariff.readLine, h.tariff.readBet_withStrictness]
  rw [hstrict] at htold
  generalize h.tariff.readBet (.ofSelection l.selection priceRate) line.2 = x at hmem htold
  cases htold with
  | bet b => exact .same (fun name method hd => List.not_mem_nil ((hmem rfl).mp hd)) rfl
  | silent => exact .same (fun name method hd => List.not_mem_nil ((hmem rfl).mp hd)) rfl
  | unsupported name method =>
    exact .refused ((hmem rfl).mpr (List.mem_singleton_self _)) rfl rfl
  | @limit f hf =>
    have hne (name method : String) : Finding.unsupportedCombination name method ≠ f := by
      rintro rfl
      cases hf
    have henforce : Refusal.enforce true ⟨.noValidNumbers, some f⟩ = ⟨.noValidNumbers, some f⟩ := by
      cases f <;> first | rfl | cases hf
    refine .same (fun name method hd => hne name method ?_) ?_
    · exact List.mem_singleton.mp ((hmem rfl).mp hd)
    · exact congrArg (fun r => BetLine.ofReading line.1 line.2 (.error r)) henforce

theorem enforced_submit (h : House) (accessible : List Station) (priceRate : Decimal) (text : String)
    (hstrict : h.tariff.options.strictCombinations = false) :
    SubmissionResult.Enforced (h.submit accessible priceRate text)
      ((h.withStrictness true).submit accessible priceRate text) := by
  have hlayout : (h.withStrictness true).layOut accessible (numberedLines text.toList) =
      h.layOut accessible (numberedLines text.toList) := layOut_congr rfl accessible _
  rw [submit, submit, hlayout]
  cases hl : h.layOut accessible (numberedLines text.toList) with
  | error e => exact .refused e
  | ok l =>
    have hof := isOf_of_layOut hl
    have hiff := h.complete_withStrictness_iff priceRate text l true
    dsimp only
    cases hc' : (h.withStrictness true).complete priceRate text l with
    | refused e => exact absurd hc' (complete_ne_refused _ _ _ _ e)
    | accepted s' =>
      obtain ⟨hc, hlines'⟩ := (hiff s').mp hc'
      rw [hc]
      refine .accepted ⟨rfl, rfl, ?_, rfl, rfl, rfl⟩
      rw [hlines', List.forall₂_map_left_iff, List.forall₂_map_right_iff, List.forall₂_same]
      exact fun line hline => enforced_readLine hc hof hstrict hline
    | totalOverflow =>
      cases hc : h.complete priceRate text l with
      | refused e => exact absurd hc (complete_ne_refused _ _ _ _ e)
      | totalOverflow => exact .totalOverflow
      | accepted s =>
        have hlines := ((h.complete_eq_accepted_iff priceRate text l s).mp hc).2.2.2.1
        have hs := (hiff { s with lines := l.body.map ((h.tariff.withStrictness true).readLine
          (.ofSelection l.selection priceRate)) }).mpr ⟨by rw [hc, ← hlines], rfl⟩
        rw [hc'] at hs
        cases hs

end House

def Sample.customRule : Catalogs :=
  { plain with combinations := [⟨"Lucky", ["may man"], .custom "n % 7 == 0"⟩] }

namespace Catalogs

/-- A finding about a line stands behind those of the header, in the order of lines and once for each of
them, and its line is refused; a combination for which a line is refused is always reported, and so is
every station that the header names again. Whether combinations are taken strictly makes a difference
only to the lines that are reported for one. -/
theorem submit_reports (c : Catalogs) (options : Options) (accessible : List Station)
    (priceRate : Decimal) (text : String) :
    (∀ s, (c.house options).submit accessible priceRate text = .accepted s →
      ∃ n header stations, IsHeader c.stations accessible text.toList n header ∧
        resolveHeader c.stations accessible header = .ok s.selection ∧
        List.Forall₂ (fun token station => resolveAccessible (keyed c.stations)
          (accessible.map fun a => a.id) token = .ok station)
          (nameTokens c.stations header) stations ∧
        s.Reports n (repeatsOf stations)) ∧
    SubmissionResult.Enforced
      ((c.house (options.withStrictness false)).submit accessible priceRate text)
      ((c.house (options.withStrictness true)).submit accessible priceRate text) := by
  refine ⟨fun s hs => ?_, ?_⟩
  · obtain ⟨l, hl, hc⟩ := (House.submit_eq_accepted_iff _ _ _ _ s).mp hs
    have hof := House.isOf_of_layOut hl
    obtain ⟨-, -, hsel, -, -⟩ := (House.complete_eq_accepted_iff _ _ _ l s).mp hc
    obtain ⟨header, hheader, hresolve⟩ := hof.header
    obtain ⟨stations, hstations, hagain⟩ := exists_stations_of_resolveHeader hresolve
    rw [hsel]
    exact ⟨l.headerLine, header, stations, hheader, hresolve, hstations,
      House.reports_of_complete hc hof hagain⟩
  · exact (c.house (options.withStrictness false)).enforced_submit accessible priceRate text rfl

/-- A combination that nobody evaluates, below a header that names a station twice. -/
theorem submit_reports_custom_rule : ∃ s s',
    (Sample.customRule.house .standard).submit Sample.customRule.stations .one
      "tp,tp\nmay mandd1\n12dd1" = .accepted s ∧
    (Sample.customRule.house (Options.standard.withStrictness true)).submit
      Sample.customRule.stations .one "tp,tp\nmay mandd1\n12dd1" = .accepted s' ∧
    s.diagnostics.map (fun d => (d.finding.code, d.line)) =
      [("duplicate_station", some 1), ("unsupported_combination_rule", some 2)] ∧
    s'.lines.map BetLine.error? = [some (.unsupportedCombinationRule "Lucky"), none] ∧
    (∃ n header stations,
      IsHeader Sample.customRule.stations Sample.customRule.stations
          "tp,tp\nmay mandd1\n12dd1".toList n header ∧
        resolveHeader Sample.customRule.stations Sample.customRule.stations header =
          .ok s.selection ∧
        List.Forall₂ (fun token station => resolveAccessible (keyed Sample.customRule.stations)
          (Sample.customRule.stations.map fun a => a.id) token = .ok station)
          (nameTokens Sample.customRule.stations header) stations ∧
        s.Reports n (repeatsOf stations)) ∧
    SubmissionResult.Enforced (.accepted s) (.accepted s') := by
  have htold : ((Sample.customRule.house .standard).submit Sample.customRule.stations .one
      "tp,tp\nmay mandd1\n12dd1").accepted?.map
        (fun s => s.diagnostics.map fun d => (d.finding.code, d.line)) =
          some [("duplicate_station", some 1), ("unsupported_combination_rule", some 2)] := by
    decide +kernel
  have herrors : ((Sample.customRule.house (Options.standard.withStrictness true)).submit
      Sample.customRule.stations .one "tp,tp\nmay mandd1\n12dd1").accepted?.map
        (fun s => s.lines.map BetLine.error?) =
          some [some (.unsupportedCombinationRule "Lucky"), none] := by decide +kernel
  obtain ⟨s, hs, hdiagnostics⟩ := Option.map_eq_some_iff.mp htold
  obtain ⟨s', hs', hlines⟩ := Option.map_eq_some_iff.mp herrors
  have h := (SubmissionResult.accepted?_eq_some_iff _ s).mp hs
  have h' := (SubmissionResult.accepted?_eq_some_iff _ s').mp hs'
  obtain ⟨hreports, henforced⟩ := submit_reports Sample.customRule .standard
    Sample.customRule.stations .one "tp,tp\nmay mandd1\n12dd1"
  refine ⟨s, s', h, h', hdiagnostics, hlines, hreports s h, ?_⟩
  rw [← h, ← h']
  exact henforced

end Catalogs
end LotterySlip
