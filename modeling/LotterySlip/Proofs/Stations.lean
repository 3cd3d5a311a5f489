import LotterySlip.Proofs.Header.Resolution
import LotterySlip.Proofs.Isolation
import LotterySlip.Proofs.Region

/-! What the prices of a slip take from its header. Bets are offered and paid by regions and paid for
at every station, so that only the number of the stations and the set of their regions count. -/
namespace LotterySlip
open Text

def soleRegion? : List Region → Option Region
  | [region] => some region
  | _ => none

/-- A quota has the region that it asks for, and no other, so that regional and named stations are
paid alike. -/
theorem pricingRegion?_of_resolveHeader {catalog accessible : List Station} {header : List Char}
    {s : Selection} (h : resolveHeader catalog accessible header = .ok s) :
    s.pricingRegion? = soleRegion? s.regions := by
  cases s with
  | named stations repeated =>
    simp only [Selection.pricingRegion?, Selection.region?]
    generalize (Selection.named stations repeated).regions = regions
    match regions with
    | [] => rfl
    | [_] => rfl
    | _ :: _ :: _ => rfl
  | regional n region stations =>
    obtain ⟨hq, -, hn, rfl⟩ := (resolveHeader_eq_regional_iff _ _ _ _ _ _).mp h
    have hpos : 0 < n := (Quota.count_bounds_of_read? hq).1
    have hregions : (Selection.regional n region ((stationsIn region accessible).take n)).regions =
        [region] := by
      apply Region.sortedSet_eq_singleton
      · intro he
        have hlen := congrArg List.length he
        rw [List.length_map, Selection.stations, List.length_take, Nat.min_eq_left hn,
          List.length_nil] at hlen
        omega
      · intro r hr
        obtain ⟨t, ht, rfl⟩ := List.mem_map.mp hr
        exact (mem_stationsIn.mp (List.mem_of_mem_take ht)).2
    rw [hregions]
    rfl

/-- Two choices of equally many stations in the same regions say the same to every line. -/
theorem ofSelection_congr {catalog accessible accessible' : List Station}
    {header header' : List Char} {s s' : Selection}
    (h : resolveHeader catalog accessible header = .ok s)
    (h' : resolveHeader catalog accessible' header' = .ok s')
    (hcount : s'.stations.length = s.stations.length)
    (hregions : ∀ r, (∃ t ∈ s'.stations, t.region.code = r) ↔ ∃ t ∈ s.stations, t.region.code = r)
    (priceRate : Decimal) :
    LineContext.ofSelection s' priceRate = LineContext.ofSelection s priceRate := by
  have hset : s'.regions = s.regions := by
    apply Region.sortedSet_congr
    simpa only [List.mem_map] using hregions
  rw [LineContext.ofSelection, LineContext.ofSelection, pricingRegion?_of_resolveHeader h,
    pricingRegion?_of_resolveHeader h', hset, Selection.stationCount, Selection.stationCount, hcount]

def BetLine.SameBut (l l' : BetLine) : Prop := l' = { l with number := l'.number }

/-- Whether two results are the same slip but for the header and the numbers of the lines: the same
lines with the same sums, or both times sums that are too large. -/
inductive SubmissionResult.PricedAlike : SubmissionResult → SubmissionResult → Prop
  | accepted {s s' : Submission} (lines : List.Forall₂ BetLine.SameBut s.lines s'.lines)
      (totalStake : s'.totalStake = s.totalStake) (totalPrize : s'.totalPrize = s.totalPrize) :
      PricedAlike (.accepted s) (.accepted s')
  | totalOverflow : PricedAlike .totalOverflow .totalOverflow

theorem BetLine.SameBut.bet?_eq {l l' : BetLine} (h : l.SameBut l') : l'.bet? = l.bet? := by
  rw [SameBut] at h
  rw [h]
  rfl

theorem betsOf_congr {ls ls' : List BetLine} (h : List.Forall₂ BetLine.SameBut ls ls') :
    betsOf ls' = betsOf ls := by
  induction h with
  | nil => rfl
  | cons hl _ ih =>
    simp only [betsOf] at ih ⊢
    rw [List.filterMap_cons, List.filterMap_cons, hl.bet?_eq, ih]

theorem totals?_eq_of_betsOf {ls ls' : List BetLine} (h : betsOf ls' = betsOf ls) :
    totals? ls' = totals? ls := by
  rw [totals?, h, ← totals?]

theorem sameBut_readLine (t : Tariff) (ctx : LineContext) {l l' : Nat × List Char}
    (h : trim l'.2 = trim l.2) : (t.readLine ctx l).SameBut (t.readLine ctx l') := by
  have hread : t.readBet ctx l'.2 = t.readBet ctx l.2 := by rw [← readBet_trim, h, readBet_trim]
  simp only [BetLine.SameBut, Tariff.readLine, BetLine.ofReading, h, hread]

/-- Lines read in one context come to the same with other numbers and other blanks at their ends. -/
theorem forall₂_sameBut_readLine (t : Tariff) (ctx : LineContext) {ls ls' : List (Nat × List Char)}
    (h : ls'.map (fun l => trim l.2) = ls.map fun l => trim l.2) :
    List.Forall₂ BetLine.SameBut (ls.map (t.readLine ctx)) (ls'.map (t.readLine ctx)) := by
  rw [List.forall₂_map_left_iff, List.forall₂_map_right_iff]
  rw [← List.forall₂_eq_eq_eq, List.forall₂_map_left_iff, List.forall₂_map_right_iff] at h
  exact h.flip.imp fun _ _ => sameBut_readLine t ctx

namespace House

/-- Layouts that say the same to the same lines are priced alike. -/
theorem complete_pricedAlike {h : House} {priceRate : Decimal} {text text' : String} {l l' : Layout}
    (hctx : LineContext.ofSelection l'.selection priceRate =
      LineContext.ofSelection l.selection priceRate)
    (hbody : l'.body.map (fun b => trim b.2) = l.body.map fun b => trim b.2) :
    (h.complete priceRate text l).PricedAlike (h.complete priceRate text' l') := by
  have hsame : List.Forall₂ BetLine.SameBut
      ((h.readBody (.ofSelection l.selection priceRate) l.body).map fun r => r.1)
      ((h.readBody (.ofSelection l'.selection priceRate) l'.body).map fun r => r.1) := by
    rw [map_fst_readBody, map_fst_readBody, hctx]
    exact forall₂_sameBut_readLine _ _ hbody
  have htotals := totals?_eq_of_betsOf (betsOf_congr hsame)
  simp only [complete, htotals]
  cases totals? ((h.readBody (.ofSelection l.selection priceRate) l.body).map fun r => r.1) with
  | none => exact .totalOverflow
  | some sums => exact .accepted hsame rfl rfl

/-- A text with lines below its header, given without the blanks at their ends, whose header is
granted. -/
structure Grants (h : House) (accessible : List Station) (text : String) (header : List Char)
    (body : List (List Char)) (s : Selection) : Prop where
  lines : (numberedLines text.toList).map (fun l => trim l.2) = header :: body
  body_ne_nil : body ≠ []
  selection : resolveHeader h.stations accessible header = .ok s

theorem Grants.submit_eq {h : House} {accessible : List Station} {text : String}
    {header : List Char} {body : List (List Char)} {s : Selection}
    (hg : h.Grants accessible text header body s) (priceRate : Decimal) :
    ∃ n lines, lines.map (fun l => trim l.2) = body ∧
      h.submit accessible priceRate text = h.complete priceRate text ⟨n, s, lines, []⟩ := by
  obtain ⟨first, lines, hlines, hheader, hbody⟩ := List.map_eq_cons_iff.mp hg.lines
  refine ⟨first.1, lines, hbody, ?_⟩
  have hsel : resolveHeader h.stations accessible first.2 = .ok s := by
    rw [← resolveHeader_trim, hheader, hg.selection]
  have hne : lines ≠ [] := by
    rintro rfl
    exact hg.body_ne_nil hbody.symm
  rw [submit_eq_of_body hlines hne, hsel]

end House

/-- Of names that are given in another order or repeated come the same stations, if numbers tell the
stations of the catalog apart. -/
theorem exists_resolveHeader_of_tokens {catalog accessible : List Station}
    {header header' : List Char} {s : Selection} (hids : (catalog.map fun t => t.id).Nodup)
    (hq : Quota.read? catalog header = none) (hq' : Quota.read? catalog header' = none)
    (htokens : ∀ t, t ∈ headerTokens header' ↔ t ∈ headerTokens header)
    (h : resolveHeader catalog accessible header = .ok s) :
    ∃ s', resolveHeader catalog accessible header' = .ok s' ∧
      (s'.stations.map fun t => t.id).Nodup ∧ (s.stations.map fun t => t.id).Nodup ∧
      ∀ t, t ∈ s'.stations ↔ t ∈ s.stations := by
  cases s with
  | regional n region stations =>
    rw [resolveHeader_eq_regional_iff, hq] at h
    cases h.1
  | named kept repeated =>
    have hkept := (sound_of_resolveHeader_named h).ids_nodup
    obtain ⟨-, hne, stations, hs, hc⟩ := (resolveHeader_eq_named_iff _ _ _ _ _).mp h
    obtain ⟨stations', hs'⟩ := (exists_resolveTokens_iff _ _ _).mpr fun t ht =>
      (exists_resolveTokens_iff _ _ _).mp ⟨stations, hs⟩ t ((htokens t).mp ht)
    have hne' : headerTokens header' ≠ [] := by
      obtain ⟨t, ht⟩ := List.exists_mem_of_ne_nil _ hne
      exact List.ne_nil_of_mem ((htokens t).mpr ht)
    have h' := (resolveHeader_eq_named_iff catalog accessible header' _ _).mpr
      ⟨hq', hne', stations', hs', rfl⟩
    have hinj {ss : List Station} {tokens : List (List Char)}
        (hss : resolveTokens (keyed catalog) (accessible.map fun a => a.id) tokens = .ok ss) :
        ∀ s ∈ ss, ∀ t ∈ ss, s.id = t.id → s = t := fun s hs t ht =>
      List.inj_on_of_nodup_map hids (mem_of_resolveTokens hss s hs).1 (mem_of_resolveTokens hss t ht).1
    refine ⟨_, h', (sound_of_resolveHeader_named h').ids_nodup, hkept, fun t => ?_⟩
    have hkeep : kept = (collapse [] stations).1 := by rw [hc]
    show t ∈ (collapse [] stations').1 ↔ t ∈ kept
    rw [hkeep, mem_collapse_iff (hinj hs'), mem_collapse_iff (hinj hs),
      mem_resolveTokens_iff hs', mem_resolveTokens_iff hs]
    simp only [htokens]

/-- The same stations are equally many and lie in the same regions. -/
theorem length_eq_of_stations {s s' : Selection} (h : (s.stations.map fun t => t.id).Nodup)
    (h' : (s'.stations.map fun t => t.id).Nodup) (hsame : ∀ t, t ∈ s'.stations ↔ t ∈ s.stations) :
    s'.stations.length = s.stations.length :=
  ((List.perm_ext_iff_of_nodup h'.of_map h.of_map).mpr hsame).length_eq

namespace House

theorem Grants.pricedAlike {h : House} {accessible accessible' : List Station}
    {text text' : String} {header header' : List Char} {body : List (List Char)} {s s' : Selection}
    (hg : h.Grants accessible text header body s) (hg' : h.Grants accessible' text' header' body s')
    (hcount : s'.stations.length = s.stations.length)
    (hregions : ∀ r, (∃ t ∈ s'.stations, t.region.code = r) ↔ ∃ t ∈ s.stations, t.region.code = r)
    (priceRate : Decimal) :
    (h.submit accessible priceRate text).PricedAlike (h.submit accessible' priceRate text') := by
  obtain ⟨n, lines, hlines, hsubmit⟩ := hg.submit_eq priceRate
  obtain ⟨n', lines', hlines', hsubmit'⟩ := hg'.submit_eq priceRate
  rw [hsubmit, hsubmit']
  exact complete_pricedAlike (ofSelection_congr hg.selection hg'.selection hcount hregions priceRate)
    (hlines'.trans hlines.symm)

theorem Grants.pricedAlike_of_stations {h : House} {accessible accessible' : List Station}
    {text text' : String} {header header' : List Char} {body : List (List Char)} {s s' : Selection}
    (hg : h.Grants accessible text header body s) (hg' : h.Grants accessible' text' header' body s')
    (hids : (s.stations.map fun t => t.id).Nodup) (hids' : (s'.stations.map fun t => t.id).Nodup)
    (hsame : ∀ t, t ∈ s'.stations ↔ t ∈ s.stations) (priceRate : Decimal) :
    (h.submit accessible priceRate text).PricedAlike (h.submit accessible' priceRate text') :=
  hg.pricedAlike hg' (length_eq_of_stations hids hids' hsame) (fun r => by simp only [hsame])
    priceRate

end House

namespace Sample

def tp : Station := ⟨1, "tp", southern, []⟩

def dt : Station := ⟨2, "dt", southern, []⟩

def twin : Station := ⟨1, "hn", northern, []⟩

def divided : List Station := [
  ⟨1, "b", ⟨3, "a.b", .south⟩, []⟩,
  ⟨2, "1 stations in a", ⟨3, "a.b", .south⟩, []⟩]

def paidByRegion (stations : List Station) : Catalogs :=
  ⟨stations, [⟨2, "Bao lô", ["b"], [], false,
    some (.table (.ofList [("north", .ofWord 80), ("south", .ofWord 70)])), none⟩], []⟩

end Sample

namespace House

/-- Two slips with the same lines are priced alike, if their headers are granted equally many
stations in the same regions. This is so in particular if they are granted the same stations, each
once; and in a catalog that tells its stations apart by their numbers, names may be given in any
order and repeated, as long as the header is still none that asks for a quota. -/
theorem submit_pricedAlike (h : House) (priceRate : Decimal) :
    (∀ accessible accessible' text text' header header' body s s',
      h.Grants accessible text header body s → h.Grants accessible' text' header' body s' →
      s'.stations.length = s.stations.length →
      (∀ r, (∃ t ∈ s'.stations, t.region.code = r) ↔ ∃ t ∈ s.stations, t.region.code = r) →
      (h.submit accessible priceRate text).PricedAlike (h.submit accessible' priceRate text')) ∧
    (∀ accessible accessible' text text' header header' body s s',
      (accessible.map fun t => t.id).Nodup → (accessible'.map fun t => t.id).Nodup →
      h.Grants accessible text header body s → h.Grants accessible' text' header' body s' →
      (∀ t, t ∈ s'.stations ↔ t ∈ s.stations) →
      (h.submit accessible priceRate text).PricedAlike (h.submit accessible' priceRate text')) ∧
    ((h.stations.map fun t => t.id).Nodup → ∀ accessible text text' header header' body s,
      h.Grants accessible text header body s →
      (numberedLines text'.toList).map (fun l => trim l.2) = header' :: body →
      Quota.read? h.stations header = none → Quota.read? h.stations header' = none →
      (∀ t, t ∈ headerTokens header' ↔ t ∈ headerTokens header) →
      ∃ s', h.Grants accessible text' header' body s' ∧
        (h.submit accessible priceRate text).PricedAlike (h.submit accessible priceRate text')) := by
  refine ⟨?_, ?_, ?_⟩
  · intro accessible accessible' text text' header header' body s s' hg hg' hcount hregions
    exact hg.pricedAlike hg' hcount hregions priceRate
  · intro accessible accessible' text text' header header' body s s' hids hids' hg hg' hsame
    exact hg.pricedAlike_of_stations hg' (sound_of_resolveHeader hids hg.selection).ids_nodup
      (sound_of_resolveHeader hids' hg'.selection).ids_nodup hsame priceRate
  · intro hids accessible text text' header header' body s hg hlines' hq hq' htokens
    obtain ⟨s', hs', hnodup', hnodup, hsame⟩ :=
      exists_resolveHeader_of_tokens hids hq hq' htokens hg.selection
    have hg' : h.Grants accessible text' header' body s' := ⟨hlines', hg.body_ne_nil, hs'⟩
    exact ⟨s', hg', hg.pricedAlike_of_stations hg' hnodup hnodup' hsame priceRate⟩

/-- A quota of two stations, the two that it picks by their names, and these in another order with
one of them repeated. -/
theorem submit_pricedAlike_two_southern :
    let h := (Sample.paidByRegion [Sample.tp, Sample.dt]).house .standard
    ∃ s s', h.Grants h.stations "2dmn\n12b1" "2dmn".toList ["12b1".toList] s ∧
      h.Grants h.stations "tp.dt\n 12b1" "tp.dt".toList ["12b1".toList] s' ∧
      (∀ t, t ∈ s'.stations ↔ t ∈ s.stations) ∧
      (h.submit h.stations .one "2dmn\n12b1").PricedAlike
        (h.submit h.stations .one "tp.dt\n 12b1") ∧
      ∃ s'', h.Grants h.stations "dt,tp, dt\n12b1" "dt,tp, dt".toList ["12b1".toList] s'' ∧
        (h.submit h.stations .one "tp.dt\n 12b1").PricedAlike
          (h.submit h.stations .one "dt,tp, dt\n12b1") := by
  intro h
  obtain ⟨-, hsame, htokens⟩ := submit_pricedAlike h .one
  have hids : (h.stations.map fun t => t.id).Nodup := by decide
  have hquota : h.Grants h.stations "2dmn\n12b1" "2dmn".toList ["12b1".toList]
      (.regional 2 .south [Sample.tp, Sample.dt]) :=
    ⟨by decide +kernel, by decide, by decide +kernel⟩
  have hnamed : h.Grants h.stations "tp.dt\n 12b1" "tp.dt".toList ["12b1".toList]
      (.named [Sample.tp, Sample.dt] []) := ⟨by decide +kernel, by decide, by decide +kernel⟩
  have hset : ∀ t, t ∈ headerTokens "dt,tp, dt".toList ↔ t ∈ headerTokens "tp.dt".toList := by
    have hdt : headerTokens "dt,tp, dt".toList = [['d', 't'], ['t', 'p'], ['d', 't']] := by
      decide +kernel
    have htp : headerTokens "tp.dt".toList = [['t', 'p'], ['d', 't']] := by decide +kernel
    intro t
    rw [hdt, htp]
    simp only [List.mem_cons, List.not_mem_nil, or_false]
    tauto
  exact ⟨_, _, hquota, hnamed, fun _ => Iff.rfl,
    hsame _ _ _ _ _ _ _ _ _ hids hids hquota hnamed fun _ => Iff.rfl,
    htokens hids _ _ _ _ _ _ _ hnamed (by decide +kernel) (by decide +kernel) (by decide +kernel)
      hset⟩

end House

theorem SubmissionResult.PricedAlike.totals_eq {r r' : SubmissionResult} (h : r.PricedAlike r') :
    (r'.accepted?.map fun s => (s.totalStake, s.totalPrize)) =
      r.accepted?.map fun s => (s.totalStake, s.totalPrize) := by
  cases h with
  | accepted _ hstake hprize => simp only [accepted?, Option.map_some, hstake, hprize]
  | totalOverflow => rfl

namespace House

/-- The sums of a slip are those of its lines at the stations that it is granted. -/
theorem Grants.totals_submit {h : House} {accessible : List Station} {text : String}
    {header : List Char} {body : List (List Char)} {s : Selection}
    (hg : h.Grants accessible text header body s) (priceRate : Decimal) :
    ((h.submit accessible priceRate text).accepted?.map fun r => (r.totalStake, r.totalPrize)) =
      totals? ((body.map fun b => (0, b)).map (h.tariff.readLine (.ofSelection s priceRate))) := by
  obtain ⟨n, lines, hlines, hsubmit⟩ := hg.submit_eq priceRate
  have hbody : lines.map (fun l => trim l.2) =
      (body.map fun b => ((0 : Nat), b)).map fun l => trim l.2 := by
    rw [← hlines, List.map_map, List.map_map]
    exact List.map_congr_left fun l _ => (trim_trim l.2).symm
  have htotals := totals?_eq_of_betsOf (betsOf_congr
    (forall₂_sameBut_readLine h.tariff (.ofSelection s priceRate) hbody))
  rw [← htotals, hsubmit]
  simp only [complete, map_fst_readBody]
  cases totals? (lines.map (h.tariff.readLine (.ofSelection s priceRate))) with
  | none => rfl
  | some sums => rfl

theorem Grants.not_pricedAlike {h : House} {accessible accessible' : List Station}
    {text text' : String} {header header' : List Char} {body body' : List (List Char)}
    {s s' : Selection} (hg : h.Grants accessible text header body s)
    (hg' : h.Grants accessible' text' header' body' s') (priceRate : Decimal)
    (hne : totals? ((body'.map fun b => (0, b)).map (h.tariff.readLine (.ofSelection s' priceRate))) ≠
      totals? ((body.map fun b => (0, b)).map (h.tariff.readLine (.ofSelection s priceRate)))) :
    ¬ (h.submit accessible priceRate text).PricedAlike (h.submit accessible' priceRate text') := by
  intro he
  rw [← hg.totals_submit, ← hg'.totals_submit] at hne
  exact hne he.totals_eq

/-- Two stations under one number count by the order of their names. A station that a bettor is given
twice counts twice in a quota and once by its name. And where numbers tell the stations apart, names
in another order can still ask for a quota. -/
theorem not_pricedAlike_of_same_names :
    (let h := (Sample.paidByRegion [Sample.tp, Sample.twin]).house .standard
      ∃ s s', h.Grants h.stations "tp,hn\n12b1" "tp,hn".toList ["12b1".toList] s ∧
        h.Grants h.stations "hn,tp\n12b1" "hn,tp".toList ["12b1".toList] s' ∧
        (headerTokens "hn,tp".toList).Perm (headerTokens "tp,hn".toList) ∧
        ¬ (h.submit h.stations .one "tp,hn\n12b1").PricedAlike
          (h.submit h.stations .one "hn,tp\n12b1")) ∧
    (let h := (Sample.paidByRegion [Sample.tp]).house .standard
      let twice := [Sample.tp, Sample.tp]
      ∃ s s', h.Grants twice "2dmn\n12b1" "2dmn".toList ["12b1".toList] s ∧
        h.Grants twice "tp,tp\n12b1" "tp,tp".toList ["12b1".toList] s' ∧
        (∀ t, t ∈ s'.stations ↔ t ∈ s.stations) ∧
        ¬ (h.submit twice .one "2dmn\n12b1").PricedAlike (h.submit twice .one "tp,tp\n12b1")) ∧
    let h := (Sample.paidByRegion Sample.divided).house .standard
    (h.stations.map fun t => t.id).Nodup ∧
      ∃ stations s', h.Grants h.stations "b.1 stations in a\n12b1" "b.1 stations in a".toList
          ["12b1".toList] (.named stations []) ∧
        h.Grants h.stations "1 stations in a.b\n12b1" "1 stations in a.b".toList
          ["12b1".toList] s' ∧
        (headerTokens "1 stations in a.b".toList).Perm (headerTokens "b.1 stations in a".toList) ∧
        ¬ (h.submit h.stations .one "b.1 stations in a\n12b1").PricedAlike
          (h.submit h.stations .one "1 stations in a.b\n12b1") := by
  refine ⟨?_, ?_, ?_⟩
  · intro h
    have hsouth : h.Grants h.stations "tp,hn\n12b1" "tp,hn".toList ["12b1".toList]
        (.named [Sample.tp] ["hn"]) := ⟨by decide +kernel, by decide, by decide +kernel⟩
    have hnorth : h.Grants h.stations "hn,tp\n12b1" "hn,tp".toList ["12b1".toList]
        (.named [Sample.twin] ["tp"]) := ⟨by decide +kernel, by decide, by decide +kernel⟩
    exact ⟨_, _, hsouth, hnorth, by decide +kernel,
      hsouth.not_pricedAlike hnorth .one (by decide +kernel)⟩
  · intro h twice
    have hquota : h.Grants twice "2dmn\n12b1" "2dmn".toList ["12b1".toList]
        (.regional 2 .south twice) := ⟨by decide +kernel, by decide, by decide +kernel⟩
    have hnamed : h.Grants twice "tp,tp\n12b1" "tp,tp".toList ["12b1".toList]
        (.named [Sample.tp] ["tp"]) := ⟨by decide +kernel, by decide, by decide +kernel⟩
    have hsame : ∀ t, t ∈ [Sample.tp] ↔ t ∈ twice := by simp [twice]
    exact ⟨_, _, hquota, hnamed, hsame, hquota.not_pricedAlike hnamed .one (by decide +kernel)⟩
  · intro h
    have hnamed : h.Grants h.stations "b.1 stations in a\n12b1" "b.1 stations in a".toList
        ["12b1".toList] (.named Sample.divided []) :=
      ⟨by decide +kernel, by decide, by decide +kernel⟩
    have hquota : h.Grants h.stations "1 stations in a.b\n12b1" "1 stations in a.b".toList
        ["12b1".toList] (.regional 1 .south (Sample.divided.take 1)) :=
      ⟨by decide +kernel, by decide, by decide +kernel⟩
    exact ⟨by decide, _, _, hnamed, hquota, by decide +kernel,
      hnamed.not_pricedAlike hquota .one (by decide +kernel)⟩

end House
end LotterySlip
