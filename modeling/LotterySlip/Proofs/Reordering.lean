import LotterySlip.Proofs.Sums
import LotterySlip.Proofs.Totals

/-! Bets in another order. Decimals are rounded when they are added, so that the order of the bets may
show in the sums of a slip. It does not where sums of numbers that are not negative fit. -/
namespace LotterySlip
open Text Decimal

def bodyTexts (text : List Char) : List (List Char) :=
  (numberedLines text).tail.map fun l => trim l.2

structure Reorders (text text' : List Char) : Prop where
  header : headerOf? text' = headerOf? text
  body : (bodyTexts text').Perm (bodyTexts text)

theorem resolveSingle_trim (catalog accessible : List Station) (line : List Char) :
    resolveSingle catalog accessible (trim line) = resolveSingle catalog accessible line := by
  rw [resolveSingle, resolveHeader_trim, resolveImplicit, trim_trim, ← resolveImplicit,
    ← resolveSingle]

structure Layout.Reorders (l l' : Layout) : Prop where
  selection : l'.selection = l.selection
  body : (l'.body.map fun b => trim b.2).Perm (l.body.map fun b => trim b.2)

namespace House

variable {h : House} {accessible : List Station} {priceRate : Decimal}

/-- The layout of a slip on one line, by the text of the line. -/
theorem reorders_layoutSingle (n n' : Nat) (found : Selection × List Char) :
    (layoutSingle n found).Reorders (layoutSingle n' found) := by
  rw [layoutSingle, layoutSingle]
  split
  · exact ⟨rfl, .refl _⟩
  · exact ⟨rfl, .refl _⟩

theorem layOut_of_ne_nil (h : House) (accessible : List Station) (first : Nat × List Char)
    {body : List (Nat × List Char)} (hbody : body ≠ []) :
    h.layOut accessible (first :: body) =
      (resolveHeader h.stations accessible first.2).map fun s => ⟨first.1, s, body, []⟩ := by
  obtain ⟨l, ls, rfl⟩ := List.exists_cons_of_ne_nil hbody
  rfl

/-- A slip on one line has no lines to reorder, and of several lines the first stays the header. -/
theorem exists_layOut_of_reorders {text text' : List Char} (hr : Reorders text text') {l : Layout}
    (hl : h.layOut accessible (numberedLines text) = .ok l) :
    ∃ l', h.layOut accessible (numberedLines text') = .ok l' ∧ l.Reorders l' := by
  obtain ⟨hheader, hbody⟩ := hr
  simp only [headerOf?, bodyTexts] at hheader hbody
  cases htext : numberedLines text with
  | nil =>
    rw [htext] at hl
    cases hl
  | cons first body =>
    cases htext' : numberedLines text' with
    | nil =>
      rw [htext, htext'] at hheader
      cases hheader
    | cons first' body' =>
      rw [htext, htext', List.head?_cons, List.head?_cons, Option.map_some, Option.map_some,
        Option.some.injEq] at hheader
      rw [htext, htext', List.tail_cons, List.tail_cons] at hbody
      rw [htext] at hl
      by_cases hnil : body = []
      · subst hnil
        obtain rfl : body' = [] := by simpa using hbody.length_eq
        obtain ⟨found, hfound, rfl⟩ := map_eq_ok_iff.mp hl
        refine ⟨layoutSingle first'.1 found, ?_, reorders_layoutSingle _ _ found⟩
        refine map_eq_ok_iff.mpr ⟨found, ?_, rfl⟩
        rw [← resolveSingle_trim, hheader, resolveSingle_trim, hfound]
      · have hnil' : body' ≠ [] := by
          rintro rfl
          exact hnil (by simpa using hbody.length_eq.symm)
        rw [layOut_of_ne_nil h accessible first hnil] at hl
        obtain ⟨s, hs, rfl⟩ := map_eq_ok_iff.mp hl
        refine ⟨⟨first'.1, s, body', []⟩, ?_, rfl, hbody⟩
        rw [layOut_of_ne_nil h accessible first' hnil']
        refine map_eq_ok_iff.mpr ⟨s, ?_, rfl⟩
        rw [← resolveHeader_trim, hheader, resolveHeader_trim, hs]

/-- The bets of a layout are read line by line. -/
theorem bets_eq (h : House) (priceRate : Decimal) (l : Layout) :
    h.bets priceRate l = (l.body.map fun b => trim b.2).filterMap fun line =>
      (h.tariff.readBet (.ofSelection l.selection priceRate) line).toOption := by
  rw [bets, map_fst_readBody, betsOf, List.filterMap_map, List.filterMap_map]
  refine List.filterMap_congr fun b _ => ?_
  rw [Function.comp_apply, Function.comp_apply, BetLine.bet?, Tariff.readLine, readBet_trim]
  cases h.tariff.readBet (.ofSelection l.selection priceRate) b.2 <;> rfl

theorem bets_perm (h : House) (priceRate : Decimal) {l l' : Layout} (hr : l.Reorders l') :
    (h.bets priceRate l').Perm (h.bets priceRate l) := by
  rw [bets_eq, bets_eq, hr.selection]
  exact hr.body.filterMap _

/-- The bets of an accepted slip are those of its layout. -/
theorem betsOf_of_submit {text : String} {l : Layout} {s : Submission}
    (hl : h.layOut accessible (numberedLines text.toList) = .ok l)
    (hs : h.submit accessible priceRate text = .accepted s) :
    betsOf s.lines = h.bets priceRate l := by
  obtain ⟨l', hl', hc⟩ := (h.submit_eq_accepted_iff accessible priceRate text s).mp hs
  obtain rfl := Except.ok.inj (hl.symm.trans hl')
  obtain ⟨-, -, -, hlines, -⟩ := (h.complete_eq_accepted_iff priceRate text l s).mp hc
  rw [hlines, bets, map_fst_readBody]

/-- A slip whose bets have sums is accepted. -/
theorem exists_submit_of_bets {text : String} {l : Layout} {stake prize : Decimal}
    (hl : h.layOut accessible (numberedLines text.toList) = .ok l)
    (hstake : sumFrom? .zero ((h.bets priceRate l).map fun b => b.price.stake) = some stake)
    (hprize : sumFrom? .zero ((h.bets priceRate l).map fun b => b.price.prize) = some prize) :
    ∃ s, h.submit accessible priceRate text = .accepted s := by
  rw [bets] at hstake hprize
  rw [submit, hl]
  simp only [complete, totals?, hstake, hprize, Option.bind_eq_bind, Option.bind_some]
  exact ⟨_, rfl⟩

end House

/-- What comes of the sums of a slip in another order: they are the same numbers wherever they fit, and
if both fit the slip is accepted. -/
structure SameSums (s : Submission) (result : SubmissionResult) : Prop where
  accepted : SumFits s.stakes → SumFits s.prizes → ∃ s', result = .accepted s'
  stake : SumFits s.stakes → ∀ s', result = .accepted s' → s'.totalStake.value = s.totalStake.value
  prize : SumFits s.prizes → ∀ s', result = .accepted s' → s'.totalPrize.value = s.totalPrize.value

namespace House

/-- Sums of numbers that are not negative are exact where they fit, and then it makes no difference in
which order the bets stand. -/
theorem submit_totals_exact (h : House) (accessible : List Station) (priceRate : Decimal)
    (text : String) (s : Submission) (hs : h.submit accessible priceRate text = .accepted s)
    (hsigns : ∀ l ∈ s.lines, l.isValid = true → 0 ≤ l.stake.value ∧ 0 ≤ l.prize.value) :
    (SumFits s.stakes → s.totalStake.value = exactSum s.stakes) ∧
      (SumFits s.prizes → s.totalPrize.value = exactSum s.prizes) ∧
      ∀ text' : String, Reorders text.toList text'.toList →
        SameSums s (h.submit accessible priceRate text') := by
  obtain ⟨hstake, hprize⟩ := Submission.sumFrom?_of_submit hs
  have hstakes : ∀ d ∈ s.stakes, 0 ≤ d.value := by
    intro d hd
    obtain ⟨line, hline, rfl⟩ := List.mem_map.mp hd
    obtain ⟨hmem, hvalid⟩ := List.mem_filter.mp hline
    exact (hsigns line hmem hvalid).1
  have hprizes : ∀ d ∈ s.prizes, 0 ≤ d.value := by
    intro d hd
    obtain ⟨line, hline, rfl⟩ := List.mem_map.mp hd
    obtain ⟨hmem, hvalid⟩ := List.mem_filter.mp hline
    exact (hsigns line hmem hvalid).2
  have hstakeEq (hf : SumFits s.stakes) : s.totalStake.value = exactSum s.stakes :=
    (hf.sumFrom?_perm hstakes (.refl _)).2 _ hstake
  have hprizeEq (hf : SumFits s.prizes) : s.totalPrize.value = exactSum s.prizes :=
    (hf.sumFrom?_perm hprizes (.refl _)).2 _ hprize
  refine ⟨hstakeEq, hprizeEq, fun text' hr => ?_⟩
  obtain ⟨l, hl, -⟩ := (h.submit_eq_accepted_iff accessible priceRate text s).mp hs
  obtain ⟨l', hl', hll'⟩ := exists_layOut_of_reorders hr hl
  have hperm : (h.bets priceRate l').Perm (betsOf s.lines) := by
    rw [betsOf_of_submit hl hs]
    exact h.bets_perm priceRate hll'
  have hpermStakes : ((h.bets priceRate l').map fun b => b.price.stake).Perm s.stakes :=
    s.stakes_eq ▸ hperm.map _
  have hpermPrizes : ((h.bets priceRate l').map fun b => b.price.prize).Perm s.prizes :=
    s.prizes_eq ▸ hperm.map _
  refine ⟨fun hfs hfp => ?_, fun hf s' hs' => ?_, fun hf s' hs' => ?_⟩
  · obtain ⟨stake, hsum⟩ := (hfs.sumFrom?_perm hstakes hpermStakes).1
    obtain ⟨prize, hsum'⟩ := (hfp.sumFrom?_perm hprizes hpermPrizes).1
    exact exists_submit_of_bets hl' hsum hsum'
  · rw [← betsOf_of_submit hl' hs', ← s'.stakes_eq] at hpermStakes
    rw [hstakeEq hf]
    exact (hf.sumFrom?_perm hstakes hpermStakes).2 _ (Submission.sumFrom?_of_submit hs').1
  · rw [← betsOf_of_submit hl' hs', ← s'.prizes_eq] at hpermPrizes
    rw [hprizeEq hf]
    exact (hf.sumFrom?_perm hprizes hpermPrizes).2 _ (Submission.sumFrom?_of_submit hs').2

/-- Two bets with stakes of different scales, in both orders. -/
theorem submit_totals_exact_two_scales : ∃ s,
    (Sample.plain.house .standard).submit Sample.plain.stations .one "tp\n12dd1\n34dd0.5" =
        .accepted s ∧
      (∀ l ∈ s.lines, l.isValid = true → 0 ≤ l.stake.value ∧ 0 ≤ l.prize.value) ∧
      SumFits s.stakes ∧ SumFits s.prizes ∧ Reorders "tp\n12dd1\n34dd0.5".toList
        "tp\n34dd0.5\n12dd1".toList ∧
      s.totalStake.value = exactSum s.stakes ∧ s.totalPrize.value = exactSum s.prizes ∧
      SameSums s ((Sample.plain.house .standard).submit Sample.plain.stations .one
        "tp\n34dd0.5\n12dd1") := by
  have hsums : ((Sample.plain.house .standard).submit Sample.plain.stations .one
      "tp\n12dd1\n34dd0.5").accepted?.map (fun s => (s.stakes, s.prizes)) =
        some ([⟨false, 1000, 0, by decide, by decide⟩, ⟨false, 5000, 1, by decide, by decide⟩],
          [⟨false, 70000, 0, by decide, by decide⟩, ⟨false, 350000, 1, by decide, by decide⟩]) := by
    decide +kernel
  obtain ⟨s, hs, hlists⟩ := Option.map_eq_some_iff.mp hsums
  obtain ⟨hstakes, hprizes⟩ := Prod.mk.injEq _ _ _ _ ▸ hlists
  have h := (SubmissionResult.accepted?_eq_some_iff _ s).mp hs
  have hsigns : ∀ l ∈ s.lines, l.isValid = true → 0 ≤ l.stake.value ∧ 0 ≤ l.prize.value := by
    intro l hl hvalid
    have hmem := List.mem_filter.mpr ⟨hl, hvalid⟩
    have hstake : l.stake ∈ s.stakes := List.mem_map_of_mem hmem
    have hprize : l.prize ∈ s.prizes := List.mem_map_of_mem hmem
    rw [hstakes, List.mem_pair] at hstake
    rw [hprizes, List.mem_pair] at hprize
    constructor
    · rcases hstake with e | e <;> norm_num [e, value, signed]
    · rcases hprize with e | e <;> norm_num [e, value, signed]
  have hfs : SumFits s.stakes := by
    norm_num [SumFits, hstakes, exactSum, mostPlaces, value, signed]
  have hfp : SumFits s.prizes := by
    norm_num [SumFits, hprizes, exactSum, mostPlaces, value, signed]
  have hr : Reorders "tp\n12dd1\n34dd0.5".toList "tp\n34dd0.5\n12dd1".toList :=
    ⟨by decide +kernel, by decide +kernel⟩
  obtain ⟨hstake, hprize, hall⟩ := submit_totals_exact _ _ _ _ s h hsigns
  exact ⟨s, h, hsigns, hfs, hfp, hr, hstake hfs, hprize hfp, hall _ hr⟩

end House

end LotterySlip
