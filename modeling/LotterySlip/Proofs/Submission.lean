import LotterySlip.Proofs.Line
import LotterySlip.Sample
import LotterySlip.Submission

/-! Slips that are accepted: what they were read from, and what holds of every line. -/
namespace LotterySlip

def SubmissionResult.accepted? : SubmissionResult → Option Submission
  | .accepted s => some s
  | _ => none

theorem SubmissionResult.accepted?_eq_some_iff (r : SubmissionResult) (s : Submission) :
    r.accepted? = some s ↔ r = .accepted s := by
  cases r <;> simp [accepted?]

namespace House

theorem submit_eq_accepted_iff (h : House) (accessible : List Station) (priceRate : Decimal)
    (text : String) (s : Submission) : h.submit accessible priceRate text = .accepted s ↔
      ∃ l, h.layOut accessible (numberedLines text.toList) = .ok l ∧
        h.complete priceRate text l = .accepted s := by
  rw [submit]
  cases h.layOut accessible (numberedLines text.toList) <;> simp

theorem map_fst_readBody (h : House) (ctx : LineContext) (body : List (Nat × List Char)) :
    (h.readBody ctx body).map (fun r => r.1) = body.map (h.tariff.readLine ctx) := by
  rw [readBody, List.map_map]
  rfl

/-- Every finding below the header comes from the reading of a line. -/
theorem mem_flatMap_readBody_iff (h : House) (ctx : LineContext) (body : List (Nat × List Char))
    (d : Diagnostic) : d ∈ (h.readBody ctx body).flatMap (fun r => r.2) ↔
      ∃ line ∈ body, ∃ f ∈ readingFindings (h.tariff.readBet ctx line.2), d = ⟨f, some line.1⟩ := by
  simp only [readBody, List.mem_flatMap, List.mem_map, exists_exists_and_eq_and, eq_comm (a := d)]

/-- The layout knows of the stations only. -/
theorem layOut_congr {h h' : House} (hstations : h'.stations = h.stations)
    (accessible : List Station) (lines : List (Nat × List Char)) :
    h'.layOut accessible lines = h.layOut accessible lines := by
  unfold layOut
  rw [hstations]

/-- What an accepted slip consists of. -/
theorem complete_eq_accepted_iff (h : House) (priceRate : Decimal) (text : String) (l : Layout)
    (s : Submission) : h.complete priceRate text l = .accepted s ↔
      totals? s.lines = some (s.totalStake, s.totalPrize) ∧ s.text = text ∧
        s.selection = l.selection ∧
        s.lines = l.body.map (h.tariff.readLine (.ofSelection l.selection priceRate)) ∧
        s.diagnostics = l.headerDiagnostics ++
          (h.readBody (.ofSelection l.selection priceRate) l.body).flatMap fun r => r.2 := by
  simp only [complete, map_fst_readBody]
  cases ht : totals? (l.body.map (h.tariff.readLine (.ofSelection l.selection priceRate))) with
  | none =>
    simp only [reduceCtorEq, false_iff]
    rintro ⟨hs, -, -, hl, -⟩
    rw [hl, ht] at hs
    cases hs
  | some sums =>
    simp only [SubmissionResult.accepted.injEq]
    constructor
    · rintro rfl
      exact ⟨ht, rfl, rfl, rfl, rfl⟩
    · rintro ⟨hs, rfl, hsel, hl, hd⟩
      rw [hl, ht] at hs
      obtain rfl := Option.some.inj hs
      cases s
      simp_all

/-- Every line of a slip is refused and empty, or a bet whose parts fit together. -/
theorem isRefused_xor_isBet_of_submit (h : House) (accessible : List Station)
    (priceRate : Decimal) (text : String) (s : Submission)
    (hs : h.submit accessible priceRate text = .accepted s) :
    ∀ l ∈ s.lines, Xor l.IsRefused (l.IsBet h.tariff.betTypes) := by
  obtain ⟨layout, -, hc⟩ := (h.submit_eq_accepted_iff accessible priceRate text s).mp hs
  obtain ⟨-, -, -, hl, -⟩ := (h.complete_eq_accepted_iff priceRate text layout s).mp hc
  intro l hm
  rw [hl] at hm
  obtain ⟨b, -, rfl⟩ := List.mem_map.mp hm
  exact h.tariff.isRefused_xor_isBet_readLine _ b

/-- A bet and a line that is none. -/
theorem submit_bet_and_refusal : ∃ s, (Sample.plain.house .standard).submit Sample.plain.stations .one
    "tp\n12.21dd5\nxx" = .accepted s ∧
      ∀ l ∈ s.lines, Xor l.IsRefused (l.IsBet Sample.plain.betTypes) := by
  have hsome : ((Sample.plain.house .standard).submit Sample.plain.stations .one
      "tp\n12.21dd5\nxx").accepted?.isSome = true := by decide +kernel
  obtain ⟨s, hs⟩ := Option.isSome_iff_exists.mp hsome
  have h := (SubmissionResult.accepted?_eq_some_iff _ s).mp hs
  exact ⟨s, h, isRefused_xor_isBet_of_submit _ _ _ _ s h⟩

end House
end LotterySlip
