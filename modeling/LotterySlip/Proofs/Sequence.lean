import LotterySlip.Proofs.Number.Expansion
import LotterySlip.Proofs.Reading
import LotterySlip.Sample

/-! Lines with a sequence that is too long. The bettor is told so, unless one of its numbers does not
fit in 64 bits: such a line is refused like one without numbers. -/
namespace LotterySlip
open Text Number

namespace Tariff

/-- Every line with the text before the alias of its bet type is refused for the same reason. -/
def Refuses (t : Tariff) (text : List Char) (r : Refusal) : Prop :=
  ∀ ctx line hit b, t.Names ctx line hit b → hit.numbersText = text → t.readBet ctx line = .error r

theorem ReadsNumbers.refuses {t : Tariff} {text : List Char} {r : Refusal}
    (h : t.ReadsNumbers text (.error r)) : t.Refuses text r := by
  rintro ctx line hit b hb rfl
  exact (Reads.noNumbers hb h).readBet_eq

theorem refuses_of_expand_eq_tooLong {t : Tariff} {text : List Char}
    (h : expand t.combinations t.limit text = .tooLong t.limit) : t.Refuses text
      ⟨.noValidNumbers, some (.sequenceTooLong (String.ofList (trim text)) t.limit)⟩ :=
  (ReadsNumbers.tooLong h).refuses

theorem refuses_of_expand_eq_empty {t : Tariff} {text : List Char}
    (h : expand t.combinations t.limit text = .empty) :
    t.Refuses text ⟨.noValidNumbers, none⟩ := by
  refine (ReadsNumbers.nothing ?_ ?_).refuses
  · rw [h]
    rfl
  · rw [h]
    rfl

/-- A sequence with more numbers than the limit is refused. The bettor is told of the limit just if the
numbers that the sequence is written with fit in 64 bits. -/
theorem refuses_sequence_over_limit {t : Tariff} {text : List Char} {s : SequenceForm}
    (hk : findCombination? t.combinations (foldKey text) = none)
    (hs : s.Spells (foldKey text)) (ha : s.Ascends) (hlimit : t.limit < s.count)
    (hc : s.count ≠ 2 ^ 64) :
    (s.Fits → expand t.combinations t.limit text = .tooLong t.limit ∧ t.Refuses text
      ⟨.noValidNumbers, some (.sequenceTooLong (String.ofList (trim text)) t.limit)⟩) ∧
    (¬ s.Fits → expand t.combinations t.limit text = .empty ∧
      t.Refuses text ⟨.noValidNumbers, none⟩) := by
  constructor
  · intro hf
    have hexpand : expand t.combinations t.limit text = .tooLong t.limit := by
      rw [expand_of_spells hk hs, SequenceForm.value_of_ascends hf ha hc, if_pos hlimit]
    exact ⟨hexpand, refuses_of_expand_eq_tooLong hexpand⟩
  · intro hf
    have hexpand : expand t.combinations t.limit text = .empty := by
      rw [expand_of_spells hk hs, SequenceForm.value_of_not_fits hf]
    exact ⟨hexpand, refuses_of_expand_eq_empty hexpand⟩

/-- The bet type that the sample has for a line with its alias before an amount of one. -/
theorem names_plain {line text : List Char}
    (h : (Sample.plain.tariff .standard).index.find? line =
      some ⟨⟨['d', 'd'], "dd", [0]⟩, text, ['1']⟩) :
    (Sample.plain.tariff .standard).Names (.plain 1 .one) line
      ⟨⟨['d', 'd'], "dd", [0]⟩, text, ['1']⟩ ⟨1, "dd", ["dd"], [], false, none, none⟩ := by
  have hcandidates : (Sample.plain.tariff .standard).betTypes.filter (BetType.declares ['d', 'd']) =
      Sample.plain.betTypes := by decide +kernel
  refine ⟨h, ?_⟩
  rw [hcandidates]
  rfl

/-- Five thousand and one numbers where a thousand are allowed. -/
theorem refuses_five_thousand_and_one :
    ∃ s : SequenceForm, s.Spells (foldKey "0/1keo5000".toList) ∧ s.Ascends ∧ s.Fits ∧
      s.count = 5001 ∧ (Sample.plain.tariff .standard).readBet (.plain 1 .one)
        "0/1keo5000dd1".toList = .error ⟨.noValidNumbers, some (.sequenceTooLong "0/1keo5000" 1000)⟩ := by
  let s : SequenceForm := ⟨['0'], ['1'], ['5', '0', '0', '0']⟩
  have hs : s.Spells (foldKey "0/1keo5000".toList) := (read?_eq_some_iff _ _).mp (by decide +kernel)
  have ha : s.Ascends := ⟨by decide +kernel, by decide +kernel⟩
  have hf : s.Fits := ⟨by decide +kernel, by decide +kernel, by decide +kernel⟩
  have hc : s.count = 5001 := by decide +kernel
  have hlimit : (Sample.plain.tariff .standard).limit = 1000 := by decide
  have htrim : String.ofList (trim "0/1keo5000".toList) = "0/1keo5000" := by decide +kernel
  have hfind : (Sample.plain.tariff .standard).index.find? "0/1keo5000dd1".toList =
      some ⟨⟨['d', 'd'], "dd", [0]⟩, "0/1keo5000".toList, ['1']⟩ := by decide +kernel
  have h := (refuses_sequence_over_limit (t := Sample.plain.tariff .standard) (by decide +kernel) hs
    ha (by rw [hlimit, hc]; decide) (by rw [hc]; decide)).1 hf
  rw [hlimit, htrim] at h
  exact ⟨s, hs, ha, hf, hc, h.2 _ _ _ _ (names_plain hfind) rfl⟩

/-- The bound is the first number that does not fit in 64 bits, and nothing is said of the limit. -/
theorem sequence_over_limit_unreported :
    ∃ s : SequenceForm, s.Spells (foldKey "0/1keo18446744073709551616".toList) ∧ s.Ascends ∧
      s.count = 2 ^ 64 + 1 ∧
      findCombination? Sample.plain.combinations (foldKey "0/1keo18446744073709551616".toList) = none ∧
      expand Sample.plain.combinations 1000 "0/1keo18446744073709551616".toList = .empty ∧
      (Sample.plain.tariff .standard).readBet (.plain 1 .one) "0/1keo18446744073709551616dd1".toList =
        .error ⟨.noValidNumbers, none⟩ := by
  let s : SequenceForm := ⟨['0'], ['1'], "18446744073709551616".toList⟩
  have hk : findCombination? Sample.plain.combinations
      (foldKey "0/1keo18446744073709551616".toList) = none := by decide +kernel
  have hs : s.Spells (foldKey "0/1keo18446744073709551616".toList) :=
    (read?_eq_some_iff _ _).mp (by decide +kernel)
  have ha : s.Ascends := ⟨by decide +kernel, by decide +kernel⟩
  have hf : ¬ s.Fits := fun hf => absurd hf.bound (by decide +kernel)
  have hexpand : expand Sample.plain.combinations 1000 "0/1keo18446744073709551616".toList =
      .empty := by
    rw [expand_of_spells hk hs, SequenceForm.value_of_not_fits hf]
  have hfind : (Sample.plain.tariff .standard).index.find?
      "0/1keo18446744073709551616dd1".toList =
        some ⟨⟨['d', 'd'], "dd", [0]⟩, "0/1keo18446744073709551616".toList, ['1']⟩ := by
    decide +kernel
  have hrefuses : (Sample.plain.tariff .standard).Refuses "0/1keo18446744073709551616".toList
      ⟨.noValidNumbers, none⟩ := refuses_of_expand_eq_empty hexpand
  exact ⟨s, hs, ha, by decide +kernel, hk, hexpand, hrefuses _ _ _ _ (names_plain hfind) rfl⟩

end Tariff
end LotterySlip
