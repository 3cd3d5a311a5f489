import LotterySlip.Number.Expansion
import LotterySlip.Proofs.Number.Ticket

/-! The limit on sequences and tickets. Neither a sequence nor the tickets of a permutation bet go
beyond it, and what stays within it is the same under a higher one. -/
namespace LotterySlip.Number
open Text

theorem length_le_of_tickets? {numbers tickets : List String} {limit : Nat}
    (h : tickets? numbers true limit = some tickets) : tickets.length ≤ limit := by
  rw [tickets?_true] at h
  split at h
  · next hle =>
    cases h
    exact hle
  · cases h

/-- A higher limit leaves the tickets as they are. -/
theorem tickets?_mono {numbers tickets : List String} {isPermutation : Bool} {limit limit' : Nat}
    (hle : limit ≤ limit') (h : tickets? numbers isPermutation limit = some tickets) :
    tickets? numbers isPermutation limit' = some tickets := by
  cases isPermutation with
  | false => exact h
  | true =>
    have hlen := length_le_of_tickets? h
    rw [tickets?_true] at h ⊢
    split at h
    · cases h
      rw [if_pos (hlen.trans hle)]
    · cases h

theorem length_le_of_value_eq {s : SequenceForm} {limit : Nat} {numbers : List String}
    (h : s.value limit = .numbers numbers) : numbers.length ≤ limit := by
  simp only [SequenceForm.value] at h
  split at h
  · split at h
    · cases h
    · split at h
      · cases h
      · next hcount =>
        cases h
        rw [steps, List.length_map, List.length_range]
        exact Nat.not_lt.mp hcount
  · cases h

theorem value_eq_or_tooLong (s : SequenceForm) {limit limit' : Nat} (hle : limit ≤ limit') :
    s.value limit' = s.value limit ∨ s.value limit = .tooLong := by
  simp only [SequenceForm.value]
  split
  · next first second bound _ _ _ =>
    split
    · exact Or.inl rfl
    · by_cases hlong : limit < ((bound - first) / (second - first) + 1).toNat
      · exact Or.inr (if_pos hlong)
      · rw [if_neg hlong, if_neg fun h => hlong (Nat.lt_of_le_of_lt hle h)]
        exact Or.inl rfl
  · exact Or.inl rfl

/-- A higher limit makes a difference only to a sequence that is too long. -/
theorem expand_eq_or_tooLong (combinations : List Combination) (text : List Char)
    {limit limit' : Nat} (hle : limit ≤ limit') :
    expand combinations limit' text = expand combinations limit text ∨
      expand combinations limit text = .tooLong limit := by
  simp only [expand]
  split
  · exact Or.inl rfl
  · split
    · exact Or.inl rfl
    · rw [expandForm, expandForm]
      split
      · exact Or.inl rfl
      · next s _ =>
        rcases value_eq_or_tooLong s hle with h | h
        · rw [h]
          cases s.value limit with
          | numbers ns => exact Or.inl rfl
          | tooLong => exact Or.inr rfl
          | nothing => exact Or.inl rfl
        · rw [h]
          exact Or.inr rfl

/-- Only a sequence comes to a sequence, or is too long. -/
theorem exists_form_of_expand {combinations : List Combination} {limit : Nat} {text : List Char}
    {e : Expansion} (h : expand combinations limit text = e)
    (he : (∃ ns, e = .sequence ns) ∨ ∃ k, e = .tooLong k) :
    ∃ s, SequenceForm.read? (foldKey (trim text)) = some s ∧
      ((∃ ns, s.value limit = .numbers ns ∧ e = .sequence ns) ∨
        s.value limit = .tooLong ∧ e = .tooLong limit) := by
  have hlist (cs : List Char) : expandList cs ≠ e := by
    rw [expandList]
    rcases he with ⟨ns, rfl⟩ | ⟨k, rfl⟩ <;> split <;> nofun
  have hcombination (c : Combination) : expandCombination c ≠ e := by
    rw [expandCombination]
    rcases he with ⟨ns, rfl⟩ | ⟨k, rfl⟩ <;> split <;> nofun
  simp only [expand] at h
  split at h
  · rcases he with ⟨ns, rfl⟩ | ⟨k, rfl⟩ <;> cases h
  · split at h
    · next c _ => exact absurd h (hcombination c)
    · rw [expandForm] at h
      split at h
      · exact absurd h (hlist _)
      · next s hs =>
        refine ⟨s, hs, ?_⟩
        split at h
        · next ns hns =>
          split at h
          · exact absurd h (hlist _)
          · exact Or.inl ⟨ns, hns, h.symm⟩
        · next hlong => exact Or.inr ⟨hlong, h.symm⟩
        · exact absurd h (hlist _)

theorem length_le_of_expand {combinations : List Combination} {limit : Nat} {text : List Char}
    {numbers : List String} (h : expand combinations limit text = .sequence numbers) :
    numbers.length ≤ limit := by
  obtain ⟨s, -, ⟨ns, hns, he⟩ | ⟨-, he⟩⟩ := exists_form_of_expand h (Or.inl ⟨numbers, rfl⟩)
  · rw [Expansion.sequence.inj he]
    exact length_le_of_value_eq hns
  · cases he

theorem eq_of_expand_eq_tooLong {combinations : List Combination} {limit k : Nat} {text : List Char}
    (h : expand combinations limit text = .tooLong k) : k = limit := by
  obtain ⟨s, -, ⟨ns, -, he⟩ | ⟨-, he⟩⟩ := exists_form_of_expand h (Or.inr ⟨k, rfl⟩)
  · cases he
  · exact Expansion.tooLong.inj he

end LotterySlip.Number
