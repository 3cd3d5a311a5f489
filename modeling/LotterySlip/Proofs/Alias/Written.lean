import LotterySlip.Proofs.Alias.Search

/-! Lines that are written as numbers, an alias and an amount. Where aliases can be told apart from
numbers and amounts, such a line is divided where it was put together. -/
namespace LotterySlip
open Text

variable {key text amount : List Char}

/-- An alias without digits keeps an amount off the text before it, unless it begins with a point. -/
theorem endsPlainly_append_of_not_isDigit (hne : key ≠ []) (hd : ∀ c ∈ key, c.isDigit = false)
    (hp : key.head? ≠ some '.') (front : List Char) : EndsPlainly (front ++ key) where
  digit := by
    intro c hc
    rw [List.getLast?_append_of_ne_nil _ hne] at hc
    exact hd c (List.mem_of_getLast? hc)
  point := by
    intro front' c h
    have hpair : [c, '.'] <:+ front ++ key := ⟨front', h.symm⟩
    rcases List.suffix_or_suffix_of_suffix hpair (List.suffix_append front key) with hs | hs
    · exact hd c (hs.subset List.mem_cons_self)
    · rcases List.suffix_cons_iff.mp hs with rfl | hs
      · exact hd c List.mem_cons_self
      · rcases List.suffix_cons_iff.mp hs with rfl | hs
        · exact absurd rfl hp
        · exact absurd (List.suffix_nil.mp hs) hne

/-- So does an alias that ends with neither a digit nor a point. -/
theorem endsPlainly_append_of_getLast? (hne : key ≠ []) (h : ∀ c ∈ key.getLast?, isFigure c = false)
    (front : List Char) : EndsPlainly (front ++ key) where
  digit := by
    intro c hc
    rw [List.getLast?_append_of_ne_nil _ hne] at hc
    have hf := h c hc
    rw [isFigure, Bool.or_eq_false_iff] at hf
    exact hf.1
  point := by
    intro front' c hkey
    have hlast : (front ++ key).getLast? = some '.' := by
      rw [hkey, List.getLast?_append_of_ne_nil _ (List.cons_ne_nil _ _)]
      rfl
    rw [List.getLast?_append_of_ne_nil _ hne] at hlast
    exact absurd (h '.' hlast) (by decide)

namespace StandsAt

variable {key' amount' : List Char} {i j : Nat} (h : StandsAt key text i amount)
  (h' : StandsAt key' text j amount') (hkey : EndsPlainly (text.take i ++ key))
  (hkey' : EndsPlainly (text.take j ++ key'))

include h h' hkey hkey'

/-- They end at the same place, and the amount is the same. -/
theorem take_append_inj : text.take i ++ key = text.take j ++ key' ∧ amount = amount' := by
  obtain ⟨blanks, hblanks, htext⟩ := h.exists_append
  obtain ⟨blanks', hblanks', htext'⟩ := h'.exists_append
  obtain ⟨hfront, -⟩ := append_inj_of_getLast? (htext.symm.trans htext')
    (h.spells.isBlank_of_mem_getLast? _) (h'.spells.isBlank_of_mem_getLast? _)
    ((isBlankText_iff _).mp hblanks) ((isBlankText_iff _).mp hblanks')
  exact hkey.append_inj hkey' h.spells h'.spells hfront

/-- One of the two ends the other. -/
theorem suffix_or_suffix : key <:+ key' ∨ key' <:+ key := by
  obtain ⟨hends, -⟩ := h.take_append_inj h' hkey hkey'
  have hsuffix : key <:+ text.take j ++ key' := hends ▸ List.suffix_append _ key
  exact List.suffix_or_suffix_of_suffix hsuffix (List.suffix_append _ key')

/-- Two of one length are the same. -/
theorem key_eq (hlength : byteLength key = byteLength key') : key = key' := by
  rcases h.suffix_or_suffix h' hkey hkey' with hs | hs
  · exact eq_of_suffix_of_byteLength_le hs hlength.ge
  · exact (eq_of_suffix_of_byteLength_le hs hlength.le).symm

/-- One that cannot begin before the other ends it. -/
theorem suffix_of_head? (hhead : ∀ c ∈ key.head?, c ∉ text.take j) : key <:+ key' := by
  rcases h.suffix_or_suffix h' hkey hkey' with hs | hs
  · exact hs
  · obtain ⟨more, rfl⟩ := hs
    obtain ⟨hends, -⟩ := h.take_append_inj h' hkey hkey'
    rw [← List.append_assoc] at hends
    cases more with
    | nil => exact List.suffix_rfl
    | cons m more =>
      have hbefore : text.take i ++ m :: more = text.take j := List.append_cancel_right hends
      exact absurd (hbefore ▸ List.mem_append_right _ List.mem_cons_self) (hhead m rfl)

end StandsAt

theorem not_prefix_drop_append {front : List Char} (hne : key ≠ [])
    (hhead : ∀ c ∈ key.head?, c ∉ front) (back : List Char) {i : Nat} (hi : i < front.length) :
    ¬ key <+: (front ++ back).drop i := by
  intro hp
  obtain ⟨k, ks, rfl⟩ := List.exists_cons_of_ne_nil hne
  rw [List.drop_append_of_le_length (by omega), List.drop_eq_getElem_cons hi, List.cons_append,
    List.cons_prefix_cons] at hp
  exact hhead k rfl (hp.1 ▸ List.getElem_mem hi)

theorem trim_written {numbers amount : List Char} (label : List Char) (hne : numbers ≠ [])
    (hn : ∀ c ∈ numbers.head?, isBlank c = false) (ha : SpellsAmount amount) :
    trim (numbers ++ label ++ amount) = numbers ++ label ++ amount := by
  apply trim_eq_self
  · intro c hc
    rw [List.append_assoc, List.head?_append_of_ne_nil _ hne] at hc
    exact hn c hc
  · exact ha.isBlank_of_mem_getLast? (numbers ++ label)

/-- A line of numbers, an alias and an amount is divided where it was put together, if no alias ends
like an amount and none begins within the numbers. -/
theorem AliasIndex.find?_written {betTypes : List BetType} {g : AliasGroup}
    {line numbers label amount : List Char} (hg : g ∈ (ofBetTypes betTypes).groups)
    (hplain : ∀ g' ∈ (ofBetTypes betTypes).groups, ∀ front, EndsPlainly (front ++ g'.key))
    (hhead : ∀ g' ∈ (ofBetTypes betTypes).groups, ∀ c ∈ g'.key.head?, c ∉ fold numbers)
    (htrim : trim line = numbers ++ label ++ amount) (hl : fold label = g.key)
    (hfirst : ∃ c cs, label = c :: cs ∧ foldChar c ≠ []) (ha : SpellsAmount amount) :
    (ofBetTypes betTypes).find? line = some ⟨g, numbers, amount⟩ := by
  have hfold : fold (trim line) = fold numbers ++ (g.key ++ amount) := by
    rw [htrim, fold_append, fold_append, hl,
      fold_eq_self fun c hc => foldChar_of_isFigure (ha.isFigure c hc), List.append_assoc]
  have hdrop : (fold (trim line)).drop (fold numbers).length = g.key ++ amount := by
    rw [hfold, List.drop_left]
  have hstands : StandsAt g.key (fold (trim line)) (fold numbers).length amount :=
    ⟨ha, [], rfl, by rw [hdrop, List.append_nil]⟩
  have hbefore (i : Nat) (hi : i < (fold numbers).length) :
      ¬ Counts g.key (fold (trim line)) i := by
    intro hcounts
    rw [hfold] at hcounts
    exact not_prefix_drop_append (key_ne_nil hg) (hhead g hg) _ hi hcounts.prefix_drop
  rw [find?_eq_some_iff]
  refine ⟨hg, ⟨(fold numbers).length, hstands, ?_, ?_, ?_⟩, ?_⟩
  · rw [counts_iff]
    exact ⟨hstands.prefix_drop, fun j hj hcj => absurd hcj (hbefore j hj)⟩
  · exact fun j amount hj hcj => absurd hcj (hbefore j hj)
  · obtain ⟨c, cs, rfl, hc⟩ := hfirst
    have hsource := getElem?_glyphs_append numbers c (cs ++ amount) hc
    rw [← List.cons_append, ← List.append_assoc, ← htrim] at hsource
    obtain ⟨glyph, hglyph, hs⟩ := Option.map_eq_some_iff.mp hsource
    refine ⟨glyph, hglyph, ?_⟩
    rw [htrim, hs, List.append_assoc, List.take_left]
  · intro g' hg' hprecedes i amount' _ hstands'
    have htake : (fold (trim line)).take (fold numbers).length = fold numbers := by
      rw [hfold, List.take_left]
    have hsuffix := hstands'.suffix_of_head? hstands (hplain g' hg' _) (hplain g hg _)
      (htake.symm ▸ hhead g' hg')
    have hsame : g'.key = g.key :=
      eq_of_suffix_of_byteLength_le hsuffix hprecedes.byteLength_le
    rw [hsame] at hprecedes
    exact hprecedes.not_precedes hprecedes

end LotterySlip
