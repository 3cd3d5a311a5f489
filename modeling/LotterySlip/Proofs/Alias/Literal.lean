import LotterySlip.Proofs.Alias.Written
import LotterySlip.Proofs.Number.Listing

/-! Lines with a list of numbers. Whatever separators stand between the numbers, the line is divided
behind them, and the text before the alias comes to the numbers that were written. -/
namespace LotterySlip
open Text

/-- Aliases and combinations for which no part of a list of numbers can be taken: aliases have no digit
and do not begin with a separator, and the names of combinations have something in them that no list
has. -/
structure ApartFromLists (betTypes : List BetType) (combinations : List Combination) : Prop where
  isDigit : ∀ b ∈ betTypes, ∀ a ∈ b.aliases, ∀ c ∈ foldKey a.toList, c.isDigit = false
  head : ∀ b ∈ betTypes, ∀ a ∈ b.aliases, ∀ c ∈ (foldKey a.toList).head?,
    c ≠ '.' ∧ c ≠ ',' ∧ c ≠ '-'
  combinations : ∀ m ∈ combinations, ∀ k ∈ m.lookupKeys, foldKey k.toList ≠ [] →
    ∃ d ∈ foldKey k.toList, d.isDigit = false ∧ Number.isSeparator d = false

namespace ApartFromLists

variable {betTypes : List BetType} {combinations : List Combination} {g : AliasGroup}

theorem isDigit_of_mem_key (h : ApartFromLists betTypes combinations)
    (hg : g ∈ (AliasIndex.ofBetTypes betTypes).groups) : ∀ c ∈ g.key, c.isDigit = false := by
  obtain ⟨b, hb, a, ha, hkey⟩ := AliasIndex.exists_alias_of_key hg
  rw [hkey]
  exact h.isDigit b hb a ha

/-- A key does not begin with a blank, so none of the separators stands in front. -/
theorem isSeparator_of_mem_head? (h : ApartFromLists betTypes combinations)
    (hg : g ∈ (AliasIndex.ofBetTypes betTypes).groups) :
    ∀ c ∈ g.key.head?, Number.isSeparator c = false := by
  obtain ⟨b, hb, a, ha, hkey⟩ := AliasIndex.exists_alias_of_key hg
  rw [hkey]
  intro c hc
  have hplain := h.head b hb a ha c hc
  simp [Number.isSeparator, isBlank_of_mem_head?_foldKey hc, hplain]

/-- Behind a list of numbers the line is divided. -/
theorem find?_listed (h : ApartFromLists betTypes combinations)
    (hg : g ∈ (AliasIndex.ofBetTypes betTypes).groups) {line numbers label amount : List Char}
    (hlisted : Number.listed numbers ≠ []) (htrim : trim line = numbers ++ label ++ amount)
    (hl : fold label = g.key) (hfirst : ∃ c cs, label = c :: cs ∧ foldChar c ≠ [])
    (ha : SpellsAmount amount) :
    (AliasIndex.ofBetTypes betTypes).find? line = some ⟨g, numbers, amount⟩ := by
  apply AliasIndex.find?_written hg _ _ htrim hl hfirst ha
  · intro g' hg'
    apply endsPlainly_append_of_not_isDigit (AliasIndex.key_ne_nil hg') (h.isDigit_of_mem_key hg')
    intro hpoint
    have hsep := h.isSeparator_of_mem_head? hg' '.' hpoint
    revert hsep
    decide
  · intro g' hg' c hc
    exact Number.notMem_fold_of_listed hlisted
      (h.isDigit_of_mem_key hg' c (List.mem_of_head? hc)) (h.isSeparator_of_mem_head? hg' c hc)

end ApartFromLists

/-- A line with a list of numbers is read as it is written: the alias and the amount are those that
stand in it, and the text before them comes to the numbers, each once and in order. -/
theorem AliasIndex.find?_literal (betTypes : List BetType) (combinations : List Combination)
    (h : ApartFromLists betTypes combinations) (ns : List String) (hns : ns ≠ [])
    (cs label amount front back : List Char) (hcs : Number.Listing ns cs)
    (hlabel : ∃ b ∈ betTypes, ∃ a ∈ b.aliases, foldKey a.toList = fold label)
    (hfirst : ∃ c rest, label = c :: rest ∧ foldChar c ≠ []) (hamount : SpellsAmount amount)
    (hfront : isBlankText front = true) (hback : isBlankText back = true) (limit : Nat) :
    ∃ hit, (ofBetTypes betTypes).find? (front ++ (cs ++ label ++ amount) ++ back) = some hit ∧
      hit.group ∈ (ofBetTypes betTypes).groups ∧ hit.group.key = fold label ∧
        hit.amount = amount ∧
          Number.expand combinations limit hit.numbersText = .literal ns := by
  obtain ⟨blanks, numbers, hblanks, hsplit, hne, hhead, hnumbers⟩ :=
    Number.exists_listed_of_append cs (hcs.listed_eq.symm ▸ hns)
  rw [hcs.listed_eq] at hnumbers
  have hlisted : Number.listed numbers ≠ [] := hnumbers.symm ▸ hns
  have hkey : fold label ≠ [] := by
    obtain ⟨c, rest, rfl, hc⟩ := hfirst
    rw [fold_cons]
    exact fun hnil => hc (List.append_eq_nil_iff.mp hnil).1
  obtain ⟨g, hg, hgkey⟩ := (exists_group_iff betTypes (fold label)).mpr
    ⟨hkey, (mem_declaredKeys_iff betTypes _).mpr hlabel⟩
  have htrim : trim (front ++ (cs ++ label ++ amount) ++ back) = numbers ++ label ++ amount := by
    calc trim (front ++ (cs ++ label ++ amount) ++ back)
        = trim (cs ++ label ++ amount) := by
          rw [trim_append_right _ back hback, trim_append_left front _ hfront]
      _ = trim (blanks ++ (numbers ++ label ++ amount)) := by
          rw [hsplit, List.append_assoc, List.append_assoc, List.append_assoc]
      _ = trim (numbers ++ label ++ amount) := trim_append_left blanks _ hblanks
      _ = numbers ++ label ++ amount := trim_written label hne hhead hamount
  have hfind := h.find?_listed hg hlisted htrim hgkey.symm hfirst hamount
  have hcombination := Number.findCombination?_of_listed h.combinations hlisted
  have hexpand := Number.expand_of_listed limit hlisted hcombination
  rw [hnumbers] at hexpand
  exact ⟨_, hfind, hg, hgkey, rfl, hexpand⟩

/-- A point before the first number, an accent of its own in the alias, and a shorter alias that ends
it. -/
theorem AliasIndex.find?_literal_mixed : ∃ betTypes combinations hit,
    ApartFromLists betTypes combinations ∧ betTypes.map BetType.aliases = [["a"], ["đá"]] ∧
      (ofBetTypes betTypes).find? " . 12.34, 05 -12Đa\u03012.5 ".toList = some hit ∧
        hit.group.key = "da".toList ∧ hit.amount = "2.5".toList ∧
          Number.expand combinations 1000 hit.numbersText = .literal ["12", "34", "05", "12"] := by
  have ha : foldKey ['a'] = ['a'] := by decide +kernel
  have hda : foldKey ['đ', 'á'] = ['d', 'a'] := by decide +kernel
  have hname : foldKey ['Đ', 'ầ', 'u', ' ', '5'] = "dau 5".toList := by decide +kernel
  have hdau : foldKey ['d', 'a', 'u', '5'] = "dau5".toList := by decide +kernel
  have h : ApartFromLists
      [⟨1, "A", ["a"], [], false, none, none⟩, ⟨2, "Đá", ["đá"], [], false, none, none⟩]
      [⟨"Đầu 5", ["dau5"], .head 5⟩] :=
    ⟨by simp [ha, hda], by simp [ha, hda], by simp [Combination.lookupKeys, hname, hdau]; decide⟩
  have hlisted : Number.listed ". 12.34, 05 -12".toList = ["12", "34", "05", "12"] := by
    decide +kernel
  have hspells : SpellsAmount ("2".toList ++ '.' :: "5".toList) := .places (by decide) (by decide)
  have hcs := Number.listing_listed (hlisted ▸ List.cons_ne_nil _ _)
  rw [hlisted] at hcs
  obtain ⟨hit, hfind, -, hkey, hamount, hexpand⟩ := find?_literal _ _ h _
    (List.cons_ne_nil _ _) _ "Đa\u0301".toList "2.5".toList " ".toList " ".toList hcs
    (by decide +kernel) ⟨'Đ', _, rfl, by decide +kernel⟩ hspells (by decide) (by decide) 1000
  exact ⟨_, _, hit, h, rfl, hfind, hkey.trans (by decide +kernel), hamount, hexpand⟩

end LotterySlip
