import LotterySlip.Proofs.Alias.Written
import LotterySlip.Proofs.Decimal.Normalize
import LotterySlip.Proofs.Decimal.Text
import LotterySlip.Proofs.Number.Listing
import LotterySlip.Proofs.Price

/-! Bets read back from what is shown of them. A combination or a sequence is shown as the list of its
numbers, and an amount without trailing zeros; the bet stays the same. -/
namespace LotterySlip
open Text

theorem isAmount_magnitudeText (mantissa scale : Nat) :
    IsAmount (Decimal.magnitudeText mantissa scale) := by
  obtain ⟨whole, places, hw, hwd, hpd, hl, -, ht⟩ :=
    Decimal.exists_magnitudeText mantissa scale
  have hwhole : isNumber whole = true := (isNumber_iff whole).mpr ⟨hw, hwd⟩
  rw [isAmount_iff, ht]
  by_cases h0 : scale = 0
  · rw [if_pos h0, List.append_nil]
    exact .whole hwhole
  · rw [if_neg h0]
    apply SpellsAmount.places hwhole
    rw [isNumber_iff]
    refine ⟨?_, hpd⟩
    rintro rfl
    exact h0 hl.symm

/-- An amount above zero is read back as it is shown. -/
theorem readAmount?_normalize {amount : Decimal} (h : 0 < amount.value) :
    IsAmount amount.normalize.toChars ∧
      Tariff.readAmount? amount.normalize.toChars = some amount.normalize := by
  obtain ⟨hn, hv⟩ := Decimal.normalize_negative h
  have hchars : amount.normalize.toChars =
      Decimal.magnitudeText amount.normalize.mantissa amount.normalize.scale := by
    simp [Decimal.toChars, hn]
  refine ⟨hchars ▸ isAmount_magnitudeText _ _, ?_⟩
  rw [Tariff.readAmount?_eq_some_iff]
  refine ⟨Decimal.ofChars?_toChars _ fun e => ?_, hv⟩
  rw [hn] at e
  cases e

structure Tariff.Legible (t : Tariff) : Prop where
  fold_trim : ∀ b ∈ t.betTypes, ∀ a ∈ b.aliases, foldKey a.toList ≠ [] →
    fold (trim a.toList) = foldKey a.toList
  foldChar_head : ∀ b ∈ t.betTypes, ∀ a ∈ b.aliases, foldKey a.toList ≠ [] →
    ∀ c ∈ (trim a.toList).head?, foldChar c ≠ []
  not_isFigure : ∀ b ∈ t.betTypes, ∀ a ∈ b.aliases, ∀ c ∈ foldKey a.toList, isFigure c = false
  combinations : ∀ c ∈ t.combinations, ∀ k ∈ c.lookupKeys, foldKey k.toList ≠ [] →
    ∃ c ∈ foldKey k.toList, isFigure c = false

theorem isFigure_of_mem_joined {numbers : List String}
    (h : ∀ n ∈ numbers, isNumber n.toList = true) {c : Char} (hc : c ∈ Number.joined numbers) :
    isFigure c = true := by
  rcases Number.mem_joined h hc with hd | rfl
  · exact isFigure_of_isDigit hd
  · decide

theorem joined_ne_nil {numbers : List String} (h : Number.Entered numbers) :
    Number.joined numbers ≠ [] := by
  obtain ⟨n, ns, rfl⟩ := List.exists_cons_of_ne_nil h.ne_nil
  obtain ⟨rest, hrest, -⟩ := Number.exists_joined n ns
  rw [hrest]
  exact fun e => ((isNumber_iff _).mp (h.isNumber n List.mem_cons_self)).1
    (List.append_eq_nil_iff.mp e).1

theorem Tariff.Legible.group {t : Tariff} (ht : t.Legible) {g : AliasGroup}
    (hg : g ∈ t.index.groups) : fold g.display.toList = g.key ∧
      (∃ c cs, g.display.toList = c :: cs ∧ foldChar c ≠ []) ∧ ∀ c ∈ g.key, isFigure c = false := by
  rw [t.index_eq] at hg
  have hrep := AliasIndex.represents_ofBetTypes t.betTypes
  have hkey : g.key ≠ [] := AliasIndex.key_ne_nil hg
  obtain ⟨⟨i, a⟩, hd, hdkey, hdisplay⟩ := hrep.display g hg
  obtain ⟨b, hb, ha⟩ := (AliasIndex.mem_declarations_iff t.betTypes i a).mp hd
  have hmem : b ∈ t.betTypes := List.mem_of_getElem? hb
  have hakey : foldKey a.toList = g.key := hdkey
  have hlabel : g.display.toList = trim a.toList := by rw [hdisplay, String.toList_ofList]
  have hfold : fold (trim a.toList) = g.key := by
    rw [ht.fold_trim b hmem a ha (hakey ▸ hkey), hakey]
  refine ⟨by rw [hlabel, hfold], ?_, fun c hc => ht.not_isFigure b hmem a ha c (hakey ▸ hc)⟩
  obtain ⟨c, cs, hc⟩ : ∃ c cs, trim a.toList = c :: cs := by
    apply List.exists_cons_of_ne_nil
    intro e
    rw [e] at hfold
    exact hkey hfold.symm
  exact ⟨c, cs, by rw [hlabel, hc],
    ht.foldChar_head b hmem a ha (hakey ▸ hkey) c (by rw [hc]; rfl)⟩

theorem Tariff.Legible.findCombination?_joined {t : Tariff} (ht : t.Legible)
    {numbers : List String} (h : Number.Entered numbers) :
    Number.findCombination? t.combinations (Number.joined numbers) = none := by
  rw [Number.findCombination?, List.find?_eq_none]
  intro c hc hany
  obtain ⟨k, hk, hkey⟩ := List.any_eq_true.mp hany
  have hkey' : foldKey k.toList = Number.joined numbers := by simpa using hkey
  obtain ⟨d, hd, hf⟩ := ht.combinations c hc k hk (hkey' ▸ joined_ne_nil h)
  rw [isFigure_of_mem_joined h.isNumber (hkey' ▸ hd)] at hf
  cases hf

/-- Numbers are read back from their list, whatever they were entered as. -/
theorem Tariff.Legible.readNumbers_joined {t : Tariff} (ht : t.Legible) {text : List Char}
    {numbers : List String} (h : t.readNumbers text = .ok numbers) :
    t.readNumbers (Number.joined numbers) = .ok numbers := by
  have he := entered_of_readNumbers h
  obtain ⟨-, -, hne, hsize⟩ := (t.readNumbers_eq_ok_iff text numbers).mp h
  obtain ⟨n, ns, rfl⟩ := List.exists_cons_of_ne_nil hne
  have hexpand := Number.expand_joined t.limit he.isNumber (ht.findCombination?_joined he)
  rw [readNumbers_eq_ok_iff, hexpand]
  exact ⟨rfl, rfl, hne, hsize⟩

def Bet.shown (b : Bet) : List Char :=
  Number.joined b.numbers ++ b.betType.label.toList ++ b.amount.normalize.toChars

theorem BetLine.toList_render_of_ok {l : BetLine} {b : Bet} (h : l.outcome = .ok b) :
    l.render.toList = b.shown := by
  have he : l.error? = none := by rw [error?, h]
  have hb : l.bet? = some b := by rw [bet?, h]; rfl
  rw [render, he, hb, Option.map_some, lineText]
  simp only [String.toList_append, String.toList_intercalate, Decimal.toText, String.toList_ofList,
    Bet.shown, Number.joined]
  rfl

/-- A bet is read back from what is shown of it, and is then shown alike. -/
theorem Tariff.Legible.readBet_shown {t : Tariff} (ht : t.Legible) {ctx : LineContext}
    {line : List Char} {bet : Bet} (h : t.readBet ctx line = .ok bet) :
    ∃ bet', t.readBet ctx bet.shown = .ok bet' ∧ bet'.Same bet ∧ bet'.shown = bet.shown := by
  obtain ⟨hit, hfound, hread⟩ := (t.readBet_eq_ok_iff ctx line bet).mp h
  obtain ⟨b, numbers, amount, tickets, price, hb, hn, ha, htick, hprice, rfl⟩ :=
    (t.readHit_eq_ok_iff ctx hit bet).mp hread
  have hpos := ((readAmount?_eq_some_iff _ _).mp ha).2
  obtain ⟨hamount, hreadAmount⟩ := readAmount?_normalize hpos
  have hentered := entered_of_readNumbers hn
  have hgroup : hit.group ∈ t.index.groups := AliasIndex.group_mem_of_find? hfound
  obtain ⟨hlabel, hfirst, -⟩ := ht.group hgroup
  have hspells := (isAmount_iff _).mp hamount
  have hfigures : ∀ c ∈ Number.joined numbers, isFigure c = true := fun c =>
    isFigure_of_mem_joined hentered.isNumber
  have hfold : fold (Number.joined numbers) = Number.joined numbers :=
    fold_eq_self fun c hc => foldChar_of_isFigure (hfigures c hc)
  have hfind : t.index.find? (Number.joined numbers ++ hit.group.display.toList ++
      amount.normalize.toChars) =
        some ⟨hit.group, Number.joined numbers, amount.normalize.toChars⟩ := by
    have hkeys : ∀ g ∈ t.index.groups, ∀ c ∈ g.key, isFigure c = false := fun g hg =>
      (ht.group hg).2.2
    rw [t.index_eq] at hgroup hkeys ⊢
    apply AliasIndex.find?_written hgroup
    · intro g hg front
      apply endsPlainly_append_of_getLast? (AliasIndex.key_ne_nil hg)
      exact fun c hc => hkeys g hg c (List.mem_of_getLast? hc)
    · intro g hg c hc hm
      rw [hfold] at hm
      have hnot := hkeys g hg c (List.mem_of_head? hc)
      rw [hfigures c hm] at hnot
      cases hnot
    · apply trim_written _ (joined_ne_nil hentered) _ hspells
      exact fun c hc => isBlank_of_isFigure (hfigures c (List.mem_of_head? hc))
    · exact hlabel
    · exact hfirst
    · exact hspells
  obtain ⟨price', hprice', hsame⟩ := Price.compute?_congr (Decimal.value_normalize amount) hprice
  have hread' := (t.readHit_eq_ok_iff ctx
    ⟨hit.group, Number.joined numbers, amount.normalize.toChars⟩ _).mpr
      ⟨b, numbers, amount.normalize, tickets, price', hb, ht.readNumbers_joined hn, hreadAmount,
        htick, hprice', rfl⟩
  refine ⟨_, (t.readBet_eq_ok_iff ctx _ _).mpr ⟨_, hfind, hread'⟩,
    ⟨rfl, rfl, rfl, rfl, Decimal.value_normalize amount, hsame⟩, ?_⟩
  simp only [Bet.shown, Decimal.normalize_normalize]

/-- The line that shows a bet is the same bet, and is shown alike. -/
theorem Tariff.Legible.readLine_render {t : Tariff} (ht : t.Legible) {ctx : LineContext}
    {line : List Char} {bet : Bet} {l : BetLine} (h : t.readBet ctx line = .ok bet)
    (hl : l.outcome = .ok bet) (i : Nat) :
    (t.readLine ctx (i, l.render.toList)).Same l ∧
      (t.readLine ctx (i, l.render.toList)).render = l.render := by
  have hshown := BetLine.toList_render_of_ok hl
  obtain ⟨bet', hread, hsame, hshown'⟩ := ht.readBet_shown h
  have hout : (t.readLine ctx (i, l.render.toList)).outcome = .ok bet' := by
    rw [outcome_readLine, hshown, hread]
  refine ⟨⟨bet', bet, hout, hl, hsame⟩, ?_⟩
  rw [← String.toList_inj, BetLine.toList_render_of_ok hout, hshown', hshown]

/-- A bet is shown on one line, which is not blank. -/
theorem Tariff.Legible.shown_isLine {t : Tariff} (ht : t.Legible) {ctx : LineContext}
    {line : List Char} {bet : Bet} (h : t.readBet ctx line = .ok bet) :
    '\n' ∉ bet.shown ∧ isBlankText bet.shown = false := by
  have hsound := Tariff.sound_of_readBet h
  obtain ⟨hit, hfound, hread⟩ := (t.readBet_eq_ok_iff ctx line bet).mp h
  obtain ⟨b, numbers, amount, tickets, price, -, -, -, -, -, rfl⟩ :=
    (t.readHit_eq_ok_iff ctx hit bet).mp hread
  have hgroup := AliasIndex.group_mem_of_find? hfound
  obtain ⟨hlabel, -, -⟩ := ht.group hgroup
  have hnumbers : ∀ c ∈ Number.joined numbers, isFigure c = true := fun c =>
    isFigure_of_mem_joined hsound.entered.isNumber
  have hamount := ((isAmount_iff _).mp (readAmount?_normalize hsound.amount_pos).1).isFigure
  have hfigure : isFigure '\n' = false := by decide
  refine ⟨fun hn => ?_, ?_⟩
  · rcases List.mem_append.mp hn with hn | hn
    · rcases List.mem_append.mp hn with hn | hn
      · rw [hnumbers _ hn] at hfigure
        cases hfigure
      · rw [t.index_eq] at hgroup
        have hm := mem_fold_of_mem (foldChar_of_lt_capital (by decide)) hn
        rw [hlabel, ← AliasIndex.foldKey_display hgroup] at hm
        exact newline_notMem_foldKey _ hm
    · rw [hamount _ hn] at hfigure
      cases hfigure
  · obtain ⟨c, cs, hc⟩ := List.exists_cons_of_ne_nil (joined_ne_nil hsound.entered)
    have hm : c ∈ Number.joined numbers := hc ▸ List.mem_cons_self
    exact isBlankText_of_mem (List.mem_append_left _ (List.mem_append_left _ hm))
      (isBlank_of_isFigure (hnumbers c hm))

end LotterySlip
