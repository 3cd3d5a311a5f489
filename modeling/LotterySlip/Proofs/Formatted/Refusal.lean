import LotterySlip.Proofs.Line
import LotterySlip.Sample

/-! Refused lines read back as they are shown. A refused line is shown with its fault behind a dash,
and a dash has no place in a bet, so that the line is refused again whatever the fault says. -/
namespace LotterySlip
open Text

/-- A character that has no place in a bet: it is not folded away, stands in no alias and in no name
of a combination, and neither lists nor sequences are written with it. -/
structure Tariff.Foreign (t : Tariff) (c : Char) : Prop where
  foldChar : foldChar c = [c]
  isSeparator : Number.isSeparator c = false
  isDigit : c.isDigit = false
  sequence : c ∉ ['/', 'k', 'e', 'o']
  aliases : ∀ b ∈ t.betTypes, ∀ a ∈ b.aliases, c ∉ foldKey a.toList
  combinations : ∀ m ∈ t.combinations, ∀ k ∈ m.lookupKeys, c ∉ foldKey k.toList

namespace Tariff.Foreign

variable {t : Tariff} {c : Char}

theorem isBlank (h : t.Foreign c) : isBlank c = false := by
  have hs := h.isSeparator
  simp only [Number.isSeparator, Bool.or_eq_false_iff] at hs
  exact hs.2

theorem isFigure (h : t.Foreign c) : isFigure c = false := by
  have hs := h.isSeparator
  simp only [Number.isSeparator, Bool.or_eq_false_iff] at hs
  rw [LotterySlip.isFigure, h.isDigit, hs.1.1.1, Bool.or_false]

theorem mem_trim (h : t.Foreign c) {cs : List Char} (hc : c ∈ cs) : c ∈ trim cs := by
  obtain ⟨front, back, hf, hb, hcs⟩ := exists_append_trim cs
  have hnot {blanks : List Char} (hbl : isBlankText blanks = true) : c ∉ blanks := by
    intro hm
    rw [isBlankText_of_mem hm h.isBlank] at hbl
    cases hbl
  rw [hcs, List.mem_append, List.mem_append] at hc
  rcases hc with (hc | hc) | hc
  · exact absurd hc (hnot hf)
  · exact hc
  · exact absurd hc (hnot hb)

theorem notMem_key (h : t.Foreign c) {g : AliasGroup} (hg : g ∈ t.index.groups) : c ∉ g.key := by
  rw [t.index_eq] at hg
  obtain ⟨b, hb, a, ha, hkey⟩ := AliasIndex.exists_alias_of_key hg
  exact hkey ▸ h.aliases b hb a ha

/-- The text in which it stands comes to nothing. -/
theorem expand_eq_empty (h : t.Foreign c) {text : List Char} (hc : c ∈ text) (limit : Nat) :
    Number.expand t.combinations limit text = .empty := by
  have htrim := h.mem_trim hc
  have hkey : c ∈ foldKey (trim text) := mem_foldKey_of_mem h.foldChar h.isBlank htrim
  have hcombination : Number.findCombination? t.combinations (foldKey (trim text)) = none := by
    rw [Number.findCombination?, List.find?_eq_none]
    intro m hm hany
    obtain ⟨k, hk, he⟩ := List.any_eq_true.mp hany
    exact h.combinations m hm k hk (eq_of_beq he ▸ hkey)
  have hsequence : Number.SequenceForm.read? (foldKey (trim text)) = none :=
    Number.read?_eq_none_of_mem h.isBlank h.isDigit h.sequence hkey
  have hlist : Number.listed (trim text) = [] :=
    Number.listed_eq_nil_of_mem htrim h.isSeparator h.isDigit
  simp only [Number.expand, hcombination, Number.expandForm, hsequence, Number.expandList, hlist,
    ite_self]

/-- It stands before any alias that is found: neither in the alias nor in the amount behind. -/
theorem mem_numbersText (h : t.Foreign c) {line : List Char} {hit : AliasHit} (hc : c ∈ line)
    (hfind : t.index.find? line = some hit) : c ∈ hit.numbersText := by
  have hgroup := AliasIndex.group_mem_of_find? hfind
  rw [t.index_eq, AliasIndex.find?_eq_some_iff] at hfind
  obtain ⟨-, ⟨i, hat⟩, -⟩ := hfind
  obtain ⟨hspells, back, hblank, htext⟩ := hat.stands
  obtain ⟨glyph, hglyph, hnumbers⟩ := hat.source
  obtain ⟨before, rest, hline⟩ := List.append_of_mem (h.mem_trim hc)
  have hsplit : trim line = (before ++ [c]) ++ rest := by
    rw [hline, List.append_assoc, List.singleton_append]
  have hfront : (fold (before ++ [c])).length ≤ i := by
    by_contra hlt
    -- An alias that begins before it ends would hold it, or figures and blanks would.
    have hmem : c ∈ (fold (trim line)).drop i := by
      have hfold : fold (before ++ [c]) = fold before ++ [c] := by
        rw [fold_append, fold_cons, h.foldChar]
        rfl
      have hi : i ≤ (fold before).length := by
        rw [hfold, List.length_append, List.length_singleton] at hlt
        omega
      rw [hsplit, fold_append, hfold, List.append_assoc,
        List.drop_append_of_le_length hi]
      simp
    rw [htext, List.mem_append, List.mem_append] at hmem
    rcases hmem with (hm | hm) | hm
    · exact h.notMem_key hgroup hm
    · exact Bool.false_ne_true (h.isFigure.symm.trans (hspells.isFigure c hm))
    · exact Bool.false_ne_true (h.isBlank.symm.trans ((isBlankText_iff back).mp hblank c hm))
  rw [hnumbers]
  rw [hsplit] at hglyph ⊢
  exact (prefix_take_source hglyph hfront).subset (by simp)

theorem readBet_ne_ok (h : t.Foreign c) (ctx : LineContext) {line : List Char} (hc : c ∈ line)
    (bet : Bet) : t.readBet ctx line ≠ .ok bet := by
  intro hread
  obtain ⟨hit, hfind, hhit⟩ := (t.readBet_eq_ok_iff ctx line bet).mp hread
  obtain ⟨-, numbers, -, -, -, -, hnumbers, -⟩ := (t.readHit_eq_ok_iff ctx hit bet).mp hhit
  obtain ⟨-, rfl, hne, -⟩ := (t.readNumbers_eq_ok_iff hit.numbersText numbers).mp hnumbers
  rw [h.expand_eq_empty (h.mem_numbersText hc hfind)] at hne
  exact hne rfl

end Tariff.Foreign

/-- The dash between a line and its fault. -/
theorem Tariff.foreign_dash {t : Tariff}
    (haliases : ∀ b ∈ t.betTypes, ∀ a ∈ b.aliases, '—' ∉ foldKey a.toList)
    (hcombinations : ∀ m ∈ t.combinations, ∀ k ∈ m.lookupKeys, '—' ∉ foldKey k.toList) :
    t.Foreign '—' where
  foldChar := by decide +kernel
  isSeparator := by decide
  isDigit := by decide
  sequence := by decide
  aliases := haliases
  combinations := hcombinations

theorem BetLine.dash_mem_render {l : BetLine} (h : l.isValid = false) : '—' ∈ l.render.toList := by
  cases ho : l.outcome with
  | ok bet => simp [isValid, error?, ho] at h
  | error e =>
    have hrender : l.render = l.text ++ " — Error: " ++ e.message := by
      simp only [render, error?, ho, lineText]
    have hdash : '—' ∈ " — Error: ".toList := by decide +kernel
    rw [hrender, String.toList_append, String.toList_append]
    exact List.mem_append_left _ (List.mem_append_right _ hdash)

/-- A line with a character in it that has no place in a bet is refused. -/
theorem Tariff.Foreign.isValid_readLine {t : Tariff} {c : Char} (h : t.Foreign c) (ctx : LineContext)
    (number : Nat) {line : List Char} (hc : c ∈ line) :
    (t.readLine ctx (number, line)).isValid = false := by
  rw [readLine, BetLine.ofReading]
  cases hread : t.readBet ctx line with
  | ok bet => exact absurd hread (h.readBet_ne_ok ctx hc bet)
  | error r => rfl

/-- A refused line that is read as it is shown is refused again, whatever its fault quotes and ends
with. -/
theorem Tariff.isValid_readLine_render (t : Tariff)
    (haliases : ∀ b ∈ t.betTypes, ∀ a ∈ b.aliases, '—' ∉ foldKey a.toList)
    (hcombinations : ∀ m ∈ t.combinations, ∀ k ∈ m.lookupKeys, '—' ∉ foldKey k.toList)
    (ctx : LineContext) (number : Nat) (line : List Char)
    (hrefused : (t.readLine ctx (number, line)).isValid = false) (number' : Nat) :
    (t.readLine ctx (number', (t.readLine ctx (number, line)).render.toList)).isValid = false :=
  (foreign_dash haliases hcombinations).isValid_readLine ctx number' (BetLine.dash_mem_render hrefused)

/-- A fault that ends with numbers. -/
theorem Tariff.isValid_readLine_render_two_lengths :
    ((Sample.plain.tariff .standard).readLine (.plain 1 .one) (1, "12.345dd5".toList)).render =
        "12.345dd5 — Error: Numbers must all have the same number of digits: 12, 345" ∧
      ((Sample.plain.tariff .standard).readLine (.plain 1 .one) (2, ((Sample.plain.tariff
        .standard).readLine (.plain 1 .one) (1, "12.345dd5".toList)).render.toList)).isValid =
          false := by
  have haliases : ∀ b ∈ (Sample.plain.tariff .standard).betTypes, ∀ a ∈ b.aliases,
      '—' ∉ foldKey a.toList := by decide +kernel
  have hcombinations : ∀ m ∈ (Sample.plain.tariff .standard).combinations, ∀ k ∈ m.lookupKeys,
      '—' ∉ foldKey k.toList := by decide +kernel
  exact ⟨by decide +kernel, isValid_readLine_render _ haliases hcombinations _ 1 _
    (by decide +kernel) 2⟩

end LotterySlip
