import LotterySlip.Alias
import LotterySlip.Proofs.Text.Fold

/-! Amounts, as they are written behind an alias. Where a line ends with one, the text before it does
not end like an amount, so that a line can be parted in one way only. -/
namespace LotterySlip
open Text

def isFigure (c : Char) : Bool := c.isDigit || c == '.'

theorem isFigure_of_isDigit {c : Char} (h : c.isDigit = true) : isFigure c = true := by
  rw [isFigure, h, Bool.true_or]

theorem isBlank_of_isFigure {c : Char} (h : isFigure c = true) : isBlank c = false := by
  simp only [isFigure, Bool.or_eq_true, beq_iff_eq] at h
  rcases h with h | rfl
  · exact isBlank_of_isDigit h
  · decide

theorem foldChar_of_isFigure {c : Char} (h : isFigure c = true) : foldChar c = [c] := by
  simp only [isFigure, Bool.or_eq_true, beq_iff_eq] at h
  rcases h with h | rfl
  · exact foldChar_of_isDigit h
  · exact foldChar_of_lt_capital (by decide)

inductive SpellsAmount : List Char → Prop
  | whole {ds : List Char} : isNumber ds = true → SpellsAmount ds
  | places {ds es : List Char} : isNumber ds = true → isNumber es = true →
      SpellsAmount (ds ++ '.' :: es)

theorem exists_concat_of_isNumber {ds : List Char} (h : isNumber ds = true) :
    ∃ front c, ds = front ++ [c] ∧ c.isDigit = true := by
  obtain ⟨hne, hd⟩ := (isNumber_iff ds).mp h
  exact ⟨ds.dropLast, ds.getLast hne, (List.dropLast_append_getLast hne).symm,
    hd _ (List.getLast_mem hne)⟩

namespace SpellsAmount

variable {amount : List Char}

theorem isFigure (h : SpellsAmount amount) : ∀ c ∈ amount, isFigure c = true := by
  intro c hc
  cases h with
  | whole hd => exact isFigure_of_isDigit (((isNumber_iff _).mp hd).2 c hc)
  | places hd he =>
    rcases List.mem_append.mp hc with hc | hc
    · exact isFigure_of_isDigit (((isNumber_iff _).mp hd).2 c hc)
    · rcases List.mem_cons.mp hc with rfl | hc
      · decide
      · exact isFigure_of_isDigit (((isNumber_iff _).mp he).2 c hc)

theorem exists_concat (h : SpellsAmount amount) :
    ∃ front c, amount = front ++ [c] ∧ c.isDigit = true := by
  cases h with
  | whole hd => exact exists_concat_of_isNumber hd
  | @places ds es _ he =>
    obtain ⟨front, c, rfl, hc⟩ := exists_concat_of_isNumber he
    exact ⟨ds ++ '.' :: front, c, by simp, hc⟩

theorem isBlank_of_mem_getLast? (h : SpellsAmount amount) (front : List Char) :
    ∀ c ∈ (front ++ amount).getLast?, isBlank c = false := by
  intro c hc
  obtain ⟨before, d, rfl, hd⟩ := h.exists_concat
  rw [← List.append_assoc, List.getLast?_concat, Option.mem_some_iff] at hc
  exact hc ▸ isBlank_of_isDigit hd

end SpellsAmount

theorem spanDigits_fst_append_snd (cs : List Char) :
    (spanDigits cs).1 ++ (spanDigits cs).2 = cs := List.takeWhile_append_dropWhile

theorem isNumber_spanDigits_fst {cs : List Char} (h : ¬ (spanDigits cs).1.isEmpty = true) :
    isNumber (spanDigits cs).1 = true :=
  (isNumber_iff _).mpr ⟨fun e => h (List.isEmpty_iff.mpr e), fun _ => List.mem_takeWhile_imp⟩

theorem spanAmount?_eq_some {cs amount rest : List Char}
    (h : spanAmount? cs = some (amount, rest)) : SpellsAmount amount ∧ cs = amount ++ rest := by
  have hwhole (hne : ¬ (spanDigits cs).1.isEmpty = true)
      (he : some ((spanDigits cs).1, (spanDigits cs).2) = some (amount, rest)) :
      SpellsAmount amount ∧ cs = amount ++ rest := by
    cases he
    exact ⟨.whole (isNumber_spanDigits_fst hne), (spanDigits_fst_append_snd cs).symm⟩
  simp only [spanAmount?] at h
  split at h
  · cases h
  · next hne =>
    split at h
    · next tail ht =>
      split at h
      · exact hwhole hne (ht ▸ h)
      · next hplaces =>
        cases h
        refine ⟨.places (isNumber_spanDigits_fst hne) (isNumber_spanDigits_fst hplaces), ?_⟩
        rw [List.append_assoc, List.cons_append, spanDigits_fst_append_snd tail, ← ht,
          spanDigits_fst_append_snd cs]
    · exact hwhole hne h

/-- An amount is split off whole, unless it goes on. -/
theorem spanAmount?_append {amount rest : List Char} (h : SpellsAmount amount)
    (hr : ∀ c ∈ rest.head?, isFigure c = false) :
    spanAmount? (amount ++ rest) = some (amount, rest) := by
  have hdigit : ∀ c ∈ rest.head?, c.isDigit = false := by
    intro c hc
    have hf := hr c hc
    rw [isFigure, Bool.or_eq_false_iff] at hf
    exact hf.1
  cases h with
  | whole hd =>
    obtain ⟨hne, hds⟩ := (isNumber_iff amount).mp hd
    simp only [spanAmount?, spanDigits_append amount rest hds hdigit]
    rw [if_neg (by simpa using hne)]
    split
    · exact absurd (hr '.' rfl) (by decide)
    · rfl
  | @places ds es hd he =>
    obtain ⟨hne, hds⟩ := (isNumber_iff ds).mp hd
    obtain ⟨hne', hes⟩ := (isNumber_iff es).mp he
    have hspan : spanDigits (ds ++ '.' :: (es ++ rest)) = (ds, '.' :: (es ++ rest)) := by
      apply spanDigits_append ds _ hds
      rintro c ⟨⟩
      decide
    simp only [spanAmount?, List.append_assoc, List.cons_append, hspan,
      spanDigits_append es rest hes hdigit]
    rw [if_neg (by simpa using hne), if_neg (by simpa using hne')]

/-- The amount of a text is what an amount and blanks behind it leave no choice of. -/
theorem lastAmount?_eq_some_iff (cs amount : List Char) : lastAmount? cs = some amount ↔
    SpellsAmount amount ∧ ∃ blanks, isBlankText blanks = true ∧ cs = amount ++ blanks := by
  constructor
  · intro h
    rw [lastAmount?] at h
    split at h
    · next amount' rest hspan =>
      split at h
      · next hblank =>
        cases h
        obtain ⟨hspells, hcs⟩ := spanAmount?_eq_some hspan
        exact ⟨hspells, rest, hblank, hcs⟩
      · cases h
    · cases h
  · rintro ⟨hspells, blanks, hblank, rfl⟩
    have hspan : spanAmount? (amount ++ blanks) = some (amount, blanks) := by
      apply spanAmount?_append hspells
      intro c hc
      rw [← Bool.not_eq_true]
      intro hf
      have hb := (isBlankText_iff blanks).mp hblank c (List.mem_of_head? hc)
      rw [isBlank_of_isFigure hf] at hb
      cases hb
    rw [lastAmount?, hspan]
    exact if_pos hblank

structure IsAmount (amount : List Char) : Prop where
  last : lastAmount? amount = some amount
  getLast : ∃ front c, amount = front ++ [c] ∧ c.isDigit = true

theorem isAmount_iff (amount : List Char) : IsAmount amount ↔ SpellsAmount amount := by
  constructor
  · intro h
    exact ((lastAmount?_eq_some_iff amount amount).mp h.last).1
  · intro h
    exact ⟨(lastAmount?_eq_some_iff amount amount).mpr ⟨h, [], rfl, (List.append_nil _).symm⟩,
      h.exists_concat⟩

/-- A text falls in one way only into a part that does not end with such a character and a part of
such characters. -/
theorem append_inj_of_getLast? {p : Char → Bool} {as bs ds es : List Char}
    (h : as ++ ds = bs ++ es) (ha : ∀ c ∈ as.getLast?, p c = false)
    (hb : ∀ c ∈ bs.getLast?, p c = false) (hd : ∀ c ∈ ds, p c = true)
    (he : ∀ c ∈ es, p c = true) : as = bs ∧ ds = es := by
  have hsplit (xs ys : List Char) (hx : ∀ c ∈ xs.getLast?, p c = false)
      (hy : ∀ c ∈ ys, p c = true) : (xs ++ ys).rdropWhile p = xs := by
    induction ys using List.reverseRecOn with
    | nil =>
      rw [List.append_nil, List.rdropWhile_eq_self_iff]
      intro hne
      simpa using hx _ (List.getLast?_eq_getLast_of_ne_nil hne)
    | append_singleton ys y ih =>
      rw [← List.append_assoc, List.rdropWhile_concat_pos _ _ _ (hy y (by simp))]
      exact ih fun c hc => hy c (List.mem_append_left _ hc)
  have hab : as = bs := by rw [← hsplit as ds ha hd, h, hsplit bs es hb he]
  subst hab
  exact ⟨rfl, List.append_cancel_left h⟩

/-- A text to whose end an amount may be put: it does not end with a digit, nor with a point behind a
digit. -/
structure EndsPlainly (cs : List Char) : Prop where
  digit : ∀ c ∈ cs.getLast?, c.isDigit = false
  point : ∀ front c, cs = front ++ [c, '.'] → c.isDigit = false

/-- A text that ends plainly and an amount behind it can be told apart. -/
theorem EndsPlainly.append_inj {as bs amount amount' : List Char} (ha : EndsPlainly as)
    (hb : EndsPlainly bs) (hamount : SpellsAmount amount) (hamount' : SpellsAmount amount')
    (h : as ++ amount = bs ++ amount') : as = bs ∧ amount = amount' := by
  have hdigits {ds : List Char} (hd : isNumber ds = true) : ∀ c ∈ ds, c.isDigit = true :=
    ((isNumber_iff ds).mp hd).2
  have hpoint (cs : List Char) : ∀ c ∈ (cs ++ ['.']).getLast?, c.isDigit = false := by
    intro c hc
    rw [List.getLast?_concat, Option.mem_some_iff] at hc
    rw [← hc]
    decide
  have hmixed {xs ys ds es fs : List Char} (hx : EndsPlainly xs) (hd : isNumber ds = true)
      (he : isNumber es = true) (hf : isNumber fs = true)
      (hxy : xs ++ ds = ys ++ (es ++ '.' :: fs)) : False := by
    have hassoc : ys ++ (es ++ '.' :: fs) = (ys ++ es ++ ['.']) ++ fs := by simp
    rw [hassoc] at hxy
    obtain ⟨hxs, -⟩ := append_inj_of_getLast? hxy hx.digit (hpoint _) (hdigits hd) (hdigits hf)
    obtain ⟨front, c, rfl, hc⟩ := exists_concat_of_isNumber he
    have hnot := hx.point (ys ++ front) c (by rw [hxs]; simp)
    rw [hc] at hnot
    cases hnot
  cases hamount with
  | whole hd =>
    cases hamount' with
    | whole he => exact append_inj_of_getLast? h ha.digit hb.digit (hdigits hd) (hdigits he)
    | places he hf => exact (hmixed ha hd he hf h).elim
  | @places ds es hd he =>
    cases hamount' with
    | whole hf => exact (hmixed hb hf hd he h.symm).elim
    | @places fs gs hf hg =>
      have hassoc (xs ys zs : List Char) : xs ++ (ys ++ '.' :: zs) = (xs ++ ys ++ ['.']) ++ zs := by
        simp
      rw [hassoc, hassoc] at h
      obtain ⟨hfront, hplaces⟩ := append_inj_of_getLast? h (hpoint _) (hpoint _) (hdigits he)
        (hdigits hg)
      obtain ⟨hab, hwhole⟩ := append_inj_of_getLast? (List.append_cancel_right hfront) ha.digit
        hb.digit (hdigits hd) (hdigits hf)
      exact ⟨hab, by rw [hwhole, hplaces]⟩

end LotterySlip
