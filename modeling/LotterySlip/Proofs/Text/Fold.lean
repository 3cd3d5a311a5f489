import LotterySlip.Proofs.Text.Blank
import LotterySlip.Proofs.Text.Digits
import LotterySlip.Text.Fold

/-! Folding acts on every character by itself. Digits, points and small letters without marks stay
as they are, and blanks stay blank. -/
namespace LotterySlip.Text

theorem runValue?_eq_none {α : Type} {rows : List (Nat × List α)} {n : Nat}
    (h : ∀ row ∈ rows, n < row.1) : runValue? rows n = none := by
  rw [runValue?, List.findSome?_eq_none_iff]
  intro row hr
  rw [if_neg (Nat.not_le.mpr (h row hr))]

/-- The tables begin behind the characters with one byte and the first symbols behind them. -/
theorem decompose_of_lt {c : Char} (h : c.toNat < 0xC0) : decompose c = [c] := by
  have hl : ∀ row ∈ Decomposition.letters, 0xC0 ≤ row.1 := by decide +kernel
  have hi : ∀ row ∈ Decomposition.ideographs, 0xC0 ≤ row.1 := by decide +kernel
  have hs : Decomposition.syllable? c.toNat = none := by
    rw [Decomposition.syllable?, if_neg (by omega)]
  rw [decompose, Decomposition.codePoints?,
    runValue?_eq_none fun row hr => Nat.lt_of_lt_of_le h (hl row hr), hs,
    runValue?_eq_none fun row hr => Nat.lt_of_lt_of_le h (hi row hr)]
  rfl

theorem isMark_of_lt {c : Char} (h : c.toNat < 0x300) : isMark c = false := by
  have hr : ∀ range ∈ markRanges, 0x300 ≤ range.1 := by decide +kernel
  rw [isMark, List.any_eq_false]
  intro range hm
  have := hr range hm
  simp only [Bool.and_eq_true, decide_eq_true_eq, not_and]
  omega

theorem foldChar_of_lt {c : Char} (h : c.toNat < 0xC0) : foldChar c = [lower c] := by
  have hb : unbar c = c := by
    rw [unbar, if_neg]
    rintro (rfl | rfl) <;> simp at h
  rw [foldChar, decompose_of_lt h]
  simp [isMark_of_lt (Nat.lt_of_lt_of_le h (by decide) : c.toNat < 0x300), hb]

theorem lower_of_lt {c : Char} (h : c.toNat < 0x41) : lower c = c := by
  have hr : ∀ r ∈ caseRuns, 0x41 ≤ r.first := by decide +kernel
  have hn : (caseRuns.findSome? fun r => r.lower? c.toNat) = none := by
    rw [List.findSome?_eq_none_iff]
    intro r hm
    have := hr r hm
    rw [CaseRun.lower?, if_neg (by omega)]
  rw [lower, hn]

/-- Blanks, digits and points stay as they are. -/
theorem foldChar_of_lt_capital {c : Char} (h : c.toNat < 0x41) : foldChar c = [c] := by
  rw [foldChar_of_lt (Nat.lt_of_lt_of_le h (by decide)), lower_of_lt h]

theorem foldChar_of_isDigit {c : Char} (h : c.isDigit = true) : foldChar c = [c] := by
  have := (isDigit_iff c).mp h
  exact foldChar_of_lt_capital (by omega)

def blankCodes : List Nat :=
  [0x9, 0xA, 0xB, 0xC, 0xD, 0x20, 0x85, 0xA0, 0x1680, 0x2000, 0x2001, 0x2002, 0x2003, 0x2004, 0x2005,
    0x2006, 0x2007, 0x2008, 0x2009, 0x200A, 0x2028, 0x2029, 0x202F, 0x205F, 0x3000]

theorem toNat_mem_blankCodes {c : Char} (h : isBlank c = true) : c.toNat ∈ blankCodes := by
  simp only [isBlank, Bool.or_eq_true, Bool.and_eq_true, decide_eq_true_eq, beq_iff_eq] at h
  simp only [blankCodes, List.mem_cons, List.not_mem_nil, or_false]
  omega

theorem of_isBlank {p : Char → Prop} (h : ∀ n ∈ blankCodes, p (Char.ofNat n)) {c : Char}
    (hc : isBlank c = true) : p c := by
  have hn := h c.toNat (toNat_mem_blankCodes hc)
  rwa [Char.ofNat_toNat] at hn

theorem not_isBlank_of {p : Char → Bool} (h : ∀ n ∈ blankCodes, p (Char.ofNat n) = false) {c : Char}
    (hc : p c = true) : isBlank c = false := by
  rw [← Bool.not_eq_true]
  intro hb
  have hp : p c = false := of_isBlank (p := fun c => p c = false) h hb
  rw [hp] at hc
  cases hc

/-- A blank folds to blanks; some decompose into others. -/
theorem isBlankText_foldChar {c : Char} (h : isBlank c = true) :
    isBlankText (foldChar c) = true :=
  of_isBlank (p := fun c => isBlankText (foldChar c) = true) (by decide +kernel) h

theorem fold_cons (c : Char) (cs : List Char) : fold (c :: cs) = foldChar c ++ fold cs := rfl

theorem fold_append (as bs : List Char) : fold (as ++ bs) = fold as ++ fold bs :=
  List.flatMap_append

theorem fold_prefix_fold {as bs : List Char} (h : as <+: bs) : fold as <+: fold bs := by
  obtain ⟨back, rfl⟩ := h
  rw [fold_append]
  exact List.prefix_append _ _

theorem fold_eq_self {cs : List Char} (h : ∀ c ∈ cs, foldChar c = [c]) : fold cs = cs := by
  induction cs with
  | nil => rfl
  | cons c cs ih =>
    rw [fold_cons, h c List.mem_cons_self, ih fun d hd => h d (List.mem_cons_of_mem c hd)]
    rfl

theorem isBlankText_fold {cs : List Char} (h : isBlankText cs = true) :
    isBlankText (fold cs) = true := by
  rw [isBlankText_iff] at h ⊢
  intro d hd
  obtain ⟨c, hc, hdc⟩ := List.mem_flatMap.mp hd
  exact (isBlankText_iff _).mp (isBlankText_foldChar (h c hc)) d hdc

theorem words_fold_trim (cs : List Char) : words (fold (trim cs)) = words (fold cs) := by
  obtain ⟨front, back, hf, hb, hcs⟩ := exists_append_trim cs
  have hfold : fold cs = fold front ++ fold (trim cs) ++ fold back := by
    rw [← fold_append, ← fold_append, ← hcs]
  rw [hfold, words_append_right _ _ (isBlankText_fold hb),
    words_append_left _ _ (isBlankText_fold hf)]

theorem foldKey_trim (cs : List Char) : foldKey (trim cs) = foldKey cs := by
  rw [foldKey, words_fold_trim, ← foldKey]

/-- A key begins with the first character of the folded text that is not blank. -/
theorem head?_foldKey (cs : List Char) :
    (foldKey cs).head? = (fold cs).find? fun c => !isBlank c :=
  head?_unwords_words (fold cs)

/-- A text without blanks, marks and capitals is its own key. -/
theorem foldKey_eq_self {cs : List Char} (hf : ∀ c ∈ cs, foldChar c = [c])
    (hb : ∀ c ∈ cs, isBlank c = false) : foldKey cs = cs := by
  cases cs with
  | nil => rfl
  | cons c cs =>
    rw [foldKey, fold_eq_self hf, words, pieces_of_forall_not isBlank _ (List.cons_ne_nil c cs) hb,
      unwords_singleton]

theorem mem_fold_of_mem {c : Char} {cs : List Char} (hf : foldChar c = [c]) (hc : c ∈ cs) :
    c ∈ fold cs :=
  List.mem_flatMap.mpr ⟨c, hc, hf ▸ List.mem_singleton_self c⟩

theorem mem_foldKey_of_mem_fold {c : Char} {cs : List Char} (hb : isBlank c = false)
    (hc : c ∈ fold cs) : c ∈ foldKey cs := by
  obtain ⟨word, hword, hm⟩ := exists_mem_pieces hc hb
  exact mem_intercalate hword hm

theorem mem_foldKey_of_mem {c : Char} {cs : List Char} (hf : foldChar c = [c])
    (hb : isBlank c = false) (hc : c ∈ cs) : c ∈ foldKey cs :=
  mem_foldKey_of_mem_fold hb (mem_fold_of_mem hf hc)

theorem isBlank_of_mem_head?_foldKey {c : Char} {cs : List Char} (h : c ∈ (foldKey cs).head?) :
    isBlank c = false := by
  rw [head?_foldKey] at h
  simpa using List.find?_some h

/-- A key stands on one line. -/
theorem newline_notMem_foldKey (cs : List Char) : '\n' ∉ foldKey cs := by
  apply notMem_intercalate (by decide)
  intro word hw hn
  exact absurd (isBlank_of_mem_words hw '\n' hn) (by decide)

theorem map_char_glyphsFrom (i : Nat) (cs : List Char) :
    (glyphsFrom i cs).map Glyph.char = fold cs := by
  induction cs generalizing i with
  | nil => rfl
  | cons c cs ih =>
    rw [glyphsFrom, List.map_append, List.map_map, ih, fold_cons]
    congr 1
    exact List.map_id _

theorem glyphsFrom_append (i : Nat) (as bs : List Char) :
    glyphsFrom i (as ++ bs) = glyphsFrom i as ++ glyphsFrom (i + as.length) bs := by
  induction as generalizing i with
  | nil => rfl
  | cons a as ih =>
    rw [List.cons_append, glyphsFrom, glyphsFrom, ih, List.append_assoc, List.length_cons]
    congr 3
    omega

theorem length_glyphsFrom (i : Nat) (cs : List Char) :
    (glyphsFrom i cs).length = (fold cs).length := by
  rw [← map_char_glyphsFrom i cs, List.length_map]

theorem le_source_of_mem_glyphsFrom {i : Nat} {cs : List Char} {g : Glyph}
    (h : g ∈ glyphsFrom i cs) : i ≤ g.source := by
  induction cs generalizing i with
  | nil => cases h
  | cons c cs ih =>
    rcases List.mem_append.mp h with h | h
    · obtain ⟨d, -, rfl⟩ := List.mem_map.mp h
      exact le_rfl
    · exact Nat.le_of_succ_le (ih h)

/-- What is folded behind a part of the text comes from behind it. -/
theorem prefix_take_source {front rest : List Char} {i : Nat} {g : Glyph}
    (h : (glyphs (front ++ rest))[i]? = some g) (hi : (fold front).length ≤ i) :
    front <+: (front ++ rest).take g.source := by
  rw [glyphs, glyphsFrom_append, Nat.zero_add,
    List.getElem?_append_right (by rwa [length_glyphsFrom])] at h
  obtain ⟨k, hk⟩ := Nat.exists_eq_add_of_le (le_source_of_mem_glyphsFrom (List.mem_of_getElem? h))
  rw [hk, List.take_length_add_append]
  exact List.prefix_append front _

/-- Behind what a text folds to comes the first glyph of the character that follows. -/
theorem getElem?_glyphs_append (as : List Char) (b : Char) (bs : List Char)
    (hb : foldChar b ≠ []) :
    ((glyphs (as ++ b :: bs))[(fold as).length]?).map Glyph.source = some as.length := by
  obtain ⟨d, ds, hd⟩ := List.exists_cons_of_ne_nil hb
  rw [glyphs, glyphsFrom_append, List.getElem?_append_right (by rw [length_glyphsFrom]),
    length_glyphsFrom, Nat.sub_self, glyphsFrom, hd]
  simp

theorem length_glyphs (cs : List Char) : (glyphs cs).length = (fold cs).length :=
  length_glyphsFrom 0 cs

theorem map_char_glyphs (cs : List Char) : (glyphs cs).map Glyph.char = fold cs :=
  map_char_glyphsFrom 0 cs

end LotterySlip.Text
