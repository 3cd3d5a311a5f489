import Mathlib.Data.List.Forall2
import LotterySlip.Proofs.Text.Mark
import LotterySlip.Text.Letter

/-! Texts spelled otherwise: large or small, with accents or without, the accents part of their
letters or behind them. Such texts fold to the same, and what stands before a folded character is
spelled otherwise in its turn. -/
namespace LotterySlip.Text

def isLetter (c : Char) : Bool := isLetterOrNumber c && !c.isDigit

structure SameLetter (c d : Char) : Prop where
  left : isLetter c = true
  right : isLetter d = true
  single : (foldChar c).length = 1
  foldChar_eq : foldChar d = foldChar c

instance (c d : Char) : Decidable (SameLetter c d) :=
  decidable_of_iff (isLetter c = true ∧ isLetter d = true ∧ (foldChar c).length = 1 ∧
      foldChar d = foldChar c)
    ⟨fun ⟨hl, hr, hs, he⟩ => ⟨hl, hr, hs, he⟩, fun h => ⟨h.left, h.right, h.single, h.foldChar_eq⟩⟩

theorem SameLetter.exists_foldChar {c d : Char} (h : SameLetter c d) :
    ∃ e, foldChar c = [e] ∧ foldChar d = [e] := by
  obtain ⟨e, he⟩ := List.length_eq_one_iff.mp h.single
  exact ⟨e, he, h.foldChar_eq.trans he⟩

/-- The second text is the first one with some of its letters spelled otherwise, and any marks behind
these. -/
inductive Respelled : List Char → List Char → Prop
  | nil : Respelled [] []
  | keep (c : Char) {l l' : List Char} : Respelled l l' → Respelled (c :: l) (c :: l')
  | vary {c d : Char} {marks l l' : List Char} : SameLetter c d → (∀ m ∈ marks, isMark m = true) →
      Respelled l l' → Respelled (c :: l) (d :: (marks ++ l'))

theorem isBlank_of_isLetter {c : Char} (h : isLetter c = true) : isBlank c = false :=
  not_isBlank_of (p := isLetter) (by decide +kernel) h

theorem isDigit_of_isLetter {c : Char} (h : isLetter c = true) : c.isDigit = false := by
  rw [isLetter, Bool.and_eq_true, Bool.not_eq_true'] at h
  exact h.2

/-- Before the accented letters there are no other capitals than those from `A` to `Z`. -/
theorem lower_eq_asciiLower {c : Char} (h : c.toNat < 0xC0) : lower c = asciiLower c := by
  have hrest : ∀ r ∈ caseRuns.tail, 0xC0 ≤ r.first := by decide +kernel
  have hnone : (caseRuns.tail.findSome? fun r => r.lower? c.toNat) = none := by
    rw [List.findSome?_eq_none_iff]
    intro r hr
    have := hrest r hr
    rw [CaseRun.lower?, if_neg (by omega)]
  have hruns : caseRuns = ⟨0x41, 0x5A, 1, 0x61⟩ :: caseRuns.tail := rfl
  have hcapital : 'A' ≤ c ∧ c ≤ 'Z' ↔ 0x41 ≤ c.toNat ∧ c.toNat ≤ 0x5A := Iff.rfl
  rw [lower, hruns, List.findSome?_cons, hnone, CaseRun.lower?, asciiLower]
  simp only [hcapital, Nat.mod_one, and_true]
  split_ifs with hc
  · exact congrArg Char.ofNat (by omega)
  · rfl

theorem fold_of_forall_isMark {marks : List Char} (h : ∀ m ∈ marks, isMark m = true) :
    fold marks = [] := by
  rw [fold, List.flatMap_eq_nil_iff]
  exact fun m hm => foldChar_of_isMark (h m hm)

theorem glyphsFrom_of_forall_isMark {marks : List Char} (h : ∀ m ∈ marks, isMark m = true) (i : Nat) :
    glyphsFrom i marks = [] := by
  rw [← List.length_eq_zero_iff, length_glyphsFrom, fold_of_forall_isMark h, List.length_nil]

/-- The blanks at the end are cut off behind a character that is not blank. -/
theorem rdropWhile_isBlank_cons (c : Char) (cs : List Char) :
    (c :: cs).rdropWhile isBlank =
      if isBlank c = true ∧ cs.rdropWhile isBlank = [] then [] else c :: cs.rdropWhile isBlank := by
  simp only [List.rdropWhile, List.reverse_cons, List.dropWhile_append, List.isEmpty_iff,
    List.reverse_eq_nil_iff]
  by_cases he : cs.reverse.dropWhile isBlank = [] <;> by_cases hc : isBlank c = true <;>
    simp [he, hc]

theorem rdropWhile_isBlank_append (front cs : List Char) (h : ∀ c ∈ front, isBlank c = false) :
    (front ++ cs).rdropWhile isBlank = front ++ cs.rdropWhile isBlank := by
  induction front with
  | nil => rfl
  | cons c front ih =>
    rw [List.cons_append, rdropWhile_isBlank_cons, ih fun d hd => h d (List.mem_cons_of_mem c hd),
      if_neg (by simp [h c List.mem_cons_self]), List.cons_append]

namespace Respelled

variable {l l' m m' : List Char}

theorem refl (l : List Char) : Respelled l l := by
  induction l with
  | nil => exact nil
  | cons c l ih => exact keep c ih

/-- A letter may be replaced with no marks behind. -/
theorem replace {c d : Char} (hc : SameLetter c d) (h : Respelled l l') :
    Respelled (c :: l) (d :: l') := by
  have hnone : ∀ m ∈ ([] : List Char), isMark m = true := by simp
  exact vary hc hnone h

theorem append (h : Respelled l l') (hm : Respelled m m') : Respelled (l ++ m) (l' ++ m') := by
  induction h with
  | nil => exact hm
  | keep c _ ih => exact keep c ih
  | vary hc hmarks _ ih =>
    rw [List.cons_append, List.cons_append, List.append_assoc]
    exact vary hc hmarks ih

theorem eq_nil_iff (h : Respelled l l') : l' = [] ↔ l = [] := by
  cases h <;> simp

theorem fold_eq (h : Respelled l l') : fold l' = fold l := by
  induction h with
  | nil => rfl
  | keep c _ ih => rw [fold_cons, fold_cons, ih]
  | vary hc hmarks _ ih =>
    rw [fold_cons, fold_cons, fold_append, fold_of_forall_isMark hmarks, hc.foldChar_eq, ih,
      List.nil_append]

theorem foldKey_eq (h : Respelled l l') : foldKey l' = foldKey l := by
  rw [foldKey, h.fold_eq, ← foldKey]

theorem dropWhile (h : Respelled l l') :
    Respelled (l.dropWhile isBlank) (l'.dropWhile isBlank) := by
  induction h with
  | nil => exact nil
  | keep c h ih =>
    rw [List.dropWhile_cons, List.dropWhile_cons]
    split
    · exact ih
    · exact keep c h
  | vary hc hmarks h _ =>
    rw [List.dropWhile_cons_of_neg (by simp [isBlank_of_isLetter hc.left]),
      List.dropWhile_cons_of_neg (by simp [isBlank_of_isLetter hc.right])]
    exact vary hc hmarks h

theorem rdropWhile (h : Respelled l l') :
    Respelled (l.rdropWhile isBlank) (l'.rdropWhile isBlank) := by
  induction h with
  | nil => exact nil
  | keep c _ ih =>
    simp only [rdropWhile_isBlank_cons, ih.eq_nil_iff]
    split
    · exact nil
    · exact keep c ih
  | @vary c d marks l l' hc hmarks _ ih =>
    have hl : (c :: l).rdropWhile isBlank = c :: l.rdropWhile isBlank :=
      rdropWhile_isBlank_append [c] l (by simpa using isBlank_of_isLetter hc.left)
    have hr : (d :: (marks ++ l')).rdropWhile isBlank = d :: (marks ++ l'.rdropWhile isBlank) :=
      rdropWhile_isBlank_append (d :: marks) l'
        (by simpa [isBlank_of_isLetter hc.right] using fun m hm => isBlank_of_isMark (hmarks m hm))
    rw [hl, hr]
    exact vary hc hmarks ih

theorem trim (h : Respelled l l') : Respelled (trim l) (trim l') := h.dropWhile.rdropWhile

end Respelled

/-- A folded character of a text and one of the text spelled otherwise: they are the same, and they
part the two texts at the same place. -/
structure GlyphAlike (l l' : List Char) (g g' : Glyph) : Prop where
  char : g'.char = g.char
  front : Respelled (l.take g.source) (l'.take g'.source)

theorem Respelled.forall₂_glyphsFrom {front front' l l' : List Char} (hf : Respelled front front')
    (h : Respelled l l') : List.Forall₂ (GlyphAlike (front ++ l) (front' ++ l'))
      (glyphsFrom front.length l) (glyphsFrom front'.length l') := by
  induction h generalizing front front' with
  | nil => exact .nil
  | @keep c l l' h ih =>
    have hrest := ih (hf.append (.keep c .nil))
    simp only [List.append_assoc, List.singleton_append, List.length_append, List.length_singleton]
      at hrest
    refine List.rel_append ?_ hrest
    rw [List.forall₂_map_left_iff, List.forall₂_map_right_iff, List.forall₂_same]
    exact fun e _ => ⟨rfl, by simpa using hf⟩
  | @vary c d marks l l' hc hmarks h ih =>
    obtain ⟨e, hl, hr⟩ := hc.exists_foldChar
    have hvaried : Respelled [c] (d :: marks) := by simpa using vary hc hmarks .nil
    have hrest := ih (hf.append hvaried)
    simp only [List.append_assoc, List.length_append, List.length_cons, List.cons_append] at hrest
    have hlength : front'.length + 1 + marks.length = front'.length + (marks.length + 1) := by omega
    rw [glyphsFrom, glyphsFrom, hl, hr, glyphsFrom_append, glyphsFrom_of_forall_isMark hmarks,
      hlength]
    exact .cons ⟨rfl, by simpa using hf⟩ hrest

theorem Respelled.forall₂_glyphs {l l' : List Char} (h : Respelled l l') :
    List.Forall₂ (GlyphAlike l l') (glyphs l) (glyphs l') := Respelled.nil.forall₂_glyphsFrom h

end LotterySlip.Text
