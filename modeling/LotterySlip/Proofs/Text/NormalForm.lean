import Mathlib.Data.List.Chain
import LotterySlip.Proofs.Text.Stable

/-! The key of a text is a normal form of it. Texts that differ in how they are composed, in their
marks or in the blanks between their words have one key, and a key is its own key. -/
namespace LotterySlip.Text

/-- A mark goes behind the marks after it that have smaller combining classes. Characters of class 0
stay where they are and let none pass. -/
def insertMark (cls : Char → Nat) (c : Char) : List Char → List Char
  | [] => [c]
  | d :: ds => if 0 < cls d ∧ cls d < cls c then d :: insertMark cls c ds else c :: d :: ds

def canonicalOrder (cls : Char → Nat) (cs : List Char) : List Char := cs.foldr (insertMark cls) []

def decomposeText (cls : Char → Nat) (cs : List Char) : List Char :=
  canonicalOrder cls (cs.flatMap decompose)

def Ordered (cls : Char → Nat) (c d : Char) : Prop := cls d = 0 ∨ cls c ≤ cls d

theorem head?_insertMark (cls : Char → Nat) (c : Char) (ds : List Char) :
    ∀ e ∈ (insertMark cls c ds).head?, e = c ∨ e ∈ ds.head? := by
  intro e he
  cases ds with
  | nil => exact Or.inl (by simpa [insertMark, eq_comm] using he)
  | cons d ds =>
    rw [insertMark] at he
    split at he
    · exact Or.inr he
    · exact Or.inl (by simpa [eq_comm] using he)

theorem isChain_insertMark (cls : Char → Nat) (c : Char) {ds : List Char}
    (h : ds.IsChain (Ordered cls)) : (insertMark cls c ds).IsChain (Ordered cls) := by
  induction ds with
  | nil => exact .singleton c
  | cons d ds ih =>
    rw [insertMark]
    split
    · next hlt =>
      rw [List.isChain_cons] at h ⊢
      refine ⟨fun e he => ?_, ih h.2⟩
      rcases head?_insertMark cls c ds e he with rfl | he
      · exact Or.inr hlt.2.le
      · exact h.1 e he
    · next hge =>
      have hpair : Ordered cls c d := by
        rw [Ordered]
        omega
      exact List.isChain_cons_cons.mpr ⟨hpair, h⟩

/-- In canonical order no mark stands behind one of a greater class. -/
theorem isChain_canonicalOrder (cls : Char → Nat) (cs : List Char) :
    (canonicalOrder cls cs).IsChain (Ordered cls) := by
  induction cs with
  | nil => exact .nil
  | cons c cs ih => exact isChain_insertMark cls c ih

theorem fold_insertMark {cls : Char → Nat} (hcls : ∀ c, 0 < cls c → isMark c = true) (c : Char)
    (ds : List Char) : fold (insertMark cls c ds) = fold (c :: ds) := by
  induction ds with
  | nil => rfl
  | cons d ds ih =>
    rw [insertMark]
    split
    · next hlt =>
      have hc : foldChar c = [] := foldChar_of_isMark (hcls c (by omega))
      rw [fold_cons, ih, fold_cons, fold_cons, fold_cons, hc, List.nil_append, List.nil_append]
    · rfl

theorem fold_canonicalOrder {cls : Char → Nat} (hcls : ∀ c, 0 < cls c → isMark c = true)
    (cs : List Char) : fold (canonicalOrder cls cs) = fold cs := by
  induction cs with
  | nil => rfl
  | cons c cs ih =>
    have hstep : canonicalOrder cls (c :: cs) = insertMark cls c (canonicalOrder cls cs) := rfl
    rw [hstep, fold_insertMark hcls, fold_cons, ih, ← fold_cons]

theorem fold_flatMap_decompose (cs : List Char) : fold (cs.flatMap decompose) = fold cs := by
  induction cs with
  | nil => rfl
  | cons c cs ih => rw [List.flatMap_cons, fold_append, fold_decompose, ih, fold_cons]

def withoutMarks (cs : List Char) : List Char := cs.filter fun c => !isMark c

theorem fold_withoutMarks (cs : List Char) : fold (withoutMarks cs) = fold cs := by
  induction cs with
  | nil => rfl
  | cons c cs ih =>
    rw [withoutMarks] at ih ⊢
    by_cases hc : isMark c = true
    · rw [List.filter_cons_of_neg (by simp [hc]), ih, fold_cons, foldChar_of_isMark hc,
        List.nil_append]
    · rw [List.filter_cons_of_pos (by simp [hc]), fold_cons, ih, fold_cons]

/-- Between two blanks stand words of the one and of the other side, whatever the blanks are. -/
theorem words_append_blanks (front back : List Char) {blanks : List Char} (hne : blanks ≠ [])
    (hb : isBlankText blanks = true) :
    words (front ++ blanks ++ back) = words front ++ words back := by
  obtain ⟨b, bs, rfl⟩ := List.exists_cons_of_ne_nil hne
  rw [isBlankText, List.all_cons, Bool.and_eq_true] at hb
  rw [List.append_assoc, List.cons_append, words, pieces_append_cons isBlank front b _ hb.1, ← words,
    ← words, words_append_left bs back hb.2]

theorem fold_ne_nil_of_isBlankText {blanks : List Char} (hne : blanks ≠ [])
    (hb : isBlankText blanks = true) : fold blanks ≠ [] := by
  obtain ⟨b, bs, rfl⟩ := List.exists_cons_of_ne_nil hne
  rw [isBlankText, List.all_cons, Bool.and_eq_true] at hb
  have hfold : foldChar b ≠ [] :=
    of_isBlank (p := fun c => foldChar c ≠ []) (by decide +kernel) hb.1
  rw [fold_cons]
  exact List.append_ne_nil_of_left_ne_nil hfold _

theorem words_fold_append_blanks (front back : List Char) {blanks : List Char} (hne : blanks ≠ [])
    (hb : isBlankText blanks = true) :
    words (fold (front ++ blanks ++ back)) = words (fold front) ++ words (fold back) := by
  rw [fold_append, fold_append]
  exact words_append_blanks _ _ (fold_ne_nil_of_isBlankText hne hb) (isBlankText_fold hb)

/-- A text that can be a key: all in folded letters, one space between its words and none around
them. -/
structure IsKey (key : List Char) : Prop where
  foldChar_eq : ∀ c ∈ key, foldChar c = [c]
  blank_eq : ∀ c ∈ key, isBlank c = true → c = ' '
  head : ∀ c ∈ key.head?, isBlank c = false
  last : ∀ c ∈ key.getLast?, isBlank c = false
  single : ¬[' ', ' '] <:+: key

theorem of_mem_foldKey {c : Char} {cs : List Char} (h : c ∈ foldKey cs) :
    c = ' ' ∨ (c ∈ fold cs ∧ isBlank c = false) := by
  by_contra hn
  rw [not_or] at hn
  refine absurd h (notMem_intercalate (by simpa using hn.1) fun word hword hc => ?_)
  exact hn.2 ⟨mem_of_mem_words hword c hc, isBlank_of_mem_words hword c hc⟩

/-- A text that does not begin with a blank is one word, or a word and a blank and what follows. -/
theorem words_cons_cases (c : Char) (cs : List Char) (hc : isBlank c = false) :
    words (c :: cs) = [c :: cs] ∨ ∃ word b rest, c :: cs = word ++ b :: rest ∧ word ≠ [] ∧
      isBlank b = true ∧ words (c :: cs) = word :: words rest := by
  obtain ⟨word, rest, he, hne, hword, hrest⟩ := exists_piece_append isBlank c cs hc
  have hw : words (word ++ rest) = word :: words rest :=
    pieces_append_of_head? isBlank word rest hne hword hrest
  cases rest with
  | nil =>
    left
    rw [he, hw, List.append_nil]
    rfl
  | cons b rest =>
    have hb : isBlank b = true := hrest b rfl
    have hwb : words (b :: rest) = words rest := pieces_cons isBlank b rest hb
    rw [← he, hwb] at hw
    exact Or.inr ⟨word, b, rest, he, hne, hb, hw⟩

/-- The words of a text with single spaces between take no more room than the text. -/
theorem length_unwords_words_le (cs : List Char) : (unwords (words cs)).length ≤ cs.length := by
  induction hn : cs.length using Nat.strong_induction_on generalizing cs with
  | _ n ih =>
    subst hn
    cases cs with
    | nil => exact Nat.zero_le _
    | cons c cs =>
      by_cases hc : isBlank c = true
      · have hw : words (c :: cs) = words cs := pieces_cons isBlank c cs hc
        rw [hw]
        exact (ih cs.length (Nat.lt_succ_self _) cs rfl).trans (Nat.le_succ _)
      rcases words_cons_cases c cs (Bool.not_eq_true _ ▸ hc) with hw | ⟨word, b, rest, he, -, -, hw⟩
      · rw [hw, unwords_singleton]
      · have hlen : (c :: cs).length = word.length + (rest.length + 1) := by
          rw [he, List.length_append, List.length_cons]
        have hle := ih rest.length (by omega) rest rfl
        rw [hw, hlen]
        cases hws : words rest with
        | nil =>
          rw [unwords_singleton]
          exact Nat.le_add_right _ _
        | cons v ws =>
          rw [hws] at hle
          rw [unwords_cons_cons, List.length_append, List.length_cons]
          omega

theorem foldChar_of_mem_foldKey {c : Char} {cs : List Char} (h : c ∈ foldKey cs) :
    foldChar c = [c] := by
  rcases of_mem_foldKey h with rfl | ⟨hc, -⟩
  · exact foldChar_of_lt_capital (by decide)
  · obtain ⟨d, -, hd⟩ := List.mem_flatMap.mp hc
    exact foldChar_of_mem_foldChar hd

theorem foldKey_foldKey (cs : List Char) : foldKey (foldKey cs) = foldKey cs := by
  have hfold : fold (foldKey cs) = foldKey cs := fold_eq_self fun _ hc => foldChar_of_mem_foldKey hc
  rw [foldKey, hfold, foldKey, words_unwords_words]

/-- No shorter text has the words of a key. -/
theorem length_foldKey_le {cs key : List Char} (h : words cs = words (foldKey key)) :
    (foldKey key).length ≤ cs.length := by
  have hkey : unwords (words (foldKey key)) = foldKey key := by
    rw [foldKey, words_unwords_words]
  rw [← hkey, ← h]
  exact length_unwords_words_le cs

theorem isKey_foldKey (cs : List Char) : IsKey (foldKey cs) where
  foldChar_eq _ hc := foldChar_of_mem_foldKey hc
  blank_eq c hc hb := by
    rcases of_mem_foldKey hc with rfl | ⟨-, hn⟩
    · rfl
    · rw [hn] at hb
      cases hb
  head c hc := isBlank_of_mem_head?_foldKey hc
  last c hc := by
    rw [← Bool.not_eq_true]
    intro hb
    obtain ⟨front, hfront⟩ := List.getLast?_eq_some_iff.mp hc
    -- The text before the blank would have the same words and be shorter.
    have hwords := words_append_right front [c] (by simpa [isBlankText] using hb)
    have hle := length_foldKey_le (hwords.symm.trans (congrArg words hfront.symm))
    rw [hfront, List.length_append, List.length_singleton] at hle
    omega
  single h := by
    obtain ⟨front, back, hkey⟩ := h
    have hblank : isBlankText [' '] = true ∧ isBlankText [' ', ' '] = true := by decide
    have htwo := words_append_blanks front back (List.cons_ne_nil ' ' [' ']) hblank.2
    have hone := words_append_blanks front back (List.cons_ne_nil ' ' []) hblank.1
    have hle := length_foldKey_le (hone.trans (htwo.symm.trans (congrArg words hkey)))
    rw [← hkey] at hle
    simp only [List.length_append, List.length_cons, List.length_nil] at hle
    omega

/-- A character that folds to itself is no mark. -/
theorem isMark_of_foldChar_eq {c : Char} (h : foldChar c = [c]) : isMark c = false := by
  rw [← Bool.not_eq_true]
  intro hm
  rw [foldChar_of_isMark hm] at h
  cases h

/-- A text whose blanks are single spaces between words is made up of its words. -/
theorem unwords_words_eq_self {cs : List Char} (hblank : ∀ c ∈ cs, isBlank c = true → c = ' ')
    (hhead : ∀ c ∈ cs.head?, isBlank c = false) (hlast : ∀ c ∈ cs.getLast?, isBlank c = false)
    (hsingle : ¬[' ', ' '] <:+: cs) : unwords (words cs) = cs := by
  induction hn : cs.length using Nat.strong_induction_on generalizing cs with
  | _ n ih =>
    subst hn
    cases cs with
    | nil => rfl
    | cons c cs =>
      rcases words_cons_cases c cs (hhead c rfl) with hw | ⟨word, b, rest, he, -, hb, hw⟩
      · rw [hw, unwords_singleton]
      rw [hw]
      rw [he] at hblank hlast hsingle ih ⊢
      obtain rfl : b = ' ' := hblank b (by simp) hb
      have hrne : rest ≠ [] := by
        rintro rfl
        exact absurd (hlast ' ' (by simp)) (by decide)
      have hafter : ∀ d ∈ rest.head?, isBlank d = false := by
        intro d hd
        rw [← Bool.not_eq_true]
        intro hblankd
        obtain ⟨ds, hds⟩ := List.head?_eq_some_iff.mp hd
        obtain rfl : d = ' ' := hblank d (by simp [hds]) hblankd
        exact hsingle ⟨word, ds, by simp [hds]⟩
      have hend : (word ++ ' ' :: rest).getLast? = rest.getLast? := by
        rw [List.getLast?_append_of_ne_nil _ (List.cons_ne_nil _ _),
          List.getLast?_cons_of_ne_nil hrne]
      have hinside : rest <:+: word ++ ' ' :: rest := ⟨word ++ [' '], [], by simp⟩
      have hrest : unwords (words rest) = rest := by
        refine ih rest.length ?_ (fun d hd => hblank d (hinside.subset hd)) hafter (hend ▸ hlast)
          (fun h => hsingle (h.trans hinside)) rfl
        rw [List.length_append, List.length_cons]
        omega
      cases hws : words rest with
      | nil =>
        rw [hws] at hrest
        exact absurd hrest.symm hrne
      | cons v ws => rw [unwords_cons_cons, ← hws, hrest]

/-- The keys are the texts that are their own keys. -/
theorem isKey_iff (key : List Char) : IsKey key ↔ foldKey key = key := by
  constructor
  · intro h
    rw [foldKey, fold_eq_self h.foldChar_eq,
      unwords_words_eq_self h.blank_eq h.head h.last h.single]
  · intro h
    rw [← h]
    exact isKey_foldKey key

/-- The key of a text is its own key, and the texts that are their own keys are those in folded
letters, without marks, with no blanks but single spaces inside. The canonical decomposition of the
text, in which no mark stands behind one of a greater class, has the same key for any combining
classes that are given to marks alone, as has the text with other marks and with other blanks at the
same places. -/
theorem foldKey_normalForm {cls : Char → Nat} (hcls : ∀ c, 0 < cls c → isMark c = true)
    (cs : List Char) :
    foldKey (foldKey cs) = foldKey cs ∧
      ((decomposeText cls cs).IsChain (Ordered cls) ∧
        foldKey (decomposeText cls cs) = foldKey cs) ∧
      (∀ ds, withoutMarks ds = withoutMarks cs → foldKey ds = foldKey cs) ∧
      (∀ front blanks blanks' back, cs = front ++ blanks ++ back →
        blanks ≠ [] → isBlankText blanks = true → blanks' ≠ [] → isBlankText blanks' = true →
          foldKey (front ++ blanks' ++ back) = foldKey cs) ∧
      IsKey (foldKey cs) ∧ (IsKey cs ↔ foldKey cs = cs) ∧ ∀ c ∈ foldKey cs, isMark c = false := by
  refine ⟨foldKey_foldKey cs, ⟨isChain_canonicalOrder cls _, ?_⟩, fun ds hds => ?_, ?_,
    isKey_foldKey cs, isKey_iff cs,
    fun c hc => isMark_of_foldChar_eq (foldChar_of_mem_foldKey hc)⟩
  · rw [foldKey, decomposeText, fold_canonicalOrder hcls, fold_flatMap_decompose, ← foldKey]
  · rw [foldKey, ← fold_withoutMarks, hds, fold_withoutMarks, ← foldKey]
  · rintro front blanks blanks' back rfl hne hb hne' hb'
    rw [foldKey, foldKey, words_fold_append_blanks front back hne hb,
      words_fold_append_blanks front back hne' hb']

def vietnameseClass (c : Char) : Nat :=
  if c.toNat = 0x323 then 220
  else if c.toNat = 0x31B then 216
  else if c.toNat ∈ [0x300, 0x301, 0x302, 0x303, 0x306, 0x309] then 230
  else 0

theorem isMark_of_vietnameseClass {c : Char} (h : 0 < vietnameseClass c) : isMark c = true := by
  have hmarks : ∀ n ∈ [0x323, 0x31B, 0x300, 0x301, 0x302, 0x303, 0x306, 0x309],
      isMark (Char.ofNat n) = true := by decide +kernel
  have hmem : c.toNat ∈ [0x323, 0x31B, 0x300, 0x301, 0x302, 0x303, 0x306, 0x309] := by
    by_contra hn
    simp only [List.mem_cons, List.not_mem_nil, or_false, not_or] at hn
    simp [vietnameseClass, hn] at h
  rw [← Char.ofNat_toNat c]
  exact hmarks _ hmem

theorem foldKey_normalForm_vietnamese :
    decomposeText vietnameseClass "Đ\u0302\u0323 ộ".toList = "Đ\u0323\u0302 o\u0323\u0302".toList ∧
      foldKey "Đ\u0323\u0302 o\u0323\u0302".toList = foldKey "Đ\u0302\u0323 ộ".toList ∧
      foldKey "Đ ộ".toList = foldKey "Đ\u0302\u0323 ộ".toList ∧
      foldKey "Đ\u0302\u0323\t\u00A0ộ".toList = foldKey "Đ\u0302\u0323 ộ".toList ∧
      foldKey "Đ\u0302\u0323 ộ".toList = "d o".toList := by
  obtain ⟨-, ⟨-, hform⟩, hmarks, hblanks, -⟩ :=
    foldKey_normalForm @isMark_of_vietnameseClass "Đ\u0302\u0323 ộ".toList
  have hd : decomposeText vietnameseClass "Đ\u0302\u0323 ộ".toList =
      "Đ\u0323\u0302 o\u0323\u0302".toList := by decide +kernel
  have hjoin : "Đ\u0302\u0323".toList ++ "\t\u00A0".toList ++ "ộ".toList =
      "Đ\u0302\u0323\t\u00A0ộ".toList := by decide +kernel
  have htab := hblanks "Đ\u0302\u0323".toList " ".toList "\t\u00A0".toList "ộ".toList
    (by decide +kernel) (by decide) (by decide +kernel) (by decide) (by decide +kernel)
  rw [hd] at hform
  rw [hjoin] at htab
  exact ⟨hd, hform, hmarks "Đ ộ".toList (by decide +kernel), htab, by decide +kernel⟩

end LotterySlip.Text
