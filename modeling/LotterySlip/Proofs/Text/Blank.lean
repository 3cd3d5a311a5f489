import Mathlib.Data.List.DropRight
import LotterySlip.Text.Blank

/-! Texts trimmed and cut. Blanks at the ends make no difference to what is left of a text, nor to
its words. -/
namespace LotterySlip.Text

theorem isBlankText_iff (cs : List Char) : isBlankText cs = true ↔ ∀ c ∈ cs, isBlank c = true :=
  List.all_eq_true

theorem isBlankText_of_mem {c : Char} {cs : List Char} (hc : c ∈ cs) (h : isBlank c = false) :
    isBlankText cs = false := by
  rw [← Bool.not_eq_true, isBlankText_iff]
  intro hb
  rw [hb c hc] at h
  cases h

theorem isBlank_of_any_eq_false {cs : List Char} (h : cs.any isBlank = false) :
    ∀ c ∈ cs, isBlank c = false :=
  fun c hc => Bool.eq_false_iff.mpr (List.any_eq_false.mp h c hc)

theorem trim_append_left (front cs : List Char) (h : isBlankText front = true) :
    trim (front ++ cs) = trim cs := by
  rw [trim, List.dropWhile_append_of_pos ((isBlankText_iff front).mp h), ← trim]

theorem trim_append_right (cs back : List Char) (h : isBlankText back = true) :
    trim (cs ++ back) = trim cs := by
  have hb : ∀ c ∈ back.reverse, isBlank c = true := by simpa using (isBlankText_iff back).mp h
  unfold trim
  rw [List.dropWhile_append]
  split
  · next he =>
    have hd : cs.dropWhile isBlank = [] := List.isEmpty_iff.mp he
    have hd' : back.dropWhile isBlank = [] :=
      List.dropWhile_eq_nil_iff.mpr ((isBlankText_iff back).mp h)
    rw [hd, hd']
  · rw [List.reverse_append, List.dropWhile_append_of_pos hb]

/-- A text is its trimmed middle with blanks around it. -/
theorem exists_append_trim (cs : List Char) : ∃ front back, isBlankText front = true ∧
    isBlankText back = true ∧ cs = front ++ trim cs ++ back := by
  refine ⟨cs.takeWhile isBlank, (cs.dropWhile isBlank).rtakeWhile isBlank, ?_, ?_, ?_⟩
  · exact List.all_takeWhile
  · rw [isBlankText_iff]
    intro c hc
    exact List.mem_rtakeWhile_imp hc
  · have ht : trim cs = (cs.dropWhile isBlank).rdropWhile isBlank := rfl
    rw [ht, List.append_assoc, List.rdropWhile_append_rtakeWhile, List.takeWhile_append_dropWhile]

theorem trim_eq_nil_iff (cs : List Char) : trim cs = [] ↔ isBlankText cs = true := by
  rw [isBlankText_iff, trim, List.reverse_eq_nil_iff, List.dropWhile_eq_nil_iff]
  constructor
  · intro h c hc
    rw [← List.takeWhile_append_dropWhile (p := isBlank) (l := cs), List.mem_append] at hc
    rcases hc with hc | hc
    · exact List.mem_takeWhile_imp hc
    · exact h c (List.mem_reverse.mpr hc)
  · intro h c hc
    exact h c ((List.dropWhile_suffix isBlank).subset (List.mem_reverse.mp hc))

theorem isEmpty_trim (cs : List Char) : (trim cs).isEmpty = isBlankText cs := by
  rw [Bool.eq_iff_iff, List.isEmpty_iff, trim_eq_nil_iff]

theorem mem_of_mem_trim {c : Char} {cs : List Char} (h : c ∈ trim cs) : c ∈ cs := by
  obtain ⟨front, back, -, -, hcs⟩ := exists_append_trim cs
  rw [hcs]
  exact List.mem_append_left back (List.mem_append_right front h)

theorem trim_eq_self {cs : List Char} (hh : ∀ c ∈ cs.head?, isBlank c = false)
    (hl : ∀ c ∈ cs.getLast?, isBlank c = false) : trim cs = cs := by
  have hd : cs.dropWhile isBlank = cs := by
    cases cs with
    | nil => rfl
    | cons c cs => rw [List.dropWhile_cons, if_neg (by simpa using hh c rfl)]
  unfold trim
  rw [hd]
  have hr : cs.rdropWhile isBlank = cs := by
    rw [List.rdropWhile_eq_self_iff]
    intro hne
    simpa using hl _ (List.getLast?_eq_getLast_of_ne_nil hne)
  exact hr

theorem head?_dropWhile (p : Char → Bool) (cs : List Char) :
    ∀ c ∈ (cs.dropWhile p).head?, p c = false := by
  intro c hc
  have hnot := List.head?_dropWhile_not p cs
  rw [Option.mem_def.mp hc] at hnot
  simpa using hnot

theorem head?_trim (cs : List Char) : ∀ c ∈ (trim cs).head?, isBlank c = false := by
  intro c hc
  have hp : trim cs <+: cs.dropWhile isBlank := List.rdropWhile_prefix isBlank _
  obtain ⟨rest, hr⟩ := hp
  cases ht : trim cs with
  | nil => simp [ht] at hc
  | cons d ds =>
    rw [ht, List.head?_cons, Option.mem_some_iff] at hc
    subst hc
    apply head?_dropWhile isBlank cs
    rw [← hr, ht]
    rfl

theorem getLast?_trim (cs : List Char) : ∀ c ∈ (trim cs).getLast?, isBlank c = false := by
  intro c hc
  have ht : trim cs = (cs.dropWhile isBlank).rdropWhile isBlank := rfl
  rw [ht] at hc
  have hne : (cs.dropWhile isBlank).rdropWhile isBlank ≠ [] := by
    rintro e
    rw [e] at hc
    cases hc
  rw [List.getLast?_eq_getLast_of_ne_nil hne, Option.mem_some_iff] at hc
  simpa [hc] using List.rdropWhile_last_not isBlank (cs.dropWhile isBlank) hne

theorem trim_trim (cs : List Char) : trim (trim cs) = trim cs :=
  trim_eq_self (head?_trim cs) (getLast?_trim cs)

theorem isBlankText_trim (cs : List Char) : isBlankText (trim cs) = isBlankText cs := by
  rw [← isEmpty_trim, trim_trim, isEmpty_trim]

/-- What stands before a character that is not blank stays. -/
theorem exists_trim_append_cons (as : List Char) (c : Char) (bs : List Char)
    (ha : ∀ a ∈ as.head?, isBlank a = false) (hc : isBlank c = false) :
    ∃ bs', trim (as ++ c :: bs) = as ++ c :: bs' := by
  have hd : (as ++ c :: bs).dropWhile isBlank = as ++ c :: bs := by
    cases as with
    | nil => rw [List.nil_append, List.dropWhile_cons_of_neg (by simp [hc])]
    | cons a as =>
      rw [List.cons_append, List.dropWhile_cons_of_neg (by simp [ha a rfl])]
  have hr : (as ++ c :: bs).rdropWhile isBlank = as ++ c :: bs.rdropWhile isBlank := by
    clear hd
    induction bs using List.reverseRecOn with
    | nil => rw [List.rdropWhile_concat_neg _ _ _ (by simp [hc]), List.rdropWhile_nil]
    | append_singleton bs b ih =>
      have happ : as ++ c :: (bs ++ [b]) = as ++ c :: bs ++ [b] := by simp
      by_cases hb : isBlank b = true
      · rw [happ, List.rdropWhile_concat_pos _ _ _ hb, List.rdropWhile_concat_pos _ _ _ hb, ih]
      · rw [happ, List.rdropWhile_concat_neg _ _ _ hb, List.rdropWhile_concat_neg _ _ _ hb, happ]
  refine ⟨bs.rdropWhile isBlank, ?_⟩
  show ((as ++ c :: bs).dropWhile isBlank).rdropWhile isBlank = _
  rw [hd, hr]

theorem notMem_intercalate {c : Char} {sep : List Char} {texts : List (List Char)} (hs : c ∉ sep)
    (ht : ∀ t ∈ texts, c ∉ t) : c ∉ sep.intercalate texts := by
  induction texts with
  | nil => exact List.not_mem_nil
  | cons t texts ih =>
    cases texts with
    | nil => simpa [List.intercalate] using ht t List.mem_cons_self
    | cons u texts =>
      rw [List.intercalate_cons_cons, List.mem_append, List.mem_append, not_or, not_or]
      exact ⟨⟨ht t List.mem_cons_self, hs⟩, ih fun v hv => ht v (List.mem_cons_of_mem t hv)⟩

theorem mem_intercalate {c : Char} {sep t : List Char} {texts : List (List Char)} (ht : t ∈ texts)
    (hc : c ∈ t) : c ∈ sep.intercalate texts := by
  induction texts with
  | nil => cases ht
  | cons u texts ih =>
    cases texts with
    | nil =>
      obtain rfl := List.mem_singleton.mp ht
      simpa [List.intercalate] using hc
    | cons v texts =>
      rw [List.intercalate_cons_cons, List.mem_append, List.mem_append]
      rcases List.mem_cons.mp ht with rfl | ht
      · exact Or.inl (Or.inl hc)
      · exact Or.inr (ih ht)

theorem pieces_nil (p : Char → Bool) : pieces p [] = [] := rfl

theorem pieces_append_cons (p : Char → Bool) (as : List Char) (s : Char) (bs : List Char)
    (hs : p s = true) : pieces p (as ++ s :: bs) = pieces p as ++ pieces p bs := by
  simp only [pieces, List.splitOnP_append_cons as bs hs, List.filter_append]

theorem pieces_cons (p : Char → Bool) (s : Char) (cs : List Char) (hs : p s = true) :
    pieces p (s :: cs) = pieces p cs := by
  have h := pieces_append_cons p [] s cs hs
  rwa [pieces_nil, List.nil_append, List.nil_append] at h

theorem pieces_of_forall_not (p : Char → Bool) (cs : List Char) (hc : cs ≠ [])
    (h : ∀ c ∈ cs, p c = false) : pieces p cs = [cs] := by
  simp [pieces, List.splitOnP_eq_singleton h, hc]

theorem pieces_append_left (p : Char → Bool) (front cs : List Char) (h : ∀ c ∈ front, p c = true) :
    pieces p (front ++ cs) = pieces p cs := by
  induction front with
  | nil => rfl
  | cons c front ih =>
    rw [List.cons_append, pieces_cons p c _ (h c List.mem_cons_self),
      ih fun d hd => h d (List.mem_cons_of_mem c hd)]

theorem pieces_append_right (p : Char → Bool) (cs back : List Char) (h : ∀ c ∈ back, p c = true) :
    pieces p (cs ++ back) = pieces p cs := by
  cases back with
  | nil => rw [List.append_nil]
  | cons c back =>
    have hb := pieces_append_left p back [] fun d hd => h d (List.mem_cons_of_mem c hd)
    rw [pieces_append_cons p cs c back (h c List.mem_cons_self)]
    rw [List.append_nil, pieces_nil] at hb
    rw [hb, List.append_nil]

/-- A piece in front is cut off where the text is cut behind it. -/
theorem pieces_append_of_head? (p : Char → Bool) (piece cs : List Char) (hne : piece ≠ [])
    (hpiece : ∀ c ∈ piece, p c = false) (hcs : ∀ c ∈ cs.head?, p c = true) :
    pieces p (piece ++ cs) = piece :: pieces p cs := by
  have hone := pieces_of_forall_not p piece hne hpiece
  cases cs with
  | nil => rw [List.append_nil, hone, pieces_nil]
  | cons c cs =>
    have hc : p c = true := hcs c rfl
    rw [pieces_append_cons p piece c cs hc, pieces_cons p c cs hc, hone, List.singleton_append]

/-- A text that is not cut before its first character begins with a piece. -/
theorem exists_piece_append (p : Char → Bool) (c : Char) (cs : List Char) (hc : p c = false) :
    ∃ piece rest, c :: cs = piece ++ rest ∧ piece ≠ [] ∧ (∀ d ∈ piece, p d = false) ∧
      ∀ d ∈ rest.head?, p d = true := by
  refine ⟨c :: cs.takeWhile fun d => !p d, cs.dropWhile fun d => !p d, ?_, ?_, ?_, ?_⟩
  · rw [List.cons_append, List.takeWhile_append_dropWhile]
  · exact List.cons_ne_nil _ _
  · intro d hd
    rcases List.mem_cons.mp hd with rfl | hd
    · exact hc
    · simpa using List.mem_takeWhile_imp hd
  · intro d hd
    simpa using head?_dropWhile (fun d => !p d) cs d hd

theorem mem_pieces {p : Char → Bool} {cs piece : List Char} (h : piece ∈ pieces p cs) :
    piece ≠ [] := by
  simpa using (List.mem_filter.mp h).2

theorem forall_not_of_mem_splitOnP {p : Char → Bool} {cs piece : List Char}
    (h : piece ∈ cs.splitOnP p) : ∀ c ∈ piece, p c = false := by
  induction cs generalizing piece with
  | nil =>
    rw [List.splitOnP_nil, List.mem_singleton] at h
    rw [h]
    exact fun c hc => absurd hc List.not_mem_nil
  | cons c cs ih =>
    rw [List.splitOnP_cons_eq_if_modifyHead] at h
    split at h
    · rcases List.mem_cons.mp h with rfl | h
      · exact fun c hc => absurd hc List.not_mem_nil
      · exact ih h
    · next hc =>
      obtain ⟨hd, tl, hs⟩ := List.exists_cons_of_ne_nil (List.splitOnP_ne_nil p cs)
      rw [hs, List.modifyHead_cons] at h
      rcases List.mem_cons.mp h with rfl | h
      · rintro d (_ | ⟨_, hd'⟩)
        · simpa using hc
        · exact ih (hs ▸ List.mem_cons_self) d hd'
      · exact ih (hs ▸ List.mem_cons_of_mem hd h)

theorem mem_of_mem_splitOnP {p : Char → Bool} {cs piece : List Char}
    (h : piece ∈ cs.splitOnP p) : ∀ c ∈ piece, c ∈ cs := by
  induction cs generalizing piece with
  | nil =>
    rw [List.splitOnP_nil, List.mem_singleton] at h
    rw [h]
    exact fun c hc => hc
  | cons c cs ih =>
    rw [List.splitOnP_cons_eq_if_modifyHead] at h
    split at h
    · rcases List.mem_cons.mp h with rfl | h
      · exact fun c hc => absurd hc List.not_mem_nil
      · exact fun d hd => List.mem_cons_of_mem c (ih h d hd)
    · obtain ⟨hd, tl, hs⟩ := List.exists_cons_of_ne_nil (List.splitOnP_ne_nil p cs)
      rw [hs, List.modifyHead_cons] at h
      rcases List.mem_cons.mp h with rfl | h
      · rintro d (_ | ⟨_, hd'⟩)
        · exact List.mem_cons_self
        · exact List.mem_cons_of_mem c (ih (hs ▸ List.mem_cons_self) d hd')
      · exact fun d hd' => List.mem_cons_of_mem c (ih (hs ▸ List.mem_cons_of_mem hd h) d hd')

theorem exists_mem_splitOnP {p : Char → Bool} {c : Char} {cs : List Char} (hc : c ∈ cs)
    (hp : p c = false) : ∃ piece ∈ cs.splitOnP p, c ∈ piece := by
  induction cs with
  | nil => cases hc
  | cons d cs ih =>
    rw [List.splitOnP_cons_eq_if_modifyHead]
    split
    · next hd =>
      have hcs : c ∈ cs := by
        rcases List.mem_cons.mp hc with rfl | hc
        · rw [hp] at hd
          cases hd
        · exact hc
      obtain ⟨piece, hpiece, hm⟩ := ih hcs
      exact ⟨piece, List.mem_cons_of_mem _ hpiece, hm⟩
    · obtain ⟨hd, tl, hs⟩ := List.exists_cons_of_ne_nil (List.splitOnP_ne_nil p cs)
      rw [hs, List.modifyHead_cons]
      rcases List.mem_cons.mp hc with rfl | hc
      · exact ⟨c :: hd, List.mem_cons_self, List.mem_cons_self⟩
      · obtain ⟨piece, hpiece, hm⟩ := ih hc
        rcases List.mem_cons.mp (hs ▸ hpiece) with rfl | hpiece
        · exact ⟨d :: piece, List.mem_cons_self, List.mem_cons_of_mem d hm⟩
        · exact ⟨piece, List.mem_cons_of_mem _ hpiece, hm⟩

/-- A character at which the text is not cut stands in one of the pieces. -/
theorem exists_mem_pieces {p : Char → Bool} {c : Char} {cs : List Char} (hc : c ∈ cs)
    (hp : p c = false) : ∃ piece ∈ pieces p cs, c ∈ piece := by
  obtain ⟨piece, hpiece, hm⟩ := exists_mem_splitOnP hc hp
  exact ⟨piece, List.mem_filter.mpr ⟨hpiece, by simpa using List.ne_nil_of_mem hm⟩, hm⟩

theorem isBlank_of_mem_words {cs word : List Char} (h : word ∈ words cs) :
    ∀ c ∈ word, isBlank c = false :=
  forall_not_of_mem_splitOnP (List.mem_filter.mp h).1

theorem mem_of_mem_words {cs word : List Char} (h : word ∈ words cs) : ∀ c ∈ word, c ∈ cs :=
  mem_of_mem_splitOnP (List.mem_filter.mp h).1

theorem words_append_left (front cs : List Char) (h : isBlankText front = true) :
    words (front ++ cs) = words cs :=
  pieces_append_left isBlank front cs ((isBlankText_iff front).mp h)

theorem words_append_right (cs back : List Char) (h : isBlankText back = true) :
    words (cs ++ back) = words cs :=
  pieces_append_right isBlank cs back ((isBlankText_iff back).mp h)

theorem unwords_singleton (w : List Char) : unwords [w] = w := by
  simp [unwords, List.intercalate]

theorem unwords_cons_cons (v w : List Char) (ws : List (List Char)) :
    unwords (v :: w :: ws) = v ++ ' ' :: unwords (w :: ws) := by
  rw [unwords, List.intercalate_cons_cons, List.append_assoc, List.singleton_append, ← unwords]

/-- A word with a space behind it is split off. -/
theorem words_append_space {w : List Char} (cs : List Char) (hne : w ≠ [])
    (hw : ∀ c ∈ w, isBlank c = false) : words (w ++ ' ' :: cs) = w :: words cs := by
  rw [words, pieces_append_cons isBlank w ' ' cs (by decide), pieces_of_forall_not isBlank w hne hw,
    List.singleton_append, ← words]

/-- Words with one space between neighbours are the words of the text that they make up. -/
theorem words_unwords {ws : List (List Char)}
    (h : ∀ w ∈ ws, w ≠ [] ∧ ∀ c ∈ w, isBlank c = false) : words (unwords ws) = ws := by
  induction ws with
  | nil => rfl
  | cons v ws ih =>
    obtain ⟨hne, hv⟩ := h v List.mem_cons_self
    cases ws with
    | nil => rw [unwords_singleton, words, pieces_of_forall_not isBlank v hne hv]
    | cons w ws =>
      rw [unwords_cons_cons, words_append_space _ hne hv,
        ih fun u hu => h u (List.mem_cons_of_mem v hu)]

theorem words_unwords_words (cs : List Char) : words (unwords (words cs)) = words cs :=
  words_unwords fun _ hw => ⟨mem_pieces hw, isBlank_of_mem_words hw⟩

theorem unwords_cons_head? (w : List Char) (ws : List (List Char)) (h : w ≠ []) :
    (unwords (w :: ws)).head? = w.head? := by
  cases ws with
  | nil => rw [unwords_singleton]
  | cons v vs => simp [unwords, List.intercalate_cons_cons, List.head?_append_of_ne_nil _ h]

/-- The words of a text begin with its first character that is not blank. -/
theorem head?_unwords_words (cs : List Char) :
    (unwords (words cs)).head? = cs.find? fun c => !isBlank c := by
  induction cs with
  | nil => rfl
  | cons c cs ih =>
    by_cases hc : isBlank c = true
    · have h := words_append_left [c] cs (by simpa [isBlankText] using hc)
      rw [List.singleton_append] at h
      rw [h, ih, List.find?_cons_of_neg (by simp [hc])]
    · obtain ⟨hd, tl, hs⟩ := List.exists_cons_of_ne_nil (List.splitOnP_ne_nil isBlank cs)
      have hw : words (c :: cs) = (c :: hd) :: tl.filter fun piece => !piece.isEmpty := by
        simp [words, pieces, List.splitOnP_cons_eq_if_modifyHead, hc, hs]
      rw [hw, unwords_cons_head? _ _ (List.cons_ne_nil c hd),
        List.find?_cons_of_pos (by simp [hc]), List.head?_cons]

theorem byteLength_cons (c : Char) (cs : List Char) :
    byteLength (c :: cs) = c.utf8Size + byteLength cs := rfl

theorem byteLength_append (as bs : List Char) :
    byteLength (as ++ bs) = byteLength as + byteLength bs := by
  induction as with
  | nil => simp [byteLength]
  | cons a as ih =>
    simp only [byteLength, List.cons_append, List.map_cons, List.foldr_cons] at ih ⊢
    omega

theorem eq_nil_of_byteLength_eq_zero {cs : List Char} (h : byteLength cs = 0) : cs = [] := by
  cases cs with
  | nil => rfl
  | cons c cs =>
    have hc : 0 < c.utf8Size := Char.utf8Size_pos c
    simp only [byteLength, List.map_cons, List.foldr_cons] at h
    omega

/-- An end of a text that is as long as the text is the text. -/
theorem eq_of_suffix_of_byteLength_le {as bs : List Char} (h : as <:+ bs)
    (hl : byteLength bs ≤ byteLength as) : as = bs := by
  obtain ⟨front, rfl⟩ := h
  rw [byteLength_append] at hl
  rw [eq_nil_of_byteLength_eq_zero (by omega : byteLength front = 0), List.nil_append]

/-- A beginning of a text that is as long as the text is the text. -/
theorem eq_of_prefix_of_byteLength_le {as bs : List Char} (h : as <+: bs)
    (hl : byteLength bs ≤ byteLength as) : as = bs := by
  obtain ⟨back, rfl⟩ := h
  rw [byteLength_append] at hl
  rw [eq_nil_of_byteLength_eq_zero (by omega : byteLength back = 0), List.append_nil]

/-- Of two beginnings of one text the longer one begins with the other. -/
theorem prefix_of_prefix_of_byteLength_le {as bs cs : List Char} (ha : as <+: cs) (hb : bs <+: cs)
    (h : byteLength as ≤ byteLength bs) : as <+: bs := by
  rcases List.prefix_or_prefix_of_prefix ha hb with hp | hp
  · exact hp
  · obtain rfl := eq_of_prefix_of_byteLength_le hp h
    exact List.prefix_rfl

/-- Beginnings of one text that are as long as each other are the same. -/
theorem eq_of_prefix_of_byteLength_eq {as bs cs : List Char} (ha : as <+: cs) (hb : bs <+: cs)
    (h : byteLength as = byteLength bs) : as = bs :=
  eq_of_prefix_of_byteLength_le (prefix_of_prefix_of_byteLength_le ha hb h.le) h.ge

end LotterySlip.Text
