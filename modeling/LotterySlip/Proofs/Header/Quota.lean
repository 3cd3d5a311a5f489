import LotterySlip.Header.Quota
import LotterySlip.Proofs.Text.Fold

/-! Headers that ask for a number of stations. They begin with a digit, and the sentence in which one
is shown again is read as the same quota. -/
namespace LotterySlip.Quota
open Text

theorem readCount?_eq_some_iff (cs : List Char) (n : Nat) : readCount? cs = some n ↔
    isNumber cs = true ∧ 0 < n ∧ n < countLimit ∧ runNumber cs = n := by
  rw [readCount?]
  constructor
  · intro h
    split at h
    · next hc =>
      cases h
      exact ⟨hc.1, hc.2.1, hc.2.2, rfl⟩
    · cases h
  · rintro ⟨hn, hp, hl, rfl⟩
    exact if_pos ⟨hn, hp, hl⟩

theorem readCount?_numeral {n : Nat} (hp : 0 < n) (hl : n < countLimit) :
    readCount? (numeral n) = some n :=
  (readCount?_eq_some_iff _ n).mpr ⟨isNumber_numeral n, hp, hl, runNumber_numeral n⟩

theorem exists_of_readShort? {header : List Char} {q : Quota} (h : readShort? header = some q) :
    readCount? (spanDigits (trim header)).1 = some q.count ∧
      ∃ mark, (spanDigits (trim header)).2.map asciiLower = 'd' :: mark := by
  simp only [readShort?, Option.bind_eq_bind, Option.bind_eq_some_iff] at h
  obtain ⟨mark, hm, region, -, count, hc, hq⟩ := h
  cases hq
  refine ⟨hc, mark, ?_⟩
  have he := List.isPrefixOf?_eq_some_iff_append_eq.mp hm
  rw [← he, List.singleton_append]

theorem exists_of_readSentence? {stations : List Station} {header : List Char} {q : Quota}
    (h : readSentence? stations header = some q) :
    ∃ count rest, words (fold header) = count :: rest ∧ readCount? count = some q.count := by
  rw [readSentence?] at h
  split at h
  · next count noun link name names hw =>
    split at h
    · simp only [Option.bind_eq_bind, Option.bind_eq_some_iff] at h
      obtain ⟨n, hn, region, -, hq⟩ := h
      cases hq
      exact ⟨count, _, hw, hn⟩
    · cases h
  · cases h

/-- A quota is for one station at least, and its count fits in 64 bits. -/
theorem count_bounds_of_read? {stations : List Station} {header : List Char} {q : Quota}
    (h : read? stations header = some q) : 0 < q.count ∧ q.count < countLimit := by
  have hcount : ∃ count, readCount? count = some q.count := by
    rcases Option.or_eq_some_iff.mp h with hs | ⟨-, hs⟩
    · exact ⟨_, (exists_of_readShort? hs).1⟩
    · obtain ⟨count, rest, -, hc⟩ := exists_of_readSentence? hs
      exact ⟨count, hc⟩
  obtain ⟨count, hc⟩ := hcount
  obtain ⟨-, hp, hl, -⟩ := (readCount?_eq_some_iff _ _).mp hc
  exact ⟨hp, hl⟩

theorem head?_of_isNumber {cs : List Char} (h : isNumber cs = true) :
    ∃ c, cs.head? = some c ∧ c.isDigit = true := by
  obtain ⟨hne, hd⟩ := (isNumber_iff cs).mp h
  obtain ⟨c, cs, rfl⟩ := List.exists_cons_of_ne_nil hne
  exact ⟨c, rfl, hd c List.mem_cons_self⟩

/-- The key of a header that is a quota begins with a digit. -/
theorem head?_foldKey_of_read? {stations : List Station} {header : List Char} {q : Quota}
    (h : read? stations header = some q) :
    ∃ c, (foldKey header).head? = some c ∧ c.isDigit = true := by
  rcases Option.or_eq_some_iff.mp h with hs | ⟨-, hs⟩
  · obtain ⟨hn, -, -, -⟩ := (readCount?_eq_some_iff _ _).mp (exists_of_readShort? hs).1
    obtain ⟨c, hc, hd⟩ := head?_of_isNumber hn
    refine ⟨c, ?_, hd⟩
    have ht : ∃ rest, trim header = c :: rest := by
      rw [← List.takeWhile_append_dropWhile (p := Char.isDigit) (l := trim header)]
      obtain ⟨run, hrun⟩ := List.head?_eq_some_iff.mp hc
      exact ⟨run ++ (trim header).dropWhile Char.isDigit, by
        rw [show (trim header).takeWhile Char.isDigit = c :: run from hrun, List.cons_append]⟩
    obtain ⟨rest, ht⟩ := ht
    rw [← foldKey_trim, head?_foldKey, ht, fold_cons, foldChar_of_isDigit hd,
      List.singleton_append, List.find?_cons_of_pos (by simp [isBlank_of_isDigit hd])]
  · obtain ⟨count, rest, hw, hc⟩ := exists_of_readSentence? hs
    obtain ⟨hn, -, -, -⟩ := (readCount?_eq_some_iff _ _).mp hc
    obtain ⟨c, hc, hd⟩ := head?_of_isNumber hn
    refine ⟨c, ?_, hd⟩
    rw [foldKey, hw, unwords_cons_head? _ _ ((isNumber_iff _).mp hn).1, hc]

theorem read?_eq_none_of_head? {stations : List Station} {header : List Char}
    (h : ∀ c ∈ (foldKey header).head?, c.isDigit = false) : read? stations header = none := by
  rw [Option.eq_none_iff_forall_ne_some]
  intro q hq
  obtain ⟨c, hc, hd⟩ := head?_foldKey_of_read? hq
  rw [h c hc] at hd
  cases hd

theorem readShort?_trim (header : List Char) : readShort? (trim header) = readShort? header := by
  rw [readShort?, trim_trim, ← readShort?]

theorem readSentence?_trim (stations : List Station) (header : List Char) :
    readSentence? stations (trim header) = readSentence? stations header := by
  rw [readSentence?, words_fold_trim, ← readSentence?]

theorem read?_trim (stations : List Station) (header : List Char) :
    read? stations (trim header) = read? stations header := by
  rw [read?, readShort?_trim, readSentence?_trim, ← read?]

def nouns : List (List Char) := ["stations".toList, "station".toList]

/-- The count and the two words behind it are words of their own; the region may have several. -/
theorem words_sentence {digits noun : List Char} (hd : isNumber digits = true) (hn : noun ∈ nouns)
    (name : List Char) :
    words (digits ++ ' ' :: (noun ++ ' ' :: ("in".toList ++ ' ' :: name))) =
      digits :: noun :: "in".toList :: words name := by
  obtain ⟨hne, hdigits⟩ := (isNumber_iff digits).mp hd
  have hnouns : ∀ noun ∈ nouns, noun ≠ [] ∧ noun.any isBlank = false := by decide +kernel
  rw [words_append_space _ hne fun c hc => isBlank_of_isDigit (hdigits c hc),
    words_append_space _ (hnouns noun hn).1 (isBlank_of_any_eq_false (hnouns noun hn).2),
    words_append_space _ (by decide) (isBlank_of_any_eq_false (by decide))]

def sentence (n : Nat) (name : List Char) : List Char :=
  numeral n ++ " stations in ".toList ++ name

theorem readShort?_sentence (n : Nat) (name : List Char) : readShort? (sentence n name) = none := by
  rw [Option.eq_none_iff_forall_ne_some]
  intro q h
  obtain ⟨-, mark, hmark⟩ := exists_of_readShort? h
  have hs : sentence n name =
      (numeral n ++ [' ']) ++ 's' :: ("tations in ".toList ++ name) := by
    simp [sentence]
  obtain ⟨rest, ht⟩ := exists_trim_append_cons (numeral n ++ [' ']) 's'
    ("tations in ".toList ++ name) (by
      intro a ha
      rw [List.head?_append_of_ne_nil _ (numeral_ne_nil n)] at ha
      exact isBlank_of_isDigit (isDigit_of_mem_numeral (List.mem_of_head? ha))) (by decide)
  rw [hs, ht, List.append_assoc, List.singleton_append,
    spanDigits_append _ _ (fun _ => isDigit_of_mem_numeral) (by simp)] at hmark
  have hd := (List.cons.inj hmark).1
  exact absurd hd (by decide)

/-- A region whose name the sentence gives is found. -/
theorem read?_sentence {stations : List Station} {n : Nat} {name : List Char} {region : Region}
    (hp : 0 < n) (hl : n < countLimit) (hname : foldKey name ≠ [])
    (hr : regionNamed? stations (foldKey name) = some region) :
    read? stations (sentence n name) = some ⟨n, region⟩ := by
  have hfold : fold (sentence n name) = numeral n ++ " stations in ".toList ++ fold name := by
    have hmiddle : fold " stations in ".toList = " stations in ".toList := by decide +kernel
    rw [sentence, fold_append, fold_append, hmiddle,
      fold_eq_self fun c hc => foldChar_of_isDigit (isDigit_of_mem_numeral hc)]
  have hsplit : numeral n ++ " stations in ".toList ++ fold name =
      numeral n ++ ' ' :: ("stations".toList ++ ' ' :: ("in".toList ++ ' ' :: fold name)) := by
    simp
  have hwords : words (fold (sentence n name)) =
      numeral n :: "stations".toList :: "in".toList :: words (fold name) := by
    rw [hfold, hsplit, words_sentence (isNumber_numeral n) List.mem_cons_self]
  obtain ⟨w, ws, hw⟩ : ∃ w ws, words (fold name) = w :: ws := by
    apply List.exists_cons_of_ne_nil
    intro e
    rw [foldKey, e] at hname
    exact hname rfl
  rw [foldKey, hw] at hr
  rw [read?, readShort?_sentence, Option.none_or, readSentence?, hwords, hw]
  simp [readCount?_numeral hp hl, hr]

end LotterySlip.Quota
