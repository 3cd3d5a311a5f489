import LotterySlip.Proofs.Header.Resolution
import LotterySlip.Proofs.Region

/-! The two forms of a header that asks for a number of stations. Each is read exactly where it is
written, no header is written in both, and unless the catalog gives the name of a region to another
one they can stand for each other. -/
namespace LotterySlip.Quota
open Text

structure Counts (digits : List Char) (n : Nat) : Prop where
  isNumber : isNumber digits = true
  runNumber : runNumber digits = n
  pos : 0 < n
  lt : n < countLimit

theorem readCount?_iff_counts (digits : List Char) (n : Nat) :
    readCount? digits = some n ↔ Counts digits n := by
  rw [readCount?_eq_some_iff]
  exact ⟨fun ⟨hd, hp, hl, hn⟩ => ⟨hd, hn, hp, hl⟩, fun h => ⟨h.isNumber, h.pos, h.lt, h.runNumber⟩⟩

/-- A count, a `d` and the mark of a region, the letters in either case, and nothing else but blanks
around them. -/
def IsShort (q : Quota) (header : List Char) : Prop :=
  ∃ digits letters mark, trim header = digits ++ letters ∧ Counts digits q.count ∧
    (mark, q.region) ∈ regionMarks ∧ letters.map asciiLower = 'd' :: mark.toList

theorem regionOfMark?_eq_some_iff (mark : String) (r : Region) :
    regionOfMark? mark = some r ↔ (mark, r) ∈ regionMarks := by
  rw [regionOfMark?, Option.map_eq_some_iff]
  constructor
  · rintro ⟨m, hm, rfl⟩
    have hmark : m.1 = mark := by simpa using List.find?_some hm
    exact hmark ▸ List.mem_of_find?_eq_some hm
  · have hfind : ∀ m ∈ regionMarks, regionMarks.find? (fun n => n.1 == m.1) = some m := by
      decide +kernel
    exact fun h => ⟨(mark, r), hfind _ h, rfl⟩

def shortLetters : List Char := ['d', 'm', 'n', 't', 'b']

theorem of_mem_shortLetters {c : Char} (h : c ∈ shortLetters) :
    c.toNat < 128 ∧ isBlank c = false ∧ asciiLower c = c := by
  simp only [shortLetters, List.mem_cons, List.not_mem_nil, or_false] at h
  rcases h with rfl | rfl | rfl | rfl | rfl <;> decide

theorem mem_shortLetters {mark : String} {r : Region} (h : (mark, r) ∈ regionMarks) :
    ∀ c ∈ 'd' :: mark.toList, c ∈ shortLetters := by
  have hmarks : ∀ m ∈ regionMarks, 'd' :: m.1.toList ⊆ shortLetters := by decide +kernel
  exact fun c hc => hmarks _ h hc

theorem toNat_lt_of_asciiLower_mem {c : Char} (h : asciiLower c ∈ shortLetters) : c.toNat < 128 := by
  by_cases hc : 'A' ≤ c ∧ c ≤ 'Z'
  · have hz : c.toNat ≤ 90 := hc.2
    omega
  · rw [asciiLower, if_neg hc] at h
    exact (of_mem_shortLetters h).1

/-- A letter of the short form is no digit, and it folds to the small letter. -/
theorem of_asciiLower_mem_shortLetters {c : Char} (h : asciiLower c ∈ shortLetters) :
    c.isDigit = false ∧ foldChar c = [asciiLower c] := by
  have hcodes : ∀ n < 128, asciiLower (Char.ofNat n) ∈ shortLetters →
      (Char.ofNat n).isDigit = false ∧ foldChar (Char.ofNat n) = [asciiLower (Char.ofNat n)] := by
    decide +kernel
  have hof := hcodes c.toNat (toNat_lt_of_asciiLower_mem h)
  rw [Char.ofNat_toNat] at hof
  exact hof h

/-- The count ends where the letters begin. -/
theorem isDigit_of_mem_head? {letters : List Char} (h : ∀ c ∈ letters.map asciiLower, c ∈ shortLetters) :
    ∀ c ∈ letters.head?, c.isDigit = false := by
  intro c hc
  exact (of_asciiLower_mem_shortLetters (h _ (List.mem_map_of_mem (List.mem_of_mem_head? hc)))).1

theorem readShort?_eq_some_iff (header : List Char) (q : Quota) :
    readShort? header = some q ↔ q.IsShort header := by
  simp only [readShort?, Option.bind_eq_bind, Option.bind_eq_some_iff, after?,
    List.isPrefixOf?_eq_some_iff_append_eq, regionOfMark?_eq_some_iff, readCount?_iff_counts,
    Option.some.injEq, List.singleton_append]
  constructor
  · rintro ⟨mark, hm, region, hr, count, hc, rfl⟩
    refine ⟨_, _, _, (List.takeWhile_append_dropWhile ..).symm, hc, hr, ?_⟩
    rw [String.toList_ofList]
    exact hm.symm
  · rintro ⟨digits, letters, mark, ht, hc, hr, hl⟩
    have hspan := spanDigits_append digits letters ((isNumber_iff _).mp hc.isNumber).2
      (isDigit_of_mem_head? fun c h => mem_shortLetters hr c (hl ▸ h))
    rw [ht, hspan]
    refine ⟨mark.toList, hl.symm, q.region, ?_, q.count, hc, rfl⟩
    rwa [String.ofList_toList]

/-- The short form folded: the count and the small letters. -/
theorem IsShort.exists_fold {q : Quota} {header : List Char} (h : q.IsShort header) :
    ∃ digits mark, fold (trim header) = digits ++ 'd' :: mark.toList ∧ Counts digits q.count ∧
      (mark, q.region) ∈ regionMarks := by
  obtain ⟨digits, letters, mark, ht, hc, hr, hl⟩ := h
  have hdigits := ((isNumber_iff _).mp hc.isNumber).2
  refine ⟨digits, mark, ?_, hc, hr⟩
  rw [ht, fold_append, fold_eq_self fun c h => foldChar_of_isDigit (hdigits c h), ← hl,
    fold, List.flatMap_congr fun c h => (of_asciiLower_mem_shortLetters
      (mem_shortLetters hr _ (hl ▸ List.mem_map_of_mem h))).2, ← List.map_eq_flatMap]

/-- The key of the short form is one word. -/
theorem IsShort.space_notMem_foldKey {q : Quota} {header : List Char} (h : q.IsShort header) :
    ' ' ∉ foldKey header := by
  obtain ⟨digits, mark, hfold, hc, hr⟩ := h.exists_fold
  have hdigits := ((isNumber_iff _).mp hc.isNumber).2
  have hblank : ∀ c ∈ digits ++ 'd' :: mark.toList, isBlank c = false := by
    intro c hm
    rcases List.mem_append.mp hm with hm | hm
    · exact isBlank_of_isDigit (hdigits c hm)
    · exact (of_mem_shortLetters (mem_shortLetters hr c hm)).2.1
  rw [← foldKey_trim, foldKey, hfold, words, pieces_of_forall_not isBlank _ (by simp) hblank,
    unwords_singleton]
  intro hm
  exact absurd (hblank ' ' hm) (by decide)

/-- Whether a name is that of a region: the first station of the catalog whose region goes by it tells
which one it is, and without such a station the name is a key or a shorthand. -/
def Names (catalog : List Station) (name : List Char) (r : Region) : Prop :=
  (∃ front s back, catalog = front ++ s :: back ∧ foldKey s.region.name.toList = name ∧
      (∀ t ∈ front, foldKey t.region.name.toList ≠ name) ∧ s.region.code = r) ∨
    (∀ t ∈ catalog, foldKey t.region.name.toList ≠ name) ∧ r.IsWritten name

theorem regionNamed?_eq_some_iff (catalog : List Station) (name : List Char) (r : Region) :
    regionNamed? catalog name = some r ↔ Names catalog name r := by
  have hfind (s : Station) : catalog.find? (fun s => foldKey s.region.name.toList == name) = some s ↔
      ∃ front back, catalog = front ++ s :: back ∧ foldKey s.region.name.toList = name ∧
        ∀ t ∈ front, foldKey t.region.name.toList ≠ name := by
    simp only [List.find?_eq_some_iff_append, beq_iff_eq, Bool.not_eq_true', beq_eq_false_iff_ne,
      ← exists_and_left, and_left_comm]
  rw [regionNamed?, Names]
  cases hs : catalog.find? fun s => foldKey s.region.name.toList == name with
  | some s =>
    obtain ⟨front, back, hsplit, hname, hfront⟩ := (hfind s).mp hs
    rw [Option.some.injEq]
    constructor
    · exact fun hr => Or.inl ⟨front, s, back, hsplit, hname, hfront, hr⟩
    · rintro (⟨front', s', back', hsplit', hname', hfront', hr⟩ | ⟨hno, -⟩)
      · have hs' := (hfind s').mpr ⟨front', back', hsplit', hname', hfront'⟩
        rw [hs, Option.some.injEq] at hs'
        rwa [hs']
      · exact absurd hname (hno s (List.mem_of_find?_eq_some hs))
  | none =>
    have hno : ∀ t ∈ catalog, foldKey t.region.name.toList ≠ name := by
      simpa using List.find?_eq_none.mp hs
    rw [Region.read?_eq_some_iff]
    constructor
    · exact fun hr => Or.inr ⟨hno, hr⟩
    · rintro (⟨front, s, back, rfl, hname, -, -⟩ | ⟨-, hr⟩)
      · exact absurd hname (hno s (List.mem_append_cons_self))
      · exact hr

def IsSentence (catalog : List Station) (q : Quota) (header : List Char) : Prop :=
  ∃ digits noun name, foldKey header = unwords [digits, noun, "in".toList, name] ∧
    Counts digits q.count ∧ noun ∈ nouns ∧ name ≠ [] ∧ Names catalog name q.region

theorem unwords_sentence (digits noun name : List Char) :
    unwords [digits, noun, "in".toList, name] =
      digits ++ ' ' :: (noun ++ ' ' :: ("in".toList ++ ' ' :: name)) := by
  rw [unwords_cons_cons, unwords_cons_cons, unwords_cons_cons, unwords_singleton]

/-- The words of a key that is a sentence. The name of the region is what its words make up. -/
theorem words_of_foldKey_eq {header digits noun name : List Char} (hd : isNumber digits = true)
    (hn : noun ∈ nouns) (h : foldKey header = unwords [digits, noun, "in".toList, name]) :
    words (fold header) = digits :: noun :: "in".toList :: words name ∧ name = unwords (words name) := by
  have hwords : words (fold header) = digits :: noun :: "in".toList :: words name := by
    rw [← words_unwords_words, ← foldKey, h, unwords_sentence, words_sentence hd hn]
  refine ⟨hwords, ?_⟩
  rw [foldKey, hwords, unwords_sentence] at h
  cases hw : words name with
  | nil =>
    rw [hw, unwords_cons_cons, unwords_cons_cons, unwords_singleton] at h
    have hlength := congrArg List.length h
    simp only [List.length_append, List.length_cons] at hlength
    omega
  | cons w ws =>
    rw [hw, unwords_cons_cons, unwords_cons_cons, unwords_cons_cons] at h
    simpa using h.symm

theorem readSentence?_eq_some_iff (catalog : List Station) (header : List Char) (q : Quota) :
    readSentence? catalog header = some q ↔ q.IsSentence catalog header := by
  have hlink (cs : List Char) (s : String) : String.ofList cs = s ↔ cs = s.toList := by
    rw [← String.toList_inj, String.toList_ofList]
  constructor
  · intro h
    rw [readSentence?] at h
    split at h
    · next digits noun link w ws hw =>
      split at h
      · next hmiddle =>
        simp only [Option.bind_eq_bind, Option.bind_eq_some_iff, readCount?_iff_counts,
          regionNamed?_eq_some_iff, Option.some.injEq] at h
        obtain ⟨n, hn, r, hr, rfl⟩ := h
        simp only [hlink] at hmiddle
        obtain ⟨hnoun, rfl⟩ := hmiddle
        have hne : w ≠ [] := mem_pieces (hw ▸ by simp : w ∈ words (fold header))
        refine ⟨digits, noun, unwords (w :: ws), ?_, hn, by simpa [nouns] using hnoun, ?_, hr⟩
        · rw [foldKey, hw, unwords_sentence, unwords_cons_cons, unwords_cons_cons,
            unwords_cons_cons]
        · intro he
          have hhead := unwords_cons_head? w ws hne
          rw [he] at hhead
          exact hne (List.head?_eq_none_iff.mp hhead.symm)
      · cases h
    · cases h
  · rintro ⟨digits, noun, name, hkey, hn, hnoun, hname, hr⟩
    obtain ⟨hwords, hself⟩ := words_of_foldKey_eq hn.isNumber hnoun hkey
    obtain ⟨w, ws, hw⟩ : ∃ w ws, words name = w :: ws := by
      apply List.exists_cons_of_ne_nil
      intro he
      rw [he] at hself
      exact hname hself
    rw [hw] at hwords hself
    have hmiddle : (String.ofList noun = "stations" ∨ String.ofList noun = "station") ∧
        String.ofList "in".toList = "in" := by
      simpa only [hlink, and_true, nouns, List.mem_cons, List.not_mem_nil, or_false] using hnoun
    rw [readSentence?, hwords]
    simp only [if_pos hmiddle, ← hself, (readCount?_iff_counts _ _).mpr hn,
      (regionNamed?_eq_some_iff _ _ _).mpr hr, Option.bind_eq_bind, Option.bind_some]

/-- A key with spaces is that of no short form. -/
theorem IsSentence.not_isShort {catalog : List Station} {q q' : Quota} {header : List Char}
    (h : q'.IsSentence catalog header) : ¬ q.IsShort header := by
  obtain ⟨digits, noun, name, hkey, -⟩ := h
  intro hshort
  refine hshort.space_notMem_foldKey ?_
  rw [hkey, unwords_sentence]
  simp

theorem read?_of_isShort {q : Quota} {header : List Char} (catalog : List Station)
    (h : q.IsShort header) : read? catalog header = some q := by
  rw [read?, (readShort?_eq_some_iff header q).mpr h, Option.some_or]

theorem read?_of_isSentence {catalog : List Station} {q : Quota} {header : List Char}
    (h : q.IsSentence catalog header) : read? catalog header = some q := by
  have hnone : readShort? header = none := by
    rw [Option.eq_none_iff_forall_ne_some]
    exact fun q' hq' => h.not_isShort ((readShort?_eq_some_iff header q').mp hq')
  rw [read?, hnone, Option.none_or, (readSentence?_eq_some_iff catalog header q).mpr h]

/-- A header in small letters without blanks around it. -/
theorem isShort_append {digits : List Char} {mark : String} {n : Nat} {r : Region}
    (hn : Counts digits n) (hm : (mark, r) ∈ regionMarks) :
    IsShort ⟨n, r⟩ (digits ++ 'd' :: mark.toList) := by
  have hblank : ∀ c ∈ digits ++ 'd' :: mark.toList, isBlank c = false := by
    intro c hc
    rcases List.mem_append.mp hc with hc | hc
    · exact isBlank_of_isDigit (((isNumber_iff digits).mp hn.isNumber).2 c hc)
    · exact (of_mem_shortLetters (mem_shortLetters hm c hc)).2.1
  refine ⟨digits, 'd' :: mark.toList, mark, ?_, hn, hm, ?_⟩
  · exact trim_eq_self (fun c hc => hblank c (List.mem_of_mem_head? hc))
      fun c hc => hblank c (List.mem_of_mem_getLast? hc)
  · refine (List.map_congr_left fun c hc => ?_).trans (List.map_id _)
    exact (of_mem_shortLetters (mem_shortLetters hm c hc)).2.2

/-- The key of a region is its name, unless the catalog gives it to another region. -/
theorem names_key {catalog : List Station} {r : Region}
    (h : ∀ s ∈ catalog, foldKey s.region.name.toList = r.key.toList → s.region.code = r) :
    Names catalog r.key.toList r := by
  rw [← regionNamed?_eq_some_iff, regionNamed?]
  cases hs : catalog.find? fun s => foldKey s.region.name.toList == r.key.toList with
  | some s =>
    have hname : foldKey s.region.name.toList = r.key.toList := by simpa using List.find?_some hs
    exact congrArg some (h s (List.mem_of_find?_eq_some hs) hname)
  | none => cases r <;> decide +kernel

theorem isSentence_append {catalog : List Station} {digits : List Char} {n : Nat} {r : Region}
    (hn : Counts digits n)
    (h : ∀ s ∈ catalog, foldKey s.region.name.toList = r.key.toList → s.region.code = r) :
    IsSentence catalog ⟨n, r⟩ (digits ++ " stations in ".toList ++ r.key.toList) := by
  have hdigits := ((isNumber_iff digits).mp hn.isNumber).2
  have hkey : fold r.key.toList = r.key.toList ∧ words r.key.toList = [r.key.toList] ∧
      r.key.toList ≠ [] := by cases r <;> decide +kernel
  have hmiddle : fold " stations in ".toList = " stations in ".toList := by decide +kernel
  have hfold : fold (digits ++ " stations in ".toList ++ r.key.toList) =
      digits ++ " stations in ".toList ++ r.key.toList := by
    rw [fold_append, fold_append, fold_eq_self fun c hc => foldChar_of_isDigit (hdigits c hc),
      hmiddle, hkey.1]
  have hsplit : digits ++ " stations in ".toList ++ r.key.toList =
      digits ++ ' ' :: ("stations".toList ++ ' ' :: ("in".toList ++ ' ' :: r.key.toList)) := by
    simp
  refine ⟨digits, "stations".toList, r.key.toList, ?_, hn, List.mem_cons_self, hkey.2.2, names_key h⟩
  rw [foldKey, hfold, hsplit, words_sentence hn.isNumber List.mem_cons_self, hkey.2.1]

/-- Both forms of a header that asks for a number of stations are read exactly where they are written,
and no header is written in both. A count with the mark of a region comes to the same as the sentence
with the key of the region, unless the catalog gives that key to another region. -/
theorem forms_exact (catalog : List Station) :
    (∀ header q, readShort? header = some q ↔ q.IsShort header) ∧
    (∀ header q, readSentence? catalog header = some q ↔ q.IsSentence catalog header) ∧
    (∀ header (q q' : Quota), ¬ (q.IsShort header ∧ q'.IsSentence catalog header)) ∧
    ∀ accessible n region digits digits' mark, Counts digits n → Counts digits' n →
      (mark, region) ∈ regionMarks →
      (∀ s ∈ catalog, foldKey s.region.name.toList = region.key.toList → s.region.code = region) →
      resolveHeader catalog accessible (digits ++ 'd' :: mark.toList) =
          Quota.resolve ⟨n, region⟩ catalog accessible ∧
        resolveHeader catalog accessible (digits' ++ " stations in ".toList ++ region.key.toList) =
          resolveHeader catalog accessible (digits ++ 'd' :: mark.toList) := by
  refine ⟨readShort?_eq_some_iff, readSentence?_eq_some_iff catalog, ?_, ?_⟩
  · rintro header q q' ⟨hshort, hsentence⟩
    exact hsentence.not_isShort hshort
  · intro accessible n region digits digits' mark hn hn' hm h
    have hshort := read?_of_isShort catalog (isShort_append hn hm)
    have hsentence := read?_of_isSentence (isSentence_append hn' h)
    rw [resolveHeader_of_quota hshort, resolveHeader_of_quota hsentence]
    exact ⟨rfl, rfl⟩

/-- The catalog gives the key of the north, in capitals and with an accent, to the north. -/
theorem forms_exact_north :
    let catalog : List Station := [⟨1, "tp", ⟨3, "nam", .south⟩, []⟩, ⟨2, "hn", ⟨1, "NÓRTH", .north⟩, []⟩]
    foldKey "NÓRTH".toList = Region.north.key.toList ∧
      IsShort ⟨1, .north⟩ " 001DmB".toList ∧
      resolveHeader catalog catalog "1dmb".toList =
        .ok (.regional 1 .north [⟨2, "hn", ⟨1, "NÓRTH", .north⟩, []⟩]) ∧
      resolveHeader catalog catalog "001 stations in north".toList =
        resolveHeader catalog catalog "1dmb".toList := by
  intro catalog
  obtain ⟨hshort, -, -, hsame⟩ := forms_exact catalog
  have hone : Counts "1".toList 1 := ⟨by decide, by decide, by decide, by decide⟩
  have hzeros : Counts "001".toList 1 := ⟨by decide, by decide, by decide, by decide⟩
  have hcodes : ∀ s ∈ catalog, foldKey s.region.name.toList = Region.north.key.toList →
      s.region.code = .north := by decide +kernel
  obtain ⟨hquota, hsentence⟩ := hsame catalog 1 .north "1".toList "001".toList "mb" hone hzeros
    (by decide) hcodes
  refine ⟨by decide +kernel, (hshort _ _).mp (by decide +kernel), hquota.trans (by decide +kernel), ?_⟩
  exact hsentence

end LotterySlip.Quota
