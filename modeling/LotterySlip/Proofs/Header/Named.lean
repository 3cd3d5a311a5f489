import Mathlib.Data.List.Forall2
import LotterySlip.Header.Resolution
import LotterySlip.Proofs.Text.Blank

/-! Headers that name stations. Every name stands for a station of the catalog that may be played, and
a station that is named again is kept once. -/
namespace LotterySlip
open Text

def isNameEnd (c : Char) : Bool := c == '.' || c == ','

theorem isNameEnd_iff (c : Char) : isNameEnd c = true ↔ c = '.' ∨ c = ',' := by
  rw [isNameEnd, Bool.or_eq_true, beq_iff_eq, beq_iff_eq]

theorem not_isNameEnd_of_isBlank {c : Char} (h : isBlank c = true) : isNameEnd c = false := by
  rw [← Bool.not_eq_true, isNameEnd_iff]
  rintro (rfl | rfl) <;> exact absurd h (by decide)

theorem headerTokens_eq (header : List Char) :
    headerTokens header = ((header.splitOnP isNameEnd).map trim).filter fun t => !t.isEmpty := rfl

theorem headerTokens_append_cons (as : List Char) (c : Char) (bs : List Char)
    (hc : isNameEnd c = true) :
    headerTokens (as ++ c :: bs) = headerTokens as ++ headerTokens bs := by
  simp only [headerTokens_eq, List.splitOnP_append_cons as bs hc, List.map_append,
    List.filter_append]

theorem map_trim_splitOnP_cons (c : Char) (cs : List Char) (h : isBlank c = true) :
    ((c :: cs).splitOnP isNameEnd).map trim = (cs.splitOnP isNameEnd).map trim := by
  obtain ⟨hd, tl, hs⟩ := List.exists_cons_of_ne_nil (List.splitOnP_ne_nil isNameEnd cs)
  have hc : trim (c :: hd) = trim hd := trim_append_left [c] hd (by simpa [isBlankText] using h)
  simp [List.splitOnP_cons_eq_if_modifyHead, not_isNameEnd_of_isBlank h, hs, hc]

theorem headerTokens_append_left (front cs : List Char) (h : isBlankText front = true) :
    headerTokens (front ++ cs) = headerTokens cs := by
  have hf := (isBlankText_iff front).mp h
  induction front with
  | nil => rfl
  | cons c front ih =>
    rw [List.cons_append, headerTokens_eq, map_trim_splitOnP_cons _ _ (hf c List.mem_cons_self),
      ← headerTokens_eq]
    exact ih (List.all_eq_true.mpr fun d hd => hf d (List.mem_cons_of_mem c hd))
      fun d hd => hf d (List.mem_cons_of_mem c hd)

/-- What is added behind a text goes to the last piece. -/
theorem exists_splitOnP_append (cs back : List Char) (hb : ∀ c ∈ back, isNameEnd c = false) :
    ∃ front last, cs.splitOnP isNameEnd = front ++ [last] ∧
      (cs ++ back).splitOnP isNameEnd = front ++ [last ++ back] := by
  induction cs with
  | nil => exact ⟨[], [], rfl, List.splitOnP_eq_singleton hb⟩
  | cons c cs ih =>
    obtain ⟨front, last, hc, hcb⟩ := ih
    by_cases hs : isNameEnd c = true
    · refine ⟨[] :: front, last, ?_, ?_⟩ <;>
        simp [List.splitOnP_cons_eq_if_modifyHead, hs, hc, hcb]
    · cases front with
      | nil =>
        refine ⟨[], c :: last, ?_, ?_⟩ <;>
          simp [List.splitOnP_cons_eq_if_modifyHead, hs, hc, hcb]
      | cons f front =>
        refine ⟨(c :: f) :: front, last, ?_, ?_⟩ <;>
          simp [List.splitOnP_cons_eq_if_modifyHead, hs, hc, hcb]

theorem headerTokens_append_right (cs back : List Char) (h : isBlankText back = true) :
    headerTokens (cs ++ back) = headerTokens cs := by
  obtain ⟨front, last, hc, hcb⟩ := exists_splitOnP_append cs back fun c hc =>
    not_isNameEnd_of_isBlank ((isBlankText_iff back).mp h c hc)
  rw [headerTokens_eq, headerTokens_eq, hc, hcb, List.map_append, List.map_append,
    List.map_singleton, List.map_singleton, trim_append_right _ _ h]

theorem headerTokens_trim (header : List Char) :
    headerTokens (trim header) = headerTokens header := by
  obtain ⟨front, back, hf, hb, hh⟩ := exists_append_trim header
  have h : headerTokens (front ++ trim header ++ back) = headerTokens (trim header) := by
    rw [headerTokens_append_right _ _ hb, headerTokens_append_left _ _ hf]
  rw [← hh] at h
  exact h.symm

/-- The names of a list of headers with commas between them. -/
theorem headerTokens_intercalate (headers : List (List Char)) :
    headerTokens ([',', ' '].intercalate headers) = headers.flatMap headerTokens := by
  induction headers with
  | nil => rfl
  | cons h headers ih =>
    cases headers with
    | nil => simp [List.intercalate]
    | cons k headers =>
      have hcut : [',', ' '].intercalate (h :: k :: headers) =
          h ++ ',' :: ([' '] ++ [',', ' '].intercalate (k :: headers)) := by
        simp [List.intercalate_cons_cons]
      rw [hcut, headerTokens_append_cons _ _ _ (by decide),
        headerTokens_append_left _ _ (by decide), ih]
      rfl

theorem mem_of_pickStation {token : List Char} {ids : List Int64} {candidates : List Station}
    {s : Station} (h : pickStation token ids candidates = .ok (some s)) : s ∈ candidates := by
  unfold pickStation at h
  split at h
  · cases h
  · cases h
    exact List.mem_singleton_self s
  · split at h
    · next t ht =>
      cases h
      have hs : s ∈ candidates.filter (isAmong ids) := ht ▸ List.mem_singleton_self s
      exact (List.mem_filter.mp hs).1
    · cases h

theorem mem_of_mem_stationsWith {catalog : List Station} {test : List Char → Bool} {s : Station}
    (h : s ∈ stationsWith (keyed catalog) test) : s ∈ catalog := by
  obtain ⟨e, he, rfl⟩ := List.mem_map.mp h
  obtain ⟨t, ht, rfl⟩ := List.mem_map.mp (List.mem_filter.mp he).1
  exact ht

/-- A name that is understood names a station of the catalog. -/
theorem mem_of_resolveToken {catalog : List Station} {ids : List Int64} {token : List Char}
    {s : Station} (h : resolveToken (keyed catalog) ids token = .ok s) : s ∈ catalog := by
  rw [resolveToken] at h
  split at h
  · cases h
  · next t ht =>
    cases h
    exact mem_of_mem_stationsWith (mem_of_pickStation ht)
  · split at h
    · cases h
    · next t ht =>
      cases h
      exact mem_of_mem_stationsWith (mem_of_pickStation ht)
    · cases h

/-- Only stations that may be played come of a name. -/
theorem mem_of_resolveAccessible {catalog : List Station} {ids : List Int64} {token : List Char}
    {s : Station} (h : resolveAccessible (keyed catalog) ids token = .ok s) :
    s ∈ catalog ∧ s.id ∈ ids := by
  rw [resolveAccessible] at h
  split at h
  · cases h
  · next t ht =>
    split at h
    · next ha =>
      cases h
      exact ⟨mem_of_resolveToken ht, by simpa [isAmong] using ha⟩
    · cases h

theorem resolveTokens_eq_ok_iff (index : List KeyedStation) (ids : List Int64)
    (tokens : List (List Char)) (stations : List Station) :
    resolveTokens index ids tokens = .ok stations ↔
      List.Forall₂ (fun t s => resolveAccessible index ids t = .ok s) tokens stations := by
  -- The first name that fails ends the reading, so the whole succeeds if every name does.
  induction tokens generalizing stations with
  | nil =>
    rw [List.forall₂_nil_left_iff, resolveTokens, Except.ok.injEq, eq_comm]
  | cons t tokens ih =>
    rw [resolveTokens, List.forall₂_cons_left_iff]
    cases ht : resolveAccessible index ids t with
    | error e => simp
    | ok s =>
      simp only [Except.ok.injEq, exists_and_left, exists_eq_left']
      cases hts : resolveTokens index ids tokens with
      | error e =>
        simp only [Except.map, reduceCtorEq, false_iff, not_exists, not_and]
        intro ss hss
        rw [← ih, hts] at hss
        cases hss
      | ok ss =>
        simp only [Except.map, Except.ok.injEq]
        constructor
        · rintro rfl
          exact ⟨ss, (ih ss).mp hts, rfl⟩
        · rintro ⟨ss', hss', rfl⟩
          rw [← ih, hts, Except.ok.injEq] at hss'
          rw [hss']

theorem mem_of_resolveTokens {catalog : List Station} {ids : List Int64}
    {tokens : List (List Char)} {stations : List Station}
    (h : resolveTokens (keyed catalog) ids tokens = .ok stations) :
    ∀ s ∈ stations, s ∈ catalog ∧ s.id ∈ ids := by
  rw [resolveTokens_eq_ok_iff] at h
  induction h with
  | nil => exact fun s hs => absurd hs List.not_mem_nil
  | cons ht _ ih =>
    rintro s (_ | ⟨_, hs⟩)
    · exact mem_of_resolveAccessible ht
    · exact ih s hs

theorem mem_resolveTokens_iff {index : List KeyedStation} {ids : List Int64}
    {tokens : List (List Char)} {stations : List Station}
    (h : resolveTokens index ids tokens = .ok stations) (s : Station) :
    s ∈ stations ↔ ∃ t ∈ tokens, resolveAccessible index ids t = .ok s := by
  rw [resolveTokens_eq_ok_iff] at h
  induction h with
  | nil => simp
  | cons ht _ ih =>
    simp only [List.mem_cons, exists_eq_or_imp, ih, ht, Except.ok.injEq]
    exact or_congr_left eq_comm

/-- A list of names is understood if every name is. -/
theorem exists_resolveTokens_iff (index : List KeyedStation) (ids : List Int64)
    (tokens : List (List Char)) : (∃ stations, resolveTokens index ids tokens = .ok stations) ↔
      ∀ t ∈ tokens, ∃ s, resolveAccessible index ids t = .ok s := by
  simp only [resolveTokens_eq_ok_iff]
  induction tokens with
  | nil => simp
  | cons t tokens ih =>
    rw [List.forall_mem_cons, ← ih]
    constructor
    · rintro ⟨stations, h⟩
      obtain ⟨s, ss, ht, hts, -⟩ := List.forall₂_cons_left_iff.mp h
      exact ⟨⟨s, ht⟩, ss, hts⟩
    · rintro ⟨⟨s, ht⟩, ss, hts⟩
      exact ⟨s :: ss, .cons ht hts⟩

theorem collapse_cons_of_mem {seen : List Int64} {s : Station} (ss : List Station)
    (h : s.id ∈ seen) : collapse seen (s :: ss) =
      ((collapse seen ss).1, s.name :: (collapse seen ss).2) := by
  rw [collapse, if_pos (List.contains_iff_mem.mpr h)]

theorem collapse_cons_of_notMem {seen : List Int64} {s : Station} (ss : List Station)
    (h : s.id ∉ seen) : collapse seen (s :: ss) =
      (s :: (collapse (s.id :: seen) ss).1, (collapse (s.id :: seen) ss).2) := by
  rw [collapse, if_neg fun e => h (List.contains_iff_mem.mp e)]

theorem collapse_sublist (seen : List Int64) (ss : List Station) :
    ((collapse seen ss).1).Sublist ss := by
  induction ss generalizing seen with
  | nil => exact .slnil
  | cons s ss ih =>
    by_cases h : s.id ∈ seen
    · rw [collapse_cons_of_mem ss h]
      exact (ih seen).cons s
    · rw [collapse_cons_of_notMem ss h]
      exact (ih _).cons_cons s

/-- Every station is either kept or counted as a repetition. -/
theorem length_collapse (seen : List Int64) (ss : List Station) :
    (collapse seen ss).1.length + (collapse seen ss).2.length = ss.length := by
  induction ss generalizing seen with
  | nil => rfl
  | cons s ss ih =>
    by_cases h : s.id ∈ seen
    · have := ih seen
      simp only [collapse_cons_of_mem ss h, List.length_cons]
      omega
    · have := ih (s.id :: seen)
      simp only [collapse_cons_of_notMem ss h, List.length_cons]
      omega

def repeatsOf (stations : List Station) : List Station :=
  (stations.zipIdx.filter fun p => (stations.take p.2).any fun s => s.id == p.1.id).map Prod.fst

def firstsOf (stations : List Station) : List Station :=
  (stations.zipIdx.filter fun p => !(stations.take p.2).any fun s => s.id == p.1.id).map Prod.fst

theorem collapse_append {front : List Station} {seen : List Int64}
    (hseen : ∀ id, id ∈ seen ↔ ∃ s ∈ front, s.id = id) (ss : List Station) :
    collapse seen ss =
      (((ss.zipIdx front.length).filter fun p =>
          !((front ++ ss).take p.2).any fun s => s.id == p.1.id).map Prod.fst,
        ((ss.zipIdx front.length).filter fun p =>
          ((front ++ ss).take p.2).any fun s => s.id == p.1.id).map fun p => p.1.name) := by
  induction ss generalizing front seen with
  | nil => rfl
  | cons s ss ih =>
    have hsplit : front ++ s :: ss = (front ++ [s]) ++ ss := List.append_cons front s ss
    have hlen : front.length + 1 = (front ++ [s]).length := by rw [List.length_append]; rfl
    have hany : front.any (fun t => t.id == s.id) = decide (s.id ∈ seen) := by
      rw [Bool.eq_iff_iff, List.any_eq_true, decide_eq_true_iff, hseen]
      simp only [beq_iff_eq]
    rw [List.zipIdx_cons, List.filter_cons, List.filter_cons, List.take_left, hany, hsplit, hlen]
    by_cases hs : s.id ∈ seen
    · have hrest : ∀ id, id ∈ seen ↔ ∃ t ∈ front ++ [s], t.id = id := by
        intro id
        obtain ⟨t, ht, hid⟩ := (hseen s.id).mp hs
        simp only [List.mem_append, List.mem_singleton, or_and_right, exists_or, exists_eq_left, hseen]
        exact (or_iff_left_of_imp fun h => ⟨t, ht, hid.trans h⟩).symm
      rw [collapse_cons_of_mem ss hs, ih hrest]
      simp only [hs, decide_true, Bool.not_true, Bool.false_eq_true, if_false, if_true, List.map_cons]
    · have hrest : ∀ id, id ∈ s.id :: seen ↔ ∃ t ∈ front ++ [s], t.id = id := by
        intro id
        rw [List.mem_cons, hseen]
        simp only [List.mem_append, List.mem_singleton, or_and_right, exists_or, exists_eq_left]
        rw [or_comm, eq_comm]
      rw [collapse_cons_of_notMem ss hs, ih hrest]
      simp only [hs, decide_false, Bool.not_false, Bool.false_eq_true, if_false, if_true, List.map_cons]

/-- What is kept is what comes first, and the names of what comes again are told. -/
theorem collapse_nil (ss : List Station) :
    collapse [] ss = (firstsOf ss, (repeatsOf ss).map fun s => s.name) := by
  have hseen (id : Int64) : id ∈ ([] : List Int64) ↔ ∃ s ∈ ([] : List Station), s.id = id := by simp
  rw [collapse_append hseen, firstsOf, repeatsOf, List.map_map]
  rfl

theorem notMem_seen_of_mem_collapse {seen : List Int64} {ss : List Station} {s : Station}
    (h : s ∈ (collapse seen ss).1) : s.id ∉ seen := by
  induction ss generalizing seen with
  | nil => cases h
  | cons t ss ih =>
    by_cases ht : t.id ∈ seen
    · rw [collapse_cons_of_mem ss ht] at h
      exact ih h
    · rw [collapse_cons_of_notMem ss ht] at h
      rcases List.mem_cons.mp h with rfl | h
      · exact ht
      · exact fun hs => ih h (List.mem_cons_of_mem t.id hs)

/-- No station is kept twice. -/
theorem nodup_collapse (seen : List Int64) (ss : List Station) :
    ((collapse seen ss).1.map fun s => s.id).Nodup := by
  induction ss generalizing seen with
  | nil => exact List.nodup_nil
  | cons s ss ih =>
    by_cases h : s.id ∈ seen
    · rw [collapse_cons_of_mem ss h]
      exact ih seen
    · rw [collapse_cons_of_notMem ss h, List.map_cons, List.nodup_cons]
      refine ⟨fun hm => ?_, ih _⟩
      obtain ⟨t, ht, hid⟩ := List.mem_map.mp hm
      exact notMem_seen_of_mem_collapse ht (hid ▸ List.mem_cons_self)

theorem collapse_nil_ne_nil {ss : List Station} (h : ss ≠ []) : (collapse [] ss).1 ≠ [] := by
  obtain ⟨s, ss, rfl⟩ := List.exists_cons_of_ne_nil h
  rw [collapse_cons_of_notMem ss List.not_mem_nil]
  exact List.cons_ne_nil _ _

/-- Where numbers tell stations apart, only what was seen before is left out. -/
theorem mem_collapse_iff {seen : List Int64} {ss : List Station}
    (hinj : ∀ s ∈ ss, ∀ t ∈ ss, s.id = t.id → s = t) (s : Station) :
    s ∈ (collapse seen ss).1 ↔ s ∈ ss ∧ s.id ∉ seen := by
  induction ss generalizing seen with
  | nil => simp [collapse]
  | cons t ss ih =>
    have hrest := fun u hu v hv => hinj u (List.mem_cons_of_mem t hu) v (List.mem_cons_of_mem t hv)
    by_cases ht : t.id ∈ seen
    · rw [collapse_cons_of_mem ss ht, ih hrest, List.mem_cons]
      refine and_congr_left fun hs => (or_iff_right ?_).symm
      rintro rfl
      exact hs ht
    · rw [collapse_cons_of_notMem ss ht, List.mem_cons, ih hrest, List.mem_cons, List.mem_cons]
      constructor
      · rintro (rfl | ⟨hs, hseen⟩)
        · exact ⟨Or.inl rfl, ht⟩
        · exact ⟨Or.inr hs, fun hm => hseen (Or.inr hm)⟩
      · rintro ⟨hs, hseen⟩
        by_cases hid : s.id = t.id
        · exact Or.inl (hinj s (List.mem_cons.mpr hs) t List.mem_cons_self hid)
        · refine Or.inr ⟨hs.resolve_left fun e => hid (e ▸ rfl), ?_⟩
          exact fun hm => hm.elim hid hseen

theorem resolveNamed_eq_ok_iff (catalog accessible : List Station) (header : List Char)
    (selection : Selection) : resolveNamed catalog accessible header = .ok selection ↔
      headerTokens header ≠ [] ∧ ∃ stations,
        resolveTokens (keyed catalog) (accessible.map fun s => s.id) (headerTokens header) =
          .ok stations ∧ selection = .named (collapse [] stations).1 (collapse [] stations).2 := by
  rw [resolveNamed]
  by_cases ht : headerTokens header = []
  · simp [ht]
  · rw [if_neg fun e => ht (List.isEmpty_iff.mp e)]
    cases resolveTokens (keyed catalog) (accessible.map fun s => s.id) (headerTokens header) with
    | error e => simp
    | ok stations =>
      simp only [Except.ok.injEq, exists_eq_left', ne_eq, ht, not_false_eq_true, true_and]
      exact eq_comm

end LotterySlip
