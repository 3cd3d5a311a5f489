import LotterySlip.Proofs.Formatted.Submission
import LotterySlip.Shipped

/-! The shipped catalogs. Their names, aliases and combinations are such that every slip is read back
from what is shown of it, whatever stations may be played. -/
namespace LotterySlip.Shipped
open Text

def letters : List (Char × Char) := [
  ('n', 'n'), (' ', ' '), ('h', 'h'), ('i', 'i'), ('a', 'a'), ('u', 'u'), ('g', 'g'), ('c', 'c'),
  ('d', 'd'), ('l', 'l'), ('T', 't'), ('t', 't'), ('o', 'o'), ('b', 'b'), ('Đ', 'd'), ('e', 'e'),
  ('B', 'b'), ('k', 'k'), ('L', 'l'), ('N', 'n'), ('p', 'p'), ('m', 'm'), ('M', 'm'), ('à', 'a'),
  ('ẵ', 'a'), ('C', 'c'), ('ề', 'e'), ('ắ', 'a'), ('K', 'k'), ('ì', 'i'), ('r', 'r'), ('G', 'g'),
  ('x', 'x'), ('ẻ', 'e'), ('H', 'h'), ('ê', 'e'), ('Q', 'q'), ('ả', 'a'), ('q', 'q'), ('P', 'p'),
  ('ậ', 'a'), ('ồ', 'o'), ('V', 'v'), ('v', 'v'), ('ầ', 'a'), ('á', 'a'), ('y', 'y'), ('ế', 'e'),
  ('ị', 'i'), ('ô', 'o'), ('ạ', 'a'), ('ơ', 'o'), ('A', 'a'), ('ư', 'u'), ('é', 'e'), ('0', '0'),
  ('5', '5'), ('9', '9'), ('ò', 'o'), ('ú', 'u'), ('Y', 'y'), ('ừ', 'u'), ('ã', 'a'), ('.', '.'),
  ('í', 'i'), ('ũ', 'u'), ('S', 's'), ('ó', 'o'), ('ă', 'a'), ('s', 's'), ('â', 'a'), ('ĩ', 'i'),
  ('D', 'd'), ('ớ', 'o'), ('X', 'x'), ('ỉ', 'i'), ('ệ', 'e')]

theorem foldChar_of_mem_letters : ∀ p ∈ letters, foldChar p.1 = [p.2] := by decide +kernel

def foldLetter (c : Char) : List Char :=
  match letters.lookup c with
  | some d => [d]
  | none => foldChar c

theorem foldLetter_eq (c : Char) : foldLetter c = foldChar c := by
  unfold foldLetter
  split
  · next d hd =>
    obtain ⟨front, back, hl, -⟩ := List.lookup_eq_some_iff.mp hd
    have hm : (c, d) ∈ letters := hl ▸ List.mem_append_right _ List.mem_cons_self
    exact (foldChar_of_mem_letters (c, d) hm).symm
  · rfl

def quickKey (cs : List Char) : List Char := unwords (words (cs.flatMap foldLetter))

theorem quickKey_eq (cs : List Char) : quickKey cs = foldKey cs := by
  have h : foldLetter = foldChar := funext foldLetter_eq
  rw [quickKey, h]
  rfl

def stationKeys : List (List String) := [
  ["mien bac", "mb", "hn", "hanoi"], ["da nang", "dng"], ["khanh hoa", "kh"], ["phu yen", "py"],
  ["thua thien hue", "hue"], ["quang nam", "qnm"], ["dak lak", "dlk"], ["binh dinh", "bdi"],
  ["quang tri", "qt"], ["quang binh", "qb"], ["gia lai", "gl"], ["ninh thuan", "nt"],
  ["quang ngai", "qng"], ["dak nong", "dno"], ["kon tum", "kt"], ["tp. ho chi minh", "tp", "hcm"],
  ["dong thap", "dt"], ["ca mau", "cm"], ["ben tre", "bt"], ["vung tau", "vt"],
  ["bac lieu", "bl"], ["dong nai", "dn"], ["can tho", "ct"], ["soc trang", "st"],
  ["tay ninh", "tn"], ["an giang", "ag"], ["binh thuan", "bth"], ["vinh long", "vl"],
  ["binh duong", "bd"], ["tra vinh", "tv"], ["long an", "la"], ["binh phuoc", "bp"],
  ["hau giang", "hg"], ["tien giang", "tg"], ["kien giang", "kg"], ["da lat", "dl"]]

theorem map_quickKey_lookupKeys : (stations.map fun s => s.lookupKeys.map fun k => quickKey k.toList) =
    stationKeys.map fun ks => ks.map String.toList := by decide +kernel

def index : List KeyedStation :=
  List.zipWith KeyedStation.mk stations (stationKeys.map fun ks => ks.map String.toList)

theorem keyed_stations : keyed stations = index := by
  rw [index, ← map_quickKey_lookupKeys, List.zipWith_map_right, List.zipWith_self, keyed]
  simp only [quickKey_eq]

def means (token : List Char) (s : Station) : Bool :=
  let key := quickKey token
  match stationsWith index (· == key) with
  | [] => stationsWith index (occursIn key) = [s]
  | ss => ss = [s]

theorem resolveToken_of_means {token : List Char} {s : Station} (h : means token s = true)
    (ids : List Int64) : resolveToken (keyed stations) ids token = .ok s := by
  simp only [means, quickKey_eq] at h
  rw [resolveToken, keyed_stations]
  split at h
  · next he =>
    have hp : stationsWith index (occursIn (foldKey token)) = [s] := by simpa using h
    simp only [he, hp, pickStation]
  · next he =>
    have hp : stationsWith index (· == foldKey token) = [s] := by simpa using h
    simp only [hp, pickStation]

def isLegible (s : Station) : Bool :=
  (quickKey s.name.toList).head?.all (fun c => !c.isDigit) &&
    !(headerTokens s.name.toList).isEmpty && (headerTokens s.name.toList).all (means · s) &&
    !s.name.toList.contains '\n'

theorem isLegible_of_mem : ∀ s ∈ stations, isLegible s = true := by decide +kernel

/-- Names that all mean one station choose it. -/
theorem resolveTokens_of_means {ids : List Int64} {tokens : List (List Char)} {s : Station}
    (h : ∀ t ∈ tokens, means t s = true) (hs : s.id ∈ ids) :
    resolveTokens (keyed stations) ids tokens = .ok (tokens.map fun _ => s) := by
  rw [resolveTokens_eq_ok_iff, List.forall₂_map_right_iff, List.forall₂_same]
  intro t ht
  rw [resolveAccessible, resolveToken_of_means (h t ht)]
  simp [isAmong, hs]

theorem resolveHeader_name {accessible : List Station} {s : Station} (hs : s ∈ stations)
    (ha : s ∈ accessible) : ∃ repeated,
      resolveHeader stations accessible s.name.toList = .ok (.named [s] repeated) := by
  have hl := isLegible_of_mem s hs
  simp only [isLegible, Bool.and_eq_true, Bool.not_eq_true', quickKey_eq] at hl
  obtain ⟨⟨⟨hhead, htokens⟩, hmeans⟩, -⟩ := hl
  have hne : headerTokens s.name.toList ≠ [] := by
    rintro e
    rw [e] at htokens
    cases htokens
  refine ⟨(collapse [] ((headerTokens s.name.toList).map fun _ => s)).2,
    (resolveHeader_eq_named_iff _ _ _ _ _).mpr ⟨?_, hne, _,
      resolveTokens_of_means (List.all_eq_true.mp hmeans) (List.mem_map_of_mem ha), ?_⟩⟩
  · apply Quota.read?_eq_none_of_head?
    intro c hc
    rw [Option.mem_def.mp hc] at hhead
    simpa using hhead
  · obtain ⟨t, ts, ht⟩ := List.exists_cons_of_ne_nil hne
    have hrest : (collapse [s.id] ((ts.map fun _ => s) ++ [])).1 = [] :=
      collapse_append_of_mem [] fun u hu => by
        obtain ⟨-, -, rfl⟩ := List.mem_map.mp hu
        exact List.mem_singleton_self _
    rw [List.append_nil] at hrest
    rw [ht, List.map_cons, collapse_cons_of_notMem _ List.not_mem_nil, hrest]

def regions : List RegionEntry := [northern, central, southern]

theorem region_mem : ∀ s ∈ stations, s.region ∈ regions := by decide

theorem regions_legible : ∀ r ∈ regions, '\n' ∉ r.name.toList ∧ quickKey r.name.toList ≠ [] ∧
    ∀ t ∈ regions, quickKey t.name.toList = quickKey r.name.toList → t.code = r.code := by
  decide +kernel

/-- The shipped stations are found again by their names, whichever of them may be played. -/
theorem legibleStations {accessible : List Station} (h : accessible.Sublist stations) :
    LegibleStations stations accessible := by
  have hlegible := fun s (hs : s ∈ accessible) => isLegible_of_mem s (h.subset hs)
  simp only [isLegible, Bool.and_eq_true, Bool.not_eq_true', quickKey_eq] at hlegible
  have hregion := fun s (hs : s ∈ stations) => regions_legible s.region (region_mem s hs)
  simp only [quickKey_eq] at hregion
  refine ⟨h, by decide, fun s hs => ?_, fun s hs c hc => ?_,
    fun s hs => resolveHeader_name (h.subset hs) hs, fun s hs => (hregion s (h.subset hs)).1,
    fun s hs => (hregion s (h.subset hs)).2.1, fun s hs t ht hk => ?_⟩
  · simpa using (hlegible s hs).2
  · have hhead := (hlegible s hs).1.1.1
    rw [Option.mem_def.mp hc] at hhead
    simpa using hhead
  · exact (hregion t (h.subset ht)).2.2 s.region (region_mem s hs) hk

def isLegibleAlias (a : String) : Bool :=
  (trim a.toList).flatMap foldLetter = quickKey a.toList &&
    (trim a.toList).head?.all (fun c => !(foldLetter c).isEmpty) &&
    (quickKey a.toList).all fun c => !isFigure c

theorem isLegibleAlias_of_mem : ∀ b ∈ betTypes, ∀ a ∈ b.aliases, isLegibleAlias a = true := by
  decide +kernel

theorem any_not_isFigure : ∀ c ∈ combinations, ∀ k ∈ c.lookupKeys,
    (quickKey k.toList).any (fun d => !isFigure d) = true := by
  decide +kernel

/-- The shipped aliases stand out, and no shipped combination is named like a list of numbers. -/
theorem legible (options : Options) : (catalogs.tariff options).Legible := by
  have halias : ∀ b ∈ betTypes, ∀ a ∈ b.aliases, fold (trim a.toList) = foldKey a.toList ∧
      (∀ c ∈ (trim a.toList).head?, foldChar c ≠ []) ∧
      ∀ c ∈ foldKey a.toList, isFigure c = false := by
    intro b hb a ha
    have hl := isLegibleAlias_of_mem b hb a ha
    have hf : foldLetter = foldChar := funext foldLetter_eq
    simp only [isLegibleAlias, Bool.and_eq_true, decide_eq_true_eq, quickKey_eq, hf] at hl
    obtain ⟨⟨hfold, hhead⟩, hfigures⟩ := hl
    refine ⟨hfold, fun c hc => ?_, fun c hc => ?_⟩
    · rw [Option.mem_def.mp hc] at hhead
      simpa using hhead
    · simpa using List.all_eq_true.mp hfigures c hc
  refine ⟨fun b hb a ha _ => (halias b hb a ha).1, fun b hb a ha _ => (halias b hb a ha).2.1,
    fun b hb a ha => (halias b hb a ha).2.2, fun c hc k hk _ => ?_⟩
  obtain ⟨d, hd, hf⟩ := List.any_eq_true.mp (any_not_isFigure c hc k hk)
  rw [quickKey_eq] at hd
  exact ⟨d, hd, by simpa using hf⟩

/-- Every slip of the shipped house is read back. -/
theorem roundTrips {accessible : List Station} (h : accessible.Sublist stations)
    (options : Options) : (catalogs.house options).RoundTrips accessible :=
  House.roundTrips (legibleStations h) (legible options)

end LotterySlip.Shipped

namespace LotterySlip
open Text

/-- A house whose names and aliases are legible reads every slip without a fault back from what is
shown of it, and the shipped catalogs are legible, whichever stations may be played. -/
theorem roundTrips_of_legible :
    (∀ h accessible, LegibleStations (House.stations h) accessible → h.tariff.Legible →
      h.RoundTrips accessible) ∧
    ∀ accessible options, List.Sublist accessible Shipped.stations →
      LegibleStations Shipped.stations accessible ∧ (Shipped.catalogs.tariff options).Legible :=
  ⟨fun _ _ hstations htariff => House.roundTrips hstations htariff,
    fun _ options h => ⟨Shipped.legibleStations h, Shipped.legible options⟩⟩

/-- Two numbers for an amount with a zero too many. -/
theorem roundTrips_plain :
    LegibleStations Sample.plain.stations Sample.plain.stations ∧
    (Sample.plain.tariff .standard).Legible ∧
    ∃ s, (Sample.plain.house .standard).submit Sample.plain.stations .one "tp\n12.21dd5.50" =
      .accepted s ∧ s.hasErrors = false ∧
      ∃ s', (Sample.plain.house .standard).submit Sample.plain.stations .one s.formatted =
        .accepted s' ∧ s'.hasErrors = false ∧ s'.Same s := by
  have hname : foldKey ['t', 'p'] = ['t', 'p'] := by decide +kernel
  have hregion : foldKey ['n', 'a', 'm'] = ['n', 'a', 'm'] := by decide +kernel
  have halias : foldKey ['d', 'd'] = ['d', 'd'] := by decide +kernel
  have hfold : fold (trim ['d', 'd']) = ['d', 'd'] := by decide +kernel
  have hhead : (trim ['d', 'd']).head? = some 'd' ∧ foldChar 'd' ≠ [] := by decide +kernel
  have hstations : LegibleStations Sample.plain.stations Sample.plain.stations := by
    refine ⟨.refl _, by decide, ?_, ?_, ?_, ?_, ?_, ?_⟩ <;>
      simp only [Sample.plain, List.forall_mem_singleton]
    · decide
    · simp [hname]
    · exact ⟨[], by decide +kernel⟩
    · decide
    · simp [hregion]
    · exact fun _ => trivial
  have htariff : (Sample.plain.tariff .standard).Legible := by
    refine ⟨?_, ?_, ?_, ?_⟩ <;>
      simp only [Sample.plain, Catalogs.tariff, List.forall_mem_singleton]
    · simp [halias, hfold]
    · simp [hhead]
    · simp [halias, isFigure]
    · exact fun c hc => absurd hc List.not_mem_nil
  have hsome : (((Sample.plain.house .standard).submit Sample.plain.stations .one
      "tp\n12.21dd5.50").accepted?.map Submission.hasErrors) = some false := by decide +kernel
  obtain ⟨s, hs, hok⟩ := Option.map_eq_some_iff.mp hsome
  have h := (SubmissionResult.accepted?_eq_some_iff _ s).mp hs
  exact ⟨hstations, htariff, s, h, hok,
    roundTrips_of_legible.1 (Sample.plain.house .standard) _ hstations htariff _ _ s h hok⟩

end LotterySlip
