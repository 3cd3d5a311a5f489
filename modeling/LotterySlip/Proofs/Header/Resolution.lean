import LotterySlip.Proofs.Header.Named
import LotterySlip.Proofs.Header.Quota
import LotterySlip.Sample

/-! From a header to stations. A header is granted in one of two ways, and neither gives a station
that may not be played or one station twice. -/
namespace LotterySlip
open Text

theorem mem_stationsIn {region : Region} {stations : List Station} {s : Station} :
    s ∈ stationsIn region stations ↔ s ∈ stations ∧ s.region.code = region := by
  rw [stationsIn, List.mem_filter, decide_eq_true_iff]

theorem stationsIn_isEmpty_iff (region : Region) (stations : List Station) :
    (stationsIn region stations).isEmpty = true ↔ ¬ ∃ s ∈ stations, s.region.code = region := by
  rw [List.isEmpty_iff, List.eq_nil_iff_forall_not_mem]
  simp only [mem_stationsIn, not_exists]

/-- A quota is granted exactly if the region is known and has enough stations that may be played; its
stations are the first of them. -/
theorem Quota.resolve_eq_ok_iff (q : Quota) (catalog accessible : List Station) (s : Selection) :
    q.resolve catalog accessible = .ok s ↔
      (∃ t ∈ catalog, t.region.code = q.region) ∧
        q.count ≤ (stationsIn q.region accessible).length ∧
        s = .regional q.count q.region ((stationsIn q.region accessible).take q.count) := by
  simp only [Quota.resolve, stationsIn_isEmpty_iff]
  by_cases hr : ∃ t ∈ catalog, t.region.code = q.region
  · rw [if_neg (not_not.mpr hr)]
    by_cases hn : (stationsIn q.region accessible).length < q.count
    · simp [hn, Nat.not_le.mpr hn]
    · rw [if_neg hn, Except.ok.injEq, eq_comm]
      simp only [hr, Nat.le_of_not_lt hn, true_and]
  · simp [hr]

/-- What a quota comes to: it is granted exactly if the region is known and has enough stations that
may be played, and otherwise the refusal says what is missing. -/
structure Quota.Settles (catalog accessible : List Station) (q : Quota)
    (result : Except SlipError Selection) : Prop where
  granted_iff : (∃ s, result = .ok s) ↔ (∃ t ∈ catalog, t.region.code = q.region) ∧
    q.count ≤ (stationsIn q.region accessible).length
  unknown : (¬ ∃ t ∈ catalog, t.region.code = q.region) → result = .error (.unknownRegion q.region)
  insufficient : (∃ t ∈ catalog, t.region.code = q.region) →
    (stationsIn q.region accessible).length < q.count →
      result = .error (.insufficientRegionalAccess q.region q.count
        (stationsIn q.region accessible).length)

theorem Quota.settles_resolve (q : Quota) (catalog accessible : List Station) :
    q.Settles catalog accessible (q.resolve catalog accessible) where
  granted_iff := by simp only [resolve_eq_ok_iff, exists_and_left, exists_eq, and_true]
  unknown hr := by rw [resolve, if_pos ((stationsIn_isEmpty_iff _ _).mpr hr)]
  insufficient hr hn := by
    rw [resolve, if_neg (fun e => (stationsIn_isEmpty_iff _ _).mp e hr), if_pos hn]

/-- A quota is tried first, and names if there is none. Blank headers have no names. -/
theorem resolveHeader_eq (catalog accessible : List Station) (header : List Char) :
    resolveHeader catalog accessible header =
      match Quota.read? catalog header with
      | some q => q.resolve catalog accessible
      | none => resolveNamed catalog accessible header := by
  have hnamed : resolveNamed catalog accessible (trim header) =
      resolveNamed catalog accessible header := by
    rw [resolveNamed, headerTokens_trim, ← resolveNamed]
  rw [resolveHeader, Quota.read?_trim, hnamed]
  split
  · next he =>
    have ht : trim header = [] := List.isEmpty_iff.mp he
    have hq : Quota.read? catalog header = none := by
      apply Quota.read?_eq_none_of_head?
      rw [← foldKey_trim, ht]
      intro c hc
      cases hc
    rw [hq, ← hnamed, ht]
    rfl
  · rfl

theorem resolveHeader_of_quota {catalog : List Station} {header : List Char} {q : Quota}
    (h : Quota.read? catalog header = some q) (accessible : List Station) :
    resolveHeader catalog accessible header = q.resolve catalog accessible := by
  rw [resolveHeader_eq, h]

/-- A number of stations in a region is chosen by a quota only. -/
theorem resolveHeader_eq_regional_iff (catalog accessible : List Station) (header : List Char)
    (n : Nat) (region : Region) (stations : List Station) :
    resolveHeader catalog accessible header = .ok (.regional n region stations) ↔
      Quota.read? catalog header = some ⟨n, region⟩ ∧
        (∃ t ∈ catalog, t.region.code = region) ∧
        n ≤ (stationsIn region accessible).length ∧
        stations = (stationsIn region accessible).take n := by
  rw [resolveHeader_eq]
  cases hq : Quota.read? catalog header with
  | none => simp [resolveNamed_eq_ok_iff]
  | some q =>
    simp only [Quota.resolve_eq_ok_iff, Selection.regional.injEq, Option.some.injEq]
    constructor
    · rintro ⟨hr, hn, rfl, rfl, hs⟩
      exact ⟨rfl, hr, hn, hs⟩
    · rintro ⟨rfl, hr, hn, hs⟩
      exact ⟨hr, hn, rfl, rfl, hs⟩

/-- Stations are chosen by name only where there is no quota. -/
theorem resolveHeader_eq_named_iff (catalog accessible : List Station) (header : List Char)
    (kept : List Station) (repeated : List String) :
    resolveHeader catalog accessible header = .ok (.named kept repeated) ↔
      Quota.read? catalog header = none ∧ headerTokens header ≠ [] ∧ ∃ stations,
        resolveTokens (keyed catalog) (accessible.map fun s => s.id) (headerTokens header) =
          .ok stations ∧ collapse [] stations = (kept, repeated) := by
  rw [resolveHeader_eq]
  cases Quota.read? catalog header with
  | some q => simp [Quota.resolve_eq_ok_iff]
  | none =>
    simp only [resolveNamed_eq_ok_iff, Selection.named.injEq, true_and, Prod.ext_iff,
      eq_comm (a := kept), eq_comm (a := repeated)]

/-- What every choice of stations owes to the catalog, to the stations that may be played and to the
header. -/
structure Selection.Sound (catalog accessible : List Station) (header : List Char)
    (s : Selection) : Prop where
  stations_ne_nil : s.stations ≠ []
  ids_nodup : (s.stations.map fun t => t.id).Nodup
  id_accessible : ∀ t ∈ s.stations, t.id ∈ accessible.map fun a => a.id
  requestedCount_eq : s.requestedCount = s.stations.length
  regional : ∀ n region stations, s = .regional n region stations →
    Quota.read? catalog header = some ⟨n, region⟩ ∧ 0 < n ∧
      stations = (stationsIn region accessible).take n ∧ ∃ t ∈ catalog, t.region.code = region
  named : ∀ stations repeated, s = .named stations repeated →
    (∀ t ∈ stations, t ∈ catalog) ∧
      (headerTokens header).length = stations.length + repeated.length

/-- The stations of a quota are stations of its region that may be played. -/
theorem Selection.Sound.mem_of_regional {catalog accessible : List Station} {header : List Char}
    {n : Nat} {region : Region} {stations : List Station}
    (h : (Selection.regional n region stations).Sound catalog accessible header) {t : Station}
    (ht : t ∈ stations) : t ∈ accessible ∧ t.region.code = region := by
  obtain ⟨-, -, rfl, -⟩ := h.regional n region stations rfl
  exact mem_stationsIn.mp (List.mem_of_mem_take ht)

theorem sound_of_resolveHeader_regional {catalog accessible : List Station} {header : List Char}
    {n : Nat} {region : Region} {stations : List Station}
    (hids : (accessible.map fun a => a.id).Nodup)
    (h : resolveHeader catalog accessible header = .ok (.regional n region stations)) :
    (Selection.regional n region stations).Sound catalog accessible header := by
  obtain ⟨hq, hr, hn, rfl⟩ := (resolveHeader_eq_regional_iff _ _ _ _ _ _).mp h
  have hpos : 0 < n := (Quota.count_bounds_of_read? hq).1
  have hsub : ((stationsIn region accessible).take n).Sublist accessible :=
    (List.take_sublist _ _).trans List.filter_sublist
  have hlen : ((stationsIn region accessible).take n).length = n := by
    rw [List.length_take, Nat.min_eq_left hn]
  refine ⟨fun e => ?_, hids.sublist (hsub.map _), fun t ht => ?_, hlen.symm, ?_, ?_⟩
  · have he : (stationsIn region accessible).take n = [] := e
    rw [he, List.length_nil] at hlen
    omega
  · exact List.mem_map_of_mem (hsub.subset ht)
  · rintro n' region' stations' e
    cases e
    exact ⟨hq, hpos, rfl, hr⟩
  · rintro stations' repeated e
    cases e

theorem sound_of_resolveHeader_named {catalog accessible : List Station} {header : List Char}
    {kept : List Station} {repeated : List String}
    (h : resolveHeader catalog accessible header = .ok (.named kept repeated)) :
    (Selection.named kept repeated).Sound catalog accessible header := by
  obtain ⟨-, ht, stations, hs, hc⟩ := (resolveHeader_eq_named_iff _ _ _ _ _).mp h
  have hall := (resolveTokens_eq_ok_iff _ _ _ _).mp hs
  have hlen : (headerTokens header).length = stations.length := hall.length_eq
  have hmem := mem_of_resolveTokens hs
  have hne : stations ≠ [] := by
    rintro rfl
    exact ht (List.length_eq_zero_iff.mp hlen)
  have hkept : kept = (collapse [] stations).1 := by rw [hc]
  have hrep : repeated = (collapse [] stations).2 := by rw [hc]
  have hsub : kept.Sublist stations := hkept ▸ collapse_sublist [] stations
  refine ⟨?_, ?_, fun t ht => (hmem t (hsub.subset ht)).2, rfl, ?_, ?_⟩
  · exact hkept ▸ collapse_nil_ne_nil hne
  · exact hkept ▸ nodup_collapse [] stations
  · rintro n region stations' e
    cases e
  · rintro stations' repeated' e
    cases e
    refine ⟨fun t ht => (hmem t (hsub.subset ht)).1, ?_⟩
    rw [hlen, hkept, hrep, length_collapse]

theorem sound_of_resolveHeader {catalog accessible : List Station} {header : List Char}
    {s : Selection} (hids : (accessible.map fun a => a.id).Nodup)
    (h : resolveHeader catalog accessible header = .ok s) : s.Sound catalog accessible header := by
  cases s with
  | regional n region stations => exact sound_of_resolveHeader_regional hids h
  | named stations repeated => exact sound_of_resolveHeader_named h

/-- The header at the front of a line is read as any other header. -/
theorem exists_resolveHeader_of_resolveDivisions {catalog accessible : List Station}
    {ds : List (List Char × List Char)} {found : Selection × List Char}
    (h : resolveDivisions catalog accessible ds = .ok found) :
    ∃ header, resolveHeader catalog accessible header = .ok found.1 := by
  induction ds with
  | nil => cases h
  | cons d ds ih =>
    rw [resolveDivisions] at h
    split at h
    · next s hs =>
      cases h
      exact ⟨d.1, hs⟩
    · split at h
      · cases h
      · exact ih h

theorem exists_resolveHeader_of_resolveSingle {catalog accessible : List Station}
    {line : List Char} {found : Selection × List Char}
    (h : resolveSingle catalog accessible line = .ok found) :
    ∃ header, resolveHeader catalog accessible header = .ok found.1 := by
  rw [resolveSingle] at h
  split at h
  · next s hs =>
    cases h
    exact ⟨line, hs⟩
  · split at h
    · cases h
    · exact exists_resolveHeader_of_resolveDivisions h

/-- The stations of a choice are among those that may be played, if these are picked from the catalog
by their numbers. -/
theorem Selection.Sound.mem_stationsWithIds {c : Catalogs} {ids : List Int64} {header : List Char}
    {s : Selection} (h : s.Sound c.stations (c.stationsWithIds ids) header) :
    ∀ t ∈ s.stations, t ∈ c.stationsWithIds ids ∧ (ids = [] ∨ t.id ∈ ids) := by
  have hof {t : Station} (ht : t ∈ c.stationsWithIds ids) : ids = [] ∨ t.id ∈ ids := by
    simpa using (List.mem_filter.mp ht).2
  intro t ht
  cases s with
  | regional n region stations =>
    have hacc := (h.mem_of_regional ht).1
    exact ⟨hacc, hof hacc⟩
  | named stations repeated =>
    obtain ⟨a, ha, hid⟩ := List.mem_map.mp (h.id_accessible t ht)
    have hids := hof ha
    rw [hid] at hids
    have hcat : t ∈ c.stations := (h.named stations repeated rfl).1 t ht
    exact ⟨List.mem_filter.mpr ⟨hcat, by simpa using hids⟩, hids⟩

/-- A header is never granted a station that may not be played, nor one station twice, and a quota
comes to what it should. The header that stands in front of a bet is held to the same. Without a
station that may be played no header is granted. -/
theorem resolveHeader_sound (catalog accessible : List Station)
    (hids : (accessible.map fun a => a.id).Nodup) :
    (∀ header s, resolveHeader catalog accessible header = .ok s →
      s.Sound catalog accessible header) ∧
    (∀ header q, Quota.read? catalog header = some q →
      q.Settles catalog accessible (resolveHeader catalog accessible header)) ∧
    (∀ line found, resolveSingle catalog accessible line = .ok found →
      ∃ header, found.1.Sound catalog accessible header) ∧
    (∀ c ids, catalog = Catalogs.stations c → accessible = c.stationsWithIds ids →
      ∀ header s, resolveHeader catalog accessible header = .ok s →
        ∀ t ∈ s.stations, t ∈ accessible ∧ (ids = [] ∨ t.id ∈ ids)) ∧
    (accessible = [] → ∀ header s, resolveHeader catalog accessible header ≠ .ok s) := by
  refine ⟨fun header s => sound_of_resolveHeader hids, ?_, ?_, ?_, ?_⟩
  · intro header q hq
    rw [resolveHeader_of_quota hq]
    exact q.settles_resolve catalog accessible
  · intro line found h
    obtain ⟨header, hh⟩ := exists_resolveHeader_of_resolveSingle h
    exact ⟨header, sound_of_resolveHeader hids hh⟩
  · intro c ids hc ha header s h
    subst hc ha
    exact (sound_of_resolveHeader hids h).mem_stationsWithIds
  · intro ha header s h
    subst ha
    have hs := sound_of_resolveHeader hids h
    obtain ⟨t, ht⟩ := List.exists_mem_of_ne_nil _ hs.stations_ne_nil
    exact absurd (hs.id_accessible t ht) List.not_mem_nil

/-- Two stations of a region with four of them. -/
theorem resolveHeader_two_southern : (Sample.stations.map fun a => a.id).Nodup ∧
    ∃ s, resolveHeader Sample.stations Sample.stations "2dmn".toList = .ok s :=
  have hids : (Sample.stations.map fun a => a.id).Nodup := by decide
  have hq : Quota.read? Sample.stations "2dmn".toList = some ⟨2, .south⟩ := by decide +kernel
  ⟨hids, ((resolveHeader_sound Sample.stations Sample.stations hids).2.1 _ _ hq).granted_iff.mpr
    (by decide)⟩

end LotterySlip
