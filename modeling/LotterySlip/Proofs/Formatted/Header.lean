import Mathlib.Data.List.Nodup
import LotterySlip.Proofs.Header.Resolution

/-! Headers read back from what is shown of them. The number of stations of a region is shown as a
sentence, and stations that were named by their full names, which may fall into several parts. -/
namespace LotterySlip
open Text

structure LegibleStations (catalog accessible : List Station) : Prop where
  sublist : accessible.Sublist catalog
  ids_nodup : (catalog.map fun s => s.id).Nodup
  name_newline : ∀ s ∈ accessible, '\n' ∉ s.name.toList
  name_head : ∀ s ∈ accessible, ∀ c ∈ (foldKey s.name.toList).head?, c.isDigit = false
  name_resolve : ∀ s ∈ accessible, ∃ repeated,
    resolveHeader catalog accessible s.name.toList = .ok (.named [s] repeated)
  region_newline : ∀ s ∈ accessible, '\n' ∉ s.region.name.toList
  region_key : ∀ s ∈ accessible, foldKey s.region.name.toList ≠ []
  region_code : ∀ s ∈ catalog, ∀ t ∈ accessible,
    foldKey s.region.name.toList = foldKey t.region.name.toList → s.region.code = t.region.code

def Selection.withRepeated : Selection → List String → Selection
  | regional count region stations, _ => regional count region stations
  | named stations _, repeated => named stations repeated

namespace Selection

theorem stations_withRepeated (s : Selection) (repeated : List String) :
    (s.withRepeated repeated).stations = s.stations := by
  cases s <;> rfl

theorem region?_withRepeated (s : Selection) (repeated : List String) :
    (s.withRepeated repeated).region? = s.region? := by
  cases s <;> rfl

theorem requestedCount_withRepeated (s : Selection) (repeated : List String) :
    (s.withRepeated repeated).requestedCount = s.requestedCount := by
  cases s <;> rfl

theorem describe_withRepeated (s : Selection) (repeated : List String) :
    (s.withRepeated repeated).describe = s.describe := by
  cases s <;> rfl

end Selection

theorem id_mem_of_collapse_eq_nil {seen : List Int64} {ss : List Station}
    (h : (collapse seen ss).1 = []) : ∀ s ∈ ss, s.id ∈ seen := by
  induction ss with
  | nil => exact fun s hs => absurd hs List.not_mem_nil
  | cons t ss ih =>
    by_cases ht : t.id ∈ seen
    · rw [collapse_cons_of_mem ss ht] at h
      rintro s (_ | ⟨_, hs⟩)
      · exact ht
      · exact ih h s hs
    · rw [collapse_cons_of_notMem ss ht] at h
      cases h

theorem collapse_append_of_mem {seen : List Int64} {ss : List Station} (ts : List Station)
    (h : ∀ s ∈ ss, s.id ∈ seen) : (collapse seen (ss ++ ts)).1 = (collapse seen ts).1 := by
  induction ss with
  | nil => rfl
  | cons s ss ih =>
    rw [List.cons_append, collapse_cons_of_mem _ (h s List.mem_cons_self)]
    exact ih fun t ht => h t (List.mem_cons_of_mem s ht)

/-- Names that all mean one station contribute that station. -/
theorem collapse_append_of_singleton {seen : List Int64} {ss : List Station} {s : Station}
    (ts : List Station) (h : (collapse [] ss).1 = [s]) (hs : s.id ∉ seen) :
    (collapse seen (ss ++ ts)).1 = s :: (collapse (s.id :: seen) ts).1 := by
  cases ss with
  | nil => cases h
  | cons t ss =>
    rw [collapse_cons_of_notMem ss List.not_mem_nil] at h
    obtain ⟨rfl, hrest⟩ := List.cons.inj h
    rw [List.cons_append, collapse_cons_of_notMem _ hs]
    have hmem : ∀ u ∈ ss, u.id ∈ t.id :: seen := fun u hu => by
      have hid := id_mem_of_collapse_eq_nil hrest u hu
      rw [List.mem_singleton] at hid
      exact hid ▸ List.mem_cons_self
    rw [collapse_append_of_mem ts hmem]

/-- Stations whose names mean them are chosen by their names one after the other. -/
theorem exists_resolveTokens_names {catalog accessible kept : List Station} (seen : List Int64)
    (hname : ∀ s ∈ kept, ∃ repeated,
      resolveHeader catalog accessible s.name.toList = .ok (.named [s] repeated))
    (hn : (kept.map fun s => s.id).Nodup) (hseen : ∀ s ∈ kept, s.id ∉ seen) :
    ∃ stations, List.Forall₂
        (fun t s => resolveAccessible (keyed catalog) (accessible.map fun s => s.id) t = .ok s)
        ((kept.map fun s => s.name.toList).flatMap headerTokens) stations ∧
      (collapse seen stations).1 = kept := by
  -- The numbers seen so far are carried along, since repetitions are counted from the left.
  induction kept generalizing seen with
  | nil => exact ⟨[], .nil, rfl⟩
  | cons s kept ih =>
    rw [List.map_cons, List.nodup_cons] at hn
    obtain ⟨repeated, hs⟩ := hname s List.mem_cons_self
    obtain ⟨-, -, front, hfront, hc⟩ := (resolveHeader_eq_named_iff _ _ _ _ _).mp hs
    have hrest : ∀ t ∈ kept, t.id ∉ s.id :: seen := fun t ht hid => by
      rcases List.mem_cons.mp hid with hid | hid
      · exact hn.1 (hid ▸ List.mem_map_of_mem ht)
      · exact hseen t (List.mem_cons_of_mem s ht) hid
    obtain ⟨back, hback, hkept⟩ := ih (s.id :: seen)
      (fun t ht => hname t (List.mem_cons_of_mem s ht)) hn.2 hrest
    refine ⟨front ++ back, ?_, ?_⟩
    · rw [List.map_cons, List.flatMap_cons]
      exact List.rel_append ((resolveTokens_eq_ok_iff _ _ _ _).mp hfront) hback
    · rw [collapse_append_of_singleton back (by rw [hc]) (hseen s List.mem_cons_self), hkept]

/-- Where a name and a comma begin no number, neither does a list of names. -/
theorem head?_foldKey_intercalate {names : List (List Char)}
    (h : ∀ n ∈ names, ∀ c ∈ (foldKey n).head?, c.isDigit = false) :
    ∀ c ∈ (foldKey ([',', ' '].intercalate names)).head?, c.isDigit = false := by
  cases names with
  | nil => intro c hc; cases hc
  | cons n names =>
    have hn := h n List.mem_cons_self
    cases names with
    | nil => simpa [List.intercalate] using hn
    | cons m names =>
      have hcut : [',', ' '].intercalate (n :: m :: names) =
          n ++ ',' :: (' ' :: [',', ' '].intercalate (m :: names)) := by
        simp [List.intercalate_cons_cons]
      -- The key begins in the first name, or with the comma behind it if that has no key.
      intro c hc
      rw [hcut, head?_foldKey, fold_append, fold_cons, foldChar_of_lt_capital (by decide),
        List.find?_append, ← head?_foldKey] at hc
      rcases Option.or_eq_some_iff.mp hc with hc | ⟨-, hc⟩
      · exact hn c hc
      · rw [List.singleton_append, List.find?_cons_of_pos (by decide)] at hc
        cases hc
        decide

theorem Selection.toList_describe_named (stations : List Station) (repeated : List String) :
    (named stations repeated).describe.toList =
      [',', ' '].intercalate (stations.map fun s => s.name.toList) := by
  rw [describe, String.toList_intercalate, List.map_map]
  rfl

namespace LegibleStations
variable {catalog accessible : List Station}

/-- Stations that may be played are in the list of those, entry and all. -/
theorem mem_accessible (h : LegibleStations catalog accessible) {s : Station} (hs : s ∈ catalog)
    (hid : s.id ∈ accessible.map fun a => a.id) : s ∈ accessible := by
  obtain ⟨a, ha, he⟩ := List.mem_map.mp hid
  have hinj := List.inj_on_of_nodup_map h.ids_nodup
  rwa [← hinj (h.sublist.subset ha) hs he]

theorem accessible_nodup (h : LegibleStations catalog accessible) :
    (accessible.map fun a => a.id).Nodup := h.ids_nodup.sublist (h.sublist.map _)

theorem resolveHeader_describe_named (h : LegibleStations catalog accessible) {header : List Char}
    {kept : List Station} {repeated : List String}
    (hs : resolveHeader catalog accessible header = .ok (.named kept repeated)) :
    ∃ repeated', resolveHeader catalog accessible
      (Selection.named kept repeated).describe.toList = .ok (.named kept repeated') := by
  have hsound := sound_of_resolveHeader_named hs
  have hcatalog : ∀ s ∈ kept, s ∈ catalog := (hsound.named kept repeated rfl).1
  have hacc : ∀ s ∈ kept, s ∈ accessible := fun s hk =>
    h.mem_accessible (hcatalog s hk) (hsound.id_accessible s hk)
  have hname := fun s (hk : s ∈ kept) => h.name_resolve s (hacc s hk)
  obtain ⟨stations, hall, hkept⟩ := exists_resolveTokens_names [] hname hsound.ids_nodup
    fun s _ => List.not_mem_nil
  refine ⟨(collapse [] stations).2, (resolveHeader_eq_named_iff _ _ _ _ _).mpr ?_⟩
  rw [Selection.toList_describe_named, headerTokens_intercalate]
  refine ⟨?_, ?_, stations, (resolveTokens_eq_ok_iff _ _ _ _).mpr hall, ?_⟩
  · apply Quota.read?_eq_none_of_head?
    apply head?_foldKey_intercalate
    intro n hn
    obtain ⟨s, hk, rfl⟩ := List.mem_map.mp hn
    exact h.name_head s (hacc s hk)
  · intro e
    obtain ⟨s, hk⟩ := List.exists_mem_of_ne_nil _ hsound.stations_ne_nil
    obtain ⟨r, hr⟩ := hname s hk
    obtain ⟨-, hne, -⟩ := (resolveHeader_eq_named_iff _ _ _ _ _).mp hr
    exact hne (List.flatMap_eq_nil_iff.mp e _ (List.mem_map_of_mem hk))
  · rw [← hkept]

theorem toList_describe_regional (n : Nat) (region : Region) (s : Station)
    (stations : List Station) :
    (Selection.regional n region (s :: stations)).describe.toList =
      Quota.sentence n s.region.name.toList := by
  have hn : (toString n).toList = numeral n := by
    show (Nat.repr n).toList = Nat.toDigits 10 n
    rw [Nat.repr, String.toList_ofList]
  simp only [Selection.describe, Selection.regionName, Quota.sentence, String.toList_append, hn]
  rfl

theorem resolveHeader_describe_regional (h : LegibleStations catalog accessible)
    {header : List Char} {n : Nat} {region : Region} {stations : List Station}
    (hs : resolveHeader catalog accessible header = .ok (.regional n region stations)) :
    resolveHeader catalog accessible (Selection.regional n region stations).describe.toList =
      .ok (.regional n region stations) := by
  obtain ⟨hq, hr, hn, hst⟩ := (resolveHeader_eq_regional_iff _ _ _ _ _ _).mp hs
  have hsound := sound_of_resolveHeader_regional h.accessible_nodup hs
  obtain ⟨s, rest, rfl⟩ := List.exists_cons_of_ne_nil hsound.stations_ne_nil
  obtain ⟨hacc, hcode⟩ := hsound.mem_of_regional List.mem_cons_self
  have hcat : s ∈ catalog := h.sublist.subset hacc
  have hnamed : Quota.regionNamed? catalog (foldKey s.region.name.toList) = some region := by
    have hsome : (catalog.find? fun t =>
        foldKey t.region.name.toList == foldKey s.region.name.toList).isSome = true :=
      List.find?_isSome.mpr ⟨s, hcat, by simp⟩
    obtain ⟨t, ht⟩ := Option.isSome_iff_exists.mp hsome
    have hkey : foldKey t.region.name.toList = foldKey s.region.name.toList := by
      simpa using List.find?_some ht
    rw [Quota.regionNamed?, ht]
    exact congrArg some
      ((h.region_code t (List.mem_of_find?_eq_some ht) s hacc hkey).trans hcode)
  obtain ⟨hpos, hlt⟩ := Quota.count_bounds_of_read? hq
  rw [toList_describe_regional]
  exact (resolveHeader_eq_regional_iff _ _ _ _ _ _).mpr
    ⟨Quota.read?_sentence hpos hlt (h.region_key s hacc) hnamed, hr, hn, hst⟩

/-- A header that is shown chooses the same stations again. -/
theorem resolveHeader_describe (h : LegibleStations catalog accessible) {header : List Char}
    {s : Selection} (hs : resolveHeader catalog accessible header = .ok s) :
    ∃ repeated, resolveHeader catalog accessible s.describe.toList =
      .ok (s.withRepeated repeated) := by
  cases s with
  | regional n region stations => exact ⟨[], h.resolveHeader_describe_regional hs⟩
  | named kept repeated => exact h.resolveHeader_describe_named hs

theorem newline_notMem_describe (h : LegibleStations catalog accessible) {header : List Char}
    {s : Selection} (hs : resolveHeader catalog accessible header = .ok s) :
    '\n' ∉ s.describe.toList := by
  have hsound := sound_of_resolveHeader h.accessible_nodup hs
  cases s with
  | regional n region stations =>
    obtain ⟨t, rest, rfl⟩ := List.exists_cons_of_ne_nil hsound.stations_ne_nil
    have hacc : t ∈ accessible := (hsound.mem_of_regional List.mem_cons_self).1
    rw [toList_describe_regional, Quota.sentence]
    intro hnl
    rcases List.mem_append.mp hnl with hnl | hnl
    · rcases List.mem_append.mp hnl with hnl | hnl
      · have hd := isDigit_of_mem_numeral hnl
        exact absurd hd (by decide)
      · exact absurd hnl (by decide)
    · exact h.region_newline t hacc hnl
  | named kept repeated =>
    rw [Selection.toList_describe_named]
    apply notMem_intercalate (by decide)
    intro name hname
    obtain ⟨s, hk, rfl⟩ := List.mem_map.mp hname
    exact h.name_newline s (h.mem_accessible ((hsound.named kept repeated rfl).1 s hk)
      (hsound.id_accessible s hk))

end LegibleStations
end LotterySlip
