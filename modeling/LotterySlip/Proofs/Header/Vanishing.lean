import LotterySlip.Proofs.Header.Token
import LotterySlip.Proofs.Text.Mark

/-! Names that fold to nothing, such as a mark that stands alone. They are not blank, so they count as
names of a header, and then every station has them within its names: nothing but what may be played
tells the stations apart. -/
namespace LotterySlip
open Text

def KeepsNames (catalog : List Station) : Prop :=
  ∀ s ∈ catalog, ∀ name ∈ s.lookupKeys, foldKey name.toList ≠ []

theorem candidates_of_foldKey_eq_nil {catalog : List Station} {token : List Char}
    (hkeys : KeepsNames catalog) (h : foldKey token = []) : candidates catalog token = catalog := by
  refine List.filter_eq_self.mpr fun s _ => decide_eq_true ?_
  have hno : ¬ ∃ t ∈ catalog, t.GoesBy (foldKey token) := by
    rintro ⟨t, ht, name, hname, hkey⟩
    exact hkeys t ht name hname (hkey.trans h)
  rw [Station.Fits, if_neg hno, h]
  exact ⟨s.name, List.mem_cons_self, List.nil_infix⟩

theorem resolveAccessible_of_foldKey_eq_nil {catalog : List Station} {token : List Char}
    (hkeys : KeepsNames catalog) (h : foldKey token = []) (ids : List Int64) (s : Station) :
    resolveAccessible (keyed catalog) ids token = .ok s ↔ catalog.filter (isAmong ids) = [s] := by
  rw [resolveAccessible_eq_ok_iff, isMeant_and_mem_iff, candidates_of_foldKey_eq_nil hkeys h]

/-- What is left of a header after folding belongs to a name, or it is what stands between names. -/
theorem exists_token_of_mem_fold {header : List Char} {c : Char} (hc : c ∈ fold header)
    (hb : isBlank c = false) :
    (∃ token ∈ headerTokens header, c ∈ foldKey token) ∨ isNameEnd c = true := by
  obtain ⟨d, hd, hcd⟩ := List.mem_flatMap.mp hc
  by_cases he : isNameEnd d = true
  · have hlt : d.toNat < 0x41 := by rcases (isNameEnd_iff d).mp he with rfl | rfl <;> decide
    rw [foldChar_of_lt_capital hlt, List.mem_singleton] at hcd
    exact Or.inr (hcd ▸ he)
  · obtain ⟨piece, hpiece, hm⟩ := exists_mem_splitOnP hd (Bool.eq_false_iff.mpr he)
    have hkey : c ∈ foldKey (trim piece) := by
      rw [foldKey_trim]
      exact mem_foldKey_of_mem_fold hb (List.mem_flatMap.mpr ⟨d, hm, hcd⟩)
    have hne : trim piece ≠ [] := by
      intro h
      rw [h] at hkey
      cases hkey
    exact Or.inl ⟨trim piece, List.mem_filter.mpr ⟨List.mem_map_of_mem hpiece, by simpa using hne⟩, hkey⟩

theorem read?_eq_none_of_vanishing {header : List Char} (catalog : List Station)
    (h : ∀ token ∈ headerTokens header, foldKey token = []) : Quota.read? catalog header = none := by
  apply Quota.read?_eq_none_of_head?
  intro c hc
  have hb := isBlank_of_mem_head?_foldKey hc
  rw [head?_foldKey] at hc
  rcases exists_token_of_mem_fold (List.mem_of_find?_eq_some hc) hb with ⟨token, htoken, hm⟩ | he
  · rw [h token htoken] at hm
    cases hm
  · rcases (isNameEnd_iff c).mp he with rfl | rfl <;> decide

theorem collapse_replicate_of_mem {seen : List Int64} {s : Station} (n : Nat) (h : s.id ∈ seen) :
    collapse seen (List.replicate n s) = ([], List.replicate n s.name) := by
  induction n with
  | zero => rfl
  | succ n ih => rw [List.replicate_succ, collapse_cons_of_mem _ h, ih, List.replicate_succ]

/-- With one station that may be played, a header of names that fold to nothing chooses it. -/
theorem resolveHeader_of_vanishing {catalog accessible : List Station} {header : List Char} {s : Station}
    (hkeys : KeepsNames catalog) (hs : catalog.filter (isAmong (accessible.map fun a => a.id)) = [s])
    (hne : headerTokens header ≠ []) (h : ∀ token ∈ headerTokens header, foldKey token = []) :
    resolveHeader catalog accessible header =
      .ok (.named [s] (List.replicate ((headerTokens header).length - 1) s.name)) := by
  rw [resolveHeader_eq_named_iff]
  refine ⟨read?_eq_none_of_vanishing catalog h, hne, (headerTokens header).map fun _ => s, ?_, ?_⟩
  · rw [resolveTokens_eq_ok_iff, List.forall₂_map_right_iff, List.forall₂_same]
    exact fun token htoken => (resolveAccessible_of_foldKey_eq_nil hkeys (h token htoken) _ s).mpr hs
  · obtain ⟨n, hn⟩ := Nat.exists_eq_succ_of_ne_zero (List.length_eq_zero_iff.not.mpr hne)
    rw [List.map_const', hn, List.replicate_succ, collapse_cons_of_notMem _ List.not_mem_nil,
      collapse_replicate_of_mem _ List.mem_cons_self]
    rfl

/-- A header of names with one among them that folds to nothing chooses the only station that may be
played. -/
theorem exists_of_resolveHeader_vanishing {catalog accessible : List Station} {header token : List Char}
    {kept : List Station} {repeated : List String} (hkeys : KeepsNames catalog)
    (hnamed : resolveHeader catalog accessible header = .ok (.named kept repeated))
    (hmem : token ∈ headerTokens header) (h : foldKey token = []) :
    ∃ s, catalog.filter (isAmong (accessible.map fun a => a.id)) = [s] ∧ kept = [s] := by
  obtain ⟨-, -, stations, hstations, -⟩ := (resolveHeader_eq_named_iff _ _ _ _ _).mp hnamed
  obtain ⟨s, hs⟩ := (exists_resolveTokens_iff _ _ _).mp ⟨stations, hstations⟩ token hmem
  have hone := (resolveAccessible_of_foldKey_eq_nil hkeys h _ s).mp hs
  refine ⟨s, hone, ?_⟩
  have hsound := sound_of_resolveHeader_named hnamed
  have hall : ∀ t ∈ kept, t = s := by
    intro t ht
    have hcatalog := (hsound.named kept repeated rfl).1 t ht
    have hamong := List.contains_iff_mem.mpr (hsound.id_accessible t ht)
    exact List.mem_singleton.mp (hone ▸ List.mem_filter.mpr ⟨hcatalog, hamong⟩)
  obtain ⟨n, rfl⟩ : ∃ n, kept = List.replicate n s := ⟨_, List.eq_replicate_of_mem hall⟩
  have hnodup := hsound.ids_nodup
  rw [Selection.stations, List.map_replicate, List.nodup_replicate] at hnodup
  have hne : n ≠ 0 := by
    rintro rfl
    exact hsound.stations_ne_nil rfl
  rw [show n = 1 by omega, List.replicate_one]

/-- Names that fold to nothing choose a station exactly where the catalog has one that may be played,
and then they choose that one. -/
theorem resolveHeader_vanishing (catalog accessible : List Station) (hkeys : KeepsNames catalog) :
    (∀ header kept repeated, resolveHeader catalog accessible header = .ok (.named kept repeated) →
      (∃ token ∈ headerTokens header, foldKey token = []) →
        ∃ s, catalog.filter (isAmong (accessible.map fun a => a.id)) = [s] ∧ kept = [s]) ∧
    (∀ header s, headerTokens header ≠ [] → (∀ token ∈ headerTokens header, foldKey token = []) →
      catalog.filter (isAmong (accessible.map fun a => a.id)) = [s] →
        resolveHeader catalog accessible header =
          .ok (.named [s] (List.replicate ((headerTokens header).length - 1) s.name))) ∧
    ((∀ header kept repeated, resolveHeader catalog accessible header = .ok (.named kept repeated) →
      ∀ token ∈ headerTokens header, foldKey token ≠ []) ↔
        ∀ s, catalog.filter (isAmong (accessible.map fun a => a.id)) ≠ [s]) := by
  have hmark : headerTokens ['\u0301'] = [['\u0301']] ∧ foldKey ['\u0301'] = [] := by decide +kernel
  refine ⟨?_, fun header s hne h hs => resolveHeader_of_vanishing hkeys hs hne h, ?_, ?_⟩
  · rintro header kept repeated hnamed ⟨token, hmem, h⟩
    exact exists_of_resolveHeader_vanishing hkeys hnamed hmem h
  · intro h s hs
    have hne : headerTokens ['\u0301'] ≠ [] := by simp [hmark.1]
    have hnamed := resolveHeader_of_vanishing hkeys hs hne (by simp [hmark])
    exact h _ _ _ hnamed _ (by simp [hmark.1]) hmark.2
  · intro h header kept repeated hnamed token hmem hnil
    obtain ⟨s, hs, -⟩ := exists_of_resolveHeader_vanishing hkeys hnamed hmem hnil
    exact h s hs

/-- Of two stations one may be played. Two marks that stand alone choose it, and tell that it comes
again. -/
theorem resolveHeader_two_marks :
    let tp : Station := ⟨1, "tp", ⟨3, "nam", .south⟩, []⟩
    let hn : Station := ⟨2, "hn", ⟨1, "bac", .north⟩, []⟩
    KeepsNames [tp, hn] ∧
      resolveHeader [tp, hn] [hn] "\u0301. \u0300".toList = .ok (.named [hn] ["hn"]) := by
  intro tp hn
  have hkeys : KeepsNames [tp, hn] := by
    unfold KeepsNames
    decide +kernel
  obtain ⟨-, hchosen, -⟩ := resolveHeader_vanishing [tp, hn] [hn] hkeys
  have htokens : headerTokens "\u0301. \u0300".toList = [['\u0301'], ['\u0300']] := by decide +kernel
  have hfolds : ∀ token ∈ [['\u0301'], ['\u0300']], foldKey token = [] := by decide +kernel
  refine ⟨hkeys, (hchosen _ hn (htokens ▸ List.cons_ne_nil _ _) (htokens ▸ hfolds) (by decide)).trans ?_⟩
  rw [htokens]
  rfl

/-- A name that folds to nothing is no name of the only station, and yet it chooses that station. -/
theorem resolveHeader_lone_mark :
    ¬ ∀ catalog accessible : List Station, KeepsNames catalog → ∀ header kept repeated,
      resolveHeader catalog accessible header = .ok (.named kept repeated) →
        ∀ token ∈ headerTokens header, foldKey token ≠ [] := by
  intro h
  have hkeys : KeepsNames Sample.plain.stations := by
    unfold KeepsNames
    decide +kernel
  have hnamed : resolveHeader Sample.plain.stations Sample.plain.stations ['\u0301'] =
      .ok (.named Sample.plain.stations []) := by decide +kernel
  have hmem : ['\u0301'] ∈ headerTokens ['\u0301'] := by decide +kernel
  exact h _ _ hkeys _ _ _ hnamed _ hmem (by decide +kernel)

end LotterySlip
