import LotterySlip.Proofs.Alias.Search
import LotterySlip.Sample

/-! The longest alias that stands in a line. It is what a search finds, as long as no alias overlaps
itself; of an alias that does, a place may be passed over. -/
namespace LotterySlip.AliasIndex
open Text

/-- The answer to a search for the longest alias in a folded line, at its first place; `place` says at
which places an alias stands before which amount. Of aliases as long as each other the one that is
declared first counts. -/
def LongestMatch (betTypes : List BetType) (line : List Char)
    (place : List Char → Nat → List Char → Prop) : Option AliasHit → Prop
  | none => ∀ key ∈ declaredKeys betTypes, key ≠ [] → ∀ i amount, ¬ place key i amount
  | some hit => hit.group ∈ (ofBetTypes betTypes).groups ∧
      (∃ i, place hit.group.key i hit.amount ∧
        (∀ j amount, j < i → ¬ place hit.group.key j amount) ∧
        ∃ glyph, (glyphs line)[i]? = some glyph ∧ hit.numbersText = line.take glyph.source) ∧
      ∀ key ∈ declaredKeys betTypes, key ≠ [] → ∀ i amount, place key i amount →
        key = hit.group.key ∨ Precedes (declaredKeys betTypes) hit.group.key key

variable {betTypes : List BetType} {line : List Char}

theorem LongestMatch.congr {place place' : List Char → Nat → List Char → Prop}
    {found : Option AliasHit} (h : LongestMatch betTypes line place found)
    (hplace : ∀ key ∈ declaredKeys betTypes, ∀ i amount, place key i amount ↔ place' key i amount) :
    LongestMatch betTypes line place' found := by
  cases found with
  | none =>
    intro key hkey hne i amount hp
    exact h key hkey hne i amount ((hplace key hkey i amount).mpr hp)
  | some hit =>
    obtain ⟨hgroup, ⟨i, hat, hfirst, hsource⟩, hlongest⟩ := h
    have hdeclared := key_mem_declaredKeys hgroup
    refine ⟨hgroup, ⟨i, (hplace _ hdeclared i _).mp hat, ?_, hsource⟩, ?_⟩
    · intro j amount hj hp
      exact hfirst j amount hj ((hplace _ hdeclared j amount).mpr hp)
    · intro key hkey hne i amount hp
      exact hlongest key hkey hne i amount ((hplace key hkey i amount).mpr hp)

/-- What a search finds is the longest alias that stands at a place that counts. -/
theorem find?_eq_iff_longestMatch (found : Option AliasHit) :
    (ofBetTypes betTypes).find? line = found ↔ LongestMatch betTypes (trim line)
      (fun key i amount => Counts key (fold (trim line)) i ∧
        StandsAt key (fold (trim line)) i amount) found := by
  cases found with
  | none =>
    rw [find?_eq_none_iff]
    constructor
    · rintro h key hkey hne i amount ⟨hcounts, hstands⟩
      obtain ⟨g, hg, rfl⟩ := (exists_group_iff betTypes key).mpr ⟨hne, hkey⟩
      exact h g hg i amount hcounts hstands
    · intro h g hg i amount hcounts hstands
      exact h g.key (key_mem_declaredKeys hg) (key_ne_nil hg) i amount ⟨hcounts, hstands⟩
  | some hit =>
    rw [find?_eq_some_iff]
    constructor
    · rintro ⟨hg, ⟨i, hat⟩, hbefore⟩
      refine ⟨hg, ⟨i, ⟨hat.counts, hat.stands⟩, ?_, hat.source⟩, ?_⟩
      · exact fun j amount hj hplace => hat.first j amount hj hplace.1 hplace.2
      · -- An alias that stands somewhere is not searched for before, and so is searched for behind.
        rintro key hkey hne i amount ⟨hcounts, hstands⟩
        obtain ⟨g, hg, rfl⟩ := (exists_group_iff betTypes key).mpr ⟨hne, hkey⟩
        by_cases hsame : g.key = hit.group.key
        · exact Or.inl hsame
        · rcases precedes_or_precedes hkey hsame with hlt | hlt
          · exact absurd hstands (hbefore g hg hlt i amount hcounts)
          · exact Or.inr hlt
    · rintro ⟨hg, ⟨i, ⟨hcounts, hstands⟩, hfirst, hsource⟩, hlongest⟩
      refine ⟨hg, ⟨i, hstands, hcounts, ?_, hsource⟩, ?_⟩
      · exact fun j amount hj hcj hsj => hfirst j amount hj ⟨hcj, hsj⟩
      · intro g hg' hlt j amount hcj hsj
        have hdeclared := key_mem_declaredKeys hg'
        rcases hlongest g.key hdeclared (key_ne_nil hg') j amount ⟨hcj, hsj⟩ with hsame | hbehind
        · rw [hsame] at hlt
          exact hlt.not_precedes hlt
        · exact hlt.not_precedes hbehind

/-- The longest alias that stands in a line is found, and nothing else, if no alias overlaps itself.
Of an alias that does only those places count over which no place before reaches. -/
theorem find?_longest (betTypes : List BetType) (line : List Char) (found : Option AliasHit) :
    ((ofBetTypes betTypes).find? line = found ↔ LongestMatch betTypes (trim line)
      (fun key i amount => Counts key (fold (trim line)) i ∧
        StandsAt key (fold (trim line)) i amount) found) ∧
    ((∀ key ∈ declaredKeys betTypes, ¬ OverlapsItself key) →
      ((ofBetTypes betTypes).find? line = found ↔ LongestMatch betTypes (trim line)
        (fun key i amount => StandsAt key (fold (trim line)) i amount) found)) := by
  refine ⟨find?_eq_iff_longestMatch found, fun hkeys => ?_⟩
  have hplace : ∀ key ∈ declaredKeys betTypes, ∀ i amount,
      Counts key (fold (trim line)) i ∧ StandsAt key (fold (trim line)) i amount ↔
        StandsAt key (fold (trim line)) i amount := by
    intro key hkey i amount
    refine ⟨And.right, fun h => ⟨?_, h⟩⟩
    exact counts_of_not_overlapsItself (hkeys key hkey) h.prefix_drop
  rw [find?_eq_iff_longestMatch]
  exact ⟨fun h => h.congr hplace, fun h => h.congr fun key hkey i amount =>
    (hplace key hkey i amount).symm⟩

/-- Of two aliases before one amount the longer one is found. -/
theorem find?_longest_two : ∃ betTypes, ∃ hit : AliasHit,
    declaredKeys betTypes = ["bl".toList, "l".toList] ∧
      (∀ key ∈ declaredKeys betTypes, ¬ OverlapsItself key) ∧
      (ofBetTypes betTypes).find? "12.34bl5".toList = some hit ∧ hit.group.key = "bl".toList ∧
      StandsAt "l".toList (fold (trim "12.34bl5".toList)) 6 "5".toList ∧
      LongestMatch betTypes (trim "12.34bl5".toList)
        (fun key i amount => StandsAt key (fold (trim "12.34bl5".toList)) i amount) (some hit) := by
  have hfind : (ofBetTypes [⟨1, "Bao lô", ["bl"], [], false, none, none⟩,
      ⟨2, "Lô", ["l"], [], false, none, none⟩]).find? "12.34bl5".toList =
        some ⟨⟨"bl".toList, "bl", [0]⟩, "12.34".toList, "5".toList⟩ := by
    rw [AliasIndex.find?, groups_of_pairwise (by decide +kernel)]
    decide +kernel
  have hkeys : ∀ key ∈ declaredKeys [⟨1, "Bao lô", ["bl"], [], false, none, none⟩,
      ⟨2, "Lô", ["l"], [], false, none, none⟩], ¬ OverlapsItself key := by
    decide +kernel
  refine ⟨_, _, ?_, hkeys, hfind, rfl, ?_, ((find?_longest _ _ _).2 hkeys).mp hfind⟩
  · decide +kernel
  · exact ⟨.whole (by decide), [], rfl, by decide +kernel⟩

/-- The second of two places that overlap is passed over, although the amount stands behind it. -/
theorem find?_passes_overlap :
    (ofBetTypes Sample.plain.betTypes).find? "12ddd5".toList = none ∧
      StandsAt "dd".toList (fold (trim "12ddd5".toList)) 3 "5".toList ∧
      ¬ LongestMatch Sample.plain.betTypes (trim "12ddd5".toList)
        (fun key i amount => StandsAt key (fold (trim "12ddd5".toList)) i amount)
        ((ofBetTypes Sample.plain.betTypes).find? "12ddd5".toList) := by
  have hfind : (ofBetTypes Sample.plain.betTypes).find? "12ddd5".toList = none := by
    decide +kernel
  have hstands : StandsAt "dd".toList (fold (trim "12ddd5".toList)) 3 "5".toList :=
    ⟨.whole (by decide), [], rfl, by decide +kernel⟩
  refine ⟨hfind, hstands, fun h => ?_⟩
  rw [hfind] at h
  exact h "dd".toList (by decide +kernel) (by decide) 3 "5".toList hstands

end LotterySlip.AliasIndex
