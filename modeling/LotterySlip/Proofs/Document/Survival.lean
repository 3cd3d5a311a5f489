import LotterySlip.Proofs.Document.Encoding
import LotterySlip.Proofs.Document.Json.RoundTrip

/-! Catalogs and settings survive being written as JSON text. -/
namespace LotterySlip
open Text

namespace Json

theorem isWhole_nat {n : Nat} (h : n < countLimit) : IsWhole n := by
  have hmin : Int64.minValue.toInt = -9223372036854775808 := by decide
  exact ⟨by omega, Int.ofNat_lt.mpr h⟩

theorem IsJson.id (i : Int64) : IsJson (.int i.toInt) := .int (isWhole_id i)

theorem IsJson.texts (ss : List String) : IsJson (.texts ss) := by
  refine .list fun d hd => ?_
  obtain ⟨s, -, rfl⟩ := List.mem_map.mp hd
  exact .text s

theorem IsJson.orNull {α : Type} {write : α → Document} (h : ∀ a, IsJson (write a)) (a : Option α) :
    IsJson (.orNull (a.map write)) := by
  cases a with
  | none => exact .null
  | some a => exact h a

/-- A record is an object with fixed names. -/
theorem IsJson.record (names : List String) {values : List Document} (hnames : names.Nodup)
    (hlength : names.length = values.length) (h : ∀ d ∈ values, IsJson d) :
    IsJson (.object (names.zip values)) := by
  refine .object ?_ fun m hm => h m.2 (List.of_mem_zip hm).2
  rw [List.map_fst_zip (Nat.le_of_eq hlength)]
  exact hnames

end Json

open Json

theorem Decimal.isJson_toDocument (d : Decimal) : IsJson d.toDocument := .text d.toText

theorem Region.isJson_toDocument (r : Region) : IsJson r.toDocument := .text r.key

theorem RegionEntry.isJson_toDocument (r : RegionEntry) : IsJson r.toDocument := by
  have hvalues : ∀ d ∈ [.int r.id.toInt, .text r.name, r.code.toDocument], IsJson d := by
    simp only [List.forall_mem_cons]
    exact ⟨.id r.id, .text r.name, r.code.isJson_toDocument, nofun⟩
  exact .record ["id", "name", "code"] (by decide) rfl hvalues

theorem Station.isJson_toDocument (s : Station) : IsJson s.toDocument := by
  have hvalues : ∀ d ∈ [.int s.id.toInt, .text s.name, s.region.toDocument, .texts s.aliases],
      IsJson d := by
    simp only [List.forall_mem_cons]
    exact ⟨.id s.id, .text s.name, s.region.isJson_toDocument, .texts s.aliases, nofun⟩
  exact .record ["id", "name", "region", "aliases"] (by decide) rfl hvalues

theorem PayoutRate.isJson_toDocument (r : PayoutRate) : IsJson r.toDocument := by
  cases r with
  | flat rate => exact rate.isJson_toDocument
  | table rates =>
    refine .object ?_ fun m hm => ?_
    · rw [List.map_map]
      exact rates.nodup_keys
    · obtain ⟨e, -, rfl⟩ := List.mem_map.mp hm
      exact e.2.isJson_toDocument

theorem BetType.isJson_toDocument (b : BetType) : IsJson b.toDocument := by
  have hregions : IsJson (.list (b.applicableRegions.map Region.toDocument)) := by
    refine .list fun d hd => ?_
    obtain ⟨r, -, rfl⟩ := List.mem_map.mp hd
    exact r.isJson_toDocument
  have hvalues : ∀ d ∈ [.int b.id.toInt, .text b.name, .texts b.aliases,
      .list (b.applicableRegions.map Region.toDocument), .bool b.isPermutation,
      .orNull (b.payoutRate.map PayoutRate.toDocument),
      .orNull (b.customPayoutRate.map Decimal.toDocument)], IsJson d := by
    simp only [List.forall_mem_cons]
    exact ⟨.id b.id, .text b.name, .texts b.aliases, hregions, .bool b.isPermutation,
      .orNull PayoutRate.isJson_toDocument b.payoutRate,
      .orNull Decimal.isJson_toDocument b.customPayoutRate, nofun⟩
  exact .record ["id", "name", "aliases", "applicable_regions", "is_permutation", "payout_rate",
    "custom_payout_rate"] (by decide) rfl hvalues

theorem Rule.isJson_details (r : Rule) : ∀ m ∈ r.details, IsJson m.2 := by
  have hdigit (b : UInt8) : IsJson (.nat b.toNat) :=
    .int (isWhole_nat (Nat.lt_trans b.toNat_lt_size (by decide)))
  cases r with
  | head digit => exact List.forall_mem_singleton.mpr (hdigit digit)
  | tail digit => exact List.forall_mem_singleton.mpr (hdigit digit)
  | custom method => exact List.forall_mem_singleton.mpr (.text method)
  | _ => exact List.forall_mem_nil _

theorem Rule.isJson_toDocument (r : Rule) : IsJson r.toDocument := by
  have hdetails : r.details.map (fun m => m.1) ∈ [[], ["digit"], ["calculation_method"]] := by
    cases r <;> simp [details]
  have hall : ∀ names ∈ [[], ["digit"], ["calculation_method"]], ("rule" :: names).Nodup := by decide
  exact .object (hall _ hdetails) (List.forall_mem_cons.mpr ⟨.text r.tag, r.isJson_details⟩)

theorem Combination.isJson_toDocument (c : Combination) : IsJson c.toDocument := by
  have hvalues : ∀ d ∈ [.text c.name, .texts c.aliases, c.rule.toDocument], IsJson d := by
    simp only [List.forall_mem_cons]
    exact ⟨.text c.name, .texts c.aliases, c.rule.isJson_toDocument, nofun⟩
  exact .record ["name", "aliases", "generator"] (by decide) rfl hvalues

theorem Options.isJson_toDocument (o : Options) : IsJson o.toDocument := by
  have hcount : IsJson (.nat o.maxExpandedNumbers.toNat) :=
    .int (isWhole_nat o.maxExpandedNumbers.toNat_lt_size)
  have hvalues : ∀ d ∈ [.bool o.strictCombinations, .nat o.maxExpandedNumbers.toNat,
      o.stakeMultiplier.toDocument, o.defaultPayoutRate.toDocument], IsJson d := by
    simp only [List.forall_mem_cons]
    exact ⟨.bool o.strictCombinations, hcount, o.stakeMultiplier.isJson_toDocument,
      o.defaultPayoutRate.isJson_toDocument, nofun⟩
  exact .record ["strict_combinations", "max_expanded_numbers", "stake_multiplier",
    "default_payout_rate"] (by decide) rfl hvalues

theorem isJson_overridesObject {o : PayoutOverrides} {es : List (Int64 × Decimal)}
    (hperm : es.Perm o.entries) : IsJson (overridesObject es) := by
  have hids : (es.map fun e => e.1).Nodup := (hperm.map fun e => e.1).nodup_iff.mpr o.nodup_keys
  refine .object ?_ fun m hm => ?_
  · -- Different numbers have different names, as the number is read back from the name.
    rw [List.map_map, List.Nodup, List.pairwise_map]
    refine (List.pairwise_map.mp hids).imp fun {e f} hne hname => hne ?_
    have hread : idOfName? (toString e.1.toInt) = idOfName? (toString f.1.toInt) :=
      congrArg idOfName? hname
    rw [idOfName?_toString, idOfName?_toString] at hread
    exact Option.some.inj hread
  · obtain ⟨e, -, rfl⟩ := List.mem_map.mp hm
    exact e.2.isJson_toDocument

theorem Settings.isJson_documentOf {s : Settings} {es : List (Int64 × Decimal)}
    (hperm : es.Perm s.payoutOverrides.entries) : IsJson (s.documentOf es) := by
  have hrate := s.priceRate.isJson_toDocument
  have hoptions := s.options.isJson_toDocument
  cases es with
  | nil =>
    have hvalues : ∀ d ∈ [s.priceRate.toDocument, s.options.toDocument], IsJson d := by
      simp only [List.forall_mem_cons]
      exact ⟨hrate, hoptions, nofun⟩
    exact .record ["price_rate", "options"] (by decide) rfl hvalues
  | cons e es =>
    have hvalues : ∀ d ∈ [s.priceRate.toDocument, s.options.toDocument, overridesObject (e :: es)],
        IsJson d := by
      simp only [List.forall_mem_cons]
      exact ⟨hrate, hoptions, isJson_overridesObject hperm, nofun⟩
    exact .record ["price_rate", "options", "payout_overrides"] (by decide) rfl hvalues

def SurvivesJson {α : Type} (write : α → Document) (read : Document → Option α) (a : α) : Prop :=
  (Json.read? (Json.compact (write a)).toList).bind read = some a

theorem survivesJson {α : Type} {write : α → Document} {read : Document → Option α} {a : α}
    (hjson : IsJson (write a)) (hread : read (write a) = some a) : SurvivesJson write read a := by
  rw [SurvivesJson, hjson.read?_compact, Option.bind_some, hread]

theorem Settings.member?_documentOf (es : List (Int64 × Decimal)) (s : Settings) :
    (s.documentOf es).member? "payout_overrides" = none ↔ es = [] := by
  cases es with
  | nil => exact ⟨fun _ => rfl, fun _ => rfl⟩
  | cons e es =>
    have hmember : (s.documentOf (e :: es)).member? "payout_overrides" =
        some (overridesObject (e :: es)) := rfl
    rw [hmember]
    exact ⟨nofun, nofun⟩

/-- Stations, bet types, combinations, options and settings survive, without a zero that has a sign.
The overrides of settings may be written in any order, and they are left out if there are none. -/
theorem survivesJson_catalogs_settings :
    (∀ s : Station, SurvivesJson Station.toDocument Station.ofDocument? s) ∧
    (∀ b : BetType, (∀ d ∈ b.decimals, d.HasProperSign) →
      SurvivesJson BetType.toDocument BetType.ofDocument? b) ∧
    (∀ c : Combination, SurvivesJson Combination.toDocument Combination.ofDocument? c) ∧
    (∀ o : Options, (∀ d ∈ o.decimals, d.HasProperSign) →
      SurvivesJson Options.toDocument Options.ofDocument? o) ∧
    ∀ s : Settings, (∀ d ∈ s.decimals, d.HasProperSign) →
      SurvivesJson Settings.toDocument Settings.ofDocument? s ∧
      ∀ es : List (Int64 × Decimal), es.Perm s.payoutOverrides.entries →
        SurvivesJson (Settings.documentOf es) Settings.ofDocument? s ∧
        ((s.documentOf es).member? "payout_overrides" = none ↔ s.payoutOverrides = .empty) := by
  refine ⟨fun s => ?_, fun b hb => ?_, fun c => ?_, fun o ho => ?_, fun s hs => ⟨?_, ?_⟩⟩
  · exact survivesJson s.isJson_toDocument s.ofDocument?_toDocument
  · exact survivesJson b.isJson_toDocument (BetType.ofDocument?_toDocument hb)
  · exact survivesJson c.isJson_toDocument c.ofDocument?_toDocument
  · exact survivesJson o.isJson_toDocument (Options.ofDocument?_toDocument ho)
  · rw [SurvivesJson, ← s.documentOf_entries]
    exact survivesJson (Settings.isJson_documentOf (.refl _))
      (Settings.ofDocument?_documentOf (.refl _) hs)
  · intro es hperm
    refine ⟨survivesJson (Settings.isJson_documentOf hperm)
      (Settings.ofDocument?_documentOf hperm hs), ?_⟩
    rw [Settings.member?_documentOf]
    constructor
    · rintro rfl
      exact Table.eq_of_entries_eq hperm.nil_eq.symm
    · intro hempty
      rw [hempty] at hperm
      exact hperm.eq_nil

/-- Numbers at their limits and an empty table of rates survive, and so do the overrides of two bet
types that are written the wrong way round. -/
theorem survivesJson_empty_table_reordered_overrides :
    let most : Decimal := ⟨true, Decimal.mantissaLimit - 1, 0, by decide, by decide⟩
    let zero : Decimal := ⟨false, 0, 28, by decide, by decide⟩
    let bet : BetType := ⟨-3, "Bao", ["b", "bao\n"], [.north], true, some (.table .empty), some zero⟩
    let overrides : PayoutOverrides := ⟨[(-9223372036854775808, most), (7, zero)], by decide⟩
    let settings : Settings := ⟨zero, ⟨true, 18446744073709551615, most, zero⟩, overrides⟩
    (∀ d ∈ bet.decimals ++ settings.decimals, d.HasProperSign) ∧
      [(7, zero), (-9223372036854775808, most)].Perm overrides.entries ∧
      SurvivesJson BetType.toDocument BetType.ofDocument? bet ∧
      SurvivesJson Options.toDocument Options.ofDocument? settings.options ∧
      SurvivesJson (Settings.documentOf [(7, zero), (-9223372036854775808, most)])
        Settings.ofDocument? settings := by
  intro most zero bet overrides settings
  have hsigns : ∀ d ∈ bet.decimals ++ settings.decimals, d.HasProperSign := by decide
  have hperm : [(7, zero), (-9223372036854775808, most)].Perm overrides.entries := .swap _ _ _
  obtain ⟨-, hbet, -, hoptions, hsettings⟩ := survivesJson_catalogs_settings
  refine ⟨hsigns, hperm, hbet bet ?_, hoptions settings.options ?_, ?_⟩
  · exact fun d hd => hsigns d (List.mem_append_left _ hd)
  · exact fun d hd => hsigns d
      (List.mem_append_right _ (List.mem_cons_of_mem _ (List.mem_append_left _ hd)))
  · exact ((hsettings settings fun d hd => hsigns d (List.mem_append_right _ hd)).2 _ hperm).1

end LotterySlip
