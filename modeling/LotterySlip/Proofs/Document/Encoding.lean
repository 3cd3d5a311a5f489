import LotterySlip.Document.Decoding
import LotterySlip.Proofs.Document.Json.Scalar
import LotterySlip.Proofs.Decimal.Text
import LotterySlip.Proofs.Table

/-! What catalogs and settings are written as is read back as what it was, down to the number of
places of a decimal. Only the sign of a zero would not come back. -/
namespace LotterySlip
open Text

theorem mapM_map_eq_some {α β : Type} {write : α → β} {read : β → Option α} {as : List α}
    (h : ∀ a ∈ as, read (write a) = some a) : (as.map write).mapM read = some as := by
  induction as with
  | nil => rfl
  | cons a as ih =>
    rw [List.map_cons, List.mapM_cons, h a List.mem_cons_self,
      ih fun b hb => h b (List.mem_cons_of_mem a hb)]
    rfl

theorem Document.listOf?_list {α : Type} {write : α → Document} {read : Document → Option α}
    {as : List α} (h : ∀ a ∈ as, read (write a) = some a) :
    Document.listOf? read (.list (as.map write)) = some as := mapM_map_eq_some h

theorem Document.listOf?_texts (ss : List String) :
    Document.listOf? Document.text? (.texts ss) = some ss :=
  mapM_map_eq_some fun _ _ => rfl

theorem id?_int (i : Int64) : id? (.int i.toInt) = some i := by
  have hint : (Document.int i.toInt).int? = some i.toInt := rfl
  rw [id?, hint, Option.bind_some, if_pos ⟨Int64.minValue_le_toInt i, Int64.toInt_le i⟩,
    Int64.ofInt_toInt]

theorem isWhole_id (i : Int64) : Json.IsWhole i.toInt := by
  have hmax : Int64.maxValue.toInt = 9223372036854775807 := by decide
  have hle := Int64.toInt_le i
  have hlimit : countLimit = 18446744073709551616 := by decide
  exact ⟨Int64.minValue_le_toInt i, by omega⟩

theorem count?_nat (m : UInt64) : count? (.nat m.toNat) = some m := by
  have hint : (Document.nat m.toNat).int? = some (m.toNat : Int) := rfl
  have hplain : (Document.nat m.toNat).hasMinus = false := rfl
  have hlt := m.toNat_lt_size
  have hsize : (m.toNat : Int) < UInt64.size := by omega
  rw [count?, hplain, if_neg Bool.false_ne_true, hint, Option.bind_some,
    if_pos ⟨Int.natCast_nonneg _, hsize⟩, Int.toNat_natCast, UInt64.ofNat_toNat]

theorem byte?_nat (b : UInt8) : byte? (.nat b.toNat) = some b := by
  have hmeaning : (Document.nat b.toNat).meaning? = some (.nat b.toNat) := rfl
  have hint : (Document.nat b.toNat).int? = some (b.toNat : Int) := rfl
  have hlt := b.toNat_lt_size
  have hsize : (b.toNat : Int) < UInt8.size := by omega
  simp only [byte?, hmeaning, hint, Option.bind_eq_bind, Option.bind_some]
  rw [if_pos ⟨Int.natCast_nonneg _, hsize⟩, Int.toNat_natCast, UInt8.ofNat_toNat]

def Decimal.HasProperSign (d : Decimal) : Prop := d.negative = true → d.mantissa ≠ 0

namespace Decimal

instance (d : Decimal) : Decidable d.HasProperSign :=
  inferInstanceAs (Decidable (d.negative = true → d.mantissa ≠ 0))

theorem ofDocument?_toDocument {d : Decimal} (h : d.HasProperSign) :
    ofDocument? d.toDocument = some d := by
  have hread : ofDocument? d.toDocument = read? d.toText.toList := rfl
  rw [hread, toText, String.toList_ofList, read?, ofChars?_toChars d h, Option.some_or]

end Decimal

theorem Region.ofDocument?_toDocument (r : Region) : Region.ofDocument? r.toDocument = some r := by
  cases r <;> rfl

theorem RegionEntry.ofDocument?_toDocument (r : RegionEntry) :
    RegionEntry.ofDocument? r.toDocument = some r := by
  have hread : RegionEntry.ofDocument? r.toDocument = (do
      some ⟨← id? (.int r.id.toInt), ← some r.name, ← Region.ofDocument? r.code.toDocument⟩) := rfl
  rw [hread, id?_int, Region.ofDocument?_toDocument]
  rfl

theorem Station.ofDocument?_toDocument (s : Station) : Station.ofDocument? s.toDocument = some s := by
  have hread : Station.ofDocument? s.toDocument = (do
      some ⟨← id? (.int s.id.toInt), ← some s.name, ← RegionEntry.ofDocument? s.region.toDocument,
        ← Document.listOf? Document.text? (.texts s.aliases)⟩) := rfl
  rw [hread, id?_int, RegionEntry.ofDocument?_toDocument, Document.listOf?_texts]
  rfl

def PayoutRate.decimals : PayoutRate → List Decimal
  | flat rate => [rate]
  | table rates => rates.entries.map fun e => e.2

def BetType.decimals (b : BetType) : List Decimal :=
  (b.payoutRate.map PayoutRate.decimals).getD [] ++ b.customPayoutRate.toList

theorem ratesOfDocument?_table {rates : Table String Decimal}
    (h : ∀ e ∈ rates.entries, e.2.HasProperSign) :
    ratesOfDocument? (PayoutRate.table rates).toDocument = some rates := by
  have hentries : ((rates.entries.map fun e => (Document.text e.1, e.2.toDocument)).mapM fun p => do
      some (← p.1.properText?, ← Decimal.ofDocument? p.2)) = some rates.entries := by
    refine mapM_map_eq_some fun e he => ?_
    have hname : (Document.text e.1).properText? = some e.1 := rfl
    rw [hname, Decimal.ofDocument?_toDocument (h e he)]
    rfl
  have hmeaning : (PayoutRate.table rates).toDocument.meaning? =
      some (PayoutRate.table rates).toDocument := rfl
  have hpairs : (PayoutRate.table rates).toDocument.pairs? =
      some (rates.entries.map fun e => (Document.text e.1, e.2.toDocument)) :=
    congrArg some List.map_map
  simp only [Option.bind_eq_bind] at hentries
  simp only [ratesOfDocument?, hmeaning, hpairs, hentries, Option.bind_eq_bind, Option.bind_some,
    Table.ofList_eq_of_perm (.refl rates.entries)]

theorem PayoutRate.ofDocument?_toDocument {r : PayoutRate} (h : ∀ d ∈ r.decimals, d.HasProperSign) :
    ofDocument? r.toDocument = some r := by
  cases r with
  | flat rate =>
    have hread : Decimal.ofDocument? (flat rate).toDocument = some rate :=
      Decimal.ofDocument?_toDocument (h rate List.mem_cons_self)
    rw [ofDocument?, hread]
    rfl
  | table rates =>
    have hnone : Decimal.ofDocument? (table rates).toDocument = none := rfl
    rw [ofDocument?, hnone, ratesOfDocument?_table fun e he => h e.2 (List.mem_map_of_mem he)]
    rfl

theorem Document.optional?_orNull {α : Type} {write : α → Document} {read : Document → Option α}
    {a : Option α} (hpresent : ∀ b ∈ a, (write b).isAbsent = false)
    (h : ∀ b ∈ a, read (write b) = some b) :
    Document.optional? read (.orNull (a.map write)) = some a := by
  cases a with
  | none => rfl
  | some a =>
    have hread : Document.optional? read (.orNull ((some a).map write)) =
        if (write a).isAbsent then some none else (read (write a)).map some := rfl
    rw [hread, hpresent a rfl, if_neg Bool.false_ne_true, h a rfl]
    rfl

theorem BetType.ofDocument?_toDocument {b : BetType} (h : ∀ d ∈ b.decimals, d.HasProperSign) :
    BetType.ofDocument? b.toDocument = some b := by
  have hrate : ∀ r ∈ b.payoutRate, PayoutRate.ofDocument? r.toDocument = some r := by
    intro r hr
    refine PayoutRate.ofDocument?_toDocument fun d hd => h d (List.mem_append_left _ ?_)
    rw [hr]
    exact hd
  have hcustom : ∀ d ∈ b.customPayoutRate, Decimal.ofDocument? d.toDocument = some d := by
    intro d hd
    refine Decimal.ofDocument?_toDocument (h d (List.mem_append_right _ ?_))
    exact Option.mem_toList.mpr hd
  have hpresent : ∀ r ∈ b.payoutRate, r.toDocument.isAbsent = false := by
    intro r _
    cases r <;> rfl
  have hread : BetType.ofDocument? b.toDocument = (do
      some ⟨← id? (.int b.id.toInt), ← some b.name,
        ← Document.listOf? Document.text? (.texts b.aliases),
        ← Document.listOf? Region.ofDocument? (.list (b.applicableRegions.map Region.toDocument)),
        ← some b.isPermutation,
        ← Document.optional? PayoutRate.ofDocument?
          (.orNull (b.payoutRate.map PayoutRate.toDocument)),
        ← Document.optional? Decimal.ofDocument?
          (.orNull (b.customPayoutRate.map Decimal.toDocument))⟩) := rfl
  rw [hread, id?_int, Document.listOf?_texts,
    Document.listOf?_list fun r _ => Region.ofDocument?_toDocument r,
    Document.optional?_orNull hpresent hrate, Document.optional?_orNull (fun _ _ => rfl) hcustom]
  rfl

theorem fitsWord_nat (b : UInt8) : fitsWord b.toNat = true := by
  have hmin : Int64.minValue.toInt = -9223372036854775808 := by decide
  have hlt := b.toNat_lt_size
  simp only [UInt8.size] at hlt
  simp only [fitsWord, Bool.and_eq_true, decide_eq_true_eq, UInt64.size]
  omega

namespace Rule

theorem ofDocument?_digit (tag : String) {d : Document}
    (h : arePairsKeepable maxDepth [(.text "digit", d)] = true) :
    ofDocument? (.object [("rule", .text tag), ("digit", d)]) =
      ofTag? tag (.mapping [(.text "digit", d)]) := by
  have hread : ofDocument? (.object [("rule", .text tag), ("digit", d)]) =
      if arePairsKeepable maxDepth [(.text "digit", d)] then
        ofTag? tag (.mapping [(.text "digit", d)])
      else none := rfl
  rw [hread, if_pos h]

theorem arePairsKeepable_nat (b : UInt8) :
    arePairsKeepable maxDepth [(.text "digit", .nat b.toNat)] = true := by
  have hkeep : arePairsKeepable maxDepth [(.text "digit", .nat b.toNat)] =
      (true && fitsWord b.toNat && true) := rfl
  rw [hkeep, fitsWord_nat]
  rfl

theorem ofTag?_head (d : Document) :
    ofTag? "head" (.mapping [(.text "digit", d)]) = (byte? d).map head := rfl

theorem ofTag?_tail (d : Document) :
    ofTag? "tail" (.mapping [(.text "digit", d)]) = (byte? d).map tail := rfl

theorem ofDocument?_toDocument (r : Rule) : ofDocument? r.toDocument = some r := by
  cases r with
  | head digit =>
    rw [toDocument, tag, details, ofDocument?_digit "head" (arePairsKeepable_nat digit), ofTag?_head,
      byte?_nat]
    rfl
  | tail digit =>
    rw [toDocument, tag, details, ofDocument?_digit "tail" (arePairsKeepable_nat digit), ofTag?_tail,
      byte?_nat]
    rfl
  | custom method => rfl
  | _ => rfl

end Rule

theorem Combination.ofDocument?_toDocument (c : Combination) :
    Combination.ofDocument? c.toDocument = some c := by
  have hread : Combination.ofDocument? c.toDocument = (do
      some ⟨← some c.name, ← Document.listOf? Document.text? (.texts c.aliases),
        ← Rule.ofDocument? c.rule.toDocument⟩) := rfl
  rw [hread, Document.listOf?_texts, Rule.ofDocument?_toDocument]
  rfl

def Options.decimals (o : Options) : List Decimal := [o.stakeMultiplier, o.defaultPayoutRate]

def Settings.decimals (s : Settings) : List Decimal :=
  s.priceRate :: (s.options.decimals ++ s.payoutOverrides.entries.map fun e => e.2)

theorem Options.ofDocument?_object (strict max stake rate : Document) :
    Options.ofDocument? (.object [("strict_combinations", strict), ("max_expanded_numbers", max),
      ("stake_multiplier", stake), ("default_payout_rate", rate)]) = (do
      some ⟨← strict.bool?, ← count? max, ← Decimal.ofDocument? stake,
        ← Decimal.ofDocument? rate⟩) := rfl

theorem Options.ofDocument?_toDocument {o : Options} (h : ∀ d ∈ o.decimals, d.HasProperSign) :
    Options.ofDocument? o.toDocument = some o := by
  have hbool : (Document.bool o.strictCombinations).bool? = some o.strictCombinations := rfl
  have hstake : o.stakeMultiplier ∈ o.decimals := List.mem_cons_self
  have hrate : o.defaultPayoutRate ∈ o.decimals := List.mem_cons_of_mem _ List.mem_cons_self
  rw [toDocument, ofDocument?_object, hbool, count?_nat, Decimal.ofDocument?_toDocument (h _ hstake),
    Decimal.ofDocument?_toDocument (h _ hrate)]
  rfl

theorem idOfName?_toString (i : Int64) : idOfName? (toString i.toInt) = some i := by
  have hnumber : Json.number? ((toString i.toInt).toList ++ []) = some (.int i.toInt, []) :=
    Json.number?_toString (isWhole_id i) nofun
  rw [List.append_nil] at hnumber
  rw [idOfName?, hnumber]
  exact id?_int i

def overrideMember (e : Int64 × Decimal) : String × Document := (toString e.1.toInt, e.2.toDocument)

def overridesObject (es : List (Int64 × Decimal)) : Document := .object (es.map overrideMember)

theorem overridesOfDocument?_overridesObject {o : PayoutOverrides} {es : List (Int64 × Decimal)}
    (hperm : es.Perm o.entries) (h : ∀ e ∈ es, e.2.HasProperSign) :
    overridesOfDocument? (overridesObject es) = some o := by
  have hread : overridesOfDocument? (overridesObject es) =
      ((es.map overrideMember).mapM fun m : String × Document => do
        some (← idOfName? m.1, ← Decimal.ofDocument? m.2)).map .ofList := rfl
  have hentries : ((es.map overrideMember).mapM fun m : String × Document => do
      some (← idOfName? m.1, ← Decimal.ofDocument? m.2)) = some es := by
    refine mapM_map_eq_some fun e he => ?_
    have hname : idOfName? (overrideMember e).1 = some e.1 := idOfName?_toString e.1
    have hrate : Decimal.ofDocument? (overrideMember e).2 = some e.2 :=
      Decimal.ofDocument?_toDocument (h e he)
    rw [hname, hrate]
    rfl
  rw [hread, hentries, Option.map_some, Table.ofList_eq_of_perm hperm]

def Settings.documentOf (es : List (Int64 × Decimal)) (s : Settings) : Document :=
  .object ([("price_rate", s.priceRate.toDocument), ("options", s.options.toDocument)] ++
    if es.isEmpty then [] else [("payout_overrides", overridesObject es)])

namespace Settings

theorem documentOf_entries (s : Settings) : s.documentOf s.payoutOverrides.entries = s.toDocument :=
  rfl

theorem ofDocument?_documentOf {s : Settings} {es : List (Int64 × Decimal)}
    (hperm : es.Perm s.payoutOverrides.entries) (h : ∀ d ∈ s.decimals, d.HasProperSign) :
    ofDocument? (s.documentOf es) = some s := by
  have hrate : Decimal.ofDocument? s.priceRate.toDocument = some s.priceRate :=
    Decimal.ofDocument?_toDocument (h _ List.mem_cons_self)
  have hoptions : Options.ofDocument? s.options.toDocument = some s.options :=
    Options.ofDocument?_toDocument fun d hd =>
      h d (List.mem_cons_of_mem _ (List.mem_append_left _ hd))
  cases es with
  | nil =>
    have hread : ofDocument? (s.documentOf []) = (do
        some ⟨← Decimal.ofDocument? s.priceRate.toDocument,
          ← Options.ofDocument? s.options.toDocument, ← some .empty⟩) := rfl
    have hempty : .empty = s.payoutOverrides := Table.ofList_eq_of_perm hperm
    rw [hread, hrate, hoptions, hempty]
    rfl
  | cons e es =>
    have hread : ofDocument? (s.documentOf (e :: es)) = (do
        some ⟨← Decimal.ofDocument? s.priceRate.toDocument,
          ← Options.ofDocument? s.options.toDocument,
          ← overridesOfDocument? (overridesObject (e :: es))⟩) := rfl
    have hsigns : ∀ f ∈ e :: es, f.2.HasProperSign := fun f hf =>
      h f.2 (List.mem_cons_of_mem _
        (List.mem_append_right _ (List.mem_map_of_mem (hperm.mem_iff.mp hf))))
    rw [hread, hrate, hoptions, overridesOfDocument?_overridesObject hperm hsigns]
    rfl

end Settings

end LotterySlip
