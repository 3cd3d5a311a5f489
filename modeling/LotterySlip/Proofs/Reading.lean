import LotterySlip.Proofs.Line

/-! How the reading of a line ends. It has a relation with a constructor for every place at which a
line may be refused, and one for the bet, each with what was found on the way. -/
namespace LotterySlip
open Text

section Steps

variable {ε α β : Type} {x : Except ε α}

theorem bind_of_ok {a : α} (h : x = .ok a) (f : α → Except ε β) : (x >>= f) = f a := by
  rw [h]
  rfl

theorem bind_of_error {e : ε} (h : x = .error e) (f : α → Except ε β) :
    (x >>= f) = .error e := by
  rw [h]
  rfl

end Steps

namespace Tariff

/-- The candidates of a line are the bet types that declare the key of its alias. -/
theorem candidates_eq {t : Tariff} {line : List Char} {hit : AliasHit}
    (h : t.index.find? line = some hit) :
    (hit.group.betTypes.filterMap fun i => t.betTypes[i]?) =
      t.betTypes.filter (BetType.declares hit.group.key) := by
  have hg := AliasIndex.group_mem_of_find? h
  rw [t.index_eq] at hg
  exact AliasIndex.filterMap_betTypes hg

/-- There is a candidate, as no key is in the index that nobody declares. -/
theorem candidates_ne_nil {t : Tariff} {line : List Char} {hit : AliasHit}
    (h : t.index.find? line = some hit) :
    t.betTypes.filter (BetType.declares hit.group.key) ≠ [] := by
  have hg := AliasIndex.group_mem_of_find? h
  rw [t.index_eq] at hg
  obtain ⟨b, hb, hd⟩ := AliasIndex.exists_declares hg
  exact List.ne_nil_of_mem (List.mem_filter.mpr ⟨hb, hd⟩)

inductive ReadsNumbers (t : Tariff) (text : List Char) : Except Refusal (List String) → Prop
  | unsupported {name method : String}
    (h : Number.expand t.combinations t.limit text = .unsupported name method) :
    ReadsNumbers t text (.error
      ⟨if t.options.strictCombinations then .unsupportedCombinationRule name else .noValidNumbers,
        some (.unsupportedCombination name method)⟩)
  | tooLong {limit : Nat} (h : Number.expand t.combinations t.limit text = .tooLong limit) :
    ReadsNumbers t text (.error
      ⟨.noValidNumbers, some (.sequenceTooLong (String.ofList (trim text)) limit)⟩)
  | nothing
    (hr : t.refuseExpansion? text (Number.expand t.combinations t.limit text) = none)
    (h : (Number.expand t.combinations t.limit text).numbers = []) :
    ReadsNumbers t text (.error ↑LineError.noValidNumbers)
  | uneven {n : String} {ns : List String}
    (hr : t.refuseExpansion? text (Number.expand t.combinations t.limit text) = none)
    (hn : (Number.expand t.combinations t.limit text).numbers = n :: ns)
    (h : ¬ ∀ m ∈ ns, m.utf8ByteSize = n.utf8ByteSize) :
    ReadsNumbers t text (.error ↑(LineError.inconsistentNumberLength (n :: ns)))
  | numbers {n : String} {ns : List String}
    (hr : t.refuseExpansion? text (Number.expand t.combinations t.limit text) = none)
    (hn : (Number.expand t.combinations t.limit text).numbers = n :: ns)
    (h : ∀ m ∈ ns, m.utf8ByteSize = n.utf8ByteSize) :
    ReadsNumbers t text (.ok (n :: ns))

theorem readsNumbers_iff (t : Tariff) (text : List Char) (x : Except Refusal (List String)) :
    t.ReadsNumbers text x ↔ t.readNumbers text = x := by
  constructor
  · intro h
    cases h with
    | unsupported h => simp only [readNumbers, h, refuseExpansion?]
    | tooLong h => simp only [readNumbers, h, refuseExpansion?]
    | nothing hr h => simp only [readNumbers, hr, h]
    | uneven hr hn h =>
      simp only [readNumbers, hr, hn]
      rw [if_neg (by simpa using h)]
    | numbers hr hn h =>
      simp only [readNumbers, hr, hn]
      rw [if_pos (by simpa using h)]
  · rintro rfl
    cases hr : t.refuseExpansion? text (Number.expand t.combinations t.limit text) with
    | some r =>
      have hread : t.readNumbers text = .error r := by simp only [readNumbers, hr]
      rw [hread]
      unfold refuseExpansion? at hr
      split at hr
      · next h =>
        cases hr
        exact .unsupported h
      · next h =>
        cases hr
        exact .tooLong h
      · cases hr
    | none =>
      cases hn : (Number.expand t.combinations t.limit text).numbers with
      | nil =>
        have hread : t.readNumbers text = .error ↑LineError.noValidNumbers := by
          simp only [readNumbers, hr, hn]
        rw [hread]
        exact .nothing hr hn
      | cons n ns =>
        simp only [readNumbers, hr, hn]
        split
        · next h => exact .numbers hr hn (by simpa using h)
        · next h => exact .uneven hr hn (by simpa using h)

structure Names (t : Tariff) (ctx : LineContext) (line : List Char) (hit : AliasHit) (b : BetType) :
    Prop where
  find : t.index.find? line = some hit
  choice : chooseBetType (t.betTypes.filter (BetType.declares hit.group.key)) ctx.regions = .ok b

inductive Reads (t : Tariff) (ctx : LineContext) (line : List Char) : Except Refusal Bet → Prop
  | noAlias (h : t.index.find? line = none) : Reads t ctx line (.error ↑LineError.noValidBetType)
  | noBetType {hit : AliasHit} {e : LineError} (hfind : t.index.find? line = some hit)
    (h : chooseBetType (t.betTypes.filter (BetType.declares hit.group.key)) ctx.regions = .error e) :
    Reads t ctx line (.error ↑e)
  | noNumbers {hit : AliasHit} {b : BetType} {r : Refusal} (hb : t.Names ctx line hit b)
    (h : t.ReadsNumbers hit.numbersText (.error r)) : Reads t ctx line (.error r)
  | noAmount {hit : AliasHit} {b : BetType} {numbers : List String} (hb : t.Names ctx line hit b)
    (hn : t.ReadsNumbers hit.numbersText (.ok numbers)) (h : readAmount? hit.amount = none) :
    Reads t ctx line (.error ↑(LineError.invalidStakeAmount (String.ofList hit.amount)))
  | noTickets {hit : AliasHit} {b : BetType} {numbers : List String} {amount : Decimal}
    (hb : t.Names ctx line hit b) (hn : t.ReadsNumbers hit.numbersText (.ok numbers))
    (ha : readAmount? hit.amount = some amount)
    (h : Number.tickets? numbers b.isPermutation t.limit = none) :
    Reads t ctx line (.error
      ⟨.noValidNumbers, some (.tooManyTickets (".".intercalate numbers) t.limit)⟩)
  | noPrice {hit : AliasHit} {b : BetType} {numbers tickets : List String} {amount : Decimal}
    (hb : t.Names ctx line hit b) (hn : t.ReadsNumbers hit.numbersText (.ok numbers))
    (ha : readAmount? hit.amount = some amount)
    (ht : Number.tickets? numbers b.isPermutation t.limit = some tickets)
    (h : Price.compute? amount t.options.stakeMultiplier tickets.length ctx.stationCount
      ctx.priceRate (b.rateFor ctx.pricingRegion (digitCount numbers) t.options.defaultPayoutRate) =
        none) :
    Reads t ctx line (.error ↑(LineError.invalidStakeAmount (String.ofList hit.amount)))
  | bet {hit : AliasHit} {b : BetType} {numbers tickets : List String} {amount : Decimal}
    {price : Price} (hb : t.Names ctx line hit b)
    (hn : t.ReadsNumbers hit.numbersText (.ok numbers)) (ha : readAmount? hit.amount = some amount)
    (ht : Number.tickets? numbers b.isPermutation t.limit = some tickets)
    (h : Price.compute? amount t.options.stakeMultiplier tickets.length ctx.stationCount
      ctx.priceRate (b.rateFor ctx.pricingRegion (digitCount numbers) t.options.defaultPayoutRate) =
        some price) :
    Reads t ctx line (.ok ⟨numbers, tickets, ⟨b.id, b.name, hit.group.display⟩, amount,
      b.rateFor ctx.pricingRegion (digitCount numbers) t.options.defaultPayoutRate, price⟩)

/-- What is left to read once the bet type is known. -/
theorem Names.readBet_eq {t : Tariff} {ctx : LineContext} {line : List Char} {hit : AliasHit}
    {b : BetType} (h : t.Names ctx line hit b) : t.readBet ctx line = (do
      let numbers ← t.readNumbers hit.numbersText
      let amount ← (readAmount? hit.amount).elim
        (throw ↑(LineError.invalidStakeAmount (String.ofList hit.amount))) pure
      let tickets ← t.readTickets b numbers
      let rate := b.rateFor ctx.pricingRegion (digitCount numbers) t.options.defaultPayoutRate
      let price ← (Price.compute? amount t.options.stakeMultiplier tickets.length ctx.stationCount
        ctx.priceRate rate).elim
          (throw ↑(LineError.invalidStakeAmount (String.ofList hit.amount))) pure
      pure ⟨numbers, tickets, ⟨b.id, b.name, hit.group.display⟩, amount, rate, price⟩) := by
  rw [readBet, h.find]
  simp only [readHit, candidates_eq h.find, h.choice]
  rfl

/-- The relation is that of a function. -/
theorem Reads.readBet_eq {t : Tariff} {ctx : LineContext} {line : List Char}
    {x : Except Refusal Bet} (h : t.Reads ctx line x) : t.readBet ctx line = x := by
  have hread {text : List Char} {y : Except Refusal (List String)} (hn : t.ReadsNumbers text y) :
      t.readNumbers text = y := (t.readsNumbers_iff text y).mp hn
  have hthrow {α : Type} {o : Option α} (r : Refusal) (ho : o = none) :
      (o.elim (throw r) pure : Except Refusal α) = .error r := by
    rw [ho]
    rfl
  cases h with
  | noAlias h => rw [readBet, h]
  | noBetType hfind h =>
    rw [readBet, hfind]
    simp only [readHit, candidates_eq hfind, h]
    rfl
  | noNumbers hb h => rw [hb.readBet_eq, bind_of_error (hread h)]
  | noAmount hb hn h => rw [hb.readBet_eq, bind_of_ok (hread hn), bind_of_error (hthrow _ h)]
  | noTickets hb hn ha h =>
    rw [hb.readBet_eq, bind_of_ok (hread hn), bind_of_ok (elim_throw_eq_ok_iff.mpr ha),
      bind_of_error (by rw [readTickets, h])]
  | noPrice hb hn ha ht h =>
    rw [hb.readBet_eq, bind_of_ok (hread hn), bind_of_ok (elim_throw_eq_ok_iff.mpr ha),
      bind_of_ok ((readTickets_eq_ok_iff _ _ _ _).mpr ht), bind_of_error (hthrow _ h)]
  | bet hb hn ha ht h =>
    rw [hb.readBet_eq, bind_of_ok (hread hn), bind_of_ok (elim_throw_eq_ok_iff.mpr ha),
      bind_of_ok ((readTickets_eq_ok_iff _ _ _ _).mpr ht), bind_of_ok (elim_throw_eq_ok_iff.mpr h)]
    rfl

/-- Every reading ends at one of the places. -/
theorem reads_readBet (t : Tariff) (ctx : LineContext) (line : List Char) :
    t.Reads ctx line (t.readBet ctx line) := by
  suffices h : ∃ x, t.Reads ctx line x by
    obtain ⟨x, hx⟩ := h
    rw [hx.readBet_eq]
    exact hx
  cases hfind : t.index.find? line with
  | none => exact ⟨_, .noAlias hfind⟩
  | some hit =>
    cases hb : chooseBetType (t.betTypes.filter (BetType.declares hit.group.key)) ctx.regions with
    | error e => exact ⟨_, .noBetType hfind hb⟩
    | ok b =>
      have hnames : t.Names ctx line hit b := ⟨hfind, hb⟩
      have hread := (t.readsNumbers_iff hit.numbersText _).mpr rfl
      cases hn : t.readNumbers hit.numbersText with
      | error r => exact ⟨_, .noNumbers hnames (hn ▸ hread)⟩
      | ok numbers =>
        rw [hn] at hread
        cases ha : readAmount? hit.amount with
        | none => exact ⟨_, .noAmount hnames hread ha⟩
        | some amount =>
          cases ht : Number.tickets? numbers b.isPermutation t.limit with
          | none => exact ⟨_, .noTickets hnames hread ha ht⟩
          | some tickets =>
            cases hp : Price.compute? amount t.options.stakeMultiplier tickets.length
                ctx.stationCount ctx.priceRate (b.rateFor ctx.pricingRegion (digitCount numbers)
                  t.options.defaultPayoutRate) with
            | none => exact ⟨_, .noPrice hnames hread ha ht hp⟩
            | some price => exact ⟨_, .bet hnames hread ha ht hp⟩

end Tariff

theorem BetLine.bet?_eq_some_iff (l : BetLine) (bet : Bet) :
    l.bet? = some bet ↔ l.outcome = .ok bet := by
  rw [bet?]
  cases l.outcome <;> simp [Except.toOption]

theorem BetLine.error?_eq_some_iff (l : BetLine) (e : LineError) :
    l.error? = some e ↔ l.outcome = .error e := by
  rw [error?]
  cases l.outcome <;> simp

/-- The text of a line is searched like the line itself. -/
theorem AliasIndex.find?_trim (index : AliasIndex) (line : List Char) :
    index.find? (trim line) = index.find? line := by
  rw [find?, trim_trim, ← find?]

theorem mapError_eq_error_iff {ε ε' α : Type} {x : Except ε α} {f : ε → ε'} {e : ε'} :
    x.mapError f = .error e ↔ ∃ r, x = .error r ∧ f r = e := by
  cases x <;> simp [Except.mapError]

/-- A line is refused for the cause of the refusal of its reading. -/
theorem Tariff.error?_readLine (t : Tariff) (ctx : LineContext) (line : Nat × List Char)
    (e : LineError) : (t.readLine ctx line).error? = some e ↔
      ∃ r, t.readBet ctx line.2 = .error r ∧ r.cause = e := by
  rw [BetLine.error?_eq_some_iff]
  exact mapError_eq_error_iff

theorem Tariff.bet?_readLine (t : Tariff) (ctx : LineContext) (line : Nat × List Char) (bet : Bet) :
    (t.readLine ctx line).bet? = some bet ↔ t.readBet ctx line.2 = .ok bet := by
  rw [BetLine.bet?_eq_some_iff]
  exact t.outcome_readLine ctx line bet

theorem Tariff.find?_readLine (t : Tariff) (ctx : LineContext) (line : Nat × List Char) :
    t.index.find? (t.readLine ctx line).text.toList = t.index.find? line.2 := by
  have htext : (t.readLine ctx line).text.toList = trim line.2 := String.toList_ofList
  rw [htext, AliasIndex.find?_trim]

end LotterySlip
