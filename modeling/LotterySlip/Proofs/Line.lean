import LotterySlip.Line
import LotterySlip.Proofs.Alias.Search
import LotterySlip.Proofs.Decimal.Value
import LotterySlip.Proofs.Number.Expansion
import LotterySlip.Proofs.Number.Ticket

/-! One line of a slip. It is refused and empty, or a bet whose numbers, tickets, bet type and amount
fit together. -/
namespace LotterySlip
open Text

section Steps

variable {ε ε' α β : Type}

theorem bind_eq_ok_iff {x : Except ε α} {f : α → Except ε β} {b : β} :
    (x >>= f) = .ok b ↔ ∃ a, x = .ok a ∧ f a = .ok b := by
  cases x <;> simp [bind, Except.bind]

theorem pure_eq_ok_iff {a b : α} : (pure a : Except ε α) = .ok b ↔ a = b := by
  simp [pure, Except.pure]

theorem map_eq_ok_iff {x : Except ε α} {f : α → β} {b : β} :
    x.map f = .ok b ↔ ∃ a, x = .ok a ∧ f a = b := by
  cases x <;> simp [Except.map]

theorem mapError_eq_ok_iff {x : Except ε α} {f : ε → ε'} {a : α} :
    x.mapError f = .ok a ↔ x = .ok a := by
  cases x <;> simp [Except.mapError]

theorem elim_throw_eq_ok_iff {x : Option α} {e : ε} {a : α} :
    (x.elim (throw e) pure : Except ε α) = .ok a ↔ x = some a := by
  cases x <;> simp [throw, throwThe, MonadExceptOf.throw, pure, Except.pure]

end Steps

namespace Tariff

theorem chooseBetType_mem {candidates : List BetType} {regions : List Region} {b : BetType}
    (h : chooseBetType candidates regions = .ok b) : b ∈ candidates := by
  unfold chooseBetType at h
  split at h
  · next c hc =>
    cases h
    exact List.mem_of_find?_eq_some hc
  · cases h
  · cases h

theorem readNumbers_eq_ok_iff (t : Tariff) (text : List Char) (numbers : List String) :
    t.readNumbers text = .ok numbers ↔
      t.refuseExpansion? text (Number.expand t.combinations t.limit text) = none ∧
        (Number.expand t.combinations t.limit text).numbers = numbers ∧ numbers ≠ [] ∧
        ∀ m ∈ numbers, ∀ n ∈ numbers, m.utf8ByteSize = n.utf8ByteSize := by
  simp only [readNumbers]
  cases hr : t.refuseExpansion? text (Number.expand t.combinations t.limit text) with
  | some r => simp
  | none =>
    cases hn : (Number.expand t.combinations t.limit text).numbers with
    | nil =>
      simp only [reduceCtorEq, true_and, false_iff]
      rintro ⟨rfl, hne, -⟩
      exact hne rfl
    | cons n ns =>
      simp only [true_and]
      split
      · next ha =>
        have hsize : ∀ m ∈ n :: ns, m.utf8ByteSize = n.utf8ByteSize := by simpa using ha
        constructor
        · intro h
          cases h
          exact ⟨rfl, List.cons_ne_nil _ _, fun m hm k hk => (hsize m hm).trans (hsize k hk).symm⟩
        · rintro ⟨rfl, -, -⟩
          rfl
      · next ha =>
        simp only [reduceCtorEq, false_iff, not_and]
        rintro rfl - hs
        exact ha (by simpa using fun m hm => hs m (List.mem_cons_of_mem n hm) n List.mem_cons_self)

theorem readAmount?_eq_some_iff (text : List Char) (d : Decimal) :
    readAmount? text = some d ↔ Decimal.ofChars? text = some d ∧ 0 < d.value := by
  rw [readAmount?, Decimal.value_pos_iff]
  cases Decimal.ofChars? text with
  | none => simp
  | some e =>
    by_cases hp : e.isPositive = true
    · simp only [hp, if_true, Option.some.injEq]
      exact ⟨fun h => ⟨h, h ▸ hp⟩, fun h => h.1⟩
    · simp only [hp, Bool.false_eq_true, if_false, reduceCtorEq, Option.some.injEq, false_iff,
        not_and]
      rintro rfl
      exact hp

theorem readTickets_eq_ok_iff (t : Tariff) (b : BetType) (numbers tickets : List String) :
    t.readTickets b numbers = .ok tickets ↔
      Number.tickets? numbers b.isPermutation t.limit = some tickets := by
  rw [readTickets]
  cases Number.tickets? numbers b.isPermutation t.limit <;> simp

theorem readHit_eq_ok_iff (t : Tariff) (ctx : LineContext) (hit : AliasHit) (bet : Bet) :
    t.readHit ctx hit = .ok bet ↔ ∃ b numbers amount tickets price,
      chooseBetType (hit.group.betTypes.filterMap fun i => t.betTypes[i]?) ctx.regions = .ok b ∧
      t.readNumbers hit.numbersText = .ok numbers ∧ readAmount? hit.amount = some amount ∧
      Number.tickets? numbers b.isPermutation t.limit = some tickets ∧
      Price.compute? amount t.options.stakeMultiplier tickets.length ctx.stationCount ctx.priceRate
        (b.rateFor ctx.pricingRegion (digitCount numbers) t.options.defaultPayoutRate) =
          some price ∧
      bet = ⟨numbers, tickets, ⟨b.id, b.name, hit.group.display⟩, amount,
        b.rateFor ctx.pricingRegion (digitCount numbers) t.options.defaultPayoutRate, price⟩ := by
  simp only [readHit, bind_eq_ok_iff, mapError_eq_ok_iff, elim_throw_eq_ok_iff,
    readTickets_eq_ok_iff, pure_eq_ok_iff, exists_and_left, eq_comm (a := bet)]

theorem readBet_eq_ok_iff (t : Tariff) (ctx : LineContext) (line : List Char) (bet : Bet) :
    t.readBet ctx line = .ok bet ↔
      ∃ hit, t.index.find? line = some hit ∧ t.readHit ctx hit = .ok bet := by
  rw [readBet]
  cases t.index.find? line <;> simp

end Tariff

structure Number.Entered (numbers : List String) : Prop where
  ne_nil : numbers ≠ []
  isNumber : ∀ n ∈ numbers, isNumber n.toList = true
  length_eq : ∀ m ∈ numbers, ∀ n ∈ numbers, m.toList.length = n.toList.length

theorem Tariff.entered_of_readNumbers {t : Tariff} {text : List Char} {numbers : List String}
    (h : t.readNumbers text = .ok numbers) : Number.Entered numbers := by
  obtain ⟨-, rfl, hne, hsize⟩ := (t.readNumbers_eq_ok_iff text numbers).mp h
  have hn : ∀ n ∈ (Number.expand t.combinations t.limit text).numbers, isNumber n.toList = true :=
    Number.isNumber_of_mem_expand
  refine ⟨hne, hn, fun m hm n hk => ?_⟩
  have hbytes {n : String} (hn : isNumber n.toList = true) : n.utf8ByteSize = n.toList.length :=
    utf8ByteSize_of_isDigit ((isNumber_iff _).mp hn).2
  rw [← hbytes (hn m hm), ← hbytes (hn n hk)]
  exact hsize m hm n hk

/-- The aliases of a group in the index are those of its bet types, and the one that is shown is
among them. -/
theorem AliasIndex.exists_alias_of_mem {betTypes : List BetType} {g : AliasGroup} {i : Nat}
    {b : BetType} (hg : g ∈ (ofBetTypes betTypes).groups) (hi : i ∈ g.betTypes)
    (hb : betTypes[i]? = some b) : ∃ a ∈ b.aliases, foldKey a.toList = foldKey g.display.toList := by
  obtain ⟨b', hb', hdeclares⟩ := (mem_betTypes_iff hg i).mp hi
  obtain rfl := Option.some.inj (hb.symm.trans hb')
  rw [foldKey_display hg]
  exact (b.declares_iff g.key).mp hdeclares

structure Bet.Sound (betTypes : List BetType) (bet : Bet) : Prop where
  entered : Number.Entered bet.numbers
  amount_pos : 0 < bet.amount.value
  offered : ∃ b ∈ betTypes, bet.betType.id = b.id ∧ bet.betType.name = b.name ∧
    (∃ a ∈ b.aliases, foldKey a.toList = foldKey bet.betType.label.toList) ∧
    Number.TicketsOf bet.numbers b.isPermutation bet.tickets

theorem Tariff.sound_of_readBet {t : Tariff} {ctx : LineContext} {line : List Char} {bet : Bet}
    (h : t.readBet ctx line = .ok bet) : bet.Sound t.betTypes := by
  obtain ⟨hit, hfound, hread⟩ := (t.readBet_eq_ok_iff ctx line bet).mp h
  obtain ⟨b, numbers, amount, tickets, price, hb, hn, ha, ht, -, rfl⟩ :=
    (t.readHit_eq_ok_iff ctx hit bet).mp hread
  obtain ⟨i, hi, hbi⟩ := List.mem_filterMap.mp (chooseBetType_mem hb)
  have hgroup := AliasIndex.group_mem_of_find? hfound
  rw [t.index_eq] at hgroup
  exact ⟨entered_of_readNumbers hn, ((readAmount?_eq_some_iff _ _).mp ha).2, b,
    List.mem_of_getElem? hbi, rfl, rfl, AliasIndex.exists_alias_of_mem hgroup hi hbi,
    Number.ticketsOf_of_tickets? ht⟩

structure BetLine.IsRefused (l : BetLine) : Prop where
  error : l.error?.isSome = true
  numbers : l.numbers = []
  tickets : l.tickets = []
  betType : l.betType? = none
  amount : l.amount = .zero
  unit : l.unit = .zero
  payoutRate : l.payoutRate = .zero
  stake : l.stake = .zero
  prize : l.prize = .zero

structure BetLine.IsBet (betTypes : List BetType) (l : BetLine) : Prop where
  error : l.error? = none
  numbers_ne_nil : l.numbers ≠ []
  isNumber : ∀ n ∈ l.numbers, isNumber n.toList = true
  length_eq : ∃ k, ∀ n ∈ l.numbers ++ l.tickets, n.toList.length = k
  perm : ∀ t ∈ l.tickets, ∃ n ∈ l.numbers, t.toList.Perm n.toList
  subset : ∀ n ∈ l.numbers, n ∈ l.tickets
  offered : ∃ ref b, l.betType? = some ref ∧ b ∈ betTypes ∧ ref.id = b.id ∧ ref.name = b.name ∧
    (∃ a ∈ b.aliases, foldKey a.toList = foldKey ref.label.toList) ∧
    (b.isPermutation = false → l.tickets = l.numbers) ∧
    (b.isPermutation = true → l.tickets.Nodup)
  amount_pos : 0 < l.amount.value

theorem BetLine.isRefused_of_error (number : Nat) (text : String) (e : LineError) :
    (BetLine.mk number text (.error e)).IsRefused :=
  ⟨rfl, rfl, rfl, rfl, rfl, rfl, rfl, rfl, rfl⟩

theorem Bet.Sound.isBet {betTypes : List BetType} {bet : Bet} (h : bet.Sound betTypes)
    (number : Nat) (text : String) : (BetLine.mk number text (.ok bet)).IsBet betTypes := by
  obtain ⟨b, hb, hid, hname, halias, htickets⟩ := h.offered
  obtain ⟨n, hn⟩ := List.exists_mem_of_ne_nil _ h.entered.ne_nil
  refine ⟨rfl, h.entered.ne_nil, h.entered.isNumber, ⟨n.toList.length, fun m hm => ?_⟩,
    htickets.perm, htickets.subset,
    ⟨bet.betType, b, rfl, hb, hid, hname, halias, htickets.plain, htickets.distinct⟩, h.amount_pos⟩
  rcases List.mem_append.mp hm with hm | hm
  · exact h.entered.length_eq m hm n hn
  · obtain ⟨k, hk, hp⟩ := htickets.perm m hm
    exact hp.length_eq.trans (h.entered.length_eq k hk n hn)

def Tariff.readLine (t : Tariff) (ctx : LineContext) (line : Nat × List Char) : BetLine :=
  .ofReading line.1 line.2 (t.readBet ctx line.2)

theorem Tariff.outcome_readLine (t : Tariff) (ctx : LineContext) (line : Nat × List Char)
    (bet : Bet) : (t.readLine ctx line).outcome = .ok bet ↔ t.readBet ctx line.2 = .ok bet :=
  mapError_eq_ok_iff

/-- A line that was read is refused or a bet, and not both. -/
theorem Tariff.isRefused_xor_isBet_readLine (t : Tariff) (ctx : LineContext) (line : Nat × List Char) :
    Xor (t.readLine ctx line).IsRefused ((t.readLine ctx line).IsBet t.betTypes) := by
  have hno (l : BetLine) (hr : l.IsRefused) (hb : l.IsBet t.betTypes) : False := by
    have h := hr.error
    rw [hb.error] at h
    cases h
  rw [readLine, BetLine.ofReading]
  cases hread : t.readBet ctx line.2 with
  | error r =>
    have hrefused := BetLine.isRefused_of_error line.1 (String.ofList (trim line.2)) r.cause
    exact Or.inl ⟨hrefused, hno _ hrefused⟩
  | ok bet =>
    have hbet := (sound_of_readBet hread).isBet line.1 (String.ofList (trim line.2))
    exact Or.inr ⟨hbet, fun hr => hno _ hr hbet⟩

end LotterySlip
