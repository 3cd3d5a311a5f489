import Mathlib.Data.List.Permutation
import LotterySlip.Number.Ticket
import LotterySlip.Proofs.Number.Walk

/-! The tickets of a permutation bet are the rearrangements of all its numbers, each at the place where
it is first found. The limits on the single numbers say nothing that the limit on all tickets does not
say. -/
namespace LotterySlip.Number

def allTickets (numbers : List String) : List String := (numbers.flatMap rearranged).eraseDups

theorem mem_allTickets_iff (numbers : List String) (ticket : String) :
    ticket ∈ allTickets numbers ↔ ∃ n ∈ numbers, ticket.toList.Perm n.toList := by
  simp only [allTickets, List.mem_eraseDups, List.mem_flatMap, mem_rearranged_iff]

theorem nodup_allTickets (numbers : List String) : (allTickets numbers).Nodup := nodup_eraseDups _

theorem addTicket_eraseDups (ts : List String) (t : String) :
    addTicket ts.eraseDups t = (ts ++ [t]).eraseDups := by
  rw [addTicket, List.eraseDups_append]
  by_cases ht : t ∈ ts
  · simp [List.removeAll, ht]
  · simp [List.removeAll, ht, List.eraseDups_cons]

theorem foldl_addTicket (ts us : List String) :
    us.foldl addTicket ts.eraseDups = (ts ++ us).eraseDups := by
  induction us generalizing ts with
  | nil => rw [List.append_nil, List.foldl_nil]
  | cons u us ih => rw [List.foldl_cons, addTicket_eraseDups, ih, List.append_assoc]; rfl

/-- More tickets do not become fewer. -/
theorem length_eraseDups_append_left (ts us : List String) :
    ts.eraseDups.length ≤ (ts ++ us).eraseDups.length := by
  rw [List.eraseDups_append, List.length_append]
  omega

theorem length_le_eraseDups_append {us : List String} (h : us.Nodup) (ts : List String) :
    us.length ≤ (ts ++ us).eraseDups.length := by
  refine (List.subperm_of_subset h fun t ht => ?_).length_le
  exact List.mem_eraseDups.mpr (List.mem_append_right ts ht)

theorem addTickets?_eraseDups (limit : Nat) (ts : List String) (number : String) :
    addTickets? limit ts.eraseDups number =
      if (ts ++ rearranged number).eraseDups.length ≤ limit then
        some (ts ++ rearranged number).eraseDups
      else none := by
  have hle := length_le_eraseDups_append (nodup_rearranged number) ts
  rw [addTickets?, rearrangements?_eq]
  split
  · simp only [Option.bind_eq_bind, Option.bind_some, foldl_addTicket]
  · -- One number has more rearrangements than there may be tickets.
    rw [if_neg (by omega)]
    rfl

theorem foldlM_addTickets? (limit : Nat) (ts numbers : List String)
    (h : ts.eraseDups.length ≤ limit) : numbers.foldlM (addTickets? limit) ts.eraseDups =
      if (ts ++ numbers.flatMap rearranged).eraseDups.length ≤ limit then
        some (ts ++ numbers.flatMap rearranged).eraseDups
      else none := by
  induction numbers generalizing ts with
  | nil => simp [h]
  | cons n ns ih =>
    rw [List.foldlM_cons, addTickets?_eraseDups, List.flatMap_cons, ← List.append_assoc]
    split
    · next hle => exact ih _ hle
    · next hlt =>
      have hmore := length_eraseDups_append_left (ts ++ rearranged n) (ns.flatMap rearranged)
      rw [if_neg (by omega)]
      rfl

/-- A permutation bet has all the tickets of its numbers, unless they are more than the limit. -/
theorem tickets?_true (numbers : List String) (limit : Nat) : tickets? numbers true limit =
    if (allTickets numbers).length ≤ limit then some (allTickets numbers) else none :=
  foldlM_addTickets? limit [] numbers (Nat.zero_le limit)

theorem tickets?_false (numbers : List String) (limit : Nat) :
    tickets? numbers false limit = some numbers := rfl

structure TicketsOf (numbers : List String) (isPermutation : Bool) (tickets : List String) :
    Prop where
  perm : ∀ t ∈ tickets, ∃ n ∈ numbers, t.toList.Perm n.toList
  subset : ∀ n ∈ numbers, n ∈ tickets
  plain : isPermutation = false → tickets = numbers
  distinct : isPermutation = true → tickets.Nodup

theorem ticketsOf_of_tickets? {numbers tickets : List String} {isPermutation : Bool} {limit : Nat}
    (h : tickets? numbers isPermutation limit = some tickets) :
    TicketsOf numbers isPermutation tickets := by
  cases isPermutation with
  | false =>
    cases h
    exact ⟨fun t ht => ⟨t, ht, .refl _⟩, fun _ => id, fun _ => rfl, nofun⟩
  | true =>
    rw [tickets?_true] at h
    split at h
    · cases h
      refine ⟨fun t ht => (mem_allTickets_iff numbers t).mp ht, fun n hn => ?_, nofun,
        fun _ => nodup_allTickets numbers⟩
      exact (mem_allTickets_iff numbers n).mpr ⟨n, hn, .refl _⟩
    · cases h

def placeOf (numbers : List String) (ticket : String) : Nat :=
  numbers.findIdx fun n => ticket.toList.isPerm n.toList

theorem placeOf_cons_of_mem {n s : String} (ns : List String) (h : s ∈ rearranged n) :
    placeOf (n :: ns) s = 0 := by
  have hperm : s.toList.isPerm n.toList = true :=
    List.isPerm_iff.mpr ((mem_rearranged_iff n s).mp h)
  rw [placeOf, List.findIdx_cons, hperm]
  rfl

theorem placeOf_cons_of_notMem {n s : String} (ns : List String) (h : s ∉ rearranged n) :
    placeOf (n :: ns) s = placeOf ns s + 1 := by
  have hperm : s.toList.isPerm n.toList = false := by
    rw [← Bool.not_eq_true, List.isPerm_iff, ← mem_rearranged_iff]
    exact h
  rw [placeOf, List.findIdx_cons, hperm]
  rfl

/-- Tickets stand in the order of the first numbers that they rearrange, those of one number in
ascending order. -/
def Precedes (numbers : List String) (s t : String) : Prop :=
  placeOf numbers s < placeOf numbers t ∨ placeOf numbers s = placeOf numbers t ∧ s < t

/-- What is left of the rearrangements of all numbers stands in order. -/
theorem pairwise_precedes_filter (numbers : List String) (p : String → Bool) :
    ((numbers.flatMap rearranged).filter p).eraseDups.Pairwise (Precedes numbers) := by
  induction numbers generalizing p with
  | nil => exact .nil
  | cons n ns ih =>
    have hfirst : ((rearranged n).filter p).eraseDups = (rearranged n).filter p :=
      eraseDups_of_nodup ((nodup_rearranged n).filter p)
    have hothers : ((ns.flatMap rearranged).filter p).removeAll ((rearranged n).filter p) =
        (ns.flatMap rearranged).filter fun t => p t && !(rearranged n).contains t := by
      rw [List.removeAll, List.filter_filter]
      apply List.filter_congr
      intro t _
      cases hp : p t <;> simp [hp]
    have hnew {t : String} (ht : t ∈ ((ns.flatMap rearranged).filter fun t =>
        p t && !(rearranged n).contains t).eraseDups) : t ∉ rearranged n := by
      have h := (List.mem_filter.mp (List.mem_eraseDups.mp ht)).2
      simp only [Bool.and_eq_true, Bool.not_eq_true', ← Bool.not_eq_true, List.contains_iff_mem]
        at h
      exact h.2
    rw [List.flatMap_cons, List.filter_append, List.eraseDups_append, hfirst, hothers,
      List.pairwise_append]
    refine ⟨?_, ?_, ?_⟩
    · apply ((rearranged_ascending n).filter p).imp_of_mem
      intro s t hs ht hlt
      refine Or.inr ⟨?_, hlt⟩
      rw [placeOf_cons_of_mem ns (List.mem_filter.mp hs).1,
        placeOf_cons_of_mem ns (List.mem_filter.mp ht).1]
    · apply (ih _).imp_of_mem
      intro s t hs ht hlt
      rw [Precedes, placeOf_cons_of_notMem ns (hnew hs), placeOf_cons_of_notMem ns (hnew ht)]
      exact hlt.imp Nat.succ_lt_succ (And.imp_left (congrArg Nat.succ))
    · intro s hs t ht
      refine Or.inl ?_
      rw [placeOf_cons_of_mem ns (List.mem_filter.mp hs).1, placeOf_cons_of_notMem ns (hnew ht)]
      exact Nat.succ_pos _

theorem pairwise_allTickets (numbers : List String) :
    (allTickets numbers).Pairwise (Precedes numbers) := by
  have h := pairwise_precedes_filter numbers fun _ => true
  rwa [List.filter_true] at h

/-- Lists whose numbers are rearrangements of each other, however often they stand there and in
whatever order. -/
structure SameDigits (numbers numbers' : List String) : Prop where
  left : ∀ n ∈ numbers, ∃ n' ∈ numbers', n.toList.Perm n'.toList
  right : ∀ n' ∈ numbers', ∃ n ∈ numbers, n'.toList.Perm n.toList

theorem SameDigits.allTickets_perm {numbers numbers' : List String}
    (h : SameDigits numbers numbers') : (allTickets numbers).Perm (allTickets numbers') := by
  refine (List.perm_ext_iff_of_nodup (nodup_allTickets _) (nodup_allTickets _)).mpr fun t => ?_
  rw [mem_allTickets_iff, mem_allTickets_iff]
  constructor
  · rintro ⟨n, hn, ht⟩
    obtain ⟨n', hn', hp⟩ := h.left n hn
    exact ⟨n', hn', ht.trans hp⟩
  · rintro ⟨n', hn', ht⟩
    obtain ⟨n, hn, hp⟩ := h.right n' hn'
    exact ⟨n, hn, ht.trans hp⟩

/-- The tickets of a permutation bet are all that rearrange one of its numbers, unless they are more
than the limit. They are the same, but for the order, for numbers with the same digits. Any other bet
has its numbers for tickets. -/
theorem tickets?_eq_union (numbers : List String) (limit : Nat) :
    (∃ found : List String, (∀ t, t ∈ found ↔ ∃ n ∈ numbers, t.toList.Perm n.toList) ∧
      found.Nodup ∧ found.Pairwise (Precedes numbers) ∧
      tickets? numbers true limit = if limit < found.length then none else some found) ∧
    (∀ numbers', SameDigits numbers numbers' →
      Option.Rel List.Perm (tickets? numbers true limit) (tickets? numbers' true limit)) ∧
    tickets? numbers false limit = some numbers := by
  refine ⟨⟨allTickets numbers, mem_allTickets_iff numbers, nodup_allTickets numbers,
    pairwise_allTickets numbers, ?_⟩, fun numbers' h => ?_, tickets?_false numbers limit⟩
  · rw [tickets?_true]
    split
    · next hle => rw [if_neg (Nat.not_lt.mpr hle)]
    · next hlt => rw [if_pos (Nat.not_le.mp hlt)]
  · have hperm := h.allTickets_perm
    rw [tickets?_true, tickets?_true, hperm.length_eq]
    split
    · exact .some hperm
    · exact .none

/-- A number entered twice, the order changed and the digits of a number rearranged. -/
theorem tickets?_two_pairs :
    SameDigits ["12", "33"] ["33", "21", "12"] ∧
      tickets? ["12", "33"] true 3 = some ["12", "21", "33"] ∧
      Option.Rel List.Perm (tickets? ["12", "33"] true 3) (tickets? ["33", "21", "12"] true 3) := by
  have h : SameDigits ["12", "33"] ["33", "21", "12"] :=
    ⟨by decide +kernel, by decide +kernel⟩
  have hfound : tickets? ["12", "33"] true 3 = some ["12", "21", "33"] := by cbv
  exact ⟨h, hfound, (tickets?_eq_union ["12", "33"] 3).2.1 _ h⟩

end LotterySlip.Number
