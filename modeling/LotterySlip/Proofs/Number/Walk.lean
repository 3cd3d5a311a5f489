import LotterySlip.Proofs.Number.Rearrangement

/-! The walk through the digits of a number finds its rearrangements, and stops exactly if they are
more than the limit. Which digits are at hand says all about the tiles, as long as the first of equal
ones are laid first. -/
namespace LotterySlip.Number

def atHand (tiles : List Tile) : List Char := (tiles.filter fun t => !t.laid).map Tile.digit

theorem atHand_laid (c : Char) (ts : List Tile) : atHand (⟨c, true⟩ :: ts) = atHand ts := rfl

theorem atHand_open (c : Char) (ts : List Tile) : atHand (⟨c, false⟩ :: ts) = c :: atHand ts := rfl

theorem atHand_map_open (cs : List Char) : atHand (cs.map fun c => ⟨c, false⟩) = cs := by
  induction cs with
  | nil => rfl
  | cons c cs ih => rw [List.map_cons, atHand_open, ih]

/-- Tiles that may stand beside each other: in order, and of equal digits the left one is laid
first. -/
structure Tile.Before (l t : Tile) : Prop where
  le : l.digit ≤ t.digit
  laid : l.digit = t.digit → t.laid = true → l.laid = true

theorem Tile.Before.trans {l t u : Tile} (h : l.Before t) (h' : t.Before u) : l.Before u := by
  refine ⟨h.le.trans h'.le, fun he hu => ?_⟩
  have ht : t.digit = u.digit := le_antisymm h'.le (he ▸ h.le)
  exact h.laid (he.trans ht.symm) (h'.laid ht hu)

def InRow (tiles : List Tile) : Prop := tiles.Pairwise Tile.Before

theorem inRow_cons_cons {l t : Tile} {ts : List Tile} (h : l.Before t) (hts : InRow (t :: ts)) :
    InRow (l :: t :: ts) := by
  refine List.pairwise_cons.mpr ⟨fun u hu => ?_, hts⟩
  rcases List.mem_cons.mp hu with rfl | hu
  · exact h
  · exact h.trans (List.rel_of_pairwise_cons hts hu)

theorem inRow_map_open {cs : List Char} (h : cs.Pairwise (· ≤ ·)) :
    InRow (cs.map fun c => ⟨c, false⟩) :=
  List.pairwise_map.mpr (h.imp fun hle => ⟨hle, nofun⟩)

theorem InRow.right {left : Option Tile} {t : Tile} {ts : List Tile}
    (h : InRow (left.toList ++ t :: ts)) : InRow (t :: ts) :=
  h.sublist (List.sublist_append_right _ _)

theorem InRow.before {l t : Tile} {ts : List Tile} (h : InRow ((some l).toList ++ t :: ts)) :
    l.Before t :=
  List.rel_of_pairwise_cons h List.mem_cons_self

theorem waits_some_iff (l : Tile) (c : Char) :
    waits (some l) c = true ↔ l.digit = c ∧ l.laid = false := by
  simp [waits]

/-- Between a tile and a digit that waits for it stands nothing else. -/
theorem head_of_waits {left : Option Tile} {t : Tile} {ts : List Tile} {c : Char}
    (h : InRow (left.toList ++ t :: ts)) (hc : c ∈ atHand ts) (hw : waits left c = true) :
    t.digit = c ∧ t.laid = false := by
  cases left with
  | none => cases hw
  | some l =>
    obtain ⟨rfl, hl⟩ := (waits_some_iff l _).mp hw
    obtain ⟨u, hu, he⟩ := List.mem_map.mp hc
    have hbefore : t.Before u := List.rel_of_pairwise_cons h.right (List.mem_filter.mp hu).1
    have hdigit : t.digit = l.digit := le_antisymm (he ▸ hbefore.le) h.before.le
    refine ⟨hdigit, ?_⟩
    rw [← Bool.not_eq_true]
    intro ht
    rw [h.before.laid hdigit.symm ht] at hl
    cases hl

theorem waits_eq_false {left : Option Tile} {t : Tile} {ts : List Tile} {c : Char}
    (h : InRow (left.toList ++ t :: ts)) (hc : c ∈ atHand ts)
    (ht : t.laid = true ∨ waits left t.digit = false) : waits left c = false := by
  rw [← Bool.not_eq_true]
  intro hw
  obtain ⟨hd, hl⟩ := head_of_waits h hc hw
  rcases ht with ht | ht
  · rw [ht] at hl
    cases hl
  · rw [hd, hw] at ht
    cases ht

/-- The digits that may be laid next are those at hand that need not wait, each once and in order. -/
theorem map_fst_nexts (left : Option Tile) {ts : List Tile} (h : InRow (left.toList ++ ts)) :
    (nexts left ts).map Prod.fst = ((atHand ts).filter fun c => !waits left c).eraseDups := by
  induction ts generalizing left with
  | nil => rfl
  | cons t ts ih =>
    have hothers : ((nexts (some t) ts).map fun next => (next.1, t :: next.2)).map Prod.fst =
        ((atHand ts).filter fun c => !waits (some t) c).eraseDups := by
      rw [List.map_map]
      exact ih (some t) h.right
    obtain ⟨d, laid⟩ := t
    cases laid with
    | true =>
      rw [nexts, Bool.true_or, if_pos rfl, hothers, atHand_laid]
      congr 1
      apply List.filter_congr
      intro c hc
      rw [waits_eq_false h hc (Or.inl rfl)]
      simp [waits]
    | false =>
      rw [nexts, Bool.false_or, atHand_open]
      split
      · next hw =>
        -- A digit that waits is passed over, and its equals wait for it.
        rw [hothers, List.filter_cons_of_neg (by simp [hw])]
        congr 1
        apply List.filter_congr
        intro c _
        cases left with
        | none => cases hw
        | some l =>
          obtain ⟨rfl, hl⟩ := (waits_some_iff l d).mp hw
          simp [waits, hl]
      · next hw =>
        rw [List.map_cons, hothers, List.filter_cons_of_pos (by simpa using hw),
          List.eraseDups_cons, List.filter_filter]
        congr 2
        apply List.filter_congr
        intro c hc
        rw [waits_eq_false h hc (Or.inr (by simpa using hw))]
        simp [waits, Bool.beq_comm]

/-- Laying a digit takes it from those at hand and leaves the tiles in a row. -/
theorem of_mem_nexts (left : Option Tile) {ts : List Tile} (h : InRow (left.toList ++ ts)) :
    ∀ next ∈ nexts left ts,
      atHand next.2 = (atHand ts).erase next.1 ∧ InRow (left.toList ++ next.2) := by
  induction ts generalizing left with
  | nil => exact fun next hnext => absurd hnext List.not_mem_nil
  | cons t ts ih =>
    have hothers : ∀ next ∈ (nexts (some t) ts).map fun next => (next.1, t :: next.2),
        atHand next.2 = (atHand (t :: ts)).erase next.1 ∧ InRow (left.toList ++ next.2) := by
      intro next hnext
      obtain ⟨n, hn, rfl⟩ := List.mem_map.mp hnext
      obtain ⟨hhand, hrow⟩ := ih (some t) h.right n hn
      have hdigit : n.1 ∈ (atHand ts).filter fun c => !waits (some t) c := by
        rw [← List.mem_eraseDups, ← map_fst_nexts (some t) h.right]
        exact List.mem_map_of_mem hn
      refine ⟨?_, ?_⟩
      · obtain ⟨d, laid⟩ := t
        cases laid with
        | true => exact hhand
        | false =>
          have hne : d ≠ n.1 := by simpa [waits] using (List.mem_filter.mp hdigit).2
          rw [atHand_open, atHand_open, hhand, List.erase_cons_tail (by simpa using hne)]
      · cases left with
        | none => exact hrow
        | some l => exact inRow_cons_cons h.before hrow
    intro next hnext
    rw [nexts] at hnext
    split at hnext
    · exact hothers next hnext
    · next hw =>
      rcases List.mem_cons.mp hnext with rfl | hnext
      · obtain ⟨ht, hw⟩ : t.laid = false ∧ waits left t.digit = false := by simpa using hw
        obtain ⟨d, laid⟩ := t
        obtain rfl : laid = false := ht
        refine ⟨?_, ?_⟩
        · rw [atHand_laid, atHand_open, List.erase_cons_head]
        · have hrow : InRow (⟨d, true⟩ :: ts) := by
            obtain ⟨hd, hts⟩ := List.pairwise_cons.mp h.right
            exact List.pairwise_cons.mpr ⟨fun u hu => ⟨(hd u hu).le, fun _ _ => rfl⟩, hts⟩
          cases left with
          | none => exact hrow
          | some l =>
            refine inRow_cons_cons ⟨h.before.le, fun he _ => ?_⟩ hrow
            -- An equal digit on the left is laid, or this one would have had to wait.
            by_contra hl
            have hwait := (waits_some_iff l d).mpr ⟨he, by simpa using hl⟩
            rw [hw] at hwait
            cases hwait
      · exact hothers next hnext

theorem foldlM_flatMap {α β γ : Type} (f : γ → β → Option γ) (g : α → List β) (as : List α) (c : γ) :
    (as.flatMap g).foldlM f c = as.foldlM (fun c a => (g a).foldlM f c) c := by
  induction as generalizing c with
  | nil => rfl
  | cons a as ih =>
    rw [List.flatMap_cons, List.foldlM_append, List.foldlM_cons]
    exact bind_congr fun d => ih d

/-- The walk keeps the arrangements of the digits at hand, one by one, behind what is laid. -/
theorem walk_eq_foldlM (limit : Nat) {n : Nat} {tiles : List Tile} (h : InRow tiles)
    (front : List Char) (found : Array String) : walk limit n tiles front found =
      ((arrangements n (atHand tiles)).map fun cs => String.ofList (front ++ cs)).foldlM
        (keep? limit) found := by
  induction n generalizing tiles front found with
  | zero =>
    rw [walk, arrangements, List.map_singleton, List.append_nil, List.foldlM_cons]
    exact (bind_pure _).symm
  | succ n ih =>
    have hfirst : (nexts none tiles).map Prod.fst = (atHand tiles).eraseDups := by
      rw [map_fst_nexts none h]
      simp [waits]
    have hbranch : ∀ next ∈ nexts none tiles, ∀ found,
        walk limit n next.2 (front ++ [next.1]) found =
          ((arrangements n ((atHand tiles).erase next.1)).map fun cs =>
            String.ofList (front ++ next.1 :: cs)).foldlM (keep? limit) found := by
      intro next hnext found
      obtain ⟨hhand, hrow⟩ := of_mem_nexts none h next hnext
      have hbranch := ih (show InRow next.2 from hrow) (front ++ [next.1]) found
      rw [hhand] at hbranch
      simpa only [List.append_assoc, List.singleton_append] using hbranch
    rw [walk, arrangements, List.map_flatMap, foldlM_flatMap, ← hfirst, List.foldlM_map]
    simp only [List.map_map]
    generalize nexts none tiles = steps at hbranch
    induction steps generalizing found with
    | nil => rfl
    | cons next steps ih' =>
      rw [List.foldlM_cons, List.foldlM_cons, hbranch next List.mem_cons_self]
      exact bind_congr fun found => ih' found fun m hm => hbranch m (List.mem_cons_of_mem next hm)

theorem foldlM_keep? {limit : Nat} (texts : List String) {found : Array String}
    (h : found.size ≤ limit) : texts.foldlM (keep? limit) found =
      if found.size + texts.length ≤ limit then some (found ++ texts.toArray) else none := by
  induction texts generalizing found with
  | nil => simp [h]
  | cons text texts ih =>
    rw [List.foldlM_cons, keep?]
    split
    · next hle =>
      have hsize : (found.push text).size = found.size + 1 := Array.size_push text
      have happend : found.push text ++ texts.toArray = found ++ (text :: texts).toArray := by
        simp
      show texts.foldlM (keep? limit) (found.push text) = _
      rw [ih hle, hsize, happend, List.length_cons, Nat.add_assoc, Nat.add_comm 1]
    · next hlt =>
      rw [Array.size_push] at hlt
      rw [if_neg (by rw [List.length_cons]; omega)]
      rfl

/-- A number has all its rearrangements, unless they are more than the limit. -/
theorem rearrangements?_eq (number : String) (limit : Nat) : rearrangements? number limit =
    if (rearranged number).length ≤ limit then some (rearranged number) else none := by
  have hrow := inRow_map_open (pairwise_sorted number.toList)
  have hlength : (sorted number.toList).length = number.toList.length :=
    (sorted_perm number.toList).length_eq
  have hwalk := walk_eq_foldlM limit (n := number.toList.length) hrow [] #[]
  rw [atHand_map_open] at hwalk
  simp only [List.nil_append] at hwalk
  simp only [rearrangements?, hlength]
  rw [hwalk, foldlM_keep? _ (Nat.zero_le limit)]
  show (if 0 + (rearranged number).length ≤ limit then _ else _ : Option _).map _ = _
  rw [Nat.zero_add]
  split <;> simp [rearranged]

end LotterySlip.Number
