import Mathlib.Data.List.GetD
import LotterySlip.Proofs.Text.Fold

/-! Where the bytes of a folded text come from. Every byte leads back to where the character begins that
it comes of. So wherever the folded text is cut the text can be cut too, and what then stands in front
folds to no more than what stands in front in the folded text. -/
namespace LotterySlip.Text

variable {cs : List Char} {i : Nat}

def IsBoundary (cs : List Char) (n : Nat) : Prop :=
  ∃ front back, cs = front ++ back ∧ byteLength front = n

def firstBytes : Nat → List Char → List Char
  | _, [] => []
  | n, c :: cs => if c.utf8Size ≤ n then c :: firstBytes (n - c.utf8Size) cs else []

theorem firstBytes_append (front back : List Char) :
    firstBytes (byteLength front) (front ++ back) = front := by
  induction front with
  | nil =>
    cases back with
    | nil => rfl
    | cons c cs =>
      have hc : 0 < c.utf8Size := Char.utf8Size_pos c
      exact if_neg (Nat.not_le.mpr hc)
  | cons c front ih =>
    rw [List.cons_append, byteLength_cons, firstBytes, if_pos (Nat.le_add_right _ _),
      Nat.add_sub_cancel_left, ih]

theorem firstBytes_byteLength {front : List Char} (h : front <+: cs) :
    firstBytes (byteLength front) cs = front := by
  obtain ⟨back, rfl⟩ := h
  exact firstBytes_append front back

theorem isBoundary_byteLength {front : List Char} (h : front <+: cs) :
    IsBoundary cs (byteLength front) := by
  obtain ⟨back, rfl⟩ := h
  exact ⟨front, back, rfl, rfl⟩

theorem prefix_firstBytes (n : Nat) (cs : List Char) : firstBytes n cs <+: cs := by
  induction cs generalizing n with
  | nil => exact List.nil_prefix
  | cons c cs ih =>
    rw [firstBytes]
    split
    · exact (List.prefix_cons_inj c).mpr (ih _)
    · exact List.nil_prefix

/-- At an offset where no character begins fewer bytes are left. -/
theorem isBoundary_iff (cs : List Char) (n : Nat) :
    IsBoundary cs n ↔ byteLength (firstBytes n cs) = n := by
  constructor
  · rintro ⟨front, back, rfl, rfl⟩
    rw [firstBytes_append]
  · intro h
    obtain ⟨back, hback⟩ := prefix_firstBytes n cs
    exact ⟨_, back, hback.symm, h⟩

instance (cs : List Char) (n : Nat) : Decidable (IsBoundary cs n) :=
  decidable_of_iff _ (isBoundary_iff cs n).symm

theorem IsBoundary.append (front : List Char) {back : List Char} {n : Nat}
    (h : IsBoundary back n) : IsBoundary (front ++ back) (byteLength front + n) := by
  obtain ⟨as, bs, rfl, rfl⟩ := h
  exact ⟨front ++ as, bs, (List.append_assoc front as bs).symm, byteLength_append front as⟩

theorem glyphsFrom_succ (i : Nat) (cs : List Char) :
    glyphsFrom (i + 1) cs = (glyphsFrom i cs).map fun g => ⟨g.char, g.source + 1⟩ := by
  induction cs generalizing i with
  | nil => rfl
  | cons c cs ih =>
    rw [glyphsFrom, glyphsFrom, ih, List.map_append, List.map_map]
    rfl

theorem length_flatMap_replicate (gs : List Glyph) (f : Glyph → Nat) :
    (gs.flatMap fun g => List.replicate g.char.utf8Size (f g)).length =
      byteLength (gs.map Glyph.char) := by
  induction gs with
  | nil => rfl
  | cons g gs ih =>
    rw [List.flatMap_cons, List.length_append, List.length_replicate, ih]
    rfl

/-- What a character folds to leads back to its beginning. -/
theorem origins_cons (c : Char) (cs : List Char) :
    origins (c :: cs) =
      List.replicate (byteLength (foldChar c)) 0 ++ (origins cs).map (c.utf8Size + ·) := by
  have hfirst : ((foldChar c).map fun d => Glyph.mk d 0).flatMap (fun g =>
      List.replicate g.char.utf8Size (byteLength ((c :: cs).take g.source))) =
        List.replicate (byteLength (foldChar c)) 0 := by
    rw [List.eq_replicate_iff, length_flatMap_replicate, List.map_map]
    refine ⟨congrArg byteLength (List.map_id _), fun n hn => ?_⟩
    obtain ⟨g, hg, hmem⟩ := List.mem_flatMap.mp hn
    obtain ⟨d, -, rfl⟩ := List.mem_map.mp hg
    exact List.eq_of_mem_replicate hmem
  have hrest : (glyphsFrom 1 cs).flatMap (fun g =>
      List.replicate g.char.utf8Size (byteLength ((c :: cs).take g.source))) =
        ((glyphs cs).flatMap fun g =>
          List.replicate g.char.utf8Size (byteLength (cs.take g.source))).map
            (c.utf8Size + ·) := by
    rw [glyphsFrom_succ, List.flatMap_map, List.map_flatMap, glyphs]
    simp only [List.map_replicate, List.take_succ_cons, byteLength_cons]
  rw [origins, glyphs, glyphsFrom, List.flatMap_append, hfirst, Nat.zero_add, hrest, origins,
    List.map_append, List.append_assoc, List.map_singleton, byteLength_cons]

theorem length_origins (cs : List Char) : (origins cs).length = byteLength (fold cs) + 1 := by
  rw [origins, List.length_append, length_flatMap_replicate, map_char_glyphs, List.length_singleton]

theorem getLast?_origins (cs : List Char) : (origins cs).getLast? = some (byteLength cs) :=
  List.getLast?_concat

theorem pairwise_origins (cs : List Char) : (origins cs).Pairwise fun m n => m ≤ n := by
  induction cs with
  | nil => exact List.pairwise_singleton _ 0
  | cons c cs ih =>
    rw [origins_cons, List.pairwise_append]
    refine ⟨List.pairwise_replicate.mpr (Or.inr le_rfl), ?_, fun m hm n _ => ?_⟩
    · rw [List.pairwise_map]
      exact ih.imp (Nat.add_le_add_left · c.utf8Size)
    · rw [List.eq_of_mem_replicate hm]
      exact Nat.zero_le n

theorem isBoundary_of_mem_origins {n : Nat} (h : n ∈ origins cs) : IsBoundary cs n := by
  induction cs generalizing n with
  | nil =>
    rw [List.mem_singleton.mp h]
    exact ⟨[], [], rfl, rfl⟩
  | cons c cs ih =>
    rw [origins_cons, List.mem_append] at h
    rcases h with h | h
    · rw [List.eq_of_mem_replicate h]
      exact ⟨[], c :: cs, rfl, rfl⟩
    · obtain ⟨m, hm, rfl⟩ := List.mem_map.mp h
      exact (ih hm).append [c]

/-- The offsets of a text that is put together; the last offset of the first part gives way to the
first of the second. -/
theorem origins_append (as bs : List Char) :
    origins (as ++ bs) = (origins as).dropLast ++ (origins bs).map (byteLength as + ·) := by
  induction as with
  | nil =>
    have hid : (fun n => byteLength [] + n) = id := funext Nat.zero_add
    rw [List.nil_append, hid, List.map_id]
    rfl
  | cons a as ih =>
    -- The offset that goes is one of those of the rest, as there always is one.
    have hne : (origins as).map (a.utf8Size + ·) ≠ [] := by
      intro h
      have hlength := congrArg List.length h
      rw [List.length_map, length_origins, List.length_nil] at hlength
      omega
    rw [List.cons_append, origins_cons, ih, origins_cons, List.dropLast_append_of_ne_nil hne,
      List.map_append, List.map_dropLast, List.map_map, List.append_assoc, byteLength_cons]
    congr 3
    funext n
    exact (Nat.add_assoc _ _ n).symm

theorem length_dropLast_origins (cs : List Char) :
    (origins cs).dropLast.length = byteLength (fold cs) := by
  rw [List.length_dropLast, length_origins, Nat.add_sub_cancel]

theorem originalOffset_append_left (as bs : List Char) (h : i < byteLength (fold as)) :
    originalOffset (as ++ bs) i = originalOffset as i := by
  have hi : i < (origins as).dropLast.length := by rwa [length_dropLast_origins]
  have hi' : i < (origins as).length := by
    rw [length_origins]
    omega
  rw [originalOffset, origins_append, List.getD_append _ _ _ _ hi, List.getD_eq_getElem _ _ hi,
    List.getElem_dropLast, originalOffset, List.getD_eq_getElem _ _ hi']

theorem originalOffset_append_right (as bs : List Char) (i : Nat) :
    originalOffset (as ++ bs) (byteLength (fold as) + i) = byteLength as + originalOffset bs i := by
  have hlength := length_dropLast_origins as
  rw [originalOffset, origins_append, List.getD_append_right _ _ _ _ (by omega), hlength,
    Nat.add_sub_cancel_left, byteLength_append, List.getD_map, originalOffset]

theorem originalOffset_of_le (h : byteLength (fold cs) ≤ i) :
    originalOffset cs i = byteLength cs := by
  obtain ⟨k, rfl⟩ := Nat.exists_eq_add_of_le h
  have hnil : originalOffset [] k = 0 := by
    cases k <;> rfl
  have happend := originalOffset_append_right cs [] k
  rwa [List.append_nil, hnil, Nat.add_zero] at happend

/-- Every byte of what a character folds to leads back to where the character begins. -/
theorem originalOffset_append_cons (front : List Char) (c : Char) (back : List Char)
    (hi : i < byteLength (foldChar c)) :
    originalOffset (front ++ c :: back) (byteLength (fold front) + i) = byteLength front := by
  have hfirst : originalOffset (c :: back) i = 0 := by
    rw [originalOffset, origins_cons,
      List.getD_append _ _ _ _ (by rwa [List.length_replicate]), List.getD_replicate _ hi]
  rw [originalOffset_append_right, hfirst, Nat.add_zero]

/-- The offset of the first byte of a folded character is the length of the text before its source. -/
theorem originalOffset_byteLength_take {cs : List Char} {i : Nat} {g : Glyph}
    (h : (glyphs cs)[i]? = some g) :
    originalOffset cs (byteLength ((fold cs).take i)) = byteLength (cs.take g.source) := by
  obtain ⟨hi, hg⟩ := List.getElem?_eq_some_iff.mp h
  have hsplit : glyphs cs = (glyphs cs).take i ++ g :: (glyphs cs).drop (i + 1) := by
    rw [← hg, ← List.drop_eq_getElem_cons hi, List.take_append_drop]
  have hbytes : byteLength ((fold cs).take i) =
      (((glyphs cs).take i).flatMap fun g =>
        List.replicate g.char.utf8Size (byteLength (cs.take g.source))).length := by
    rw [length_flatMap_replicate, List.map_take, map_char_glyphs]
  obtain ⟨k, hk⟩ : ∃ k, g.char.utf8Size = k + 1 :=
    Nat.exists_eq_succ_of_ne_zero (Char.utf8Size_pos g.char).ne'
  rw [originalOffset, origins, hsplit, hbytes, List.flatMap_append, List.append_assoc,
    List.getD_eq_getElem?_getD, List.getElem?_append_right le_rfl, Nat.sub_self,
    List.flatMap_cons, hk, List.replicate_succ]
  rfl

/-- Every byte of a folded text comes of some character. -/
theorem exists_of_lt_byteLength_fold (h : i < byteLength (fold cs)) :
    ∃ front c back k, cs = front ++ c :: back ∧ k < byteLength (foldChar c) ∧
      i = byteLength (fold front) + k := by
  induction cs generalizing i with
  | nil => exact absurd h (Nat.not_lt_zero i)
  | cons c cs ih =>
    by_cases hc : i < byteLength (foldChar c)
    · exact ⟨[], c, cs, i, rfl, hc, (Nat.zero_add i).symm⟩
    · rw [fold_cons, byteLength_append] at h
      obtain ⟨front, d, back, k, rfl, hk, hi⟩ := ih (by omega : i - byteLength (foldChar c) < _)
      refine ⟨c :: front, d, back, k, rfl, hk, ?_⟩
      rw [fold_cons, byteLength_append]
      omega

/-- A place in the folded text of `cs` where what some character folds to begins, or its end. -/
def BeginsPart (cs : List Char) (i : Nat) : Prop :=
  i = byteLength (fold cs) ∨
    ∃ front c back, cs = front ++ c :: back ∧ foldChar c ≠ [] ∧ i = byteLength (fold front)

theorem BeginsPart.isBoundary (h : BeginsPart cs i) : IsBoundary (fold cs) i := by
  rcases h with rfl | ⟨front, c, back, rfl, -, rfl⟩
  · exact isBoundary_byteLength List.prefix_rfl
  · exact isBoundary_byteLength (fold_prefix_fold (List.prefix_append front _))

/-- What stands before the character to which a byte leads folds to no more than what stands before the
byte, and to less unless a part begins there. -/
theorem exists_append_of_originalOffset (cs : List Char) (i : Nat) :
    ∃ front back, cs = front ++ back ∧ originalOffset cs i = byteLength front ∧
      byteLength (fold front) ≤ i ∧ (byteLength (fold front) = i → BeginsPart cs i) := by
  rcases Nat.lt_or_ge i (byteLength (fold cs)) with hlt | hge
  · -- The byte is the one with number `k` of those that `c` folds to, the first if `k` is zero.
    obtain ⟨front, c, back, k, hcs, hk, rfl⟩ := exists_of_lt_byteLength_fold hlt
    have hc : foldChar c ≠ [] := by
      intro hnil
      rw [hnil] at hk
      exact Nat.not_lt_zero k hk
    refine ⟨front, c :: back, hcs, ?_, Nat.le_add_right _ k, fun he => ?_⟩
    · rw [hcs, originalOffset_append_cons front c back hk]
    · exact Or.inr ⟨front, c, back, hcs, hc, he.symm⟩
  · exact ⟨cs, [], (List.append_nil cs).symm, originalOffset_of_le hge, hge,
      fun he => Or.inl he.symm⟩

theorem byteLength_fold_firstBytes_le (cs : List Char) (i : Nat) :
    byteLength (fold (firstBytes (originalOffset cs i) cs)) ≤ i := by
  obtain ⟨front, back, rfl, hoffset, hle, -⟩ := exists_append_of_originalOffset cs i
  rwa [hoffset, firstBytes_append]

theorem beginsPart_iff (cs : List Char) (i : Nat) :
    BeginsPart cs i ↔ byteLength (fold (firstBytes (originalOffset cs i) cs)) = i := by
  constructor
  · rintro (rfl | ⟨front, c, back, rfl, hc, rfl⟩)
    · rw [originalOffset_of_le le_rfl, firstBytes_byteLength List.prefix_rfl]
    · have hpos : 0 < byteLength (foldChar c) :=
        Nat.pos_of_ne_zero fun h => hc (eq_nil_of_byteLength_eq_zero h)
      have hoffset := originalOffset_append_cons front c back hpos
      rw [Nat.add_zero] at hoffset
      rw [hoffset, firstBytes_append]
  · intro h
    obtain ⟨front, back, rfl, hoffset, -, hbegins⟩ := exists_append_of_originalOffset cs i
    apply hbegins
    rwa [hoffset, firstBytes_append] at h

/-- What stands before the cut in the text folds to a beginning of what stands before the cut in the
folded text. -/
theorem IsBoundary.prefix_fold_firstBytes (h : IsBoundary (fold cs) i) :
    fold (firstBytes (originalOffset cs i) cs) <+: firstBytes i (fold cs) := by
  apply prefix_of_prefix_of_byteLength_le (fold_prefix_fold (prefix_firstBytes _ cs))
    (prefix_firstBytes i _)
  rw [(isBoundary_iff _ i).mp h]
  exact byteLength_fold_firstBytes_le cs i

/-- It folds to all of that exactly where a part begins. -/
theorem beginsPart_iff_fold_firstBytes_eq (cs : List Char) (i : Nat) :
    BeginsPart cs i ↔ IsBoundary (fold cs) i ∧
      fold (firstBytes (originalOffset cs i) cs) = firstBytes i (fold cs) := by
  constructor
  · intro h
    have hbytes := (beginsPart_iff cs i).mp h
    have hcut := (isBoundary_iff _ i).mp h.isBoundary
    exact ⟨h.isBoundary, eq_of_prefix_of_byteLength_eq (fold_prefix_fold (prefix_firstBytes _ cs))
      (prefix_firstBytes i _) (hbytes.trans hcut.symm)⟩
  · rintro ⟨hi, he⟩
    rw [beginsPart_iff, he]
    exact (isBoundary_iff _ i).mp hi

/-- How a list of offsets leads from the folded text of `cs` back to `cs`: there is one offset for
every byte and one for the end, each at a boundary, and none is passed by a later one. -/
structure LeadsBack (cs : List Char) (offsets : List Nat) : Prop where
  length_eq : offsets.length = byteLength (fold cs) + 1
  ascending : offsets.Pairwise fun m n => m ≤ n
  boundary : ∀ n ∈ offsets, IsBoundary cs n
  last : offsets.getLast? = some (byteLength cs)

/-- The offsets that are kept lead back to the text, those past the end of the folded text to its end.
A cut through the folded text is answered by a cut through the text: what stands before the one folds to
a beginning of what stands before the other, and to all of it exactly where a part begins. Texts that
are put together fold, and lead back, each by itself. -/
theorem origins_leadBack (cs : List Char) :
    LeadsBack cs (origins cs) ∧
      (∀ i, byteLength (fold cs) ≤ i → originalOffset cs i = byteLength cs) ∧
      (∀ i, IsBoundary (fold cs) i →
        fold (firstBytes (originalOffset cs i) cs) <+: firstBytes i (fold cs)) ∧
      (∀ i, BeginsPart cs i ↔ IsBoundary (fold cs) i ∧
        fold (firstBytes (originalOffset cs i) cs) = firstBytes i (fold cs)) ∧
      ∀ ds, fold (cs ++ ds) = fold cs ++ fold ds ∧
        (∀ i, i < byteLength (fold cs) → originalOffset (cs ++ ds) i = originalOffset cs i) ∧
        ∀ i, originalOffset (cs ++ ds) (byteLength (fold cs) + i) =
          byteLength cs + originalOffset ds i := by
  have hback : LeadsBack cs (origins cs) :=
    ⟨length_origins cs, pairwise_origins cs, fun n hn => isBoundary_of_mem_origins hn,
      getLast?_origins cs⟩
  refine ⟨hback, fun i hi => originalOffset_of_le hi, fun i hi => hi.prefix_fold_firstBytes,
    beginsPart_iff_fold_firstBytes_eq cs, fun ds => ⟨fold_append cs ds, fun i hi => ?_, ?_⟩⟩
  · exact originalOffset_append_left cs ds hi
  · exact originalOffset_append_right cs ds

def Sample.syllable : List Char := "Đ각\u0301x".toList

/-- The syllable is cut before it wherever its letters are cut, and the mark goes with it. -/
theorem origins_leadBack_syllable :
    LeadsBack Sample.syllable [0, 2, 2, 2, 2, 2, 2, 2, 2, 2, 7, 8] ∧
      originalOffset Sample.syllable 12 = 8 ∧
      fold (firstBytes 2 Sample.syllable) <+: firstBytes 4 (fold Sample.syllable) ∧
      ¬ BeginsPart Sample.syllable 4 ∧ BeginsPart Sample.syllable 10 ∧
      originalOffset (Sample.syllable ++ "Ế5".toList) 4 = 2 ∧
      originalOffset (Sample.syllable ++ "Ế5".toList) 12 = 11 := by
  have horigins : origins Sample.syllable = [0, 2, 2, 2, 2, 2, 2, 2, 2, 2, 7, 8] := by
    decide +kernel
  have hlength : byteLength (fold Sample.syllable) = 11 := by decide +kernel
  have hcut : IsBoundary (fold Sample.syllable) 4 := by decide +kernel
  have hinside : originalOffset Sample.syllable 4 = 2 := by rw [originalOffset, horigins]; rfl
  obtain ⟨hback, hend, hbefore, hpart, happend⟩ := origins_leadBack Sample.syllable
  obtain ⟨-, hfirst, hsecond⟩ := happend "Ế5".toList
  refine ⟨horigins ▸ hback, ?_, hinside ▸ hbefore 4 hcut, ?_, ?_, ?_, ?_⟩
  · rw [hend 12 (by omega)]
    decide +kernel
  · rw [hpart]
    decide +kernel
  · rw [hpart]
    decide +kernel
  · rw [hfirst 4 (by omega), hinside]
  · have hafter := hsecond 1
    rw [hlength] at hafter
    rw [hafter]
    decide +kernel

end LotterySlip.Text
