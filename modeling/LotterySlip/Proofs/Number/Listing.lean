import LotterySlip.Proofs.Number.Expansion

/-! Lists of numbers. A text of numbers with separators around them comes to its numbers, each once and
in order, unless a combination has such a name. -/
namespace LotterySlip.Number
open Text

/-- A text that lists numbers: after a number it ends or goes on with a separator, and separators may
stand anywhere else. -/
inductive Listing : List String → List Char → Prop
  | nil : Listing [] []
  | separator {s : Char} {ns : List String} {cs : List Char} :
      isSeparator s = true → Listing ns cs → Listing ns (s :: cs)
  | number {n : String} {ns : List String} {cs : List Char} :
      isNumber n.toList = true → (∀ c ∈ cs.head?, isSeparator c = true) → Listing ns cs →
        Listing (n :: ns) (n.toList ++ cs)

theorem isSeparator_of_isBlank {c : Char} (h : isBlank c = true) : isSeparator c = true := by
  rw [isSeparator, h, Bool.or_true]

theorem isSeparator_of_isDigit {c : Char} (h : c.isDigit = true) : isSeparator c = false := by
  have hp : c ≠ '.' := ne_of_isDigit h (by decide)
  have hk : c ≠ ',' := ne_of_isDigit h (by decide)
  have hd : c ≠ '-' := ne_of_isDigit h (by decide)
  simp [isSeparator, isBlank_of_isDigit h, hp, hk, hd]

theorem Listing.isNumber {ns : List String} {cs : List Char} (h : Listing ns cs) :
    ∀ n ∈ ns, isNumber n.toList = true := by
  induction h with
  | nil => exact fun n hn => absurd hn List.not_mem_nil
  | separator _ _ ih => exact ih
  | number hn _ _ ih => exact List.forall_mem_cons.mpr ⟨hn, ih⟩

theorem Listing.pieces_eq {ns : List String} {cs : List Char} (h : Listing ns cs) :
    pieces isSeparator cs = ns.map String.toList := by
  induction h with
  | nil => exact pieces_nil isSeparator
  | separator hs _ ih => rw [pieces_cons _ _ _ hs, ih]
  | number hn hc _ ih =>
    obtain ⟨hne, hd⟩ := (isNumber_iff _).mp hn
    rw [pieces_append_of_head? _ _ _ hne (fun c hm => isSeparator_of_isDigit (hd c hm)) hc, ih,
      List.map_cons]

/-- Nothing of a list is lost, and nothing is added. -/
theorem Listing.listed_eq {ns : List String} {cs : List Char} (h : Listing ns cs) :
    listed cs = ns := by
  have hall : (ns.map String.toList).all (fun p => p.all Char.isDigit) = true := by
    rw [List.all_eq_true]
    intro p hp
    obtain ⟨n, hn, rfl⟩ := List.mem_map.mp hp
    exact List.all_eq_true.mpr ((isNumber_iff _).mp (h.isNumber n hn)).2
  simp only [listed, h.pieces_eq, hall, if_true, List.map_map]
  exact (List.map_congr_left fun n _ => String.ofList_toList).trans (List.map_id _)

theorem listing_of_pieces (cs : List Char)
    (h : ∀ piece ∈ pieces isSeparator cs, ∀ c ∈ piece, c.isDigit = true) :
    Listing ((pieces isSeparator cs).map String.ofList) cs := by
  -- A text is read up to its next separator, so the induction is on its length.
  induction hn : cs.length using Nat.strong_induction_on generalizing cs with
  | _ n ih =>
    cases cs with
    | nil => exact .nil
    | cons c cs =>
      by_cases hc : isSeparator c = true
      · rw [pieces_cons _ _ _ hc] at h ⊢
        exact .separator hc (ih cs.length (by rw [← hn]; exact Nat.lt_succ_self _) cs h rfl)
      · obtain ⟨piece, rest, hsplit, hne, hpiece, hrest⟩ :=
          exists_piece_append isSeparator c cs (Bool.not_eq_true _ ▸ hc)
        have hlength : rest.length < n := by
          have hpos := List.length_pos_of_ne_nil hne
          rw [hsplit, List.length_append] at hn
          omega
        rw [hsplit, pieces_append_of_head? isSeparator piece rest hne hpiece hrest] at h ⊢
        obtain ⟨hdigits, hrestDigits⟩ := List.forall_mem_cons.mp h
        have hnumber := Listing.number (n := String.ofList piece)
          (by rw [String.toList_ofList, isNumber_iff]; exact ⟨hne, hdigits⟩) hrest
          (ih rest.length hlength rest hrestDigits rfl)
        rwa [String.toList_ofList] at hnumber

/-- What is read as a list of numbers is one. -/
theorem listing_listed {cs : List Char} (h : listed cs ≠ []) : Listing (listed cs) cs := by
  simp only [listed] at h ⊢
  split at h
  · next hall =>
    rw [if_pos hall]
    apply listing_of_pieces
    intro piece hpiece
    exact List.all_eq_true.mp (List.all_eq_true.mp hall piece hpiece)
  · exact absurd rfl h

theorem listed_append_left (front cs : List Char) (h : isBlankText front = true) :
    listed (front ++ cs) = listed cs := by
  have hfront : ∀ c ∈ front, isSeparator c = true := fun c hc =>
    isSeparator_of_isBlank ((isBlankText_iff front).mp h c hc)
  simp only [listed, pieces_append_left isSeparator front cs hfront]

theorem listed_append_right (cs back : List Char) (h : isBlankText back = true) :
    listed (cs ++ back) = listed cs := by
  have hback : ∀ c ∈ back, isSeparator c = true := fun c hc =>
    isSeparator_of_isBlank ((isBlankText_iff back).mp h c hc)
  simp only [listed, pieces_append_right isSeparator cs back hback]

theorem listed_trim (cs : List Char) : listed (trim cs) = listed cs := by
  obtain ⟨front, back, hfront, hback, hcs⟩ := exists_append_trim cs
  calc listed (trim cs)
      = listed (front ++ trim cs) := (listed_append_left front _ hfront).symm
    _ = listed (front ++ trim cs ++ back) := (listed_append_right _ back hback).symm
    _ = listed cs := by rw [← hcs]

/-- A list keeps its numbers without the blanks in front of it. -/
theorem exists_listed_of_append (cs : List Char) (h : listed cs ≠ []) : ∃ blanks numbers,
    isBlankText blanks = true ∧ cs = blanks ++ numbers ∧ numbers ≠ [] ∧
      (∀ c ∈ numbers.head?, isBlank c = false) ∧ listed numbers = listed cs := by
  have hblanks : isBlankText (cs.takeWhile isBlank) = true := List.all_takeWhile
  have hcs : cs = cs.takeWhile isBlank ++ cs.dropWhile isBlank :=
    List.takeWhile_append_dropWhile.symm
  have hlisted : listed (cs.dropWhile isBlank) = listed cs := by
    rw [← listed_append_left _ _ hblanks, ← hcs]
  refine ⟨_, _, hblanks, hcs, ?_, head?_dropWhile isBlank cs, hlisted⟩
  intro hnil
  rw [hnil] at hlisted
  exact h hlisted.symm

/-- Nothing but digits and separators is left of a list when it is folded. -/
theorem notMem_fold_of_listed {text : List Char} (h : listed text ≠ []) {c : Char}
    (hd : c.isDigit = false) (hs : isSeparator c = false) : c ∉ fold text := by
  intro hc
  have hb : isBlank c = false := by
    rw [← Bool.not_eq_true]
    intro hb
    rw [isSeparator_of_isBlank hb] at hs
    cases hs
  exact h (listed_eq_nil_of_mem_foldKey (mem_foldKey_of_mem_fold hb hc) hs hd)

theorem mem_of_mem_listed {cs : List Char} {n : String} (hn : n ∈ listed cs) :
    ∀ c ∈ n.toList, c ∈ cs := by
  simp only [listed] at hn
  split at hn
  · obtain ⟨p, hp, rfl⟩ := List.mem_map.mp hn
    rw [String.toList_ofList]
    exact mem_of_mem_splitOnP (List.mem_filter.mp hp).1
  · cases hn

/-- The digits of a list stay in its key. -/
theorem foldKey_ne_nil_of_listed {text : List Char} (h : listed text ≠ []) : foldKey text ≠ [] := by
  obtain ⟨n, ns, hns⟩ := List.exists_cons_of_ne_nil h
  have hn : n ∈ listed text := hns ▸ List.mem_cons_self
  obtain ⟨hne, hdigits⟩ := (isNumber_iff _).mp (isNumber_of_mem_listed n hn)
  obtain ⟨c, cs, hc⟩ := List.exists_cons_of_ne_nil hne
  have hmem : c ∈ n.toList := hc ▸ List.mem_cons_self
  have hd := hdigits c hmem
  exact List.ne_nil_of_mem (mem_foldKey_of_mem (foldChar_of_isDigit hd) (isBlank_of_isDigit hd)
    (mem_of_mem_listed hn c hmem))

/-- A list has the name of no combination, if every name has something in it that no list has. -/
theorem findCombination?_of_listed {combinations : List Combination} {text : List Char}
    (hc : ∀ m ∈ combinations, ∀ k ∈ m.lookupKeys, foldKey k.toList ≠ [] →
      ∃ d ∈ foldKey k.toList, d.isDigit = false ∧ isSeparator d = false)
    (h : listed text ≠ []) : findCombination? combinations (foldKey text) = none := by
  rw [findCombination?, List.find?_eq_none]
  intro m hm hany
  obtain ⟨k, hk, he⟩ := List.any_eq_true.mp hany
  have hkey : foldKey k.toList = foldKey text := eq_of_beq he
  obtain ⟨d, hd, hdigit, hsep⟩ := hc m hm k hk (hkey ▸ foldKey_ne_nil_of_listed h)
  exact h (listed_eq_nil_of_mem_foldKey (hkey ▸ hd) hsep hdigit)

/-- A list of numbers comes to its numbers, unless a combination has it as its name. -/
theorem expand_of_listed {combinations : List Combination} {text : List Char} (limit : Nat)
    (h : listed text ≠ []) (hc : findCombination? combinations (foldKey text) = none) :
    expand combinations limit text = .literal (listed text) := by
  have hne : ¬ (trim text).isEmpty = true := by
    rw [List.isEmpty_iff]
    intro he
    rw [← listed_trim, he] at h
    exact h rfl
  have hread : SequenceForm.read? (foldKey text) = none := by
    rw [Option.eq_none_iff_forall_not_mem]
    intro s hs
    have hslash := ((read?_eq_some_iff _ s).mp hs).mem_slash
    exact h (listed_eq_nil_of_mem_foldKey hslash (by decide) (by decide))
  have hlist : expandList (trim text) = .literal (listed text) := by
    rw [expandList, listed_trim]
    split
    · next he => exact absurd he h
    · rfl
  simp only [expand, if_neg hne, foldKey_trim, hc]
  simp only [expandForm, foldKey_trim, hread, hlist]

def joined (numbers : List String) : List Char :=
  ['.'].intercalate (numbers.map String.toList)

theorem joined_cons_cons (m n : String) (ns : List String) :
    joined (m :: n :: ns) = m.toList ++ '.' :: joined (n :: ns) := by
  simp [joined, List.intercalate_cons_cons]

theorem joined_singleton (n : String) : joined [n] = n.toList := by
  simp [joined, List.intercalate]

theorem mem_joined {numbers : List String} (h : ∀ n ∈ numbers, isNumber n.toList = true)
    {c : Char} (hc : c ∈ joined numbers) : c.isDigit = true ∨ c = '.' := by
  induction numbers with
  | nil => cases hc
  | cons m ns ih =>
    have hm := ((isNumber_iff _).mp (h m List.mem_cons_self)).2
    cases ns with
    | nil =>
      rw [joined_singleton] at hc
      exact Or.inl (hm c hc)
    | cons n ns =>
      rw [joined_cons_cons] at hc
      rcases List.mem_append.mp hc with hc | hc
      · exact Or.inl (hm c hc)
      · rcases List.mem_cons.mp hc with rfl | hc
        · exact Or.inr rfl
        · exact ih (fun k hk => h k (List.mem_cons_of_mem m hk)) hc

/-- The first number stands in front, and nothing or a point behind it. -/
theorem exists_joined (n : String) (ns : List String) :
    ∃ rest, joined (n :: ns) = n.toList ++ rest ∧ ∀ c ∈ rest.head?, c = '.' := by
  cases ns with
  | nil => exact ⟨[], by simp [joined_singleton], by simp⟩
  | cons m ns => exact ⟨'.' :: joined (m :: ns), joined_cons_cons n m ns, by simp⟩

theorem listing_joined {numbers : List String} (h : ∀ n ∈ numbers, isNumber n.toList = true) :
    Listing numbers (joined numbers) := by
  induction numbers with
  | nil => exact .nil
  | cons m ns ih =>
    have hm := h m List.mem_cons_self
    cases ns with
    | nil =>
      rw [joined_singleton, ← List.append_nil m.toList]
      exact .number hm (by simp) .nil
    | cons n ns =>
      have hrest := ih fun k hk => h k (List.mem_cons_of_mem m hk)
      rw [joined_cons_cons]
      exact .number hm (by simp [isSeparator]) (.separator (by decide) hrest)

/-- Numbers are read back as they are shown, unless a combination has them as its name. -/
theorem expand_joined {combinations : List Combination} {n : String} {ns : List String}
    (limit : Nat) (h : ∀ m ∈ n :: ns, isNumber m.toList = true)
    (hc : findCombination? combinations (joined (n :: ns)) = none) :
    expand combinations limit (joined (n :: ns)) = .literal (n :: ns) := by
  have hplain {c : Char} (hm : c ∈ joined (n :: ns)) :
      foldChar c = [c] ∧ isBlank c = false := by
    rcases mem_joined h hm with hd | rfl
    · exact ⟨foldChar_of_isDigit hd, isBlank_of_isDigit hd⟩
    · exact ⟨foldChar_of_lt_capital (by decide), by decide⟩
  have hkey : foldKey (joined (n :: ns)) = joined (n :: ns) :=
    foldKey_eq_self (fun c hm => (hplain hm).1) fun c hm => (hplain hm).2
  have hlisted := (listing_joined h).listed_eq
  have hexpand := expand_of_listed limit (hlisted ▸ List.cons_ne_nil n ns) (hkey.symm ▸ hc)
  rwa [hlisted] at hexpand

end LotterySlip.Number
