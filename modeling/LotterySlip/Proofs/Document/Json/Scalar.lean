import LotterySlip.Document.Json.Printer
import LotterySlip.Document.Json.Reader
import LotterySlip.Proofs.Decimal.Text

/-! Strings and whole numbers in JSON. What is written for one is read back, and what stands behind it
is left over. -/
namespace LotterySlip.Json
open Text

theorem exists_size {n size : Nat} (h : n < size) : ∃ m, size = m + 1 :=
  Nat.exists_eq_succ_of_ne_zero (Nat.ne_of_gt (Nat.zero_lt_of_lt h))

theorem escaped?_of_mem_shortEscapes : ∀ e ∈ shortEscapes, escaped? e.2 = some e.1 ∧ e.2 ≠ 'u' := by
  decide

theorem mem_shortEscapes_of_quote : ('"', '"') ∈ shortEscapes ∧ ('\\', '\\') ∈ shortEscapes := by
  decide

theorem hexNumber?_control :
    ∀ n < 32, hexNumber? ['0', '0', hexDigit (n / 16), hexDigit n] = some n := by
  decide +kernel

theorem stringBody_quote (size : Nat) (rest : List Char) :
    stringBody (size + 1) ('"' :: rest) = some ([], rest) := by
  rw [stringBody.eq_def]
  rfl

theorem stringBody_plain {c : Char} (hquote : c ≠ '"') (hslash : c ≠ '\\') (hc : ¬ c.toNat < 0x20)
    (size : Nat) (cs : List Char) : stringBody (size + 1) (c :: cs) =
      (stringBody size cs).map fun r => (c :: r.1, r.2) := by
  rw [stringBody.eq_def]
  simp only [if_neg hquote, if_neg hslash, if_neg hc]

/-- A character is read back from what it is written as. -/
theorem stringBody_escapeChar (size : Nat) (c : Char) (cs : List Char) :
    stringBody (size + 1) (escapeChar c ++ cs) =
      (stringBody size cs).map fun r => (c :: r.1, r.2) := by
  have hquote : ('\\' : Char) ≠ '"' := by decide
  rw [escapeChar]
  cases hfind : shortEscapes.find? fun e => e.1 == c with
  | some e =>
    obtain ⟨hescaped, hu⟩ := escaped?_of_mem_shortEscapes e (List.mem_of_find?_eq_some hfind)
    have hc : e.1 = c := by simpa using List.find?_some hfind
    simp only [List.cons_append, List.nil_append]
    rw [stringBody, if_neg hquote, if_pos rfl]
    simp only [if_neg hu, hescaped, hc, Option.bind_some]
  | none =>
    have hnot (e : Char × Char) (he : e ∈ shortEscapes) : c ≠ e.1 := by
      have hne := List.find?_eq_none.mp hfind e he
      exact fun h => hne (beq_iff_eq.mpr h.symm)
    by_cases hcontrol : c.toNat < 0x20
    · have hread := hexNumber?_control c.toNat hcontrol
      have hhigh : ¬ (0xD800 ≤ c.toNat ∧ c.toNat < 0xDC00) := by omega
      have hlow : ¬ (0xDC00 ≤ c.toNat ∧ c.toNat < 0xE000) := by omega
      simp only [if_pos hcontrol, List.cons_append, List.nil_append]
      rw [stringBody, if_neg hquote, if_pos rfl]
      simp only [if_true, List.length_cons, List.take_succ_cons, List.take_zero, List.drop_succ_cons,
        List.drop_zero, hread]
      rw [if_neg (by omega)]
      simp only [Option.bind_eq_bind, Option.bind_some, if_neg hhigh, if_neg hlow, Char.ofNat_toNat]
    · simp only [if_neg hcontrol, List.cons_append, List.nil_append]
      exact stringBody_plain (hnot _ mem_shortEscapes_of_quote.1) (hnot _ mem_shortEscapes_of_quote.2)
        hcontrol size cs

theorem one_le_length_escapeChar (c : Char) : 1 ≤ (escapeChar c).length := by
  rw [escapeChar]
  split
  · exact Nat.le_add_left 1 1
  · split <;> simp

theorem length_le_flatMap_escapeChar (cs : List Char) :
    cs.length ≤ (cs.flatMap escapeChar).length := by
  induction cs with
  | nil => exact Nat.le_refl 0
  | cons c cs ih =>
    have := one_le_length_escapeChar c
    rw [List.flatMap_cons, List.length_append, List.length_cons]
    omega

theorem stringBody_flatMap (size : Nat) (cs rest : List Char) (hsize : cs.length < size) :
    stringBody size (cs.flatMap escapeChar ++ '"' :: rest) = some (cs, rest) := by
  induction cs generalizing size with
  | nil =>
    obtain ⟨size, rfl⟩ := exists_size hsize
    exact stringBody_quote size rest
  | cons c cs ih =>
    obtain ⟨size, rfl⟩ := exists_size hsize
    rw [List.flatMap_cons, List.append_assoc, stringBody_escapeChar, ih]
    · rfl
    · simpa using hsize

theorem toList_quote (s : String) :
    (quote s).toList = '"' :: (s.toList.flatMap escapeChar ++ ['"']) := by
  rw [quote, String.toList_ofList, List.cons_append]

def continuesNumber (c : Char) : Bool := c.isDigit || c == '.' || c == 'e' || c == 'E'

theorem not_continuesNumber_cons {c : Char} (h : continuesNumber c = false) (cs : List Char) :
    ∀ d ∈ (c :: cs).head?, continuesNumber d = false := by
  intro d hd
  cases hd
  exact h

theorem gather_of_lt (n : Nat) (ds : List Char) (h : Nat.ofDigitChars 10 ds n < countLimit) :
    gather n ds = (Nat.ofDigitChars 10 ds n, []) := by
  induction ds generalizing n with
  | nil => rfl
  | cons d ds ih =>
    -- More digits make a number no smaller, so that the limit is not passed on the way to it.
    rw [Nat.ofDigitChars_cons] at h ⊢
    have hle := Decimal.le_ofDigitChars ds (10 * n + digitValue d)
    have hlt : 10 * n + digitValue d < countLimit := Nat.lt_of_le_of_lt hle h
    rw [gather, if_pos hlt]
    exact ih _ h

theorem head?_numeral {n : Nat} (hn : n ≠ 0) : (numeral n).head? ≠ some '0' := by
  induction n using Nat.strongRecOn with
  | ind n ih =>
    by_cases hlt : n < 10
    · rw [numeral, Nat.toDigits_of_lt_base hlt]
      have hdigit : ∀ m < 10, m ≠ 0 → Nat.digitChar m ≠ '0' := by decide
      simpa using hdigit n hlt hn
    · have hdiv : n / 10 ≠ 0 := by omega
      rw [numeral, Nat.toDigits_of_base_le (by decide) (by omega),
        List.head?_append_of_ne_nil _ Nat.toDigits_ne_nil]
      exact ih (n / 10) (by omega) hdiv

theorem toList_toString_nat (n : Nat) : (toString n).toList = numeral n := by
  simp [toString, numeral]

theorem toList_toString_int (i : Int) :
    (toString i).toList = (if i < 0 then ['-'] else []) ++ numeral i.natAbs := by
  cases i with
  | ofNat n =>
    rw [if_neg (by simp)]
    exact toList_toString_nat n
  | negSucc n =>
    rw [if_pos (Int.negSucc_lt_zero n)]
    have htext : toString (Int.negSucc n) = "-" ++ toString (n + 1) := rfl
    rw [htext, String.toList_append, toList_toString_nat]
    rfl

theorem places?_of_not_continuesNumber {rest : List Char}
    (h : ∀ c ∈ rest.head?, continuesNumber c = false) : places? rest = some (none, rest) := by
  cases rest with
  | nil => rfl
  | cons c rest =>
    have hc := h c rfl
    have hpoint : c ≠ '.' := by
      rintro rfl
      cases hc
    rw [places?]
    rintro cs ⟨rfl, -⟩
    exact hpoint rfl

theorem exponent?_of_not_continuesNumber {rest : List Char}
    (h : ∀ c ∈ rest.head?, continuesNumber c = false) : exponent? rest = some (none, rest) := by
  cases rest with
  | nil => rfl
  | cons c rest =>
    have hc := h c rfl
    have hmark : ¬ (c = 'e' ∨ c = 'E') := by
      rintro (rfl | rfl) <;> cases hc
    simp only [exponent?, if_neg hmark]

theorem spanDigits_numeral (n : Nat) {rest : List Char}
    (h : ∀ c ∈ rest.head?, continuesNumber c = false) :
    spanDigits (numeral n ++ rest) = (numeral n, rest) := by
  refine spanDigits_append _ _ (fun c hc => isDigit_of_mem_numeral hc) fun c hc => ?_
  have hends := h c hc
  simp only [continuesNumber, Bool.or_eq_false_iff] at hends
  exact hends.1.1.1

/-- A numeral is not empty, and a zero in front stands alone. -/
theorem wellFormed_numeral (n : Nat) : ¬ ((numeral n).isEmpty = true ∨
    (numeral n).head? = some '0' ∧ 1 < (numeral n).length) := by
  rintro (he | ⟨hzero, hlen⟩)
  · exact numeral_ne_nil n (List.isEmpty_iff.mp he)
  · by_cases hn : n = 0
    · rw [hn] at hlen
      exact absurd hlen (by decide)
    · exact head?_numeral hn hzero

theorem gather_numeral {n : Nat} (h : n < countLimit) : gather 0 (numeral n) = (n, []) := by
  have hvalue : Nat.ofDigitChars 10 (numeral n) 0 = n := runNumber_numeral n
  rw [gather_of_lt 0 _ (by rw [hvalue]; exact h), hvalue]

theorem numeral_append_ne_minus (n : Nat) (rest r : List Char) : numeral n ++ rest ≠ '-' :: r := by
  intro hr
  obtain ⟨d, ds, hds⟩ := List.exists_cons_of_ne_nil (numeral_ne_nil n)
  have hd : d.isDigit = true := isDigit_of_mem_numeral (hds ▸ List.mem_cons_self)
  rw [hds, List.cons_append, List.cons.injEq] at hr
  exact ne_of_isDigit hd (by decide) hr.1

def IsWhole (i : Int) : Prop := Int64.minValue.toInt ≤ i ∧ i < countLimit

theorem IsWhole.natAbs_lt {i : Int} (h : IsWhole i) : i.natAbs < countLimit := by
  have hmin : Int64.minValue.toInt = -9223372036854775808 := by decide
  have hlimit : countLimit = 18446744073709551616 := by decide
  obtain ⟨hlow, hhigh⟩ := h
  omega

/-- A whole number is split off whole. -/
theorem number?_toString {i : Int} (hi : IsWhole i) {rest : List Char}
    (hrest : ∀ c ∈ rest.head?, continuesNumber c = false) :
    number? ((toString i).toList ++ rest) = some (.int i, rest) := by
  have hspan := spanDigits_numeral i.natAbs hrest
  have hgather := gather_numeral hi.natAbs_lt
  have hplaces := places?_of_not_continuesNumber hrest
  have hexponent := exponent?_of_not_continuesNumber hrest
  rw [toList_toString_int]
  by_cases hneg : i < 0
  · have hint : -(i.natAbs : Int) = i := by omega
    have hscalar : wholeScalar? true i.natAbs = some (.int i) := by
      rw [wholeScalar?, if_pos rfl, hint, if_pos ⟨by omega, hi.1⟩]
    rw [if_pos hneg, List.cons_append, List.nil_append, List.cons_append, number?]
    simp only [hspan, if_neg (wellFormed_numeral _), hgather, hplaces, hexponent, hscalar,
      Option.bind_eq_bind, Option.bind_some, Option.isNone_none, List.isEmpty_nil, and_self, if_true,
      Option.map_some]
  · have hint : (i.natAbs : Int) = i := by omega
    have hscalar : wholeScalar? false i.natAbs = some (.int i) := by
      rw [wholeScalar?, if_neg Bool.false_ne_true, hint]
    rw [if_neg hneg, List.nil_append, number?]
    · simp only [hspan, if_neg (wellFormed_numeral _), hgather, hplaces, hexponent, hscalar,
        Option.bind_eq_bind, Option.bind_some, Option.isNone_none, List.isEmpty_nil, and_self, if_true,
        Option.map_some]
    · exact numeral_append_ne_minus _ _

end LotterySlip.Json
