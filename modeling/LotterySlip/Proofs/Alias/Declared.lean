import LotterySlip.Proofs.Alias.Longest
import LotterySlip.Proofs.Alias.Written
import LotterySlip.Proofs.Config
import LotterySlip.Proofs.Text.NormalForm

/-! Aliases written as they are declared. The key of an alias has single spaces between its words, and
a line is searched as it stands; so an alias is of use if its folded text is its key, and hardly
otherwise. -/
namespace LotterySlip
open Text

namespace Text

def inked (cs : List Char) : Nat := cs.countP fun c => !isBlank c

theorem inked_append (as bs : List Char) : inked (as ++ bs) = inked as + inked bs :=
  List.countP_append

theorem inked_eq_length {cs : List Char} (h : ∀ c ∈ cs, isBlank c = false) : inked cs = cs.length :=
  List.countP_eq_length.mpr fun c hc => by simp [h c hc]

theorem inked_eq_zero_iff (cs : List Char) : inked cs = 0 ↔ isBlankText cs = true := by
  simp [inked, isBlankText_iff, List.countP_eq_zero]

theorem inked_cons_of_isBlank {c : Char} (h : isBlank c = true) (cs : List Char) :
    inked (c :: cs) = inked cs := by
  rw [inked, List.countP_cons_of_neg (by simp [h]), ← inked]

/-- The words of a text are all of it but the blanks. -/
theorem inked_unwords_words (cs : List Char) : inked (unwords (words cs)) = inked cs := by
  induction hn : cs.length using Nat.strong_induction_on generalizing cs with
  | _ n ih =>
    subst hn
    cases cs with
    | nil => rfl
    | cons c cs =>
      by_cases hc : isBlank c = true
      · have hw : words (c :: cs) = words cs := pieces_cons isBlank c cs hc
        rw [hw, ih cs.length (Nat.lt_succ_self _) cs rfl, inked_cons_of_isBlank hc]
      rcases words_cons_cases c cs (Bool.not_eq_true _ ▸ hc) with hw | ⟨word, b, rest, he, -, hb, hw⟩
      · rw [hw, unwords_singleton]
      · have hlt : rest.length < (c :: cs).length := by
          rw [he, List.length_append, List.length_cons]
          omega
        have hrest := ih rest.length hlt rest rfl
        rw [hw, he, inked_append, inked_cons_of_isBlank hb, ← hrest]
        cases hws : words rest with
        | nil => rw [unwords_singleton]; rfl
        | cons v ws => rw [unwords_cons_cons, inked_append, inked_cons_of_isBlank (by decide)]

theorem foldKey_eq_unwords_trim (cs : List Char) :
    foldKey cs = unwords (words (fold (trim cs))) := by
  rw [words_fold_trim, ← foldKey]

theorem inked_foldKey (cs : List Char) : inked (foldKey cs) = inked (fold (trim cs)) := by
  rw [foldKey_eq_unwords_trim, inked_unwords_words]

theorem length_foldKey_le_trim (cs : List Char) : (foldKey cs).length ≤ (fold (trim cs)).length := by
  rw [foldKey_eq_unwords_trim]
  exact length_unwords_words_le _

/-- What stands before the key in the folded text is blank. -/
theorem isBlankText_of_append_foldKey {cs lead : List Char}
    (h : fold (trim cs) = lead ++ foldKey cs) : isBlankText lead = true := by
  have hinked := inked_foldKey cs
  rw [h, inked_append] at hinked
  exact (inked_eq_zero_iff lead).mp (by omega)

end Text

/-- An alias that is found wherever it is written between a number and an amount: its folded text ends
with its key, and blanks before the key, which only a mark in front can keep there, make no number
run on into an earlier place of the key. -/
structure Usable (label : List Char) : Prop where
  ne_nil : foldKey label ≠ []
  ends : ∃ lead, fold (trim label) = lead ++ foldKey label ∧ (lead = [] ∨
    ∀ digits, (∀ c ∈ digits, c.isDigit = true) →
      (digits ++ lead).length < (foldKey label).length →
        ¬foldKey label <+: digits ++ lead ++ foldKey label)

/-- Digits before an amount make it a longer one. -/
theorem SpellsAmount.append_left {amount digits : List Char} (h : SpellsAmount amount)
    (hd : ∀ c ∈ digits, c.isDigit = true) : SpellsAmount (digits ++ amount) := by
  have hnumber {ds : List Char} (hds : isNumber ds = true) : isNumber (digits ++ ds) = true := by
    obtain ⟨hne, hds⟩ := (isNumber_iff ds).mp hds
    refine (isNumber_iff _).mpr ⟨List.append_ne_nil_of_right_ne_nil _ hne, fun c hc => ?_⟩
    exact (List.mem_append.mp hc).elim (hd c) (hds c)
  cases h with
  | whole hds => exact .whole (hnumber hds)
  | places hds hes =>
    rw [← List.append_assoc]
    exact .places (hnumber hds) hes

/-- A text that stands at the beginning of itself with other characters in front has no characters but
those. -/
theorem forall_of_prefix_append {p : Char → Bool} {front key : List Char} (hne : front ≠ [])
    (hfront : ∀ c ∈ front, p c = true) (h : key <+: front ++ key) : ∀ c ∈ key, p c = true := by
  have hmany (m : Nat) : key <+: (List.replicate m front).flatten ++ key := by
    induction m with
    | zero => exact List.prefix_rfl
    | succ m ih =>
      rw [List.replicate_succ, List.flatten_cons, List.append_assoc]
      exact h.trans ((List.prefix_append_right_inj front).mpr ih)
  have hlong : key.length ≤ (List.replicate key.length front).flatten.length := by
    rw [List.length_flatten, List.map_replicate, List.sum_replicate, smul_eq_mul]
    exact Nat.le_mul_of_pos_right _ (List.length_pos_of_ne_nil hne)
  have hkey := List.prefix_of_prefix_length_le (hmany key.length) (List.prefix_append _ _) hlong
  intro c hc
  obtain ⟨l, hl, hcl⟩ := List.mem_flatten.mp (hkey.subset hc)
  rw [List.eq_of_mem_replicate hl] at hcl
  exact hfront c hcl

section Line

variable {label numbers amount : List Char}

theorem trim_number_append (hn : isNumber numbers = true) (ha : SpellsAmount amount) :
    trim (numbers ++ trim label ++ amount) = numbers ++ trim label ++ amount := by
  obtain ⟨hne, hdigits⟩ := (isNumber_iff numbers).mp hn
  exact trim_written _ hne
    (fun c hc => isBlank_of_isDigit (hdigits c (List.mem_of_mem_head? hc))) ha

theorem fold_number_append (hn : isNumber numbers = true) (ha : SpellsAmount amount) :
    fold (trim (numbers ++ trim label ++ amount)) = numbers ++ fold (trim label) ++ amount := by
  rw [trim_number_append hn ha, fold_append, fold_append,
    fold_eq_self fun c hc => foldChar_of_isDigit (((isNumber_iff numbers).mp hn).2 c hc),
    fold_eq_self fun c hc => foldChar_of_isFigure (ha.isFigure c hc)]

/-- A key does not begin within blanks. -/
theorem not_prefix_of_isBlank {key rest : List Char} {c : Char} (hne : key ≠ [])
    (hkey : ∀ d ∈ key.head?, isBlank d = false) (hc : isBlank c = true) : ¬key <+: c :: rest := by
  intro h
  obtain ⟨k, ks, rfl⟩ := List.exists_cons_of_ne_nil hne
  obtain ⟨rfl, -⟩ := List.cons_prefix_cons.mp h
  rw [hkey k rfl] at hc
  cases hc

/-- A place of the key before the one behind the blanks, reaching over it, begins in the number. -/
theorem prefix_drop_of_overlap {key lead : List Char} {j : Nat} (hne : key ≠ [])
    (hkey : ∀ d ∈ key.head?, isBlank d = false) (hlead : isBlankText lead = true)
    (hj : j < (numbers ++ lead).length) (hover : (numbers ++ lead).length < j + key.length)
    (h : key <+: ((numbers ++ lead) ++ (key ++ amount)).drop j) : j < numbers.length ∧
      (numbers.drop j ++ lead).length < key.length ∧ key <+: numbers.drop j ++ lead ++ key := by
  have hlt : j < numbers.length := by
    by_contra hge
    have hk : j - numbers.length < lead.length := by
      rw [List.length_append] at hj
      omega
    have hblank := (isBlankText_iff lead).mp hlead _ (List.getElem_mem hk)
    rw [List.drop_append_of_le_length hj.le, List.drop_append, List.drop_eq_nil_of_le (by omega),
      List.nil_append, List.drop_eq_getElem_cons hk, List.cons_append] at h
    exact not_prefix_of_isBlank hne hkey hblank h
  have hdrop : ((numbers ++ lead) ++ (key ++ amount)).drop j =
      (numbers.drop j ++ lead ++ key) ++ amount := by
    rw [List.append_assoc, List.drop_append_of_le_length hlt.le]
    simp
  have hlength : (numbers.drop j ++ lead).length < key.length := by
    simp only [List.length_append, List.length_drop] at hover ⊢
    omega
  refine ⟨hlt, hlength, List.prefix_of_prefix_length_le (hdrop ▸ h) (List.prefix_append _ _) ?_⟩
  rw [List.length_append]
  exact Nat.le_add_left _ _

/-- The key stands behind the number, unless the number runs on into an earlier place of it; then it
stands there. -/
theorem Usable.exists_place (h : Usable label) (hn : isNumber numbers = true)
    (ha : SpellsAmount amount) : ∃ i amount', Counts (foldKey label)
        (numbers ++ fold (trim label) ++ amount) i ∧
      StandsAt (foldKey label) (numbers ++ fold (trim label) ++ amount) i amount' := by
  obtain ⟨lead, hlead, hfree⟩ := h.ends
  have hdigits := ((isNumber_iff numbers).mp hn).2
  have hblank := isBlankText_of_append_foldKey hlead
  have hhead : ∀ c ∈ (foldKey label).head?, isBlank c = false :=
    fun c hc => isBlank_of_mem_head?_foldKey hc
  have htext : numbers ++ fold (trim label) ++ amount =
      (numbers ++ lead) ++ (foldKey label ++ amount) := by
    rw [hlead]
    simp
  rw [htext]
  have hstands : StandsAt (foldKey label) ((numbers ++ lead) ++ (foldKey label ++ amount))
      (numbers ++ lead).length amount :=
    ⟨ha, [], rfl, by rw [List.drop_left, List.append_nil]⟩
  by_cases hcounts : Counts (foldKey label) ((numbers ++ lead) ++ (foldKey label ++ amount))
      (numbers ++ lead).length
  · exact ⟨_, amount, hcounts, hstands⟩
  -- Otherwise an earlier place counts that reaches over this one, and it begins in the number.
  obtain ⟨j, hj, hcj, hover⟩ := exists_of_not_counts hstands.prefix_drop hcounts
  obtain ⟨hlt, hlength, hbegins⟩ :=
    prefix_drop_of_overlap h.ne_nil hhead hblank hj hover hcj.prefix_drop
  have hrun : ∀ c ∈ numbers.drop j, c.isDigit = true :=
    fun c hc => hdigits c (List.mem_of_mem_drop hc)
  rcases hfree with rfl | hfree
  · rw [List.append_nil] at hbegins
    have hne : numbers.drop j ≠ [] := by
      rw [Ne, List.drop_eq_nil_iff]
      omega
    have hkey := forall_of_prefix_append hne hrun hbegins
    obtain ⟨more, hmore⟩ := hbegins
    have hmoredigits : ∀ c ∈ more, c.isDigit = true := by
      intro c hc
      have hmem : c ∈ numbers.drop j ++ foldKey label := hmore ▸ List.mem_append_right _ hc
      exact (List.mem_append.mp hmem).elim (hrun c) (hkey c)
    refine ⟨j, more ++ amount, hcj, ha.append_left hmoredigits, [], rfl, ?_⟩
    rw [List.append_nil, List.append_nil, List.drop_append_of_le_length hlt.le, ← List.append_assoc,
      ← hmore, List.append_assoc]
  · exact absurd hbegins (hfree _ hrun hlength)

end Line

def AlwaysFound (betTypes : List BetType) (label : List Char) : Prop :=
  ∀ numbers amount, isNumber numbers = true → SpellsAmount amount →
    ∃ hit, (AliasIndex.ofBetTypes betTypes).find? (numbers ++ trim label ++ amount) = some hit ∧
      byteLength (foldKey label) ≤ byteLength hit.group.key

def IsLongest (betTypes : List BetType) (key : List Char) : Prop :=
  ∀ key' ∈ AliasIndex.declaredKeys betTypes, key' ≠ key → byteLength key' < byteLength key

variable {betTypes : List BetType} {label numbers : List Char}

/-- Where a key stands that is declared, something as long is found. -/
theorem AliasIndex.exists_find?_of_counts {key line amount : List Char} {i : Nat}
    (hkey : key ∈ declaredKeys betTypes) (hne : key ≠ []) (hcounts : Counts key (fold (trim line)) i)
    (hstands : StandsAt key (fold (trim line)) i amount) :
    ∃ hit, (ofBetTypes betTypes).find? line = some hit ∧
      byteLength key ≤ byteLength hit.group.key := by
  cases hfind : (ofBetTypes betTypes).find? line with
  | none =>
    have hnone := (find?_eq_iff_longestMatch none).mp hfind
    exact absurd ⟨hcounts, hstands⟩ (hnone key hkey hne i amount)
  | some hit =>
    obtain ⟨-, -, hlongest⟩ := (find?_eq_iff_longestMatch (some hit)).mp hfind
    refine ⟨hit, rfl, ?_⟩
    rcases hlongest key hkey hne i amount ⟨hcounts, hstands⟩ with rfl | hbehind
    · exact le_rfl
    · exact hbehind.byteLength_le

theorem Usable.alwaysFound (h : Usable label)
    (hkey : foldKey label ∈ AliasIndex.declaredKeys betTypes) : AlwaysFound betTypes label := by
  intro numbers amount hn ha
  obtain ⟨i, amount', hcounts, hstands⟩ := h.exists_place hn ha
  rw [← fold_number_append hn ha] at hcounts hstands
  exact AliasIndex.exists_find?_of_counts hkey h.ne_nil hcounts hstands

namespace AlwaysFound

variable (h : AlwaysFound betTypes label) (hlongest : IsLongest betTypes (foldKey label))
include h hlongest

/-- What is found for the longest alias is the alias itself. -/
theorem exists_place {amount : List Char} (hn : isNumber numbers = true) (ha : SpellsAmount amount) :
    foldKey label ≠ [] ∧ ∃ i amount',
      Counts (foldKey label) (numbers ++ fold (trim label) ++ amount) i ∧
        StandsAt (foldKey label) (numbers ++ fold (trim label) ++ amount) i amount' := by
  obtain ⟨hit, hfind, hle⟩ := h numbers amount hn ha
  obtain ⟨hg, ⟨i, hat⟩, -⟩ := AliasIndex.find?_eq_some_iff.mp hfind
  have hself : hit.group.key = foldKey label := by
    by_contra hne
    have := hlongest _ (AliasIndex.key_mem_declaredKeys hg) hne
    omega
  have hcounts := hat.counts
  have hstands := hat.stands
  rw [fold_number_append hn ha, hself] at hcounts hstands
  exact ⟨hself ▸ AliasIndex.key_ne_nil hg, i, hit.amount, hcounts, hstands⟩

theorem ne_nil : foldKey label ≠ [] := by
  have hn : isNumber ['1'] = true := by decide
  exact (h.exists_place hlongest hn (.whole hn)).1

end AlwaysFound

/-- The place of a key before a single figure: what is between the key and the figure belongs to the
amount. -/
theorem StandsAt.exists_split {key front amount : List Char} {i : Nat}
    (h : StandsAt key (front ++ ['1']) i amount) :
    ∃ before more, front = before ++ key ++ more ∧ before.length = i ∧
      ∀ c ∈ more, isBlank c = false := by
  obtain ⟨blanks, hblanks, he⟩ := h.exists_append
  obtain ⟨more, c, hamount, -⟩ := h.spells.exists_concat
  have hnone : blanks = [] := by
    by_contra hne
    have hlast := congrArg List.getLast? he
    rw [List.getLast?_concat, List.getLast?_append_of_ne_nil _ hne] at hlast
    have hblank := (isBlankText_iff blanks).mp hblanks '1' (List.mem_of_getLast? hlast.symm)
    exact absurd hblank (by decide)
  rw [hnone, List.append_nil, hamount, ← List.append_assoc] at he
  refine ⟨(front ++ ['1']).take i, more, (List.append_inj' he rfl).1, ?_, fun d hd => ?_⟩
  · rw [List.length_take, Nat.min_eq_left h.lt_length.le]
  · exact isBlank_of_isFigure (h.spells.isFigure d (hamount ▸ List.mem_append_left _ hd))

namespace AlwaysFound

variable (h : AlwaysFound betTypes label) (hlongest : IsLongest betTypes (foldKey label))
include h hlongest

/-- The text before a single figure ends with the key and digits that are too many for the number. -/
theorem exists_split (hn : isNumber numbers = true) : ∃ before more,
    numbers ++ fold (trim label) = before ++ foldKey label ++ more ∧
      numbers.length = inked before + more.length ∧
        Counts (foldKey label) (numbers ++ fold (trim label) ++ ['1']) before.length := by
  obtain ⟨-, i, amount, hcounts, hstands⟩ :=
    h.exists_place hlongest hn (.whole (by decide : isNumber ['1'] = true))
  obtain ⟨before, more, hsplit, rfl, hmore⟩ := hstands.exists_split
  refine ⟨before, more, hsplit, ?_, hcounts⟩
  have hinked := congrArg inked hsplit
  have hdigits := ((isNumber_iff numbers).mp hn).2
  rw [inked_append, inked_append, inked_append, inked_foldKey, inked_eq_length hmore,
    inked_eq_length fun c hc => isBlank_of_isDigit (hdigits c hc)] at hinked
  omega

theorem suffix_fold_trim : foldKey label <:+ fold (trim label) := by
  obtain ⟨d, hd, hhead⟩ : ∃ d : Char, d.isDigit = true ∧ (foldKey label).head? ≠ some d := by
    by_cases hzero : (foldKey label).head? = some '0'
    · exact ⟨'1', by decide, by simp [hzero]⟩
    · exact ⟨'0', by decide, hzero⟩
  have hn : isNumber [d] = true := (isNumber_iff [d]).mpr ⟨List.cons_ne_nil d [], by simpa using hd⟩
  obtain ⟨before, more, hsplit, hcount, -⟩ := h.exists_split hlongest hn
  cases more with
  | nil =>
    rw [List.append_nil] at hsplit
    exact List.suffix_of_suffix_length_le (hsplit ▸ List.suffix_append before _)
      (List.suffix_append [d] _) (length_foldKey_le_trim label)
  | cons c more =>
    cases before with
    | nil =>
      obtain ⟨k, ks, hk⟩ := List.exists_cons_of_ne_nil (h.ne_nil hlongest)
      rw [hk, List.nil_append, List.cons_append, List.cons_append, List.cons.injEq] at hsplit
      rw [hk, hsplit.1] at hhead
      exact absurd rfl hhead
    | cons b before =>
      rw [List.cons_append, List.cons_append, List.cons_append, List.cons.injEq] at hsplit
      obtain ⟨rfl, -⟩ := hsplit
      have hinked : inked (d :: before) = inked before + 1 :=
        List.countP_cons_of_pos (by simp [isBlank_of_isDigit hd])
      simp only [hinked, List.length_cons, List.length_nil] at hcount
      omega

theorem not_prefix_append {lead digits : List Char}
    (hlead : fold (trim label) = lead ++ foldKey label) (hne : lead ≠ [])
    (hd : ∀ c ∈ digits, c.isDigit = true)
    (hlength : (digits ++ lead).length < (foldKey label).length) :
    ¬foldKey label <+: digits ++ lead ++ foldKey label := by
  intro hbegins
  have hblank := isBlankText_of_append_foldKey hlead
  have hdigits : digits ≠ [] := by
    rintro rfl
    obtain ⟨b, bs, rfl⟩ := List.exists_cons_of_ne_nil hne
    rw [List.nil_append, List.cons_append] at hbegins
    exact not_prefix_of_isBlank (h.ne_nil hlongest) (fun c hc => isBlank_of_mem_head?_foldKey hc)
      ((isBlankText_iff _).mp hblank b List.mem_cons_self) hbegins
  obtain ⟨before, more, hsplit, hcount, hcounts⟩ :=
    h.exists_split hlongest ((isNumber_iff digits).mpr ⟨hdigits, hd⟩)
  rw [hlead, ← List.append_assoc] at hsplit hcounts
  have hfirst : Counts (foldKey label) (digits ++ lead ++ foldKey label ++ ['1']) 0 := by
    rw [counts_iff]
    exact ⟨hbegins.trans (List.prefix_append _ _), fun j hj => absurd hj (Nat.not_lt_zero j)⟩
  have hapart := ((counts_iff _ _ _).mp hcounts).2 0
  have hlengths := congrArg List.length hsplit
  simp only [List.length_append] at hlengths hlength
  have hpos := List.length_pos_of_ne_nil hne
  cases before with
  | nil =>
    have hzero : inked ([] : List Char) = 0 := rfl
    rw [hzero] at hcount
    rw [List.length_nil] at hlengths
    omega
  | cons b before =>
    have := hapart (Nat.succ_pos _) hfirst
    omega

theorem usable : Usable label := by
  obtain ⟨lead, hlead⟩ := h.suffix_fold_trim hlongest
  refine ⟨h.ne_nil hlongest, lead, hlead.symm, or_iff_not_imp_left.mpr fun hne => ?_⟩
  exact fun digits hd hlength => h.not_prefix_append hlongest hlead.symm hne hd hlength

end AlwaysFound

/-- A bet type is among those of some group exactly if one of its aliases does not fold to nothing. -/
theorem AliasIndex.exists_group_mem_iff {i : Nat} {b : BetType} (hb : betTypes[i]? = some b) :
    (∃ g ∈ (ofBetTypes betTypes).groups, i ∈ g.betTypes) ↔
      ∃ a ∈ b.aliases, foldKey a.toList ≠ [] := by
  constructor
  · rintro ⟨g, hg, hi⟩
    obtain ⟨b', hb', hdeclares⟩ := (mem_betTypes_iff hg i).mp hi
    obtain rfl : b' = b := Option.some.inj (hb'.symm.trans hb)
    obtain ⟨a, ha, hkey⟩ := (b'.declares_iff g.key).mp hdeclares
    exact ⟨a, ha, hkey ▸ key_ne_nil hg⟩
  · rintro ⟨a, ha, hne⟩
    have hdeclared := (mem_declaredKeys_iff betTypes (foldKey a.toList)).mpr
      ⟨b, List.mem_of_getElem? hb, a, ha, rfl⟩
    obtain ⟨g, hg, hkey⟩ := (exists_group_iff betTypes _).mpr ⟨hne, hdeclared⟩
    have hdeclares := (b.declares_iff g.key).mpr ⟨a, ha, hkey.symm⟩
    exact ⟨g, hg, (mem_betTypes_iff hg i).mpr ⟨b, hb, hdeclares⟩⟩

/-- A usable alias is always found where it is written, or one that is as long; and of the longest
aliases none but the usable are. A bet type is on offer under some alias exactly if one of its aliases
has a key. -/
theorem AliasIndex.find?_declared (betTypes : List BetType) :
    (∀ b ∈ betTypes, ∀ a ∈ b.aliases, Usable a.toList → AlwaysFound betTypes a.toList) ∧
    (∀ b ∈ betTypes, ∀ a ∈ b.aliases, IsLongest betTypes (foldKey a.toList) →
      (AlwaysFound betTypes a.toList ↔ Usable a.toList)) ∧
    ∀ i b, betTypes[i]? = some b → ((∃ g ∈ (ofBetTypes betTypes).groups, i ∈ g.betTypes) ↔
      ∃ a ∈ b.aliases, foldKey a.toList ≠ []) := by
  have hfound : ∀ b ∈ betTypes, ∀ a ∈ b.aliases, Usable a.toList →
      AlwaysFound betTypes a.toList := fun b hb a ha husable =>
    husable.alwaysFound ((mem_declaredKeys_iff betTypes _).mpr ⟨b, hb, a, ha, rfl⟩)
  refine ⟨hfound, fun b hb a ha hlongest => ?_, fun i b hb => exists_group_mem_iff hb⟩
  exact ⟨fun h => h.usable hlongest, hfound b hb a ha⟩

/-- An alias of two words with a blank in front, the last of several. -/
theorem AliasIndex.find?_declared_two_words :
    let betTypes : List BetType := [⟨2, "Bao lô", ["b", " Bao lô"], [], false, none, none⟩]
    Usable " Bao lô".toList ∧ IsLongest betTypes (foldKey " Bao lô".toList) ∧
      AlwaysFound betTypes " Bao lô".toList ∧
      (∃ g ∈ (ofBetTypes betTypes).groups, 0 ∈ g.betTypes) ∧
      ∃ hit, (ofBetTypes betTypes).find? "12Bao lô2.5".toList = some hit ∧
        byteLength (foldKey " Bao lô".toList) ≤ byteLength hit.group.key := by
  intro betTypes
  have husable : Usable " Bao lô".toList := ⟨by decide +kernel, [], by decide +kernel, Or.inl rfl⟩
  have hlongest : IsLongest betTypes (foldKey " Bao lô".toList) := by
    rw [IsLongest]
    decide +kernel
  obtain ⟨-, hiff, hgroup⟩ := find?_declared betTypes
  have hfound := (hiff _ List.mem_cons_self " Bao lô" (by decide) hlongest).mpr husable
  have hline : "12".toList ++ trim " Bao lô".toList ++ "2.5".toList = "12Bao lô2.5".toList := by
    decide +kernel
  have hamount : SpellsAmount "2.5".toList :=
    .places (by decide : isNumber ['2'] = true) (by decide : isNumber ['5'] = true)
  have hit := hfound "12".toList "2.5".toList (by decide) hamount
  rw [hline] at hit
  exact ⟨husable, hlongest, hfound,
    (hgroup 0 _ rfl).mpr ⟨"b", List.mem_cons_self, by decide +kernel⟩, hit⟩

def spacedFiles : Files := fun path =>
  if path = "c/bet_types.yaml" then
    .ok ("bet_types:\n- id: 1\n  name: Apart\n  aliases: [d  d]\n" ++
      "- id: 2\n  name: Mark\n  aliases: [\u0301]\n")
  else .error .missing

/-- Neither of them is found, and the second is in no group. -/
theorem AliasIndex.find?_declared_apart : ∃ betTypes,
    Config.loadBetTypes spacedFiles "c" = .ok betTypes ∧
    betTypes.map BetType.aliases = [["d  d"], ["\u0301"]] ∧
    isBlankText "d  d".toList = false ∧ isBlankText "\u0301".toList = false ∧
    (ofBetTypes betTypes).find? ("12".toList ++ trim "d  d".toList ++ "5".toList) = none ∧
    (ofBetTypes betTypes).find? ("12".toList ++ trim "\u0301".toList ++ "5".toList) = none ∧
    ¬∃ g ∈ (ofBetTypes betTypes).groups, 1 ∈ g.betTypes := by
  refine ⟨[⟨1, "Apart", ["d  d"], [], false, none, none⟩,
    ⟨2, "Mark", ["\u0301"], [], false, none, none⟩], ?_⟩
  decide +kernel

end LotterySlip
