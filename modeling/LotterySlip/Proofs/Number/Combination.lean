import LotterySlip.Proofs.Config

/-! Combinations by name. Of an accepted list the names differ as they are written, and they are
looked up folded, together with the aliases. The first combination that goes by a key answers for
it. -/
namespace LotterySlip
open Text

def Combination.GoesBy (c : Combination) (key : List Char) : Prop :=
  ∃ name ∈ c.lookupKeys, foldKey name.toList = key

theorem Combination.goesBy_name (c : Combination) : c.GoesBy (foldKey c.name.toList) :=
  ⟨c.name, List.mem_cons_self, rfl⟩

namespace Number

def IsFirst (combinations : List Combination) (key : List Char) (c : Combination) : Prop :=
  ∃ front back, combinations = front ++ c :: back ∧ c.GoesBy key ∧ ∀ d ∈ front, ¬d.GoesBy key

theorem findCombination?_eq_some_iff (combinations : List Combination) (key : List Char)
    (c : Combination) : findCombination? combinations key = some c ↔ IsFirst combinations key c := by
  have hkey (d : Combination) :
      (d.lookupKeys.any fun k => foldKey k.toList == key) = true ↔ d.GoesBy key := by
    simp only [List.any_eq_true, beq_iff_eq, Combination.GoesBy]
  simp only [findCombination?, IsFirst, List.find?_eq_some_iff_append, hkey, Bool.not_eq_true',
    ← Bool.not_eq_true, ← exists_and_left, and_left_comm]

theorem exists_isFirst {combinations : List Combination} {key : List Char} {c : Combination}
    (hc : c ∈ combinations) (h : c.GoesBy key) : ∃ d, IsFirst combinations key d := by
  simp only [← findCombination?_eq_some_iff, ← Option.isSome_iff_exists, findCombination?,
    List.find?_isSome]
  obtain ⟨name, hname, hkey⟩ := h
  exact ⟨c, hc, List.any_eq_true.mpr ⟨name, hname, by simpa using hkey⟩⟩

theorem IsFirst.append {combinations : List Combination} {key : List Char} {c : Combination}
    (h : IsFirst combinations key c) (more : List Combination) :
    IsFirst (combinations ++ more) key c := by
  obtain ⟨front, back, rfl, hkey, hfront⟩ := h
  exact ⟨front, back ++ more, by rw [List.append_assoc, List.cons_append], hkey, hfront⟩

theorem IsFirst.mem {combinations : List Combination} {key : List Char} {c : Combination}
    (h : IsFirst combinations key c) : c ∈ combinations := by
  obtain ⟨front, back, rfl, -⟩ := h
  exact List.mem_append_cons_self

/-- The first combination with a key answers for every text with the key. -/
theorem expand_of_isFirst {combinations : List Combination} {text : List Char} {c : Combination}
    (hb : isBlankText text = false) (h : IsFirst combinations (foldKey text) c) (limit : Nat) :
    expand combinations limit text = expandCombination c := by
  have hne : (trim text).isEmpty = false := by rw [isEmpty_trim, hb]
  have hfind := (findCombination?_eq_some_iff _ _ _).mpr h
  simp only [expand, hne, foldKey_trim, hfind, Bool.false_eq_true, if_false]

/-- What a combination comes to carries its name. -/
theorem name_eq_of_expandCombination_eq {c d : Combination}
    (h : expandCombination c = expandCombination d) : c.name = d.name := by
  rw [expandCombination, expandCombination] at h
  split at h <;> split at h <;> simp_all

/-- Every name of an accepted list is answered by the first combination that goes by its key. This is
the combination of that name exactly if none before it goes by the key, be it by its name or by an
alias. -/
theorem expand_name {files : Files} {dir : String} {combinations : List Combination}
    (h : Config.loadCombinations files dir = .ok combinations) {front back : List Combination}
    {c : Combination} (hsplit : combinations = front ++ c :: back)
    (hname : isBlankText c.name.toList = false) (limit : Nat) :
    (∃ d, IsFirst combinations (foldKey c.name.toList) d ∧
      expand combinations limit c.name.toList = expandCombination d) ∧
    (expand combinations limit c.name.toList = expandCombination c ↔
      ∀ d ∈ front, ¬d.GoesBy (foldKey c.name.toList)) := by
  have hmem : c ∈ combinations := hsplit ▸ List.mem_append_cons_self
  obtain ⟨d, hd⟩ := exists_isFirst hmem c.goesBy_name
  refine ⟨⟨d, hd, expand_of_isFirst hname hd limit⟩, fun he e hmem hkey => ?_, fun hfront => ?_⟩
  · -- One of those before it would answer, under another name.
    obtain ⟨f, hf⟩ := exists_isFirst hmem hkey
    have hfirst := expand_of_isFirst hname (hsplit ▸ hf.append (c :: back)) limit
    have hsame : c.name = f.name := name_eq_of_expandCombination_eq (he.symm.trans hfirst)
    have hnodup := Config.nodup_of_loadCombinations h
    rw [hsplit, List.map_append, List.map_cons, List.nodup_append] at hnodup
    exact hnodup.2.2 f.name (List.mem_map_of_mem hf.mem) c.name List.mem_cons_self hsame.symm
  · exact expand_of_isFirst hname ⟨front, back, hsplit, c.goesBy_name, hfront⟩ limit

def accentedFiles : Files := fun path =>
  if path = "c/combinations.yaml" then
    .ok ("combinations:\n- name: Tài\n  generator: \x7brule: big\x7d\n" ++
      "- name: Tai\n  generator: \x7brule: small\x7d\n")
  else .error .missing

/-- The first of the two is reached by its name. -/
theorem expand_name_accented :
    Config.loadCombinations accentedFiles "c" = .ok [⟨"Tài", [], .big⟩, ⟨"Tai", [], .small⟩] ∧
      isBlankText "Tài".toList = false ∧
      expand [⟨"Tài", [], .big⟩, ⟨"Tai", [], .small⟩] 1000 "Tài".toList =
        expandCombination ⟨"Tài", [], .big⟩ := by
  have h : Config.loadCombinations accentedFiles "c" =
      .ok [⟨"Tài", [], .big⟩, ⟨"Tai", [], .small⟩] := by decide +kernel
  have hname : isBlankText "Tài".toList = false := by decide +kernel
  have hsplit : ([⟨"Tài", [], .big⟩, ⟨"Tai", [], .small⟩] : List Combination) =
      [] ++ ⟨"Tài", [], .big⟩ :: [⟨"Tai", [], .small⟩] := rfl
  exact ⟨h, hname, (expand_name h hsplit hname 1000).2.mpr fun _ hd => absurd hd List.not_mem_nil⟩

/-- The second is not: its name is answered by the first. -/
theorem expand_name_captured :
    Config.loadCombinations accentedFiles "c" = .ok [⟨"Tài", [], .big⟩, ⟨"Tai", [], .small⟩] ∧
      isBlankText "Tai".toList = false ∧
      expand [⟨"Tài", [], .big⟩, ⟨"Tai", [], .small⟩] 1000 "Tai".toList =
        expandCombination ⟨"Tài", [], .big⟩ ∧
      expandCombination ⟨"Tài", [], .big⟩ ≠ expandCombination ⟨"Tai", [], .small⟩ := by
  decide +kernel

end Number
end LotterySlip
