import LotterySlip.Proofs.Header.Resolution
import LotterySlip.Proofs.Isolation

/-! Lines that begin with a header. Blanks divide a line into a header and a bet, and the last blank
before which stations are named counts. -/
namespace LotterySlip
open Text

def dividesAt (cs : List Char) (i : Nat) : Bool :=
  cs[i]?.any isBlank && (!isBlankText (cs.take i) && !isBlankText (cs.drop i))

theorem dividesAt_iff (cs : List Char) (i : Nat) : dividesAt cs i = true ↔
    (∃ c, cs[i]? = some c ∧ isBlank c = true) ∧
      isBlankText (cs.take i) = false ∧ isBlankText (cs.drop i) = false := by
  simp only [dividesAt, Bool.and_eq_true, Option.any_eq_true, Bool.not_eq_true']

theorem lt_length_of_dividesAt {cs : List Char} {i : Nat} (h : dividesAt cs i = true) :
    i < cs.length := by
  obtain ⟨⟨c, hc, -⟩, -⟩ := (dividesAt_iff cs i).mp h
  obtain ⟨hi, -⟩ := List.getElem?_eq_some_iff.mp hc
  exact hi

theorem divisionsFrom_eq (front cs : List Char) : divisionsFrom front cs =
    ((List.range cs.length).reverse.filter fun i => cs[i]?.any isBlank).map fun i =>
      (front.reverse ++ cs.take i, cs.drop i) := by
  induction cs generalizing front with
  | nil => rfl
  | cons c cs ih =>
    -- The place before the first character is tried last, and all others are one further on.
    have hplaces : (List.range (c :: cs).length).reverse =
        (List.range cs.length).reverse.map (· + 1) ++ [0] := by
      rw [List.length_cons, List.range_succ_eq_map, List.reverse_cons, List.map_reverse]
    rw [divisionsFrom, ih, hplaces, List.filter_append, List.map_append, List.filter_map, List.map_map]
    congr 1
    · simp [Function.comp_def]
    · by_cases hc : isBlank c = true <;> simp [hc]

theorem divisions_eq (line : List Char) : divisions line =
    ((List.range line.length).reverse.filter (dividesAt line)).map fun i =>
      (trim (line.take i), trim (line.drop i)) := by
  rw [divisions, divisionsFrom_eq, List.map_map, List.filter_map, List.filter_filter]
  simp only [Function.comp_def, isEmpty_trim, List.reverse_nil, List.nil_append]
  congr 1
  refine List.filter_congr fun i _ => ?_
  rw [dividesAt, Bool.and_comm]

/-- Counting down, the first number that passes a test is the last of them. -/
theorem of_find?_reverse_range {p : Nat → Bool} {n i : Nat}
    (h : (List.range n).reverse.find? p = some i) :
    p i = true ∧ ∀ j, i < j → j < n → p j = false := by
  induction n with
  | zero => cases h
  | succ n ih =>
    rw [List.range_succ, List.reverse_append, List.reverse_singleton, List.singleton_append,
      List.find?_cons] at h
    cases hn : p n with
    | true =>
      simp only [hn, Option.some.injEq] at h
      subst h
      exact ⟨hn, fun j hj hj' => absurd hj' (by omega)⟩
    | false =>
      simp only [hn] at h
      obtain ⟨hp, hlast⟩ := ih h
      refine ⟨hp, fun j hj hj' => ?_⟩
      rcases Nat.lt_succ_iff_lt_or_eq.mp hj' with hlt | rfl
      · exact hlast j hj hlt
      · exact hn

inductive SlipError.IsUnrecognized : SlipError → Prop
  | missing : IsUnrecognized .missingStationHeader
  | unknown (token : String) (suggestion : Option String) :
    IsUnrecognized (.unknownStation token suggestion)
  | ambiguous (token : String) (candidates : List String) :
    IsUnrecognized (.ambiguousStation token candidates)

theorem SlipError.isUnrecognized_iff (e : SlipError) :
    e.IsUnrecognized ↔ e.isAccessFailure = false ∧ e ≠ .emptySubmission := by
  constructor
  · rintro (_ | _ | _)
    · exact ⟨rfl, SlipError.noConfusion⟩
    · exact ⟨rfl, SlipError.noConfusion⟩
    · exact ⟨rfl, SlipError.noConfusion⟩
  · rintro ⟨ha, he⟩
    cases e with
    | emptySubmission => exact absurd rfl he
    | missingStationHeader => exact .missing
    | unknownStation token suggestion => exact .unknown token suggestion
    | ambiguousStation token candidates => exact .ambiguous token candidates
    | stationAccessDenied _ => cases ha
    | insufficientRegionalAccess _ _ _ => cases ha
    | unknownRegion _ => cases ha

theorem pickStation_ne_emptySubmission (token : List Char) (ids : List Int64)
    (candidates : List Station) : pickStation token ids candidates ≠ .error .emptySubmission := by
  fun_cases pickStation token ids candidates <;> simp

theorem resolveToken_ne_emptySubmission (index : List KeyedStation) (ids : List Int64)
    (token : List Char) : resolveToken index ids token ≠ .error .emptySubmission := by
  intro h
  rw [resolveToken] at h
  split at h
  · next he =>
    cases h
    exact pickStation_ne_emptySubmission _ _ _ he
  · cases h
  · split at h
    · next he =>
      cases h
      exact pickStation_ne_emptySubmission _ _ _ he
    · cases h
    · cases h

theorem resolveAccessible_ne_emptySubmission (index : List KeyedStation) (ids : List Int64)
    (token : List Char) : resolveAccessible index ids token ≠ .error .emptySubmission := by
  intro h
  rw [resolveAccessible] at h
  split at h
  · next he =>
    cases h
    exact resolveToken_ne_emptySubmission _ _ _ he
  · split at h <;> cases h

theorem resolveTokens_ne_emptySubmission (index : List KeyedStation) (ids : List Int64)
    (tokens : List (List Char)) : resolveTokens index ids tokens ≠ .error .emptySubmission := by
  induction tokens with
  | nil => simp [resolveTokens]
  | cons token tokens ih =>
    intro h
    rw [resolveTokens] at h
    split at h
    · next he =>
      cases h
      exact resolveAccessible_ne_emptySubmission _ _ _ he
    · cases ht : resolveTokens index ids tokens with
      | error e =>
        rw [ht] at h
        cases h
        exact ih ht
      | ok ss =>
        rw [ht] at h
        cases h

theorem Quota.resolve_ne_emptySubmission (q : Quota) (catalog accessible : List Station) :
    q.resolve catalog accessible ≠ .error .emptySubmission := by
  intro h
  rw [resolve] at h
  split at h
  · cases h
  · split at h <;> cases h

theorem resolveNamed_ne_emptySubmission (catalog accessible : List Station) (header : List Char) :
    resolveNamed catalog accessible header ≠ .error .emptySubmission := by
  intro h
  rw [resolveNamed] at h
  split at h
  · cases h
  · split at h
    · next he =>
      cases h
      exact resolveTokens_ne_emptySubmission _ _ _ he
    · cases h

/-- Nothing but the want of any line makes a slip empty. -/
theorem resolveHeader_ne_emptySubmission (catalog accessible : List Station)
    (header : List Char) : resolveHeader catalog accessible header ≠ .error .emptySubmission := by
  rw [resolveHeader_eq]
  cases Quota.read? catalog header with
  | some q => exact q.resolve_ne_emptySubmission catalog accessible
  | none => exact resolveNamed_ne_emptySubmission catalog accessible header

def Unrecognized (catalog accessible : List Station) (header : List Char) : Prop :=
  ∃ e, resolveHeader catalog accessible header = .error e ∧ e.IsUnrecognized

def recognizes (catalog accessible : List Station) (header : List Char) : Bool :=
  match resolveHeader catalog accessible header with
  | .ok _ => true
  | .error e => e.isAccessFailure

theorem recognizes_trim (catalog accessible : List Station) (header : List Char) :
    recognizes catalog accessible (trim header) = recognizes catalog accessible header := by
  rw [recognizes, resolveHeader_trim, ← recognizes]

theorem unrecognized_iff (catalog accessible : List Station) (header : List Char) :
    Unrecognized catalog accessible header ↔ recognizes catalog accessible header = false := by
  rw [Unrecognized, recognizes]
  cases h : resolveHeader catalog accessible header with
  | ok s => simp
  | error e =>
    have hne : e ≠ .emptySubmission := by
      rintro rfl
      exact resolveHeader_ne_emptySubmission catalog accessible header h
    simp [SlipError.isUnrecognized_iff, hne]

theorem resolveDivisions_eq (catalog accessible : List Station)
    (ds : List (List Char × List Char)) : resolveDivisions catalog accessible ds =
      match ds.find? fun d => recognizes catalog accessible d.1 with
      | some d => (resolveHeader catalog accessible d.1).map fun s => (s, d.2)
      | none => .error .missingStationHeader := by
  induction ds with
  | nil => rfl
  | cons d ds ih =>
    rw [resolveDivisions, List.find?_cons]
    cases h : resolveHeader catalog accessible d.1 with
    | ok s => simp [recognizes, h, Except.map]
    | error e =>
      cases he : e.isAccessFailure with
      | true => simp [recognizes, h, he, Except.map]
      | false => simp [recognizes, h, he, ih]

/-- The header of a line is what stands before a place, as neither the whole line nor what stands
before a later one is a header. -/
structure EndsHeader (catalog accessible : List Station) (line : List Char) (i : Nat) : Prop where
  divides : dividesAt line i = true
  whole : Unrecognized catalog accessible line
  longer : ∀ j, i < j → dividesAt line j = true → Unrecognized catalog accessible (line.take j)

inductive Divided (catalog accessible : List Station) (line : List Char) :
    Except SlipError (Selection × List Char) → Prop
  | header {s : Selection} (h : resolveHeader catalog accessible line = .ok s) :
    Divided catalog accessible line (.ok (s, []))
  | denied {e : SlipError} (h : resolveHeader catalog accessible line = .error e)
    (he : e.isAccessFailure = true) : Divided catalog accessible line (.error e)
  | bet {i : Nat} {s : Selection} (hi : EndsHeader catalog accessible line i)
    (h : resolveHeader catalog accessible (line.take i) = .ok s) :
    Divided catalog accessible line (.ok (s, trim (line.drop i)))
  | betDenied {i : Nat} {e : SlipError} (hi : EndsHeader catalog accessible line i)
    (h : resolveHeader catalog accessible (line.take i) = .error e)
    (he : e.isAccessFailure = true) : Divided catalog accessible line (.error e)
  | unrecognized (h : Unrecognized catalog accessible line)
    (hall : ∀ j, dividesAt line j = true → Unrecognized catalog accessible (line.take j)) :
    Divided catalog accessible line (.error .missingStationHeader)

theorem resolveImplicit_eq (catalog accessible : List Station) (line : List Char) :
    resolveImplicit catalog accessible line =
      match (List.range (trim line).length).reverse.find? fun i =>
        dividesAt (trim line) i && recognizes catalog accessible ((trim line).take i) with
      | some i => (resolveHeader catalog accessible ((trim line).take i)).map fun s =>
        (s, trim ((trim line).drop i))
      | none => .error .missingStationHeader := by
  rw [resolveImplicit, resolveDivisions_eq, divisions_eq, List.find?_map, List.find?_filter]
  simp only [Function.comp_def, recognizes_trim, Bool.decide_and, Bool.decide_eq_true]
  cases (List.range (trim line).length).reverse.find? fun i =>
    dividesAt (trim line) i && recognizes catalog accessible ((trim line).take i) with
  | none => rfl
  | some i => simp only [Option.map_some, resolveHeader_trim]

theorem divided_resolveImplicit {catalog accessible : List Station} {line : List Char}
    (h : Unrecognized catalog accessible (trim line)) :
    Divided catalog accessible (trim line) (resolveImplicit catalog accessible line) := by
  rw [resolveImplicit_eq]
  cases hfind : (List.range (trim line).length).reverse.find? fun i =>
      dividesAt (trim line) i && recognizes catalog accessible ((trim line).take i) with
  | none =>
    refine .unrecognized h fun j hj => ?_
    have hnot := List.find?_eq_none.mp hfind j
      (List.mem_reverse.mpr (List.mem_range.mpr (lt_length_of_dividesAt hj)))
    simpa [hj, unrecognized_iff] using hnot
  | some i =>
    obtain ⟨hi, hlast⟩ := of_find?_reverse_range hfind
    rw [Bool.and_eq_true] at hi
    have hend : EndsHeader catalog accessible (trim line) i := by
      refine ⟨hi.1, h, fun j hj hd => ?_⟩
      have hnot := hlast j hj (lt_length_of_dividesAt hd)
      simpa [hd, unrecognized_iff] using hnot
    have hi' := hi.2
    simp only [recognizes] at hi' ⊢
    cases hr : resolveHeader catalog accessible ((trim line).take i) with
    | ok s => exact .bet hend hr
    | error e =>
      rw [hr] at hi'
      exact .betDenied hend hr hi'

theorem divided_resolveSingle (catalog accessible : List Station) (line : List Char) :
    Divided catalog accessible (trim line) (resolveSingle catalog accessible line) := by
  rw [resolveSingle]
  cases h : resolveHeader catalog accessible line with
  | ok s => exact .header (by rw [resolveHeader_trim, h])
  | error e =>
    have htrim : resolveHeader catalog accessible (trim line) = .error e := by
      rw [resolveHeader_trim, h]
    change Divided _ _ _ (if e.isAccessFailure = true then _ else _)
    by_cases he : e.isAccessFailure = true
    · rw [if_pos he]
      exact .denied htrim he
    · rw [if_neg he]
      apply divided_resolveImplicit
      rw [unrecognized_iff, recognizes, htrim]
      exact Bool.eq_false_of_not_eq_true he

end LotterySlip
