import Mathlib.Data.List.Infix
import LotterySlip.Proofs.Header.Resolution

/-! What a name in a header stands for. The stations that go by the name come first, and those that
have it within a name of theirs are asked only where there are none. Several stations are told apart
by what may be played, and by nothing else. -/
namespace LotterySlip
open Text

namespace Station

def GoesBy (s : Station) (key : List Char) : Prop := ∃ name ∈ s.lookupKeys, foldKey name.toList = key

instance (s : Station) (key : List Char) : Decidable (s.GoesBy key) :=
  inferInstanceAs (Decidable (∃ name ∈ s.lookupKeys, foldKey name.toList = key))

def HasWithin (s : Station) (key : List Char) : Prop :=
  ∃ name ∈ s.lookupKeys, key <:+: foldKey name.toList

instance (s : Station) (key : List Char) : Decidable (s.HasWithin key) :=
  inferInstanceAs (Decidable (∃ name ∈ s.lookupKeys, key <:+: foldKey name.toList))

/-- How a station of the catalog fits a name: by a name of its own if any station has such a name, and
else by one that has the name within. -/
def Fits (catalog : List Station) (token : List Char) (s : Station) : Prop :=
  if ∃ t ∈ catalog, t.GoesBy (foldKey token) then s.GoesBy (foldKey token)
  else s.HasWithin (foldKey token)

instance (catalog : List Station) (token : List Char) : DecidablePred (Fits catalog token) := fun s =>
  inferInstanceAs (Decidable (if ∃ t ∈ catalog, t.GoesBy (foldKey token) then
    s.GoesBy (foldKey token) else s.HasWithin (foldKey token)))

end Station

def candidates (catalog : List Station) (token : List Char) : List Station :=
  catalog.filter fun s => s.Fits catalog token

theorem mem_candidates {catalog : List Station} {token : List Char} {s : Station} :
    s ∈ candidates catalog token ↔ s ∈ catalog ∧ s.Fits catalog token := by
  rw [candidates, List.mem_filter, decide_eq_true_iff]

theorem occursIn_iff (key cs : List Char) : occursIn key cs = true ↔ key <:+: cs := by
  induction cs with
  | nil => rw [occursIn, List.isEmpty_iff, List.infix_nil]
  | cons c cs ih =>
    rw [occursIn, Bool.or_eq_true, List.isPrefixOf_iff_prefix, ih, List.infix_cons_iff]

theorem stationsWith_keyed (catalog : List Station) {test : List Char → Bool} {p : Station → Prop}
    [DecidablePred p]
    (hp : ∀ s, p s ↔ ∃ name ∈ s.lookupKeys, test (foldKey name.toList) = true) :
    stationsWith (keyed catalog) test = catalog.filter fun s => p s := by
  rw [stationsWith, keyed, List.filter_map, List.map_map]
  refine (List.map_id _).trans (List.filter_congr fun s _ => ?_)
  rw [Function.comp_apply, List.any_map, Bool.eq_iff_iff, decide_eq_true_iff, hp, List.any_eq_true]
  rfl

theorem stationsWith_goesBy (catalog : List Station) (key : List Char) :
    stationsWith (keyed catalog) (· == key) = catalog.filter fun s => s.GoesBy key :=
  stationsWith_keyed catalog fun s => by simp only [Station.GoesBy, beq_iff_eq]

theorem stationsWith_hasWithin (catalog : List Station) (key : List Char) :
    stationsWith (keyed catalog) (occursIn key) = catalog.filter fun s => s.HasWithin key :=
  stationsWith_keyed catalog fun s => by simp only [Station.HasWithin, occursIn_iff]

/-- The two searches of the catalog find what fits the name. -/
theorem candidates_eq (catalog : List Station) (token : List Char) :
    candidates catalog token =
      if stationsWith (keyed catalog) (· == foldKey token) = [] then
        stationsWith (keyed catalog) (occursIn (foldKey token))
      else stationsWith (keyed catalog) (· == foldKey token) := by
  have hnone : stationsWith (keyed catalog) (· == foldKey token) = [] ↔
      ¬ ∃ t ∈ catalog, t.GoesBy (foldKey token) := by
    simp [stationsWith_goesBy]
  by_cases h : ∃ t ∈ catalog, t.GoesBy (foldKey token)
  · rw [if_neg (fun e => hnone.mp e h), stationsWith_goesBy]
    simp only [candidates, Station.Fits, if_pos h]
  · rw [if_pos (hnone.mpr h), stationsWith_hasWithin]
    simp only [candidates, Station.Fits, if_neg h]

inductive Stands (catalog : List Station) (ids : List Int64) (token : List Char) :
    Except SlipError Station → Prop
  | only {s : Station} (h : candidates catalog token = [s]) : Stands catalog ids token (.ok s)
  | playable {s : Station} (h : 2 ≤ (candidates catalog token).length)
    (hs : (candidates catalog token).filter (isAmong ids) = [s]) : Stands catalog ids token (.ok s)
  | several (h : 2 ≤ (candidates catalog token).length)
    (hs : ∀ s, (candidates catalog token).filter (isAmong ids) ≠ [s]) :
    Stands catalog ids token (.error (.ambiguousStation (String.ofList token)
      ((candidates catalog token).map fun s => s.name)))
  | unknown (h : candidates catalog token = []) :
    Stands catalog ids token (.error (.unknownStation (String.ofList token)
      (suggest (keyed catalog) (foldKey token))))

theorem pickStation_of_filter_eq {token : List Char} {ids : List Int64} {stations : List Station}
    {s : Station} (h : 2 ≤ stations.length) (hs : stations.filter (isAmong ids) = [s]) :
    pickStation token ids stations = .ok (some s) := by
  match stations, h with
  | a :: b :: rest, _ => simp only [pickStation, hs]

theorem pickStation_of_filter_ne {token : List Char} {ids : List Int64} {stations : List Station}
    (h : 2 ≤ stations.length) (hs : ∀ s, stations.filter (isAmong ids) ≠ [s]) :
    pickStation token ids stations =
      .error (.ambiguousStation (String.ofList token) (stations.map fun s => s.name)) := by
  match stations, h with
  | a :: b :: rest, _ =>
    rw [pickStation]
    split
    · next s hf => exact absurd hf (hs s)
    · rfl
    · simp
    · simp

theorem pickStation_ne_none {token : List Char} {ids : List Int64} {stations : List Station}
    (h : stations ≠ []) : pickStation token ids stations ≠ .ok none := by
  unfold pickStation
  split
  · exact absurd rfl h
  · simp
  · split <;> simp

/-- The searches of the catalog come to one choice among what fits the name. -/
theorem resolveToken_eq (catalog : List Station) (ids : List Int64) (token : List Char) :
    resolveToken (keyed catalog) ids token =
      match pickStation token ids (candidates catalog token) with
      | .error e => .error e
      | .ok (some s) => .ok s
      | .ok none =>
        .error (.unknownStation (String.ofList token) (suggest (keyed catalog) (foldKey token))) := by
  rw [resolveToken, candidates_eq]
  by_cases h : stationsWith (keyed catalog) (· == foldKey token) = []
  · rw [if_pos h, h]
    rfl
  · rw [if_neg h]
    cases hp : pickStation token ids (stationsWith (keyed catalog) (· == foldKey token)) with
    | error e => rfl
    | ok s =>
      cases s with
      | some s => rfl
      | none => exact absurd hp (pickStation_ne_none h)

theorem Stands.resolveToken_eq {catalog : List Station} {ids : List Int64} {token : List Char}
    {result : Except SlipError Station} (h : Stands catalog ids token result) :
    resolveToken (keyed catalog) ids token = result := by
  rw [LotterySlip.resolveToken_eq]
  cases h with
  | only h => rw [h, pickStation]
  | playable h hs => rw [pickStation_of_filter_eq h hs]
  | several h hs => rw [pickStation_of_filter_ne h hs]
  | unknown h => rw [h, pickStation]

/-- Something comes of every name. -/
theorem exists_stands (catalog : List Station) (ids : List Int64) (token : List Char) :
    ∃ result, Stands catalog ids token result := by
  match hc : candidates catalog token with
  | [] => exact ⟨_, .unknown hc⟩
  | [s] => exact ⟨_, .only hc⟩
  | a :: b :: rest =>
    have htwo : 2 ≤ (candidates catalog token).length := by simp [hc]
    by_cases hs : ∃ s, (candidates catalog token).filter (isAmong ids) = [s]
    · obtain ⟨s, hs⟩ := hs
      exact ⟨_, .playable htwo hs⟩
    · exact ⟨_, .several htwo fun s h => hs ⟨s, h⟩⟩

theorem resolveToken_eq_iff (catalog : List Station) (ids : List Int64) (token : List Char)
    (result : Except SlipError Station) :
    resolveToken (keyed catalog) ids token = result ↔ Stands catalog ids token result := by
  refine ⟨fun h => ?_, Stands.resolveToken_eq⟩
  obtain ⟨result', h'⟩ := exists_stands catalog ids token
  rwa [← h, h'.resolveToken_eq]

/-- The station that a name stands for: one of the catalog that fits the name, and of all that do the
only one, or the only one that may be played. -/
structure IsMeant (catalog : List Station) (ids : List Int64) (token : List Char) (s : Station) :
    Prop where
  mem : s ∈ catalog
  fits : s.Fits catalog token
  alone : candidates catalog token = [s] ∨ (candidates catalog token).filter (isAmong ids) = [s]

theorem isMeant_iff (catalog : List Station) (ids : List Int64) (token : List Char) (s : Station) :
    IsMeant catalog ids token s ↔
      candidates catalog token = [s] ∨ (candidates catalog token).filter (isAmong ids) = [s] := by
  refine ⟨IsMeant.alone, fun h => ?_⟩
  have hs : s ∈ candidates catalog token := by
    rcases h with h | h
    · exact h ▸ List.mem_singleton_self s
    · exact List.mem_of_mem_filter (h ▸ List.mem_singleton_self s)
  exact ⟨(mem_candidates.mp hs).1, (mem_candidates.mp hs).2, h⟩

theorem resolveToken_eq_ok_iff (catalog : List Station) (ids : List Int64) (token : List Char)
    (s : Station) : resolveToken (keyed catalog) ids token = .ok s ↔ IsMeant catalog ids token s := by
  rw [resolveToken_eq_iff, isMeant_iff]
  constructor
  · intro h
    cases h with
    | only h => exact Or.inl h
    | playable h hs => exact Or.inr hs
  · rintro (h | hs)
    · exact .only h
    · match hc : candidates catalog token with
      | [] => simp [hc] at hs
      | [t] =>
        have ht : t = s := by
          rw [hc] at hs
          exact List.singleton_inj.mp ((List.filter_sublist.eq_of_length (by simp [hs])).symm.trans hs)
        exact .only (ht ▸ hc)
      | a :: b :: rest => exact .playable (by simp [hc]) hs

/-- What is meant and may be played is the only station of those that fit the name that may be. -/
theorem isMeant_and_mem_iff (catalog : List Station) (ids : List Int64) (token : List Char)
    (s : Station) : IsMeant catalog ids token s ∧ s.id ∈ ids ↔
      (candidates catalog token).filter (isAmong ids) = [s] := by
  rw [isMeant_iff]
  constructor
  · rintro ⟨h | h, hs⟩
    · have hamong : isAmong ids s = true := List.contains_iff_mem.mpr hs
      rw [h, List.filter_singleton, hamong, cond_true]
    · exact h
  · intro h
    have hs : s ∈ (candidates catalog token).filter (isAmong ids) := h ▸ List.mem_singleton_self s
    exact ⟨Or.inr h, List.contains_iff_mem.mp (List.mem_filter.mp hs).2⟩

theorem resolveAccessible_eq_ok_iff (catalog : List Station) (ids : List Int64) (token : List Char)
    (s : Station) : resolveAccessible (keyed catalog) ids token = .ok s ↔
      IsMeant catalog ids token s ∧ s.id ∈ ids := by
  rw [← resolveToken_eq_ok_iff, resolveAccessible]
  cases resolveToken (keyed catalog) ids token with
  | error e => simp
  | ok t =>
    simp only [isAmong, List.contains_iff_mem, Except.ok.injEq]
    split
    · next ht =>
      rw [Except.ok.injEq]
      exact ⟨fun h => ⟨h, h ▸ ht⟩, And.left⟩
    · next ht =>
      simp only [reduceCtorEq, false_iff]
      rintro ⟨rfl, h⟩
      exact ht h

theorem resolveAccessible_of_several {catalog : List Station} {ids : List Int64} {token : List Char}
    (h : 2 ≤ (candidates catalog token).length)
    (hs : ∀ s, (candidates catalog token).filter (isAmong ids) ≠ [s]) :
    resolveAccessible (keyed catalog) ids token = .error (.ambiguousStation (String.ofList token)
      ((candidates catalog token).map fun s => s.name)) := by
  rw [resolveAccessible, (Stands.several h hs).resolveToken_eq]

/-- The first name that is not understood ends the reading. -/
theorem resolveTokens_append_error {index : List KeyedStation} {ids : List Int64}
    {front back : List (List Char)} {token : List Char} {e : SlipError}
    (hfront : ∀ t ∈ front, ∃ s, resolveAccessible index ids t = .ok s)
    (h : resolveAccessible index ids token = .error e) :
    resolveTokens index ids (front ++ token :: back) = .error e := by
  induction front with
  | nil => rw [List.nil_append, resolveTokens, h]
  | cons t front ih =>
    rw [List.forall_mem_cons] at hfront
    obtain ⟨⟨s, hs⟩, hrest⟩ := hfront
    rw [List.cons_append, resolveTokens, hs, ih hrest]
    rfl

theorem exists_resolveTokens_error {index : List KeyedStation} {ids : List Int64}
    {tokens : List (List Char)} {token : List Char} {e : SlipError} (hmem : token ∈ tokens)
    (h : resolveAccessible index ids token = .error e) :
    ∃ e', resolveTokens index ids tokens = .error e' := by
  cases hr : resolveTokens index ids tokens with
  | error e' => exact ⟨e', rfl⟩
  | ok stations =>
    obtain ⟨s, hs⟩ := (exists_resolveTokens_iff index ids tokens).mp ⟨stations, hr⟩ token hmem
    rw [h] at hs
    cases hs

theorem resolveHeader_of_resolveTokens_error {catalog accessible : List Station} {header : List Char}
    {e : SlipError} (hq : Quota.read? catalog header = none)
    (hne : headerTokens header ≠ [])
    (h : resolveTokens (keyed catalog) (accessible.map fun s => s.id) (headerTokens header) = .error e) :
    resolveHeader catalog accessible header = .error e := by
  rw [resolveHeader_eq, hq]
  simp only [resolveNamed, List.isEmpty_iff, hne, if_false, h]

/-- A header of names chooses exactly the stations that its names stand for, each of them once, and
tells which come again. A name that fits several stations of which not exactly one may be played is
refused, with all that it fits unless a name before it is refused. -/
theorem resolveHeader_names (catalog accessible : List Station) :
    (∀ header kept repeated, resolveHeader catalog accessible header = .ok (.named kept repeated) ↔
      Quota.read? catalog header = none ∧ headerTokens header ≠ [] ∧
        ∃ stations, List.Forall₂ (fun token s =>
            IsMeant catalog (accessible.map fun a => a.id) token s ∧ s.id ∈ accessible.map fun a => a.id)
          (headerTokens header) stations ∧
        kept = firstsOf stations ∧ repeated = (repeatsOf stations).map fun s => s.name) ∧
    ∀ header, Quota.read? catalog header = none → ∀ token ∈ headerTokens header,
      2 ≤ (candidates catalog token).length →
      (∀ s, (candidates catalog token).filter (isAmong (accessible.map fun a => a.id)) ≠ [s]) →
      (∃ e, resolveHeader catalog accessible header = .error e) ∧
        ∀ front back, headerTokens header = front ++ token :: back →
          (∀ t ∈ front, ∃ s, IsMeant catalog (accessible.map fun a => a.id) t s ∧
            s.id ∈ accessible.map fun a => a.id) →
          resolveHeader catalog accessible header = .error (.ambiguousStation (String.ofList token)
            ((candidates catalog token).map fun s => s.name)) := by
  constructor
  · intro header kept repeated
    rw [resolveHeader_eq_named_iff]
    simp only [resolveTokens_eq_ok_iff, resolveAccessible_eq_ok_iff, collapse_nil, Prod.mk.injEq,
      eq_comm (a := firstsOf _), eq_comm (a := List.map _ _)]
  · intro header hq token hmem htwo hs
    have hne : headerTokens header ≠ [] := List.ne_nil_of_mem hmem
    have hrefused := resolveAccessible_of_several htwo hs
    constructor
    · obtain ⟨e, he⟩ := exists_resolveTokens_error hmem hrefused
      exact ⟨e, resolveHeader_of_resolveTokens_error hq hne he⟩
    · intro front back hsplit hfront
      refine resolveHeader_of_resolveTokens_error hq hne ?_
      rw [hsplit]
      refine resolveTokens_append_error (fun t ht => ?_) hrefused
      obtain ⟨s, h⟩ := hfront t ht
      exact ⟨s, (resolveAccessible_eq_ok_iff _ _ _ _).mpr h⟩

/-- Two central stations have the name within theirs. With both of them it is refused, and with one of
them it stands for that one, which goes by another name as well. -/
theorem resolveHeader_names_an :
    let daNang : Station := ⟨10, "Đà Nẵng", Sample.central, ["dng"]⟩
    let khanhHoa : Station := ⟨11, "Khánh Hòa", Sample.central, ["kh"]⟩
    resolveHeader [daNang, khanhHoa] [daNang, khanhHoa] "kh, an".toList =
        .error (.ambiguousStation "an" ["Đà Nẵng", "Khánh Hòa"]) ∧
      resolveHeader [daNang, khanhHoa] [khanhHoa] "an, kh".toList =
        .ok (.named [khanhHoa] ["Khánh Hòa"]) := by
  intro daNang khanhHoa
  have hfits : candidates [daNang, khanhHoa] "an".toList = [daNang, khanhHoa] := by decide +kernel
  have hkh : candidates [daNang, khanhHoa] "kh".toList = [khanhHoa] := by decide +kernel
  constructor
  · obtain ⟨-, hrefused⟩ := resolveHeader_names [daNang, khanhHoa] [daNang, khanhHoa]
    have hq : Quota.read? [daNang, khanhHoa] "kh, an".toList = none := by decide +kernel
    have htokens : headerTokens "kh, an".toList = ["kh".toList, "an".toList] := by decide +kernel
    have htwo : 2 ≤ (candidates [daNang, khanhHoa] "an".toList).length := by
      rw [hfits]
      decide
    have hboth : ∀ s, (candidates [daNang, khanhHoa] "an".toList).filter (isAmong [10, 11]) ≠ [s] := by
      intro s h
      have hlength := congrArg List.length h
      rw [hfits, List.length_singleton] at hlength
      exact absurd hlength (by decide)
    have hfront : ∀ t ∈ ["kh".toList],
        ∃ s, IsMeant [daNang, khanhHoa] [10, 11] t s ∧ s.id ∈ [10, 11] := by
      rw [List.forall_mem_singleton]
      exact ⟨khanhHoa, (isMeant_iff _ _ _ _).mpr (Or.inl hkh), by decide⟩
    have hnames := (hrefused _ hq _ (htokens ▸ by decide) htwo hboth).2 _ _ htokens hfront
    rw [hnames, hfits]
    rfl
  · obtain ⟨hnamed, -⟩ := resolveHeader_names [daNang, khanhHoa] [khanhHoa]
    have htokens : headerTokens "an, kh".toList = ["an".toList, "kh".toList] := by decide +kernel
    have han : IsMeant [daNang, khanhHoa] [11] "an".toList khanhHoa :=
      (isMeant_iff _ _ _ _).mpr (Or.inr (by rw [hfits]; decide))
    have hkh' : IsMeant [daNang, khanhHoa] [11] "kh".toList khanhHoa :=
      (isMeant_iff _ _ _ _).mpr (Or.inl hkh)
    have hq : Quota.read? [daNang, khanhHoa] "an, kh".toList = none := by decide +kernel
    refine (hnamed _ _ _).mpr ⟨hq, ?_, [khanhHoa, khanhHoa], ?_, by decide, by decide⟩ <;> rw [htokens]
    · exact List.cons_ne_nil _ _
    · exact .cons ⟨han, by decide⟩ (.cons ⟨hkh', by decide⟩ .nil)

end LotterySlip
