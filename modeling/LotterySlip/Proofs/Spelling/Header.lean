import LotterySlip.Proofs.Header.Grammar
import LotterySlip.Proofs.Header.Token
import LotterySlip.Proofs.Text.Spelling

/-! Headers spelled otherwise. The sentence and the names are read in folded text, where the spelling
makes no difference. The short form is read in the text as it stands: it may be written large or
small, but an accent or a barred d makes it a name. -/
namespace LotterySlip
open Text

namespace Quota

/-- What a short form asks for is told by its folded text. -/
theorem IsShort.eq_of_fold_eq {q q' : Quota} {header header' : List Char} (h : q.IsShort header)
    (h' : q'.IsShort header') (he : fold (trim header') = fold (trim header)) : q' = q := by
  obtain ⟨digits, mark, hfold, hc, hr⟩ := h.exists_fold
  obtain ⟨digits', mark', hfold', hc', hr'⟩ := h'.exists_fold
  -- The digits of the folded text end at the d, so it determines the count and the mark.
  have hspan {ds : List Char} {n : Nat} (m : String) (hds : Counts ds n) :
      spanDigits (ds ++ 'd' :: m.toList) = (ds, 'd' :: m.toList) :=
    spanDigits_append ds _ ((isNumber_iff ds).mp hds.isNumber).2 fun c hcd => by
      obtain rfl : 'd' = c := by simpa using hcd
      decide
  have hparts : (digits', 'd' :: mark'.toList) = (digits, 'd' :: mark.toList) := by
    rw [← hspan mark' hc', ← hspan mark hc, ← hfold', ← hfold, he]
  obtain ⟨rfl, hmark⟩ := Prod.mk.inj hparts
  obtain rfl : mark' = mark := String.toList_inj.mp (List.cons.inj hmark).2
  have hcount : q'.count = q.count := hc'.runNumber.symm.trans hc.runNumber
  have hregion : q'.region = q.region := by
    rw [← regionOfMark?_eq_some_iff] at hr hr'
    exact Option.some.inj (hr'.symm.trans hr)
  cases q
  cases q'
  exact congrArg₂ Quota.mk hcount hregion

theorem IsShort.toNat_lt_of_mem {q : Quota} {header : List Char} (h : q.IsShort header) :
    ∀ c ∈ trim header, c.toNat < 128 := by
  obtain ⟨digits, letters, mark, ht, hc, hr, hl⟩ := h
  intro c hm
  rw [ht, List.mem_append] at hm
  rcases hm with hm | hm
  · have := (isDigit_iff c).mp (((isNumber_iff _).mp hc.isNumber).2 c hm)
    omega
  · exact toNat_lt_of_asciiLower_mem (mem_shortLetters hr _ (hl ▸ List.mem_map_of_mem hm))

/-- A letter does not become a digit. -/
theorem asciiLower_of_isDigit {c : Char} (h : (asciiLower c).isDigit = true) : asciiLower c = c := by
  by_cases hc : 'A' ≤ c ∧ c ≤ 'Z'
  · have hcodes : ∀ k < 26, (asciiLower (Char.ofNat (65 + k))).isDigit = false := by decide +kernel
    have hl : 65 ≤ c.toNat := hc.1
    have hu : c.toNat ≤ 90 := hc.2
    have hfalse := hcodes (c.toNat - 65) (by omega)
    rw [Nat.add_sub_cancel' hl, Char.ofNat_toNat, h] at hfalse
    cases hfalse
  · rw [asciiLower, if_neg hc]

/-- A text that folds to a short form and has no accented letters is a short form. -/
theorem IsShort.of_fold_eq {q : Quota} {header header' : List Char} (h : q.IsShort header)
    (he : fold (trim header') = fold (trim header)) (hlt : ∀ c ∈ trim header', c.toNat < 128) :
    q.IsShort header' := by
  -- Such a text folds letter by letter, so its letters can be read off the folded text.
  have hfolds : ∀ c ∈ trim header', foldChar c = [asciiLower c] := by
    intro c hm
    have hc : c.toNat < 0xC0 := (hlt c hm).trans (by decide)
    rw [foldChar_of_lt hc, lower_eq_asciiLower hc]
  obtain ⟨digits, mark, hfold, hc, hr⟩ := h.exists_fold
  have hlower : (trim header').map asciiLower = digits ++ 'd' :: mark.toList := by
    rw [← hfold, ← he, fold, List.flatMap_congr hfolds, ← List.map_eq_flatMap]
  obtain ⟨front, letters, ht, hfront, hletters⟩ := List.map_eq_append_iff.mp hlower
  have hdigits : front.map asciiLower = front := by
    refine (List.map_congr_left fun c hm => ?_).trans (List.map_id _)
    apply asciiLower_of_isDigit
    exact ((isNumber_iff _).mp hc.isNumber).2 _ (hfront ▸ List.mem_map_of_mem hm)
  rw [hdigits] at hfront
  exact ⟨digits, letters, mark, hfront ▸ ht, hc, hr, hletters⟩

/-- What folds like a short form is one exactly if it is written without accents. -/
theorem IsShort.exists_iff_of_fold_eq {q : Quota} {header header' : List Char} (h : q.IsShort header)
    (he : fold (trim header') = fold (trim header)) :
    (∃ q' : Quota, q'.IsShort header') ↔ ∀ c ∈ trim header', c.toNat < 128 :=
  ⟨fun ⟨_, h'⟩ => h'.toNat_lt_of_mem, fun hlt => ⟨q, h.of_fold_eq he hlt⟩⟩

theorem readShort?_eq_none_iff (header : List Char) :
    readShort? header = none ↔ ¬ ∃ q : Quota, q.IsShort header := by
  simp only [← readShort?_eq_some_iff, ← Option.isSome_iff_exists, Option.not_isSome_iff_eq_none]

theorem readSentence?_of_fold_eq (catalog : List Station) {header header' : List Char}
    (he : fold header' = fold header) :
    readSentence? catalog header' = readSentence? catalog header := by
  rw [readSentence?, he, ← readSentence?]

end Quota

/-- A piece in front that is not cut goes to the first piece of what follows. -/
theorem splitOnP_append_of_forall_not {p : Char → Bool} {front : List Char}
    (h : ∀ c ∈ front, p c = false) (cs : List Char) :
    (front ++ cs).splitOnP p = (cs.splitOnP p).modifyHead (front ++ ·) := by
  induction front with
  | nil => cases hs : cs.splitOnP p <;> simp [hs]
  | cons c front ih =>
    obtain ⟨piece, pieces, hs⟩ := List.exists_cons_of_ne_nil (List.splitOnP_ne_nil p cs)
    rw [List.cons_append, List.splitOnP_cons_eq_if_modifyHead, if_neg (by simp [h]),
      ih fun d hd => h d (List.mem_cons_of_mem c hd), hs]
    rfl

theorem forall₂_modifyHead {α β : Type} {r : α → β → Prop} {f : α → α} {g : β → β}
    (hfg : ∀ a b, r a b → r (f a) (g b)) {l : List α} {l' : List β} (h : List.Forall₂ r l l') :
    List.Forall₂ r (l.modifyHead f) (l'.modifyHead g) := by
  cases h with
  | nil => exact .nil
  | cons hr hrest => exact .cons (hfg _ _ hr) hrest

theorem not_isNameEnd_of_isLetter {c : Char} (h : isLetter c = true) : isNameEnd c = false := by
  rw [← Bool.not_eq_true, isNameEnd_iff]
  rintro (rfl | rfl) <;> exact absurd h (by decide +kernel)

theorem not_isNameEnd_of_isMark {c : Char} (h : isMark c = true) : isNameEnd c = false := by
  rw [← Bool.not_eq_true, isNameEnd_iff]
  rintro (rfl | rfl) <;> exact absurd h (by decide +kernel)

namespace Text.Respelled

theorem forall₂_splitOnP {l l' : List Char} (h : Respelled l l') :
    List.Forall₂ Respelled (l.splitOnP isNameEnd) (l'.splitOnP isNameEnd) := by
  induction h with
  | nil => exact .cons .nil .nil
  | keep c _ ih =>
    rw [List.splitOnP_cons_eq_if_modifyHead, List.splitOnP_cons_eq_if_modifyHead]
    split
    · exact .cons .nil ih
    · exact forall₂_modifyHead (fun _ _ hr => .keep c hr) ih
  | @vary c d marks l l' hc hmarks _ ih =>
    have hfront : ∀ e ∈ [c], isNameEnd e = false := by
      simpa using not_isNameEnd_of_isLetter hc.left
    have hfront' : ∀ e ∈ d :: marks, isNameEnd e = false := by
      rw [List.forall_mem_cons]
      exact ⟨not_isNameEnd_of_isLetter hc.right, fun m hm => not_isNameEnd_of_isMark (hmarks m hm)⟩
    rw [← List.singleton_append, ← List.cons_append, splitOnP_append_of_forall_not hfront,
      splitOnP_append_of_forall_not hfront']
    exact forall₂_modifyHead (fun _ _ hrel => .vary hc hmarks hrel) ih

/-- The names of the two headers are the same, each spelled otherwise. -/
theorem forall₂_headerTokens {header header' : List Char} (h : Respelled header header') :
    List.Forall₂ Respelled (headerTokens header) (headerTokens header') := by
  have hpieces : List.Forall₂ Respelled ((header.splitOnP isNameEnd).map Text.trim)
      ((header'.splitOnP isNameEnd).map Text.trim) := by
    rw [List.forall₂_map_left_iff, List.forall₂_map_right_iff]
    exact h.forall₂_splitOnP.imp fun _ _ hr => hr.trim
  rw [headerTokens_eq, headerTokens_eq]
  refine List.rel_filter (fun _ _ hr => ?_) hpieces
  simp [hr.eq_nil_iff]

end Text.Respelled

inductive SlipError.Alike : SlipError → SlipError → Prop
  | same (e : SlipError) : SlipError.Alike e e
  | unknown {token token' : List Char} (suggestion : Option String) : Respelled token token' →
      SlipError.Alike (.unknownStation (String.ofList token) suggestion)
        (.unknownStation (String.ofList token') suggestion)
  | ambiguous {token token' : List Char} (candidates : List String) : Respelled token token' →
      SlipError.Alike (.ambiguousStation (String.ofList token) candidates)
        (.ambiguousStation (String.ofList token') candidates)

inductive AnsweredAlike {α : Type} : Except SlipError α → Except SlipError α → Prop
  | ok (a : α) : AnsweredAlike (.ok a) (.ok a)
  | error {e e' : SlipError} : e.Alike e' → AnsweredAlike (.error e) (.error e')

theorem AnsweredAlike.refl {α : Type} (x : Except SlipError α) : AnsweredAlike x x := by
  cases x with
  | ok a => exact .ok a
  | error e => exact .error (.same e)

section Names

variable (catalog : List Station) (ids : List Int64) {token token' : List Char}

theorem candidates_of_respelled (h : Respelled token token') :
    candidates catalog token' = candidates catalog token := by
  rw [candidates_eq, candidates_eq, h.foldKey_eq]

theorem resolveToken_of_respelled (h : Respelled token token') :
    AnsweredAlike (resolveToken (keyed catalog) ids token)
      (resolveToken (keyed catalog) ids token') := by
  obtain ⟨result, hresult⟩ := exists_stands catalog ids token
  have hc := candidates_of_respelled catalog h
  rw [hresult.resolveToken_eq]
  cases hresult with
  | only hs =>
    rw [(Stands.only (hc.trans hs)).resolveToken_eq]
    exact .ok _
  | playable htwo hs =>
    rw [← hc] at htwo hs
    rw [(Stands.playable htwo hs).resolveToken_eq]
    exact .ok _
  | several htwo hs =>
    rw [← hc] at htwo hs ⊢
    rw [(Stands.several htwo hs).resolveToken_eq]
    exact .error (.ambiguous _ h)
  | unknown hs =>
    rw [← hc] at hs
    rw [(Stands.unknown hs).resolveToken_eq, h.foldKey_eq]
    exact .error (.unknown _ h)

theorem resolveAccessible_of_respelled (h : Respelled token token') :
    AnsweredAlike (resolveAccessible (keyed catalog) ids token)
      (resolveAccessible (keyed catalog) ids token') := by
  have htoken := resolveToken_of_respelled catalog ids h
  rw [resolveAccessible, resolveAccessible]
  generalize resolveToken (keyed catalog) ids token = x,
    resolveToken (keyed catalog) ids token' = y at htoken ⊢
  cases htoken with
  | ok s => exact .refl _
  | error he => exact .error he

theorem resolveTokens_of_respelled {tokens tokens' : List (List Char)}
    (h : List.Forall₂ Respelled tokens tokens') :
    AnsweredAlike (resolveTokens (keyed catalog) ids tokens)
      (resolveTokens (keyed catalog) ids tokens') := by
  induction h with
  | nil => exact .refl _
  | @cons token token' tokens tokens' ht _ ih =>
    have hfirst := resolveAccessible_of_respelled catalog ids ht
    rw [resolveTokens, resolveTokens]
    generalize resolveAccessible (keyed catalog) ids token = x,
      resolveAccessible (keyed catalog) ids token' = y at hfirst ⊢
    cases hfirst with
    | error he => exact .error he
    | ok s =>
      generalize resolveTokens (keyed catalog) ids tokens = xs,
        resolveTokens (keyed catalog) ids tokens' = ys at ih ⊢
      cases ih with
      | ok ss => exact .refl _
      | error he => exact .error he

end Names

theorem resolveNamed_of_respelled (catalog accessible : List Station) {header header' : List Char}
    (h : Respelled header header') :
    AnsweredAlike (resolveNamed catalog accessible header)
      (resolveNamed catalog accessible header') := by
  have htokens := h.forall₂_headerTokens
  rw [resolveNamed, resolveNamed]
  generalize headerTokens header = tokens, headerTokens header' = tokens' at htokens ⊢
  have hstations := resolveTokens_of_respelled catalog (accessible.map fun s => s.id) htokens
  have hempty : tokens'.isEmpty = tokens.isEmpty := by cases htokens <;> rfl
  rw [hempty]
  split
  · exact .refl _
  · generalize resolveTokens (keyed catalog) (accessible.map fun s => s.id) tokens = x,
      resolveTokens (keyed catalog) (accessible.map fun s => s.id) tokens' = y at hstations ⊢
    cases hstations with
    | ok ss => exact .refl _
    | error he => exact .error he

inductive SameAnswer : Except SlipError Selection → Except SlipError Selection → Prop
  | ok (s : Selection) : SameAnswer (.ok s) (.ok s)
  | error {e e' : SlipError} : e'.code = e.code → SameAnswer (.error e) (.error e')

theorem SameAnswer.refl (x : Except SlipError Selection) : SameAnswer x x := by
  cases x with
  | ok s => exact .ok s
  | error e => exact .error rfl

theorem SameAnswer.symm {x y : Except SlipError Selection} (h : SameAnswer x y) : SameAnswer y x := by
  cases h with
  | ok s => exact .ok s
  | error he => exact .error he.symm

theorem SlipError.Alike.code_eq {e e' : SlipError} (h : e.Alike e') : e'.code = e.code := by
  cases h <;> rfl

theorem AnsweredAlike.sameAnswer {x y : Except SlipError Selection} (h : AnsweredAlike x y) :
    SameAnswer x y := by
  cases h with
  | ok s => exact .ok s
  | error he => exact .error he.code_eq

inductive SlipError.OfNames : SlipError → Prop
  | missing : SlipError.OfNames .missingStationHeader
  | unknown (token : String) (suggestion : Option String) :
      SlipError.OfNames (.unknownStation token suggestion)
  | ambiguous (token : String) (candidates : List String) :
      SlipError.OfNames (.ambiguousStation token candidates)
  | denied (station : String) : SlipError.OfNames (.stationAccessDenied station)

theorem ofNames_of_resolveAccessible {catalog : List Station} {ids : List Int64} {token : List Char}
    {e : SlipError} (h : resolveAccessible (keyed catalog) ids token = .error e) : e.OfNames := by
  obtain ⟨result, hresult⟩ := exists_stands catalog ids token
  rw [resolveAccessible, hresult.resolveToken_eq] at h
  cases hresult with
  | only _ | playable _ _ =>
    simp only at h
    split at h
    · cases h
    · cases h
      exact .denied _
  | several _ _ =>
    cases h
    exact .ambiguous _ _
  | unknown _ =>
    cases h
    exact .unknown _ _

theorem ofNames_of_resolveTokens {catalog : List Station} {ids : List Int64}
    {tokens : List (List Char)} {e : SlipError}
    (h : resolveTokens (keyed catalog) ids tokens = .error e) : e.OfNames := by
  induction tokens with
  | nil => cases h
  | cons token tokens ih =>
    rw [resolveTokens] at h
    split at h
    · next e' he =>
      cases h
      exact ofNames_of_resolveAccessible he
    · cases hr : resolveTokens (keyed catalog) ids tokens with
      | ok ss =>
        rw [hr] at h
        cases h
      | error e' =>
        rw [hr] at h ih
        cases h
        exact ih rfl

theorem ofNames_of_resolveNamed {catalog accessible : List Station} {header : List Char}
    {e : SlipError} (h : resolveNamed catalog accessible header = .error e) : e.OfNames := by
  rw [resolveNamed] at h
  split at h
  · cases h
    exact .missing
  · split at h
    · next e' he =>
      cases h
      exact ofNames_of_resolveTokens he
    · cases h

theorem Quota.code_ne_of_ofNames {q : Quota} {catalog accessible : List Station} {e e' : SlipError}
    (h : q.resolve catalog accessible = .error e) (he : e'.OfNames) : e'.code ≠ e.code := by
  rw [Quota.resolve] at h
  split at h
  · cases h
    cases he <;> simp [SlipError.code]
  · split at h
    · cases h
      cases he <;> simp [SlipError.code]
    · cases h

/-- A quota and names never come to the same: they choose in different ways and are refused for
different reasons. -/
theorem Quota.not_sameAnswer_named (q : Quota) (catalog accessible : List Station)
    (header : List Char) :
    ¬ SameAnswer (q.resolve catalog accessible) (resolveNamed catalog accessible header) := by
  intro h
  cases hn : resolveNamed catalog accessible header with
  | ok s =>
    obtain ⟨-, stations, -, hs⟩ := (resolveNamed_eq_ok_iff _ _ _ _).mp hn
    rw [hn, hs] at h
    generalize hq : q.resolve catalog accessible = x at h
    cases h
    obtain ⟨-, -, hregional⟩ := (q.resolve_eq_ok_iff _ _ _).mp hq
    cases hregional
  | error e =>
    have hnames := ofNames_of_resolveNamed hn
    rw [hn] at h
    generalize hq : q.resolve catalog accessible = x at h
    cases h with
    | error hcode => exact Quota.code_ne_of_ofNames hq hnames hcode

/-- A text that folds like a short form and is none is read as names. -/
theorem Quota.IsShort.not_sameAnswer {q : Quota} {header header' : List Char} (h : q.IsShort header)
    (he : fold header' = fold header) (hno : ¬ ∃ q' : Quota, q'.IsShort header')
    (catalog accessible : List Station) :
    ¬ SameAnswer (resolveHeader catalog accessible header)
      (resolveHeader catalog accessible header') := by
  have hsentence : Quota.readSentence? catalog header' = none := by
    rw [Quota.readSentence?_of_fold_eq catalog he, Option.eq_none_iff_forall_ne_some]
    exact fun q' hq' => ((Quota.readSentence?_eq_some_iff catalog header q').mp hq').not_isShort h
  have hnone : Quota.read? catalog header' = none := by
    rw [Quota.read?, (Quota.readShort?_eq_none_iff header').mpr hno, hsentence, Option.none_or]
  rw [resolveHeader_of_quota (Quota.read?_of_isShort catalog h), resolveHeader_eq, hnone]
  exact q.not_sameAnswer_named catalog accessible header'

theorem resolveHeader_of_not_isShort (catalog accessible : List Station) {header header' : List Char}
    (hr : Respelled header header') (hno : ¬ ∃ q : Quota, q.IsShort header)
    (hno' : ¬ ∃ q : Quota, q.IsShort header') :
    SameAnswer (resolveHeader catalog accessible header)
      (resolveHeader catalog accessible header') := by
  rw [resolveHeader_eq, resolveHeader_eq, Quota.read?, Quota.read?,
    (Quota.readShort?_eq_none_iff header).mpr hno, (Quota.readShort?_eq_none_iff header').mpr hno',
    Option.none_or, Option.none_or, Quota.readSentence?_of_fold_eq catalog hr.fold_eq]
  split
  · exact .refl _
  · exact (resolveNamed_of_respelled catalog accessible hr).sameAnswer

/-- A header spelled otherwise is answered alike exactly if both spellings are short forms or neither
is. Of two spellings that fold to a short form one is such a form exactly if it is written without
accents. -/
theorem resolveHeader_respelled (catalog accessible : List Station) {header header' : List Char}
    (hr : Respelled header header') :
    (SameAnswer (resolveHeader catalog accessible header)
        (resolveHeader catalog accessible header') ↔
      ((∃ q : Quota, q.IsShort header) ↔ ∃ q : Quota, q.IsShort header')) ∧
    (∀ q : Quota, q.IsShort header →
      ((∃ q' : Quota, q'.IsShort header') ↔ ∀ c ∈ trim header', c.toNat < 128)) ∧
    ∀ q : Quota, q.IsShort header' →
      ((∃ q' : Quota, q'.IsShort header) ↔ ∀ c ∈ trim header, c.toNat < 128) := by
  have he := hr.trim.fold_eq
  refine ⟨?_, fun q h => h.exists_iff_of_fold_eq he, fun q h => h.exists_iff_of_fold_eq he.symm⟩
  by_cases h : ∃ q : Quota, q.IsShort header <;> by_cases h' : ∃ q : Quota, q.IsShort header'
  · obtain ⟨q, hq⟩ := h
    obtain ⟨q', hq'⟩ := h'
    obtain rfl := hq.eq_of_fold_eq hq' he
    rw [resolveHeader_of_quota (Quota.read?_of_isShort catalog hq),
      resolveHeader_of_quota (Quota.read?_of_isShort catalog hq')]
    exact iff_of_true (.refl _) ⟨fun _ => ⟨_, hq'⟩, fun _ => ⟨_, hq⟩⟩
  · obtain ⟨q, hq⟩ := h
    exact iff_of_false (hq.not_sameAnswer hr.fold_eq h' catalog accessible)
      fun hiff => h' (hiff.mp ⟨q, hq⟩)
  · obtain ⟨q', hq'⟩ := h'
    exact iff_of_false (fun hs => hq'.not_sameAnswer hr.fold_eq.symm h catalog accessible hs.symm)
      fun hiff => h (hiff.mpr ⟨q', hq'⟩)
  · exact iff_of_true (resolveHeader_of_not_isShort catalog accessible hr h h') (iff_of_false h h')

/-- In the sentence the name of the region may be written large and with an accent. -/
theorem resolveHeader_respelled_southern :
    Respelled "1 station in nam".toList "1 station in NÀm".toList ∧
      (¬ ∃ q : Quota, q.IsShort "1 station in nam".toList) ∧
      resolveHeader Sample.plain.stations Sample.plain.stations "1 station in nam".toList =
        .ok (.regional 1 .south Sample.plain.stations) ∧
      SameAnswer
        (resolveHeader Sample.plain.stations Sample.plain.stations "1 station in nam".toList)
        (resolveHeader Sample.plain.stations Sample.plain.stations "1 station in NÀm".toList) := by
  have hl : "1 station in nam".toList = "1 station in ".toList ++ ['n', 'a', 'm'] := by decide +kernel
  have hl' : "1 station in NÀm".toList = "1 station in ".toList ++ ['N', 'À', 'm'] := by
    decide +kernel
  have hn : SameLetter 'n' 'N' := by decide +kernel
  have ha : SameLetter 'a' 'À' := by decide +kernel
  have h : Respelled "1 station in nam".toList "1 station in NÀm".toList := by
    rw [hl, hl']
    exact Respelled.append (.refl _) (.replace hn (.replace ha (.refl ['m'])))
  have hno := (Quota.readShort?_eq_none_iff "1 station in nam".toList).mp (by decide +kernel)
  have hno' := (Quota.readShort?_eq_none_iff "1 station in NÀm".toList).mp (by decide +kernel)
  exact ⟨h, hno, by decide +kernel,
    (resolveHeader_respelled _ _ h).1.mpr (iff_of_false hno hno')⟩

/-- A short form with a barred d is taken for the name of a station. -/
theorem resolveHeader_barred :
    Respelled "1dmn".toList "1đmn".toList ∧
      resolveHeader Sample.plain.stations Sample.plain.stations "1dmn".toList =
        .ok (.regional 1 .south Sample.plain.stations) ∧
      (∃ suggestion, resolveHeader Sample.plain.stations Sample.plain.stations "1đmn".toList =
        .error (.unknownStation "1đmn" suggestion)) ∧
      ¬ SameAnswer (resolveHeader Sample.plain.stations Sample.plain.stations "1dmn".toList)
        (resolveHeader Sample.plain.stations Sample.plain.stations "1đmn".toList) := by
  have hl : "1dmn".toList = ['1', 'd', 'm', 'n'] := by decide +kernel
  have hl' : "1đmn".toList = ['1', 'đ', 'm', 'n'] := by decide +kernel
  have hd : SameLetter 'd' 'đ' := by decide +kernel
  have h : Respelled "1dmn".toList "1đmn".toList := by
    rw [hl, hl']
    exact .keep '1' (.replace hd (.refl ['m', 'n']))
  have hquota : resolveHeader Sample.plain.stations Sample.plain.stations "1dmn".toList =
      .ok (.regional 1 .south Sample.plain.stations) := by decide +kernel
  have htokens : headerTokens "1đmn".toList = ["1đmn".toList] := by decide +kernel
  have hc : candidates Sample.plain.stations "1đmn".toList = [] := by decide +kernel
  have hunknown : resolveTokens (keyed Sample.plain.stations)
      (Sample.plain.stations.map fun s => s.id) (headerTokens "1đmn".toList) =
        .error (.unknownStation (String.ofList "1đmn".toList)
          (suggest (keyed Sample.plain.stations) (foldKey "1đmn".toList))) := by
    rw [htokens, resolveTokens, resolveAccessible, (Stands.unknown hc).resolveToken_eq]
  have hnamed := resolveHeader_of_resolveTokens_error (by decide +kernel)
    (htokens ▸ List.cons_ne_nil _ _) hunknown
  rw [String.ofList_toList] at hnamed
  refine ⟨h, hquota, ⟨_, hnamed⟩, ?_⟩
  rw [hquota, hnamed]
  rintro ⟨⟩

end LotterySlip
