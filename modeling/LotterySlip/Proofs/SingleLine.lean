import LotterySlip.Proofs.Formatted.Submission
import LotterySlip.Proofs.Header.Division

/-! Slips on one line. The header at the front of a bet counts as if it stood on a line of its own. -/
namespace LotterySlip
open Text

def onTwoLines (line : List Char) (i : Nat) : String :=
  String.ofList (line.take i ++ '\n' :: trim (line.drop i))

theorem newline_notMem_of_numberedLines {text line : List Char} {n : Nat}
    (h : (n, line) ∈ numberedLines text) : '\n' ∉ line := by
  obtain ⟨hline, -⟩ := (mem_numberedLines_iff text n line).mp h
  cases n with
  | zero => cases hline
  | succ n =>
    intro hmem
    have hnot := forall_not_of_mem_splitOnP (List.mem_of_getElem? hline) '\n' hmem
    cases hnot

theorem numberedLines_onTwoLines {line : List Char} {i : Nat} (hi : dividesAt line i = true)
    (hn : '\n' ∉ line) : numberedLines (onTwoLines line i).toList =
      [(1, line.take i), (2, trim (line.drop i))] := by
  obtain ⟨-, hheader, hbody⟩ := (dividesAt_iff line i).mp hi
  have htext : (onTwoLines line i).toList =
      ['\n'].intercalate [line.take i, trim (line.drop i)] := by
    simp [onTwoLines, List.intercalate]
  rw [htext, numberedLines_intercalate]
  · rfl
  · simp
  · simp only [List.mem_cons, List.not_mem_nil, or_false]
    rintro l (rfl | rfl) hl
    · exact hn (List.mem_of_mem_take hl)
    · exact hn (List.mem_of_mem_drop (mem_of_mem_trim hl))
  · simp only [List.mem_cons, List.not_mem_nil, or_false]
    rintro l (rfl | rfl)
    · exact hheader
    · rw [isBlankText_trim, hbody]

/-- One line has its own sums, which always fit. -/
theorem totals?_singleton (l : BetLine) : totals? [l] = some (l.stake, l.prize) := by
  obtain ⟨n, text, e | b⟩ := l <;> rfl

theorem House.complete_singleton (h : House) (priceRate : Decimal) (text : String) (n m : Nat)
    (s : Selection) (line : List Char) (notes : List Finding) :
    h.complete priceRate text ⟨n, s, [(m, line)], notes⟩ =
      .accepted ⟨text, s, [h.tariff.readLine (.ofSelection s priceRate) (m, line)],
        (h.tariff.readLine (.ofSelection s priceRate) (m, line)).stake,
        (h.tariff.readLine (.ofSelection s priceRate) (m, line)).prize,
        Layout.headerDiagnostics ⟨n, s, [(m, line)], notes⟩ ++
          (readingFindings (h.tariff.readBet (.ofSelection s priceRate) line)).map fun f =>
            ⟨f, some m⟩⟩ := by
  have htotals := totals?_singleton (h.tariff.readLine (.ofSelection s priceRate) (m, line))
  rw [Tariff.readLine] at htotals
  simp only [complete, readBody, List.map_cons, List.map_nil, htotals, List.flatMap_cons,
    List.flatMap_nil, List.append_nil, Tariff.readLine]

/-- Whether two slips are the same but for the numbers of lines, and for the note that the header was
found in front of the bet. -/
structure SameOnTwoLines (n : Nat) (s s' : Submission) : Prop where
  selection : s'.selection = s.selection
  lines : ∃ l : BetLine, l.number = n ∧ s.lines = [l] ∧ s'.lines = [{ l with number := 2 }]
  totalStake : s'.totalStake = s.totalStake
  totalPrize : s'.totalPrize = s.totalPrize
  formatted : s'.formatted = s.formatted
  diagnostics : s.diagnostics = ⟨.implicitHeader s.selection.describe, some n⟩ ::
    s'.diagnostics.map fun d => { d with line := some n }

namespace House

variable (h : House) (accessible : List Station) (priceRate : Decimal)

theorem submit_onTwoLines {line : List Char} {i : Nat} {s : Selection}
    (hi : dividesAt line i = true) (hn : '\n' ∉ line)
    (hs : resolveHeader h.stations accessible (line.take i) = .ok s) :
    h.submit accessible priceRate (onTwoLines line i) =
      h.complete priceRate (onTwoLines line i) ⟨1, s, [(2, trim (line.drop i))], []⟩ := by
  rw [submit, numberedLines_onTwoLines hi hn, layOut_cons hs]

theorem exists_sameOnTwoLines (n : Nat) (text : String) {line : List Char} {i : Nat} {s : Selection}
    (hi : dividesAt line i = true) (hn : '\n' ∉ line)
    (hs : resolveHeader h.stations accessible (line.take i) = .ok s) :
    ∃ t t', h.complete priceRate text (layoutSingle n (s, trim (line.drop i))) = .accepted t ∧
      t.selection = s ∧ h.submit accessible priceRate (onTwoLines line i) = .accepted t' ∧
      SameOnTwoLines n t t' := by
  have hbody : (trim (line.drop i)).isEmpty = false := by
    rw [isEmpty_trim, ((dividesAt_iff line i).mp hi).2.2]
  rw [submit_onTwoLines h accessible priceRate hi hn hs, layoutSingle, if_neg (by simp [hbody]),
    complete_singleton, complete_singleton]
  refine ⟨_, _, rfl, rfl, rfl, rfl, ⟨_, rfl, rfl, rfl⟩, rfl, rfl, rfl, ?_⟩
  simp [Layout.headerDiagnostics, Function.comp_def]

/-- A slip on one line is read as it would be on two: the longest header that the line begins with
counts. It is refused for a header that may not be played, or for the want of one, and its sums fit. -/
theorem submit_singleLine (text : String) (n : Nat) (line : List Char)
    (hline : numberedLines text.toList = [(n, line)]) :
    (∀ s, h.submit accessible priceRate text = .accepted s → s.lines ≠ [] →
      ∃ i, EndsHeader h.stations accessible (trim line) i ∧
        resolveHeader h.stations accessible ((trim line).take i) = .ok s.selection ∧
        ∃ s', h.submit accessible priceRate (onTwoLines (trim line) i) = .accepted s' ∧
          SameOnTwoLines n s s') ∧
    (∀ s, h.submit accessible priceRate text = .accepted s → s.lines = [] →
      resolveHeader h.stations accessible (trim line) = .ok s.selection) ∧
    (∀ e, h.submit accessible priceRate text = .refused e →
      (resolveHeader h.stations accessible (trim line) = .error e ∧ e.isAccessFailure = true) ∨
      (∃ i, EndsHeader h.stations accessible (trim line) i ∧
        resolveHeader h.stations accessible ((trim line).take i) = .error e ∧
        e.isAccessFailure = true) ∨
      (e = .missingStationHeader ∧ Unrecognized h.stations accessible (trim line) ∧
        ∀ j, dividesAt (trim line) j = true →
          Unrecognized h.stations accessible ((trim line).take j))) ∧
    h.submit accessible priceRate text ≠ .totalOverflow := by
  have hn : '\n' ∉ trim line := by
    have hmem : (n, line) ∈ numberedLines text.toList := hline ▸ List.mem_singleton_self _
    exact fun hmem' => newline_notMem_of_numberedLines hmem (mem_of_mem_trim hmem')
  have hdivided := divided_resolveSingle h.stations accessible line
  generalize hresult : h.submit accessible priceRate text = result
  rw [submit, hline, layOut] at hresult
  generalize resolveSingle h.stations accessible line = found at hdivided hresult
  subst hresult
  cases hdivided with
  | @header selection hr =>
    refine ⟨fun s hs hne => ?_, fun s hs _ => ?_, fun e hs => ?_, fun hs => ?_⟩ <;> cases hs
    · exact absurd rfl hne
    · exact hr
  | denied hr he =>
    refine ⟨fun s hs => ?_, fun s hs => ?_, fun e' hs => ?_, fun hs => ?_⟩ <;> cases hs
    exact Or.inl ⟨hr, he⟩
  | @bet i selection hi hr =>
    obtain ⟨t, t', ht, rfl, ht', hsame⟩ :=
      h.exists_sameOnTwoLines accessible priceRate n text hi.divides hn hr
    simp only [Except.map, ht]
    refine ⟨fun s hs _ => ?_, fun s hs hnil => ?_, fun e hs => ?_, fun hs => ?_⟩ <;> cases hs
    · exact ⟨i, hi, hr, t', ht', hsame⟩
    · obtain ⟨l, -, hl, -⟩ := hsame.lines
      rw [hnil] at hl
      cases hl
  | @betDenied i e hi hr he =>
    refine ⟨fun s hs => ?_, fun s hs => ?_, fun e' hs => ?_, fun hs => ?_⟩ <;> cases hs
    exact Or.inr (Or.inl ⟨i, hi, hr, he⟩)
  | unrecognized hu hall =>
    refine ⟨fun s hs => ?_, fun s hs => ?_, fun e' hs => ?_, fun hs => ?_⟩ <;> cases hs
    exact Or.inr (Or.inr ⟨rfl, hu, hall⟩)

/-- The name of the station has two words, and the first of them would do as well. -/
theorem submit_singleLine_two_words : ∃ s i s',
    numberedLines " \nKhánh Hòa 12dd1".toList = [(2, "Khánh Hòa 12dd1".toList)] ∧
      (Catalogs.house { Sample.plain with stations := Sample.stations } .standard).submit
        Sample.stations .one " \nKhánh Hòa 12dd1" = .accepted s ∧ s.lines ≠ [] ∧
      EndsHeader Sample.stations Sample.stations (trim "Khánh Hòa 12dd1".toList) i ∧
      (Catalogs.house { Sample.plain with stations := Sample.stations } .standard).submit
        Sample.stations .one (onTwoLines (trim "Khánh Hòa 12dd1".toList) i) = .accepted s' ∧
      SameOnTwoLines 2 s s' := by
  have hlines : numberedLines " \nKhánh Hòa 12dd1".toList = [(2, "Khánh Hòa 12dd1".toList)] := by
    decide +kernel
  have hbets : ((Catalogs.house { Sample.plain with stations := Sample.stations } .standard).submit
      Sample.stations .one " \nKhánh Hòa 12dd1").accepted?.map (fun s => s.lines.isEmpty) =
        some false := by
    decide +kernel
  obtain ⟨s, hs, hempty⟩ := Option.map_eq_some_iff.mp hbets
  have h := (SubmissionResult.accepted?_eq_some_iff _ s).mp hs
  have hne : s.lines ≠ [] := by
    intro he
    rw [he] at hempty
    cases hempty
  obtain ⟨i, hi, -, s', hs', hsame⟩ := (submit_singleLine _ _ _ _ _ _ hlines).1 s h hne
  exact ⟨s, i, s', hlines, h, hne, hi, hs', hsame⟩

end House
end LotterySlip
