import LotterySlip.Proofs.Header.Division
import LotterySlip.Proofs.Limit

/-! What the bettor is told. The findings about the header come first, one for every station that it
names again, and then those about lines in their order, each of which is refused. -/
namespace LotterySlip
open Text

def Finding.isAboutLine : Finding → Bool
  | unsupportedCombination _ _ => true
  | sequenceTooLong _ _ => true
  | tooManyTickets _ _ => true
  | _ => false

theorem Finding.isAboutLine_of_limit? {f : Finding} (h : f.limit?.isSome = true) :
    f.isAboutLine = true := by
  cases f <;> first | rfl | cases h

inductive Told (strict : Bool) : Except Refusal Bet → Prop
  | bet (b : Bet) : Told strict (.ok b)
  | silent {e : LineError} (h : ∀ name, e ≠ .unsupportedCombinationRule name) :
    Told strict (.error ↑e)
  | unsupported (name method : String) : Told strict (.error
      ⟨if strict then .unsupportedCombinationRule name else .noValidNumbers,
        some (.unsupportedCombination name method)⟩)
  | limit {f : Finding} (h : f.limit?.isSome = true) :
    Told strict (.error ⟨.noValidNumbers, some f⟩)

namespace Tariff

theorem told_readBet (t : Tariff) (ctx : LineContext) (line : List Char) :
    Told t.options.strictCombinations (t.readBet ctx line) := by
  have hreads := t.reads_readBet ctx line
  generalize t.readBet ctx line = x at hreads
  cases hreads with
  | noAlias h => exact .silent nofun
  | noBetType hfind h =>
    obtain ⟨-, b, -, rfl⟩ := (chooseBetType_eq_error_iff (candidates_ne_nil hfind) _ _).mp h
    exact .silent nofun
  | noNumbers hb h =>
    cases h with
    | unsupported h => exact .unsupported _ _
    | tooLong h => exact .limit rfl
    | nothing hr h => exact .silent nofun
    | uneven hr hn h => exact .silent nofun
  | noAmount hb hn h => exact .silent nofun
  | noTickets hb hn ha h => exact .limit rfl
  | noPrice hb hn ha ht h => exact .silent nofun
  | bet hb hn ha ht h => exact .bet _

end Tariff

section Told

variable {strict : Bool} {x : Except Refusal Bet}

theorem Told.isAboutLine (h : Told strict x) : ∀ f ∈ readingFindings x, f.isAboutLine = true := by
  intro f hf
  cases h with
  | bet b => cases hf
  | silent h => cases hf
  | unsupported name method =>
    rw [List.mem_singleton.mp hf]
    rfl
  | limit h =>
    rw [List.mem_singleton.mp hf]
    exact Finding.isAboutLine_of_limit? h

/-- Of what is told, a line is refused for a combination or has no numbers. -/
theorem Told.cause (h : Told strict x) {f : Finding} (hf : f ∈ readingFindings x) :
    ∃ r, x = .error r ∧ (r.cause = .noValidNumbers ∨
      ∃ name, r.cause = .unsupportedCombinationRule name) := by
  cases h with
  | bet b => cases hf
  | silent h => cases hf
  | unsupported name method =>
    refine ⟨_, rfl, ?_⟩
    cases strict with
    | true => exact Or.inr ⟨name, rfl⟩
    | false => exact Or.inl rfl
  | limit h => exact ⟨_, rfl, Or.inl rfl⟩

theorem Told.mem_of_unsupported (h : Told strict x) {r : Refusal} {name : String} (hx : x = .error r)
    (hr : r.cause = .unsupportedCombinationRule name) :
    ∃ method, .unsupportedCombination name method ∈ readingFindings x := by
  cases h with
  | bet b => cases hx
  | silent h =>
    cases hx
    exact absurd hr (h name)
  | unsupported name' method =>
    cases hx
    cases strict with
    | true =>
      cases hr
      exact ⟨method, List.mem_singleton_self _⟩
    | false => cases hr
  | limit h =>
    cases hx
    cases hr

end Told

/-- The header of a slip and the number of its line: the first line that is not blank or, where it is
the only one, what counts as a header at its front. -/
inductive IsHeader (catalog accessible : List Station) (text : List Char) (n : Nat) :
    List Char → Prop
  | first {line : List Char} {body : List (Nat × List Char)}
    (h : numberedLines text = (n, line) :: body) (hbody : body ≠ []) :
    IsHeader catalog accessible text n line
  | whole {line : List Char} {s : Selection} (h : numberedLines text = [(n, line)])
    (hs : resolveHeader catalog accessible line = .ok s) : IsHeader catalog accessible text n line
  | front {line : List Char} {i : Nat} (h : numberedLines text = [(n, line)])
    (hi : EndsHeader catalog accessible (trim line) i) :
    IsHeader catalog accessible text n ((trim line).take i)

def nameTokens (catalog : List Station) (header : List Char) : List (List Char) :=
  if (Quota.read? catalog header).isSome then [] else headerTokens header

/-- The stations that are told to come again are those that the names of the header stand for. -/
theorem exists_stations_of_resolveHeader {catalog accessible : List Station} {header : List Char}
    {s : Selection} (h : resolveHeader catalog accessible header = .ok s) :
    ∃ stations, List.Forall₂ (fun token station => resolveAccessible (keyed catalog)
        (accessible.map fun a => a.id) token = .ok station) (nameTokens catalog header) stations ∧
      s.repeated = (repeatsOf stations).map fun station => station.name := by
  cases s with
  | regional n region stations =>
    obtain ⟨hq, -⟩ := (resolveHeader_eq_regional_iff _ _ _ _ _ _).mp h
    refine ⟨[], ?_, rfl⟩
    rw [nameTokens, hq]
    exact .nil
  | named kept repeated =>
    obtain ⟨hq, -, stations, hs, hc⟩ := (resolveHeader_eq_named_iff _ _ _ _ _).mp h
    refine ⟨stations, ?_, ?_⟩
    · rw [nameTokens, hq]
      exact (resolveTokens_eq_ok_iff _ _ _ _).mp hs
    · rw [collapse_nil, Prod.mk.injEq] at hc
      exact hc.2.symm

structure Layout.IsOf (catalog accessible : List Station) (text : List Char) (l : Layout) : Prop where
  header : ∃ header, IsHeader catalog accessible text l.headerLine header ∧
    resolveHeader catalog accessible header = .ok l.selection
  ascending : l.body.Pairwise fun a b => a.1 < b.1
  notes : ∀ f ∈ l.notes, ∃ stations, f = .implicitHeader stations

theorem House.isOf_of_layOut {h : House} {accessible : List Station} {text : List Char} {l : Layout}
    (hl : h.layOut accessible (numberedLines text) = .ok l) : l.IsOf h.stations accessible text := by
  have hpair := pairwise_numberedLines text
  cases hlines : numberedLines text with
  | nil =>
    rw [hlines] at hl
    cases hl
  | cons first body =>
    rw [hlines] at hl hpair
    cases body with
    | cons line body =>
      obtain ⟨s, hs, rfl⟩ := map_eq_ok_iff.mp hl
      exact ⟨⟨first.2, .first hlines (List.cons_ne_nil _ _), hs⟩, (List.pairwise_cons.mp hpair).2,
        nofun⟩
    | nil =>
      obtain ⟨found, hfound, rfl⟩ := map_eq_ok_iff.mp hl
      have hdivided := divided_resolveSingle h.stations accessible first.2
      rw [hfound] at hdivided
      cases hdivided with
      | header hs =>
        rw [resolveHeader_trim] at hs
        exact ⟨⟨first.2, .whole hlines hs, hs⟩, .nil, nofun⟩
      | @bet i s hi hs =>
        have hbody : (trim ((trim first.2).drop i)).isEmpty = false := by
          rw [isEmpty_trim, ((dividesAt_iff _ i).mp hi.divides).2.2]
        have hlayout : layoutSingle first.1 (s, trim ((trim first.2).drop i)) =
            ⟨first.1, s, [(first.1, trim ((trim first.2).drop i))],
              [.implicitHeader s.describe]⟩ := by
          rw [layoutSingle, if_neg (by simp [hbody])]
        rw [hlayout]
        refine ⟨⟨_, .front hlines hi, hs⟩, List.pairwise_singleton _ _, fun f hf => ?_⟩
        exact ⟨_, List.mem_singleton.mp hf⟩

def Finding.repeated? : Finding → Option String
  | duplicateStation station => some station
  | _ => none

namespace Submission

def headerDiagnostics (s : Submission) : List Diagnostic :=
  s.diagnostics.filter fun d => !d.finding.isAboutLine

def lineDiagnostics (s : Submission) : List Diagnostic :=
  s.diagnostics.filter fun d => d.finding.isAboutLine

/-- What the findings of a slip owe to its lines, to the line of its header and to the stations that the
header names again. -/
structure Reports (headerLine : Nat) (again : List Station) (s : Submission) : Prop where
  order : s.diagnostics = s.headerDiagnostics ++ s.lineDiagnostics
  header : ∀ d ∈ s.headerDiagnostics, d.line = some headerLine
  ascending : s.lineDiagnostics.Pairwise fun d e =>
    ∃ i j, d.line = some i ∧ e.line = some j ∧ i < j
  refused : ∀ d ∈ s.lineDiagnostics, ∃ l ∈ s.lines, d.line = some l.number ∧
    (l.error? = some .noValidNumbers ∨ ∃ name, l.error? = some (.unsupportedCombinationRule name))
  reported : ∀ l ∈ s.lines, ∀ name, l.error? = some (.unsupportedCombinationRule name) →
    ∃ method, ⟨.unsupportedCombination name method, some l.number⟩ ∈ s.diagnostics
  repeated : s.diagnostics.filter (fun d => d.finding.repeated?.isSome) =
    again.map fun station => ⟨.duplicateStation station.name, some headerLine⟩

end Submission

section Accepted

variable {h : House} {accessible : List Station} {priceRate : Decimal} {text : String} {l : Layout}

theorem Layout.IsOf.isAboutLine_eq_false {catalog : List Station} {text : List Char}
    (hl : l.IsOf catalog accessible text) :
    ∀ d ∈ l.headerDiagnostics, d.finding.isAboutLine = false := by
  intro d hd
  obtain ⟨f, hf, rfl⟩ := List.mem_map.mp hd
  rcases List.mem_append.mp hf with hf | hf
  · obtain ⟨stations, rfl⟩ := hl.notes f hf
    rfl
  · obtain ⟨station, -, rfl⟩ := List.mem_map.mp hf
    rfl

theorem House.isAboutLine_of_mem_readBody (h : House) (ctx : LineContext)
    (body : List (Nat × List Char)) :
    ∀ d ∈ (h.readBody ctx body).flatMap (fun r => r.2), d.finding.isAboutLine = true := by
  intro d hd
  obtain ⟨line, -, f, hf, rfl⟩ := (h.mem_flatMap_readBody_iff ctx body d).mp hd
  exact (h.tariff.told_readBet ctx line.2).isAboutLine f hf

theorem House.pairwise_readBody (h : House) (ctx : LineContext) {body : List (Nat × List Char)}
    (hbody : body.Pairwise fun a b => a.1 < b.1) :
    ((h.readBody ctx body).flatMap fun r => r.2).Pairwise fun d e =>
      ∃ i j, d.line = some i ∧ e.line = some j ∧ i < j := by
  rw [readBody, List.flatMap_map, List.pairwise_flatMap]
  refine ⟨fun line _ => ?_, hbody.imp fun {a b} hab => ?_⟩
  · cases h.tariff.readBet ctx line.2 with
    | ok b => exact .nil
    | error r =>
      cases hr : r.finding with
      | none => simp [readingFindings, hr]
      | some f => simp [readingFindings, hr]
  · intro d hd e he
    obtain ⟨f, -, rfl⟩ := List.mem_map.mp hd
    obtain ⟨g, -, rfl⟩ := List.mem_map.mp he
    exact ⟨a.1, b.1, rfl, rfl, hab⟩

theorem Layout.IsOf.filter_repeated {catalog : List Station} {text : List Char}
    (hl : l.IsOf catalog accessible text) {again : List Station}
    (hagain : l.selection.repeated = again.map fun station => station.name) :
    l.headerDiagnostics.filter (fun d => d.finding.repeated?.isSome) =
      again.map fun station => ⟨.duplicateStation station.name, some l.headerLine⟩ := by
  have hnotes : l.notes.filter (fun f => f.repeated?.isSome) = [] := by
    rw [List.filter_eq_nil_iff]
    intro f hf
    obtain ⟨stations, rfl⟩ := hl.notes f hf
    exact Bool.false_ne_true
  have hrepeated : (again.map fun station => Finding.duplicateStation station.name).filter
      (fun f => f.repeated?.isSome) = again.map fun station => .duplicateStation station.name := by
    rw [List.filter_eq_self]
    intro f hf
    obtain ⟨station, -, rfl⟩ := List.mem_map.mp hf
    rfl
  have hmap : (again.map fun station => station.name).map Finding.duplicateStation =
      again.map fun station => .duplicateStation station.name := List.map_map
  rw [headerDiagnostics, List.filter_map, hagain, hmap]
  simp only [Function.comp_def]
  rw [List.filter_append, hnotes, hrepeated, List.nil_append, List.map_map]
  rfl

theorem House.reports_of_complete {s : Submission} (hc : h.complete priceRate text l = .accepted s)
    (hl : l.IsOf h.stations accessible text.toList) {again : List Station}
    (hagain : l.selection.repeated = again.map fun station => station.name) :
    s.Reports l.headerLine again := by
  obtain ⟨-, -, -, hlines, hds⟩ := (h.complete_eq_accepted_iff priceRate text l s).mp hc
  have habout := h.isAboutLine_of_mem_readBody (.ofSelection l.selection priceRate) l.body
  have hheader : s.headerDiagnostics = l.headerDiagnostics := by
    rw [Submission.headerDiagnostics, hds, List.filter_append, List.filter_eq_self.mpr,
      List.filter_eq_nil_iff.mpr, List.append_nil]
    · intro d hd
      simp [habout d hd]
    · intro d hd
      simp [hl.isAboutLine_eq_false d hd]
  have hbody : s.lineDiagnostics =
      (h.readBody (.ofSelection l.selection priceRate) l.body).flatMap fun r => r.2 := by
    rw [Submission.lineDiagnostics, hds, List.filter_append, List.filter_eq_nil_iff.mpr,
      List.filter_eq_self.mpr habout, List.nil_append]
    intro d hd
    simp [hl.isAboutLine_eq_false d hd]
  refine ⟨?_, ?_, ?_, fun d hd => ?_, fun b hb name hname => ?_, ?_⟩
  · rw [hheader, hbody, hds]
  · rw [hheader]
    intro d hd
    obtain ⟨f, -, rfl⟩ := List.mem_map.mp hd
    rfl
  · rw [hbody]
    exact h.pairwise_readBody _ hl.ascending
  · rw [hbody, mem_flatMap_readBody_iff] at hd
    obtain ⟨line, hline, f, hf, rfl⟩ := hd
    obtain ⟨r, hr, hcause⟩ := (h.tariff.told_readBet _ line.2).cause hf
    have herror := (h.tariff.error?_readLine (.ofSelection l.selection priceRate) line r.cause).mpr
      ⟨r, hr, rfl⟩
    refine ⟨_, hlines ▸ List.mem_map_of_mem hline, rfl, ?_⟩
    rw [herror]
    exact hcause.imp (congrArg some) fun ⟨name, hname⟩ => ⟨name, congrArg some hname⟩
  · rw [hlines] at hb
    obtain ⟨line, hline, rfl⟩ := List.mem_map.mp hb
    obtain ⟨r, hr, hcause⟩ := (h.tariff.error?_readLine _ line _).mp hname
    obtain ⟨method, hf⟩ := (h.tariff.told_readBet _ line.2).mem_of_unsupported hr hcause
    refine ⟨method, ?_⟩
    rw [hds, List.mem_append, mem_flatMap_readBody_iff]
    exact Or.inr ⟨line, hline, _, hf, rfl⟩
  · rw [hds, List.filter_append, hl.filter_repeated hagain, List.filter_eq_nil_iff.mpr,
      List.append_nil]
    intro d hd
    have hd := habout d hd
    cases hf : d.finding with
    | duplicateStation station =>
      rw [hf] at hd
      cases hd
    | _ => exact Bool.false_ne_true

/-- What is told of a line is what its own reading tells. -/
theorem House.mem_diagnostics_iff {s : Submission} (hc : h.complete priceRate text l = .accepted s)
    (hl : l.IsOf h.stations accessible text.toList) {line : Nat × List Char} (hline : line ∈ l.body)
    {f : Finding} (hf : f.isAboutLine = true) : ⟨f, some line.1⟩ ∈ s.diagnostics ↔
      f ∈ readingFindings (h.tariff.readBet (.ofSelection l.selection priceRate) line.2) := by
  obtain ⟨-, -, -, -, hds⟩ := (h.complete_eq_accepted_iff priceRate text l s).mp hc
  have hheader : (⟨f, some line.1⟩ : Diagnostic) ∉ l.headerDiagnostics := by
    intro hmem
    rw [hl.isAboutLine_eq_false _ hmem] at hf
    cases hf
  rw [hds, List.mem_append, or_iff_right hheader, ← h.findingsAbout_readBody _ hl.ascending hline,
    mem_findingsAbout_iff]

end Accepted

end LotterySlip
