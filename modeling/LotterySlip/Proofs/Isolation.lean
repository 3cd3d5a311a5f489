import LotterySlip.Proofs.Submission

/-! Lines that stand for themselves. Below the header every line that is not blank comes to a line of
the slip, by its own text and the header alone: whatever the other lines are, it comes to the same. -/
namespace LotterySlip
open Text

/-- The line of a text with a given number. Lines are counted from 1 on, and blank ones count. -/
def lineAt? (text : List Char) : Nat → Option (List Char)
  | 0 => none
  | n + 1 => (text.splitOn '\n')[n]?

theorem mem_numberedLines_iff (text : List Char) (n : Nat) (line : List Char) :
    (n, line) ∈ numberedLines text ↔ lineAt? text n = some line ∧ isBlankText line = false := by
  have hmem : (n, line) ∈ ((text.splitOn '\n').zipIdx 1).map (fun l => (l.2, l.1)) ↔
      (line, n) ∈ (text.splitOn '\n').zipIdx 1 := by
    simp only [List.mem_map, Prod.mk.injEq]
    exact ⟨fun ⟨l, hl, hn, ht⟩ => hn ▸ ht ▸ hl, fun hl => ⟨_, hl, rfl, rfl⟩⟩
  rw [numberedLines, List.mem_filter, hmem, List.mk_mem_zipIdx_iff_le_and_getElem?_sub,
    Bool.not_eq_true']
  cases n with
  | zero => simp [lineAt?]
  | succ n => simp [lineAt?]

theorem pairwise_numberedLines (text : List Char) :
    (numberedLines text).Pairwise fun l m => l.1 < m.1 := by
  rw [numberedLines]
  apply List.Pairwise.filter
  rw [List.pairwise_map]
  have hnumbers : (((text.splitOn '\n').zipIdx 1).map Prod.snd).Pairwise fun i j => i < j := by
    rw [List.zipIdx_map_snd]
    exact List.pairwise_lt_range'
  exact List.pairwise_map.mp hnumbers

structure IsBodyLine (text : List Char) (n : Nat) (line : List Char) : Prop where
  lineAt?_eq : lineAt? text n = some line
  not_blank : isBlankText line = false
  behind : ∃ m first, m < n ∧ lineAt? text m = some first ∧ isBlankText first = false

theorem mem_body_iff {text : List Char} {first : Nat × List Char} {body : List (Nat × List Char)}
    (h : numberedLines text = first :: body) (n : Nat) (line : List Char) :
    (n, line) ∈ body ↔ IsBodyLine text n line := by
  have hpair := pairwise_numberedLines text
  rw [h, List.pairwise_cons] at hpair
  have hmem (m : Nat) (l : List Char) :
      (m, l) ∈ first :: body ↔ lineAt? text m = some l ∧ isBlankText l = false :=
    h ▸ mem_numberedLines_iff text m l
  constructor
  · intro hb
    obtain ⟨hat, hblank⟩ := (hmem n line).mp (List.mem_cons_of_mem _ hb)
    obtain ⟨hfirst, hfirst'⟩ := (hmem first.1 first.2).mp List.mem_cons_self
    exact ⟨hat, hblank, first.1, first.2, hpair.1 _ hb, hfirst, hfirst'⟩
  · rintro ⟨hat, hblank, m, l, hlt, hm, hl⟩
    rcases List.mem_cons.mp ((hmem n line).mpr ⟨hat, hblank⟩) with rfl | hb
    · rcases List.mem_cons.mp ((hmem m l).mpr ⟨hm, hl⟩) with he | hb
      · exact absurd (congrArg Prod.fst he) hlt.ne
      · exact absurd (hpair.1 _ hb) (Nat.lt_asymm hlt)
    · exact hb

def findingsAbout (n : Nat) (ds : List Diagnostic) : List Finding :=
  (ds.filter fun d => d.line = some n).map Diagnostic.finding

theorem mem_findingsAbout_iff (n : Nat) (ds : List Diagnostic) (f : Finding) :
    f ∈ findingsAbout n ds ↔ ⟨f, some n⟩ ∈ ds := by
  simp only [findingsAbout, List.mem_map, List.mem_filter, decide_eq_true_eq]
  constructor
  · rintro ⟨⟨_, _⟩, ⟨hd, rfl⟩, rfl⟩
    exact hd
  · intro hd
    exact ⟨_, ⟨hd, rfl⟩, rfl⟩

theorem findingsAbout_append (n : Nat) (ds es : List Diagnostic) :
    findingsAbout n (ds ++ es) = findingsAbout n ds ++ findingsAbout n es := by
  simp only [findingsAbout, List.filter_append, List.map_append]

theorem findingsAbout_map (n k : Nat) (fs : List Finding) :
    findingsAbout n (fs.map fun f => ⟨f, some k⟩) = if k = n then fs else [] := by
  by_cases hk : k = n <;> simp [findingsAbout, List.filter_map, Function.comp_def, hk]

theorem Layout.findingsAbout_headerDiagnostics {l : Layout} {n : Nat} (h : l.headerLine ≠ n) :
    findingsAbout n l.headerDiagnostics = [] := by
  rw [headerDiagnostics, findingsAbout_map, if_neg h]

theorem House.findingsAbout_readBody_eq_nil (h : House) (ctx : LineContext) {n : Nat}
    {body : List (Nat × List Char)} (hn : ∀ l ∈ body, l.1 ≠ n) :
    findingsAbout n ((h.readBody ctx body).flatMap fun r => r.2) = [] := by
  induction body with
  | nil => rfl
  | cons l body ih =>
    have hrest := ih fun m hm => hn m (List.mem_cons_of_mem l hm)
    simp only [readBody, List.map_cons, List.flatMap_cons] at hrest ⊢
    rw [findingsAbout_append, findingsAbout_map, if_neg (hn l List.mem_cons_self), hrest,
      List.append_nil]

/-- What there is to tell about a line comes from its own reading. -/
theorem House.findingsAbout_readBody (h : House) (ctx : LineContext)
    {body : List (Nat × List Char)} (hbody : body.Pairwise fun l m => l.1 < m.1)
    {l : Nat × List Char} (hl : l ∈ body) :
    findingsAbout l.1 ((h.readBody ctx body).flatMap fun r => r.2) =
      readingFindings (h.tariff.readBet ctx l.2) := by
  induction hbody with
  | nil => cases hl
  | @cons first rest hlt _ ih =>
    have hcons : (h.readBody ctx (first :: rest)).flatMap (fun r => r.2) =
        (readingFindings (h.tariff.readBet ctx first.2)).map (fun f => ⟨f, some first.1⟩) ++
          (h.readBody ctx rest).flatMap fun r => r.2 := by
      simp [readBody]
    rw [hcons, findingsAbout_append, findingsAbout_map]
    rcases List.mem_cons.mp hl with rfl | hl
    · rw [if_pos rfl, h.findingsAbout_readBody_eq_nil ctx fun m hm => (hlt m hm).ne', List.append_nil]
    · rw [if_neg (hlt l hl).ne, List.nil_append, ih hl]

theorem readBet_trim (t : Tariff) (ctx : LineContext) (line : List Char) :
    t.readBet ctx (trim line) = t.readBet ctx line := by
  rw [Tariff.readBet, AliasIndex.find?, trim_trim, ← AliasIndex.find?, ← Tariff.readBet]

theorem resolveHeader_trim (catalog accessible : List Station) (header : List Char) :
    resolveHeader catalog accessible (trim header) = resolveHeader catalog accessible header := by
  rw [resolveHeader, trim_trim, ← resolveHeader]

namespace House

variable {h : House} {accessible : List Station} {priceRate : Decimal} {text : String}

/-- With lines below it, the first line that is not blank is the header and nothing else. -/
theorem submit_eq_of_body {first : Nat × List Char} {body : List (Nat × List Char)}
    (hlines : numberedLines text.toList = first :: body) (hbody : body ≠ []) :
    h.submit accessible priceRate text =
      match resolveHeader h.stations accessible first.2 with
      | .error e => .refused e
      | .ok s => h.complete priceRate text ⟨first.1, s, body, []⟩ := by
  obtain ⟨l, ls, rfl⟩ := List.exists_cons_of_ne_nil hbody
  have hlayout : h.layOut accessible (first :: l :: ls) =
      (resolveHeader h.stations accessible first.2).map fun s => ⟨first.1, s, l :: ls, []⟩ := rfl
  rw [submit, hlines, hlayout]
  cases resolveHeader h.stations accessible first.2 <;> rfl

/-- What an accepted slip with lines below its header consists of. -/
theorem exists_of_submit_body {s : Submission} {first : Nat × List Char}
    {body : List (Nat × List Char)} (hlines : numberedLines text.toList = first :: body)
    (hbody : body ≠ []) (hs : h.submit accessible priceRate text = .accepted s) :
    ∃ selection, resolveHeader h.stations accessible first.2 = .ok selection ∧
      totals? s.lines = some (s.totalStake, s.totalPrize) ∧
      s.lines = body.map (h.tariff.readLine (.ofSelection selection priceRate)) ∧
      ∀ l ∈ body, findingsAbout l.1 s.diagnostics =
        readingFindings (h.tariff.readBet (.ofSelection selection priceRate) l.2) := by
  rw [submit_eq_of_body hlines hbody] at hs
  cases hsel : resolveHeader h.stations accessible first.2 with
  | error e =>
    rw [hsel] at hs
    cases hs
  | ok selection =>
    rw [hsel] at hs
    obtain ⟨htotals, -, -, hsl, hds⟩ := (h.complete_eq_accepted_iff priceRate text _ s).mp hs
    have hpair := pairwise_numberedLines text.toList
    rw [hlines, List.pairwise_cons] at hpair
    refine ⟨selection, rfl, htotals, hsl, fun l hl => ?_⟩
    rw [hds, findingsAbout_append, Layout.findingsAbout_headerDiagnostics (hpair.1 l hl).ne,
      h.findingsAbout_readBody _ hpair.2 hl, List.nil_append]

end House

theorem sumFrom?_eq_foldlM (start : Decimal) (ds : List Decimal) :
    sumFrom? start ds = ds.foldlM Decimal.add? start := by
  induction ds generalizing start with
  | nil => rfl
  | cons d ds ih =>
    rw [sumFrom?, List.foldlM_cons]
    exact Option.bind_congr fun s _ => ih s

theorem map_betsOf (f : Bet → Decimal) (lines : List BetLine) :
    (betsOf lines).map f = (lines.filter BetLine.isValid).map fun l => l.sum f := by
  induction lines with
  | nil => rfl
  | cons l lines ih =>
    rw [betsOf] at ih ⊢
    cases ho : l.outcome with
    | ok bet =>
      have hbet : l.bet? = some bet := by rw [BetLine.bet?, ho]; rfl
      have hvalid : l.isValid = true := by rw [BetLine.isValid, BetLine.error?, ho]; rfl
      rw [List.filterMap_cons_some hbet, List.filter_cons_of_pos hvalid, List.map_cons, List.map_cons,
        ih, BetLine.sum, hbet]
      rfl
    | error e =>
      have hbet : l.bet? = none := by rw [BetLine.bet?, ho]; rfl
      have hvalid : ¬ l.isValid = true := by simp [BetLine.isValid, BetLine.error?, ho]
      rw [List.filterMap_cons_none hbet, List.filter_cons_of_neg hvalid, ih]

def sumOf? (f : BetLine → Decimal) (lines : List BetLine) : Option Decimal :=
  lines.foldlM (fun sum l => sum.add? (f l)) .zero

theorem totals?_eq_some_iff (lines : List BetLine) (stake prize : Decimal) :
    totals? lines = some (stake, prize) ↔
      sumOf? BetLine.stake (lines.filter BetLine.isValid) = some stake ∧
        sumOf? BetLine.prize (lines.filter BetLine.isValid) = some prize := by
  have hsum (f : Bet → Decimal) : sumFrom? .zero ((betsOf lines).map f) =
      sumOf? (fun l => l.sum f) (lines.filter BetLine.isValid) := by
    rw [sumFrom?_eq_foldlM, map_betsOf, List.foldlM_map, sumOf?]
  simp only [totals?, hsum, Option.bind_eq_bind, Option.bind_eq_some_iff, Option.some.injEq,
    Prod.mk.injEq]
  constructor
  · rintro ⟨s, hs, p, hp, rfl, rfl⟩
    exact ⟨hs, hp⟩
  · rintro ⟨hs, hp⟩
    exact ⟨stake, hs, prize, hp, rfl, rfl⟩

def headerOf? (text : List Char) : Option (List Char) :=
  (numberedLines text).head?.map fun l => trim l.2

/-- What a slip owes to its text: a line for every line below the header, in order and under the
number that the line has in the text, and the sums over the lines without a fault. -/
structure Submission.Itemizes (text : List Char) (s : Submission) : Prop where
  ascending : s.lines.Pairwise fun l m => l.number < m.number
  number_iff : ∀ n, (∃ l ∈ s.lines, l.number = n) ↔ ∃ line, IsBodyLine text n line
  text_eq : ∀ l ∈ s.lines, ∀ line, lineAt? text l.number = some line →
    l.text = String.ofList (trim line)
  totalStake : sumOf? BetLine.stake (s.lines.filter BetLine.isValid) = some s.totalStake
  totalPrize : sumOf? BetLine.prize (s.lines.filter BetLine.isValid) = some s.totalPrize

/-- Whether lines that two texts have in common come to the same in both slips, with the same
findings, whatever their numbers. Blanks at the ends of a line make no difference. -/
def Submission.Agree (text text' : List Char) (s s' : Submission) : Prop :=
  ∀ n line n' line', IsBodyLine text n line → IsBodyLine text' n' line' → trim line' = trim line →
    ∃ l ∈ s.lines, l.number = n ∧ { l with number := n' } ∈ s'.lines ∧
      findingsAbout n' s'.diagnostics = findingsAbout n s.diagnostics

theorem Submission.itemizes_of_map_readLine {s : Submission} {text : List Char} {t : Tariff}
    {ctx : LineContext} {first : Nat × List Char} {body : List (Nat × List Char)}
    (hlines : numberedLines text = first :: body) (hs : s.lines = body.map (t.readLine ctx))
    (htotals : totals? s.lines = some (s.totalStake, s.totalPrize)) : s.Itemizes text := by
  have hpair := pairwise_numberedLines text
  rw [hlines, List.pairwise_cons] at hpair
  obtain ⟨hstake, hprize⟩ := (totals?_eq_some_iff _ _ _).mp htotals
  refine ⟨?_, fun n => ?_, fun l hl line hline => ?_, hstake, hprize⟩
  · rw [hs, List.pairwise_map]
    exact hpair.2
  · rw [hs]
    constructor
    · rintro ⟨l, hl, rfl⟩
      obtain ⟨b, hb, rfl⟩ := List.mem_map.mp hl
      exact ⟨b.2, (mem_body_iff hlines b.1 b.2).mp hb⟩
    · rintro ⟨line, hline⟩
      exact ⟨_, List.mem_map_of_mem ((mem_body_iff hlines n line).mpr hline), rfl⟩
  · rw [hs] at hl
    obtain ⟨b, hb, rfl⟩ := List.mem_map.mp hl
    have hat : lineAt? text b.1 = some b.2 := ((mem_body_iff hlines b.1 b.2).mp hb).lineAt?_eq
    have he : b.2 = line := Option.some.inj (hat.symm.trans hline)
    rw [← he]
    rfl

theorem Submission.agree_of_map_readLine {s s' : Submission} {text text' : List Char} {t : Tariff}
    {ctx : LineContext} {first first' : Nat × List Char} {body body' : List (Nat × List Char)}
    (hlines : numberedLines text = first :: body) (hlines' : numberedLines text' = first' :: body')
    (hs : s.lines = body.map (t.readLine ctx)) (hs' : s'.lines = body'.map (t.readLine ctx))
    (hd : ∀ l ∈ body, findingsAbout l.1 s.diagnostics = readingFindings (t.readBet ctx l.2))
    (hd' : ∀ l ∈ body', findingsAbout l.1 s'.diagnostics = readingFindings (t.readBet ctx l.2)) :
    Agree text text' s s' := by
  intro n line n' line' hline hline' htrim
  have hm := (mem_body_iff hlines n line).mpr hline
  have hm' := (mem_body_iff hlines' n' line').mpr hline'
  have hread : t.readBet ctx line' = t.readBet ctx line := by
    rw [← readBet_trim, htrim, readBet_trim]
  have hsame : { t.readLine ctx (n, line) with number := n' } = t.readLine ctx (n', line') := by
    simp only [Tariff.readLine, BetLine.ofReading, hread, htrim]
  refine ⟨t.readLine ctx (n, line), hs ▸ List.mem_map_of_mem hm, rfl, ?_, ?_⟩
  · rw [hsame, hs']
    exact List.mem_map_of_mem hm'
  · rw [hd (n, line) hm, hd' (n', line') hm', hread]

namespace House

theorem complete_ne_refused (h : House) (priceRate : Decimal) (text : String) (l : Layout)
    (e : SlipError) : h.complete priceRate text l ≠ .refused e := by
  intro he
  simp only [complete] at he
  split at he <;> cases he

theorem exists_cons_of_two_le {text : List Char} (h : 2 ≤ (numberedLines text).length) :
    ∃ first body, numberedLines text = first :: body ∧ body ≠ [] ∧
      headerOf? text = some (trim first.2) := by
  match hl : numberedLines text, h with
  | first :: l :: ls, _ =>
    exact ⟨first, l :: ls, rfl, List.cons_ne_nil _ _, by rw [headerOf?, hl]; rfl⟩

/-- An accepted slip with lines below its header has a line for every one of them, and its sums are
those of the lines without a fault. Any other text with the same header is accepted too, unless its
sums overflow, and the lines that both have in common come to the same. -/
theorem submit_isolates_lines (h : House) (accessible : List Station) (priceRate : Decimal)
    (text : String) (s : Submission) (hs : h.submit accessible priceRate text = .accepted s)
    (htwo : 2 ≤ (numberedLines text.toList).length) :
    s.Itemizes text.toList ∧
      ∀ text' : String, 2 ≤ (numberedLines text'.toList).length →
        headerOf? text'.toList = headerOf? text.toList →
        h.submit accessible priceRate text' = .totalOverflow ∨
          ∃ s', h.submit accessible priceRate text' = .accepted s' ∧
            Submission.Agree text.toList text'.toList s s' := by
  obtain ⟨first, body, hlines, hbody, hheader⟩ := exists_cons_of_two_le htwo
  obtain ⟨selection, hsel, htotals, hsl, hd⟩ := exists_of_submit_body hlines hbody hs
  refine ⟨Submission.itemizes_of_map_readLine hlines hsl htotals, fun text' htwo' hsame => ?_⟩
  obtain ⟨first', body', hlines', hbody', hheader'⟩ := exists_cons_of_two_le htwo'
  have hsel' : resolveHeader h.stations accessible first'.2 = .ok selection := by
    rw [hheader, hheader', Option.some.injEq] at hsame
    rw [← resolveHeader_trim, hsame, resolveHeader_trim, hsel]
  cases hresult : h.submit accessible priceRate text' with
  | refused e =>
    rw [submit_eq_of_body hlines' hbody', hsel'] at hresult
    exact absurd hresult (h.complete_ne_refused _ _ _ e)
  | totalOverflow => exact Or.inl rfl
  | accepted s' =>
    obtain ⟨selection', hsel'', -, hsl', hd'⟩ := exists_of_submit_body hlines' hbody' hresult
    obtain rfl : selection = selection' := Except.ok.inj (hsel'.symm.trans hsel'')
    exact Or.inr ⟨s', rfl, Submission.agree_of_map_readLine hlines hlines' hsl hsl' hd hd'⟩

/-- A bet with a blank line before it, and the same bet behind a line that is none. -/
theorem submit_isolates_moved_bet : ∃ s,
    (Sample.plain.house .standard).submit Sample.plain.stations .one "tp\n\n12.21dd5" = .accepted s ∧
      2 ≤ (numberedLines "tp\n\n12.21dd5".toList).length ∧
      2 ≤ (numberedLines "tp\nxx\n 12.21dd5".toList).length ∧
      headerOf? "tp\nxx\n 12.21dd5".toList = headerOf? "tp\n\n12.21dd5".toList ∧
      s.Itemizes "tp\n\n12.21dd5".toList ∧
      ((Sample.plain.house .standard).submit Sample.plain.stations .one "tp\nxx\n 12.21dd5" =
          .totalOverflow ∨
        ∃ s', (Sample.plain.house .standard).submit Sample.plain.stations .one
            "tp\nxx\n 12.21dd5" = .accepted s' ∧
          Submission.Agree "tp\n\n12.21dd5".toList "tp\nxx\n 12.21dd5".toList s s') := by
  have hsome : ((Sample.plain.house .standard).submit Sample.plain.stations .one
      "tp\n\n12.21dd5").accepted?.isSome = true := by decide +kernel
  obtain ⟨s, hs⟩ := Option.isSome_iff_exists.mp hsome
  have h := (SubmissionResult.accepted?_eq_some_iff _ s).mp hs
  have htwo : 2 ≤ (numberedLines "tp\n\n12.21dd5".toList).length := by decide +kernel
  have htwo' : 2 ≤ (numberedLines "tp\nxx\n 12.21dd5".toList).length := by decide +kernel
  have hheader : headerOf? "tp\nxx\n 12.21dd5".toList = headerOf? "tp\n\n12.21dd5".toList := by
    decide +kernel
  obtain ⟨hitems, hagree⟩ := submit_isolates_lines _ _ _ _ s h htwo
  exact ⟨s, h, htwo, htwo', hheader, hitems, hagree _ htwo' hheader⟩

end House
end LotterySlip
