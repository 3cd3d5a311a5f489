import LotterySlip.Proofs.Formatted.Header
import LotterySlip.Proofs.Formatted.Line
import LotterySlip.Proofs.Submission

/-! Slips read back from what is shown of them. A slip without a fault is shown as a header and one
line a bet, and reading that gives the same stations and the same bets. -/
namespace LotterySlip
open Text

/-- The lines of a text that was put together from lines. -/
theorem numberedLines_intercalate {ls : List (List Char)} (hne : ls ≠ [])
    (hn : ∀ l ∈ ls, '\n' ∉ l) (hb : ∀ l ∈ ls, isBlankText l = false) :
    numberedLines (['\n'].intercalate ls) = (ls.zipIdx 1).map fun l => (l.2, l.1) := by
  rw [numberedLines, List.splitOn_intercalate '\n' hn hne, List.filter_eq_self]
  intro l hl
  obtain ⟨p, hp, rfl⟩ := List.mem_map.mp hl
  have hm : p.1 ∈ ls := List.fst_mem_of_mem_zipIdx hp
  simp [hb p.1 hm]

theorem isBlankText_of_resolveHeader {catalog accessible : List Station} {header : List Char}
    {s : Selection} (h : resolveHeader catalog accessible header = .ok s) :
    isBlankText header = false := by
  rw [← Bool.not_eq_true, ← trim_eq_nil_iff]
  intro he
  rw [resolveHeader, he] at h
  cases h

theorem House.exists_resolveHeader_of_layOut {h : House} {accessible : List Station}
    {lines : List (Nat × List Char)} {l : Layout} (hl : h.layOut accessible lines = .ok l) :
    ∃ header, resolveHeader h.stations accessible header = .ok l.selection := by
  -- A slip of one line may be divided further, and its header is then a part of that line.
  unfold layOut at hl
  split at hl
  · cases hl
  · obtain ⟨found, hfound, rfl⟩ := map_eq_ok_iff.mp hl
    obtain ⟨header, hh⟩ := exists_resolveHeader_of_resolveSingle hfound
    refine ⟨header, ?_⟩
    rw [hh, layoutSingle]
    split <;> rfl
  · obtain ⟨s, hs, rfl⟩ := map_eq_ok_iff.mp hl
    exact ⟨_, hs⟩

/-- A header and lines below it are divided as they were put together, also if there are none. -/
theorem House.layOut_cons {h : House} {accessible : List Station} {header : List Char}
    {s : Selection} (hs : resolveHeader h.stations accessible header = .ok s)
    (body : List (Nat × List Char)) :
    h.layOut accessible ((1, header) :: body) = .ok ⟨1, s, body, []⟩ := by
  cases body with
  | nil =>
    have hsingle : resolveSingle h.stations accessible header = .ok (s, []) := by
      rw [resolveSingle, hs]
    rw [layOut, hsingle]
    rfl
  | cons b body => simp [layOut, hs, Except.map]

theorem Submission.toList_formatted (s : Submission) : s.formatted.toList =
    ['\n'].intercalate (s.selection.describe.toList :: s.lines.map fun l => l.render.toList) := by
  rw [formatted, String.toList_intercalate, List.map_cons, List.map_map]
  rfl

def Submission.shownBody (s : Submission) : List (Nat × List Char) :=
  ((s.lines.map fun l => l.render.toList).zipIdx 2).map fun p => (p.2, p.1)

theorem LineContext.ofSelection_withRepeated (s : Selection) (repeated : List String)
    (priceRate : Decimal) :
    ofSelection (s.withRepeated repeated) priceRate = ofSelection s priceRate := by
  cases s <;> rfl

theorem BetLine.exists_of_isValid {l : BetLine} (h : l.isValid = true) :
    ∃ bet, l.outcome = .ok bet := by
  cases ho : l.outcome with
  | ok bet => exact ⟨bet, rfl⟩
  | error e => simp [isValid, error?, ho] at h

theorem BetLine.Same.isValid {l m : BetLine} (h : l.Same m) : l.isValid = true := by
  obtain ⟨a, b, ha, -, -⟩ := h
  rw [BetLine.isValid, error?, ha]
  rfl

theorem forall₂_map_zipIdx {α β γ : Type} {R : γ → α → Prop} {f : Nat × β → γ} {g : α → β}
    {as : List α} (k : Nat) (h : ∀ a ∈ as, ∀ i, R (f (i, g a)) a) :
    List.Forall₂ R ((((as.map g).zipIdx k).map fun p => (p.2, p.1)).map f) as := by
  induction as generalizing k with
  | nil => exact .nil
  | cons a as ih =>
    rw [List.map_cons, List.zipIdx_cons, List.map_cons, List.map_cons]
    exact .cons (h a List.mem_cons_self k) (ih (k + 1) fun b hb => h b (List.mem_cons_of_mem a hb))

theorem map_eq_map_of_forall₂ {α β : Type} {f : α → β} {as bs : List α}
    (h : List.Forall₂ (fun a b => f a = f b) as bs) : as.map f = bs.map f := by
  induction h with
  | nil => rfl
  | cons hab _ ih => rw [List.map_cons, List.map_cons, hab, ih]

theorem any_not_isValid_of_forall₂ {ls ms : List BetLine} (h : List.Forall₂ BetLine.Same ls ms) :
    (ls.any fun l => !l.isValid) = false := by
  induction h with
  | nil => rfl
  | cons hlm _ ih => rw [List.any_cons, hlm.isValid, ih]; rfl

/-- Every line of a slip without a fault is a bet that was read. -/
theorem House.exists_readBet_of_complete {h : House} {priceRate : Decimal} {text : String}
    {l : Layout} {s : Submission} (hc : h.complete priceRate text l = .accepted s)
    (hok : s.hasErrors = false) : ∀ x ∈ s.lines, ∃ line bet,
      h.tariff.readBet (.ofSelection s.selection priceRate) line = .ok bet ∧
        x.outcome = .ok bet := by
  obtain ⟨-, -, hsel, hlines, -⟩ := (h.complete_eq_accepted_iff priceRate text l s).mp hc
  intro x hx
  have hvalid : x.isValid = true := by simpa using List.any_eq_false.mp hok x hx
  obtain ⟨bet, hb⟩ := BetLine.exists_of_isValid hvalid
  rw [hlines] at hx
  obtain ⟨b, -, rfl⟩ := List.mem_map.mp hx
  rw [hsel]
  exact ⟨b.2, bet, (Tariff.outcome_readLine _ _ _ _).mp hb, hb⟩

structure Submission.Same (s' s : Submission) : Prop where
  stations : s'.selection.stations = s.selection.stations
  region : s'.selection.region? = s.selection.region?
  requestedCount : s'.selection.requestedCount = s.selection.requestedCount
  lines : List.Forall₂ BetLine.Same s'.lines s.lines
  totalStake : s'.totalStake.value = s.totalStake.value
  totalPrize : s'.totalPrize.value = s.totalPrize.value
  formatted : s'.formatted = s.formatted

/-- Whether every slip without a fault is read back from what is shown of it: without a fault again,
on the same stations, with the same bets, and to be shown alike. -/
def House.RoundTrips (h : House) (accessible : List Station) : Prop :=
  ∀ priceRate text s, h.submit accessible priceRate text = .accepted s → s.hasErrors = false →
    ∃ s', h.submit accessible priceRate s.formatted = .accepted s' ∧ s'.hasErrors = false ∧
      s'.Same s

/-- What is shown falls into the header and the lines of which it was put together. -/
theorem House.layOut_formatted {h : House} {accessible : List Station} {s : Submission}
    {selection : Selection} (hlines : ∀ l ∈ s.lines,
      '\n' ∉ l.render.toList ∧ isBlankText l.render.toList = false)
    (hheader : '\n' ∉ s.selection.describe.toList)
    (hagain : resolveHeader h.stations accessible s.selection.describe.toList = .ok selection) :
    h.layOut accessible (numberedLines s.formatted.toList) =
      .ok ⟨1, selection, s.shownBody, []⟩ := by
  have htexts : ∀ x ∈ s.selection.describe.toList :: s.lines.map (fun l => l.render.toList),
      '\n' ∉ x ∧ isBlankText x = false := by
    rintro x (_ | ⟨_, hx⟩)
    · exact ⟨hheader, isBlankText_of_resolveHeader hagain⟩
    · obtain ⟨l, hl, rfl⟩ := List.mem_map.mp hx
      exact hlines l hl
  rw [s.toList_formatted, numberedLines_intercalate (List.cons_ne_nil _ _)
    (fun x hx => (htexts x hx).1) (fun x hx => (htexts x hx).2), List.zipIdx_cons, List.map_cons]
  exact House.layOut_cons hagain _

/-- Line by line the same bets are read again. -/
theorem Tariff.Legible.forall₂_readLine_shownBody {t : Tariff} (ht : t.Legible) {ctx : LineContext}
    {s : Submission}
    (hbet : ∀ x ∈ s.lines, ∃ line bet, t.readBet ctx line = .ok bet ∧ x.outcome = .ok bet) :
    List.Forall₂ (fun x' x => BetLine.Same x' x ∧ x'.render = x.render)
      (s.shownBody.map (t.readLine ctx)) s.lines := by
  apply forall₂_map_zipIdx
  intro x hx i
  obtain ⟨line, bet, hread, hout⟩ := hbet x hx
  exact ht.readLine_render hread hout i

theorem House.roundTrips {h : House} {accessible : List Station}
    (hstations : LegibleStations h.stations accessible) (htariff : h.tariff.Legible) :
    h.RoundTrips accessible := by
  intro priceRate text s hs hok
  obtain ⟨l, hl, hc⟩ := (h.submit_eq_accepted_iff accessible priceRate text s).mp hs
  obtain ⟨htotals, -, hsel, -⟩ := (h.complete_eq_accepted_iff priceRate text l s).mp hc
  obtain ⟨header, hheader⟩ := House.exists_resolveHeader_of_layOut hl
  rw [← hsel] at hheader
  obtain ⟨repeated, hagain⟩ := hstations.resolveHeader_describe hheader
  have hbet := House.exists_readBet_of_complete hc hok
  have hshown : ∀ x ∈ s.lines, '\n' ∉ x.render.toList ∧ isBlankText x.render.toList = false := by
    intro x hx
    obtain ⟨line, bet, hread, hout⟩ := hbet x hx
    exact BetLine.toList_render_of_ok hout ▸ htariff.shown_isLine hread
  have hlayout := House.layOut_formatted hshown (hstations.newline_notMem_describe hheader) hagain
  have hsame := htariff.forall₂_readLine_shownBody hbet
  have hlines := hsame.imp fun _ _ hx => hx.1
  have hrender := map_eq_map_of_forall₂ (hsame.imp fun _ _ hx => hx.2)
  obtain ⟨stake, prize, htotals', hstake, hprize⟩ := totals?_congr hlines htotals
  refine ⟨⟨s.formatted, s.selection.withRepeated repeated,
    s.shownBody.map (h.tariff.readLine (.ofSelection s.selection priceRate)), stake, prize, _⟩,
    (h.submit_eq_accepted_iff _ _ _ _).mpr ⟨_, hlayout,
      (h.complete_eq_accepted_iff _ _ _ _).mpr ⟨htotals', rfl, rfl, ?_, rfl⟩⟩,
    any_not_isValid_of_forall₂ hlines, ?_⟩
  · rw [LineContext.ofSelection_withRepeated]
  · refine ⟨s.selection.stations_withRepeated repeated, s.selection.region?_withRepeated repeated,
      s.selection.requestedCount_withRepeated repeated, hlines, hstake, hprize, ?_⟩
    rw [Submission.formatted, Submission.formatted, hrender,
      s.selection.describe_withRepeated repeated]

end LotterySlip
