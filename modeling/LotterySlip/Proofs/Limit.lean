import LotterySlip.Proofs.Applicability
import LotterySlip.Proofs.Isolation
import LotterySlip.Proofs.Number.Limit

/-! One slip under two limits. The limit stops the lines that it tells of, and all others come to the
same under a higher one. -/
namespace LotterySlip
open Text

def Finding.limit? : Finding → Option Nat
  | sequenceTooLong _ limit => some limit
  | tooManyTickets _ limit => some limit
  | _ => none

def Options.withLimit (o : Options) (m : UInt64) : Options := { o with maxExpandedNumbers := m }

namespace Tariff

def withLimit (t : Tariff) (m : UInt64) : Tariff := { t with options := t.options.withLimit m }

section Reading

variable {t : Tariff} {m : UInt64} {ctx : LineContext} {line : List Char}

theorem Names.withLimit {hit : AliasHit} {b : BetType} (h : t.Names ctx line hit b) (m : UInt64) :
    (t.withLimit m).Names ctx line hit b := ⟨h.find, h.choice⟩

/-- Under a higher limit a text of numbers is read alike, unless it is a sequence that was too long. -/
theorem ReadsNumbers.withLimit (hm : t.limit ≤ m.toNat) {text : List Char}
    {x : Except Refusal (List String)} (h : t.ReadsNumbers text x) :
    (t.withLimit m).ReadsNumbers text x ∨ ∃ f, x = .error ⟨.noValidNumbers, some f⟩ ∧
      f.limit? = some t.limit := by
  have hexpand : Number.expand t.combinations t.limit text ≠ .tooLong t.limit →
      Number.expand t.combinations m.toNat text = Number.expand t.combinations t.limit text :=
    (Number.expand_eq_or_tooLong t.combinations text hm).resolve_right
  have hkept (hr : t.refuseExpansion? text (Number.expand t.combinations t.limit text) = none) :
      Number.expand t.combinations m.toNat text = Number.expand t.combinations t.limit text := by
    refine hexpand fun hlong => ?_
    rw [hlong] at hr
    cases hr
  cases h with
  | unsupported h =>
    have h' := hexpand (by rw [h]; nofun)
    exact Or.inl (.unsupported (h'.trans h))
  | tooLong h =>
    refine Or.inr ⟨_, rfl, ?_⟩
    rw [Number.eq_of_expand_eq_tooLong h]
    rfl
  | nothing hr h =>
    refine Or.inl (.nothing ?_ ?_)
    · exact (congrArg _ (hkept hr)).trans hr
    · exact (congrArg _ (hkept hr)).trans h
  | uneven hr hn h =>
    refine Or.inl (.uneven ?_ ?_ h)
    · exact (congrArg _ (hkept hr)).trans hr
    · exact (congrArg _ (hkept hr)).trans hn
  | numbers hr hn h =>
    refine Or.inl (.numbers ?_ ?_ h)
    · exact (congrArg _ (hkept hr)).trans hr
    · exact (congrArg _ (hkept hr)).trans hn

/-- Under a higher limit a line is read alike, unless it was stopped by the limit. -/
theorem readBet_withLimit (t : Tariff) (ctx : LineContext) (line : List Char)
    (hm : t.limit ≤ m.toNat) : (t.withLimit m).readBet ctx line = t.readBet ctx line ∨
      ∃ f, t.readBet ctx line = .error ⟨.noValidNumbers, some f⟩ ∧ f.limit? = some t.limit := by
  have hreads := t.reads_readBet ctx line
  suffices h : (t.withLimit m).Reads ctx line (t.readBet ctx line) ∨
      ∃ f, t.readBet ctx line = .error ⟨.noValidNumbers, some f⟩ ∧ f.limit? = some t.limit from
    h.imp_left Reads.readBet_eq
  generalize t.readBet ctx line = x at hreads
  have hnumbers {text : List Char} {numbers : List String} (h : t.ReadsNumbers text (.ok numbers)) :
      (t.withLimit m).ReadsNumbers text (.ok numbers) :=
    (h.withLimit hm).resolve_right (by rintro ⟨f, hf, -⟩; cases hf)
  cases hreads with
  | noAlias h => exact Or.inl (.noAlias h)
  | noBetType hfind h => exact Or.inl (.noBetType hfind h)
  | noNumbers hb h =>
    rcases h.withLimit hm with h' | ⟨f, hf, hlimit⟩
    · exact Or.inl (.noNumbers (hb.withLimit m) h')
    · exact Or.inr ⟨f, congrArg _ (Except.error.inj hf), hlimit⟩
  | noAmount hb hn h => exact Or.inl (.noAmount (hb.withLimit m) (hnumbers hn) h)
  | noTickets hb hn ha h => exact Or.inr ⟨_, rfl, rfl⟩
  | noPrice hb hn ha ht h =>
    exact Or.inl (.noPrice (hb.withLimit m) (hnumbers hn) ha (Number.tickets?_mono hm ht) h)
  | bet hb hn ha ht h =>
    exact Or.inl (.bet (hb.withLimit m) (hnumbers hn) ha (Number.tickets?_mono hm ht) h)

end Reading

def betTypeOf? (t : Tariff) (stations : List Station) (line : List Char) : Option BetType :=
  (t.matchedKey? line).bind (t.offered? stations)

def EntersSequence (t : Tariff) (line : List Char) : Prop :=
  ∃ hit numbers, t.index.find? line = some hit ∧
    Number.expand t.combinations t.limit hit.numbersText = .sequence numbers

end Tariff

structure BetLine.WithinLimit (t : Tariff) (s : Selection) (l : BetLine) : Prop where
  numbers : ∀ bet, l.bet? = some bet → t.EntersSequence l.text.toList →
    bet.numbers.length ≤ t.limit
  tickets : ∀ bet b, l.bet? = some bet → t.betTypeOf? s.stations l.text.toList = some b →
    b.isPermutation = true → bet.tickets.length ≤ t.limit

/-- What becomes of a line under a higher limit. It stays as it is, unless the limit had stopped it and
the bettor was told so. -/
inductive BetLine.Raised (limit : Nat) (ds : List Diagnostic) (l l' : BetLine) : Prop
  | same (h : l' = l)
  | stopped (hnumber : l'.number = l.number) (htext : l'.text = l.text)
    (herror : l.error? = some .noValidNumbers)
    (hfinding : ∃ f, ⟨f, some l.number⟩ ∈ ds ∧ f.limit? = some limit)

namespace Tariff

theorem withinLimit_readLine (t : Tariff) (s : Selection) (priceRate : Decimal)
    (line : Nat × List Char) :
    (t.readLine (.ofSelection s priceRate) line).WithinLimit t s := by
  have htext : (t.readLine (.ofSelection s priceRate) line).text.toList = trim line.2 :=
    String.toList_ofList
  have hbet {bet : Bet} (h : (t.readLine (.ofSelection s priceRate) line).bet? = some bet) :
      ∃ hit b, t.Names (.ofSelection s priceRate) line.2 hit b ∧
        t.ReadsNumbers hit.numbersText (.ok bet.numbers) ∧
        Number.tickets? bet.numbers b.isPermutation t.limit = some bet.tickets := by
    rw [bet?_readLine] at h
    have hreads := t.reads_readBet (.ofSelection s priceRate) line.2
    rw [h] at hreads
    cases hreads with
    | bet hb hn ha ht h => exact ⟨_, _, hb, hn, ht⟩
  refine ⟨fun bet h hseq => ?_, fun bet b h hb hperm => ?_⟩
  · obtain ⟨hit, b, hnames, hn, -⟩ := hbet h
    obtain ⟨hit', ns, hfind, hexpand⟩ := hseq
    rw [find?_readLine, hnames.find] at hfind
    obtain rfl := Option.some.inj hfind
    obtain ⟨-, hnumbers, -, -⟩ := (t.readNumbers_eq_ok_iff _ _).mp ((t.readsNumbers_iff _ _).mp hn)
    rw [← hnumbers, hexpand]
    exact Number.length_le_of_expand hexpand
  · obtain ⟨hit, b', hnames, -, ht⟩ := hbet h
    have hchoice := hnames.choice
    have hregions : (LineContext.ofSelection s priceRate).regions = s.regions := rfl
    rw [hregions, chooseBetType_declares_iff] at hchoice
    rw [betTypeOf?, matchedKey?, find?_readLine, hnames.find] at hb
    obtain rfl : b' = b := Option.some.inj (hchoice.symm.trans hb)
    rw [hperm] at ht
    exact Number.length_le_of_tickets? ht

end Tariff

namespace Catalogs

/-- Under a higher limit an accepted slip is accepted with the same stations, unless its sums overflow
then, and a line stays as it is unless the limit had stopped it. Neither the numbers of a sequence nor
the tickets of a permutation bet go beyond the limit. -/
theorem submit_withLimit (c : Catalogs) (options : Options) (m : UInt64)
    (hm : options.maxExpandedNumbers ≤ m) (accessible : List Station) (priceRate : Decimal)
    (text : String) (s : Submission)
    (hs : (c.house options).submit accessible priceRate text = .accepted s) :
    ((c.house (options.withLimit m)).submit accessible priceRate text = .totalOverflow ∨
      ∃ s', (c.house (options.withLimit m)).submit accessible priceRate text = .accepted s' ∧
        s'.selection = s.selection ∧
        List.Forall₂ (BetLine.Raised options.maxExpandedNumbers.toNat s.diagnostics)
          s.lines s'.lines) ∧
    ∀ l ∈ s.lines, l.WithinLimit (c.tariff options) s.selection := by
  have hlimit : (c.tariff options).limit ≤ m.toNat := UInt64.le_iff_toNat_le.mp hm
  obtain ⟨layout, hl, hc⟩ := (House.submit_eq_accepted_iff _ _ _ _ s).mp hs
  obtain ⟨-, -, hsel, hlines, hds⟩ := (House.complete_eq_accepted_iff _ _ _ layout s).mp hc
  refine ⟨?_, fun l hl => ?_⟩
  · have hl' : (c.house (options.withLimit m)).layOut accessible (numberedLines text.toList) =
        .ok layout := (House.layOut_congr rfl accessible _).trans hl
    have hsubmit : (c.house (options.withLimit m)).submit accessible priceRate text =
        (c.house (options.withLimit m)).complete priceRate text layout := by
      rw [House.submit, hl']
    rw [hsubmit]
    cases hc' : (c.house (options.withLimit m)).complete priceRate text layout with
    | refused e => exact absurd hc' (House.complete_ne_refused _ _ _ _ e)
    | totalOverflow => exact Or.inl rfl
    | accepted s' =>
      obtain ⟨-, -, hsel', hlines', -⟩ := (House.complete_eq_accepted_iff _ _ _ layout s').mp hc'
      refine Or.inr ⟨s', rfl, hsel'.trans hsel.symm, ?_⟩
      rw [hlines, hlines', List.forall₂_map_left_iff, List.forall₂_map_right_iff, List.forall₂_same]
      intro line hline
      rcases (c.tariff options).readBet_withLimit (.ofSelection layout.selection priceRate) line.2
        hlimit with hsame | ⟨f, hf, hfl⟩
      · exact .same (congrArg (BetLine.ofReading line.1 line.2) hsame)
      · refine .stopped rfl rfl ?_ ⟨f, ?_, hfl⟩
        · exact ((c.tariff options).error?_readLine _ line _).mpr ⟨_, hf, rfl⟩
        · rw [hds, List.mem_append, House.mem_flatMap_readBody_iff]
          refine Or.inr ⟨line, hline, f, ?_, rfl⟩
          have hread : (c.house options).tariff.readBet (.ofSelection layout.selection priceRate)
              line.2 = .error ⟨.noValidNumbers, some f⟩ := hf
          rw [hread]
          exact List.mem_singleton_self f
  · rw [hlines] at hl
    obtain ⟨line, -, rfl⟩ := List.mem_map.mp hl
    rw [hsel]
    exact (c.tariff options).withinLimit_readLine layout.selection priceRate line

/-- A sequence of ten numbers is stopped at three and not at ten. -/
theorem submit_withLimit_sequence : ∃ s s',
    (Options.standard.withLimit 3).maxExpandedNumbers ≤ 10 ∧
    (Sample.plain.house (Options.standard.withLimit 3)).submit Sample.plain.stations .one
      "tp\n0/1keo9dd1\n12dd1" = .accepted s ∧
    s.lines.map BetLine.error? = [some .noValidNumbers, none] ∧
    (Sample.plain.house (Options.standard.withLimit 10)).submit Sample.plain.stations .one
      "tp\n0/1keo9dd1\n12dd1" = .accepted s' ∧
    s'.lines.map (fun l => l.numbers.length) = [10, 1] ∧ s'.selection = s.selection ∧
    List.Forall₂ (BetLine.Raised 3 s.diagnostics) s.lines s'.lines ∧
    ∀ l ∈ s.lines, l.WithinLimit (Sample.plain.tariff (Options.standard.withLimit 3)) s.selection := by
  have herrors : ((Sample.plain.house (Options.standard.withLimit 3)).submit Sample.plain.stations .one
      "tp\n0/1keo9dd1\n12dd1").accepted?.map (fun s => s.lines.map BetLine.error?) =
        some [some .noValidNumbers, none] := by decide +kernel
  have hcounts : ((Sample.plain.house (Options.standard.withLimit 10)).submit Sample.plain.stations
      .one "tp\n0/1keo9dd1\n12dd1").accepted?.map
        (fun s => s.lines.map fun l => l.numbers.length) = some [10, 1] := by decide +kernel
  obtain ⟨s, hs, hlines⟩ := Option.map_eq_some_iff.mp herrors
  obtain ⟨s', hs', hlines'⟩ := Option.map_eq_some_iff.mp hcounts
  have h := (SubmissionResult.accepted?_eq_some_iff _ s).mp hs
  have h' := (SubmissionResult.accepted?_eq_some_iff _ s').mp hs'
  have hle : (Options.standard.withLimit 3).maxExpandedNumbers ≤ 10 := by decide
  obtain ⟨hover | ⟨r, hr, hsel, hraised⟩, hbound⟩ := submit_withLimit _ _ 10 hle _ _ _ s h
  · rw [show (Options.standard.withLimit 3).withLimit 10 = Options.standard.withLimit 10 from rfl,
      h'] at hover
    cases hover
  · obtain rfl : s' = r := SubmissionResult.accepted.inj (h'.symm.trans hr)
    exact ⟨s, s', hle, h, hlines, h', hlines', hsel, hraised, hbound⟩

end Catalogs
end LotterySlip
