import LotterySlip.Proofs.Line
import LotterySlip.Proofs.Text.Spelling
import LotterySlip.Sample

/-! Lines spelled otherwise come to the same. The alias is found in the folded line, and the numbers
before it are taken from the line as it stands; there the spelling makes no difference either. -/
namespace LotterySlip
open Text

section Alike

variable {α β γ : Type} {r : β → γ → Prop}

theorem rel_getElem? {l : List β} {l' : List γ} (h : List.Forall₂ r l l') (i : Nat) :
    Option.Rel r l[i]? l'[i]? := by
  induction h generalizing i with
  | nil => exact .none
  | cons hr _ ih =>
    cases i with
    | zero => exact .some hr
    | succ i => exact ih i

theorem rel_findSome? {f : α → Option β} {g : α → Option γ} (h : ∀ a, Option.Rel r (f a) (g a))
    (l : List α) : Option.Rel r (l.findSome? f) (l.findSome? g) := by
  induction l with
  | nil => exact .none
  | cons a l ih =>
    have ha := h a
    rw [List.findSome?_cons, List.findSome?_cons]
    generalize f a = x, g a = y at ha ⊢
    cases ha with
    | none => exact ih
    | some hr => exact .some hr

end Alike

structure AliasHit.Alike (hit hit' : AliasHit) : Prop where
  group : hit'.group = hit.group
  numbersText : Respelled hit.numbersText hit'.numbersText
  amount : hit'.amount = hit.amount

theorem AliasGroup.alike_find? (g : AliasGroup) {line line' : List Char} {folded folded' : List Glyph}
    (h : List.Forall₂ (GlyphAlike line line') folded folded') :
    Option.Rel AliasHit.Alike (g.find? line folded) (g.find? line' folded') := by
  have htext : folded'.map Glyph.char = folded.map Glyph.char := by
    induction h with
    | nil => rfl
    | cons hg _ ih => rw [List.map_cons, List.map_cons, hg.char, ih]
  simp only [find?, htext]
  apply rel_findSome?
  intro i
  cases lastAmount? ((folded.map Glyph.char).drop (i + g.key.length)) with
  | none => exact .none
  | some amount =>
    have hglyph := rel_getElem? h i
    generalize folded[i]? = x, folded'[i]? = y at hglyph ⊢
    cases hglyph with
    | none => exact .none
    | some hg => exact .some ⟨rfl, hg.front, rfl⟩

theorem AliasIndex.alike_find? (index : AliasIndex) {line line' : List Char}
    (h : Respelled line line') : Option.Rel AliasHit.Alike (index.find? line) (index.find? line') :=
  rel_findSome? (fun g => g.alike_find? h.trim.forall₂_glyphs) index.groups

namespace Number

theorem isSeparator_of_isLetter {c : Char} (h : isLetter c = true) : isSeparator c = false := by
  have hne {d : Char} (hd : isLetter d = false) : c ≠ d := by
    rintro rfl
    rw [h] at hd
    cases hd
  have hpoint : c ≠ '.' := hne (by decide +kernel)
  have hcomma : c ≠ ',' := hne (by decide +kernel)
  have hdash : c ≠ '-' := hne (by decide +kernel)
  simp [isSeparator, isBlank_of_isLetter h, hpoint, hcomma, hdash]

theorem listed_of_isLetter {cs : List Char} {c : Char} (hc : c ∈ cs) (h : isLetter c = true) :
    listed cs = [] :=
  listed_eq_nil_of_mem hc (isSeparator_of_isLetter h) (isDigit_of_isLetter h)

/-- A text that can be spelled otherwise is no list of numbers. -/
theorem eq_or_exists_isLetter {l l' : List Char} (h : Respelled l l') :
    l' = l ∨ (∃ c ∈ l, isLetter c = true) ∧ ∃ c ∈ l', isLetter c = true := by
  induction h with
  | nil => exact Or.inl rfl
  | keep c _ ih =>
    rcases ih with rfl | ⟨⟨d, hd, hl⟩, e, he, hl'⟩
    · exact Or.inl rfl
    · exact Or.inr ⟨⟨d, List.mem_cons_of_mem c hd, hl⟩, e, List.mem_cons_of_mem c he, hl'⟩
  | vary hc _ _ _ =>
    exact Or.inr ⟨⟨_, List.mem_cons_self, hc.left⟩, _, List.mem_cons_self, hc.right⟩

theorem listed_of_respelled {l l' : List Char} (h : Respelled l l') : listed l' = listed l := by
  rcases eq_or_exists_isLetter h with rfl | ⟨⟨c, hc, hl⟩, d, hd, hl'⟩
  · rfl
  · rw [listed_of_isLetter hc hl, listed_of_isLetter hd hl']

theorem expand_of_respelled (combinations : List Combination) (limit : Nat) {l l' : List Char}
    (h : Respelled l l') : expand combinations limit l' = expand combinations limit l := by
  have hlist : expandList (trim l') = expandList (trim l) := by
    rw [expandList, listed_of_respelled h.trim, ← expandList]
  have hform : expandForm (trim l') limit = expandForm (trim l) limit := by
    rw [expandForm, h.trim.foldKey_eq, hlist, ← expandForm]
  have hempty : (trim l').isEmpty = (trim l).isEmpty := by
    rw [Bool.eq_iff_iff, List.isEmpty_iff, List.isEmpty_iff, h.trim.eq_nil_iff]
  simp only [expand, hempty, h.trim.foldKey_eq, hform]

end Number

/-- Findings about a line and the line spelled otherwise: the same, except that a sequence is quoted
as it is spelled. -/
inductive Finding.Alike : Finding → Finding → Prop
  | same (f : Finding) : Finding.Alike f f
  | sequence {cs cs' : List Char} (limit : Nat) : Respelled cs cs' →
      Finding.Alike (.sequenceTooLong (String.ofList cs) limit)
        (.sequenceTooLong (String.ofList cs') limit)

theorem Finding.Alike.code_eq {f f' : Finding} (h : f.Alike f') : f'.code = f.code := by
  cases h <;> rfl

theorem Finding.map_code_of_alike {fs fs' : List Finding} (h : List.Forall₂ Finding.Alike fs fs') :
    fs'.map Finding.code = fs.map Finding.code := by
  induction h with
  | nil => rfl
  | cons hf _ ih => rw [List.map_cons, List.map_cons, hf.code_eq, ih]

structure Refusal.Alike (r r' : Refusal) : Prop where
  cause : r'.cause = r.cause
  finding : Option.Rel Finding.Alike r.finding r'.finding

inductive ReadAlike {α : Type} : Except Refusal α → Except Refusal α → Prop
  | ok (a : α) : ReadAlike (.ok a) (.ok a)
  | error {r r' : Refusal} : r.Alike r' → ReadAlike (.error r) (.error r')

theorem Refusal.Alike.refl (r : Refusal) : r.Alike r := by
  refine ⟨rfl, ?_⟩
  cases r.finding with
  | none => exact .none
  | some f => exact .some (.same f)

namespace ReadAlike

variable {α β : Type}

theorem refl (x : Except Refusal α) : ReadAlike x x := by
  cases x with
  | ok a => exact ok a
  | error r => exact error (.refl r)

theorem bind {x x' : Except Refusal α} {f f' : α → Except Refusal β} (h : ReadAlike x x')
    (hf : ∀ a, ReadAlike (f a) (f' a)) : ReadAlike (x >>= f) (x' >>= f') := by
  cases h with
  | ok a => exact hf a
  | error hr => exact error hr

theorem mapError_eq {x x' : Except Refusal α} (h : ReadAlike x x') :
    x'.mapError (fun r => r.cause) = x.mapError fun r => r.cause := by
  cases h with
  | ok a => rfl
  | error hr => simp only [Except.mapError, hr.cause]

end ReadAlike

theorem ReadAlike.readingFindings {x x' : Except Refusal Bet} (h : ReadAlike x x') :
    List.Forall₂ Finding.Alike (readingFindings x) (readingFindings x') := by
  cases h with
  | ok b => exact .nil
  | @error r r' hr =>
    have hfinding := hr.finding
    simp only [LotterySlip.readingFindings]
    generalize r.finding = x, r'.finding = y at hfinding ⊢
    cases hfinding with
    | none => exact .nil
    | some hf => exact .cons hf .nil

namespace Tariff

variable (t : Tariff) (ctx : LineContext)

theorem alike_refuseExpansion? {text text' : List Char} (h : Respelled text text')
    (e : Number.Expansion) :
    Option.Rel Refusal.Alike (t.refuseExpansion? text e) (t.refuseExpansion? text' e) := by
  cases e with
  | unsupported name method => exact .some (.refl _)
  | tooLong limit => exact .some ⟨rfl, .some (.sequence limit h.trim)⟩
  | combination | sequence | literal | empty => exact .none

theorem alike_readNumbers {text text' : List Char} (h : Respelled text text') :
    ReadAlike (t.readNumbers text) (t.readNumbers text') := by
  have hrefuse := t.alike_refuseExpansion? h (Number.expand t.combinations t.limit text)
  simp only [readNumbers, Number.expand_of_respelled t.combinations t.limit h]
  generalize t.refuseExpansion? text (Number.expand t.combinations t.limit text) = x,
    t.refuseExpansion? text' (Number.expand t.combinations t.limit text) = y at hrefuse ⊢
  cases hrefuse with
  | none => exact .refl _
  | some hr => exact .error hr

theorem alike_readHit {hit hit' : AliasHit} (h : hit.Alike hit') :
    ReadAlike (t.readHit ctx hit) (t.readHit ctx hit') := by
  simp only [readHit, h.group, h.amount]
  exact .bind (.refl _) fun b => .bind (t.alike_readNumbers h.numbersText) fun numbers => .refl _

theorem alike_readBet {line line' : List Char} (h : Respelled line line') :
    ReadAlike (t.readBet ctx line) (t.readBet ctx line') := by
  have hfind := t.index.alike_find? h
  simp only [readBet]
  generalize t.index.find? line = x, t.index.find? line' = y at hfind ⊢
  cases hfind with
  | none => exact .refl _
  | some hh => exact t.alike_readHit ctx hh

/-- A line spelled otherwise is shown as it stands and comes to the same in all else. There is the same
to tell about it. -/
theorem readLine_of_respelled (number : Nat) {line line' : List Char} (h : Respelled line line') :
    t.readLine ctx (number, line') =
        { t.readLine ctx (number, line) with text := String.ofList (trim line') } ∧
      List.Forall₂ Finding.Alike (readingFindings (t.readBet ctx line))
        (readingFindings (t.readBet ctx line')) ∧
      (readingFindings (t.readBet ctx line')).map Finding.code =
        (readingFindings (t.readBet ctx line)).map Finding.code := by
  have hread := t.alike_readBet ctx h
  refine ⟨?_, hread.readingFindings, Finding.map_code_of_alike hread.readingFindings⟩
  simp only [readLine, BetLine.ofReading, hread.mapError_eq]

/-- A sequence with a mark behind a letter, and an alias with a barred letter. -/
theorem readLine_accented :
    Respelled "1/3keo9dd5".toList "1/3ke\u0301o9Đd5".toList ∧
      ((Sample.plain.tariff .standard).readLine (.plain 1 .one) (1, "1/3keo9dd5".toList)).numbers =
        ["1", "3", "5", "7", "9"] ∧
      (Sample.plain.tariff .standard).readLine (.plain 1 .one) (1, "1/3ke\u0301o9Đd5".toList) =
        { (Sample.plain.tariff .standard).readLine (.plain 1 .one) (1, "1/3keo9dd5".toList) with
          text := String.ofList (trim "1/3ke\u0301o9Đd5".toList) } := by
  have hl : "1/3keo9dd5".toList = ['1', '/', '3', 'k', 'e', 'o', '9', 'd', 'd', '5'] := by
    decide +kernel
  have hl' : "1/3ke\u0301o9Đd5".toList =
      ['1', '/', '3', 'k', 'e', '\u0301', 'o', '9', 'Đ', 'd', '5'] := by decide +kernel
  have he : SameLetter 'e' 'e' := by decide +kernel
  have hd : SameLetter 'd' 'Đ' := by decide +kernel
  have hacute : isMark '\u0301' = true :=
    List.any_eq_true.mpr ⟨(0x0300, 0x036F), List.mem_cons_self, by decide⟩
  have hmark : ∀ m ∈ ['\u0301'], isMark m = true := by simpa using hacute
  have h : Respelled "1/3keo9dd5".toList "1/3ke\u0301o9Đd5".toList := by
    rw [hl, hl']
    exact .keep '1' <| .keep '/' <| .keep '3' <| .keep 'k' <| .vary he hmark <| .keep 'o' <|
      .keep '9' <| .replace hd <| .refl ['d', '5']
  exact ⟨h, by decide +kernel, (readLine_of_respelled _ _ 1 h).1⟩

end Tariff
end LotterySlip
