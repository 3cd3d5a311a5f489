import LotterySlip.Proofs.Alias.Search
import LotterySlip.Proofs.Text.Origin

/-! What a hit makes of its line. Nothing of the line is lost between the numbers, the alias and the
amount, and the bet types that are listed are those that declare the alias. -/
namespace LotterySlip
open Text

/-- How a hit parts a line: into `front`, the folded text before the alias, the alias, the amount and
blanks. The numbers are cut off where the character begins from which the alias comes. -/
structure AliasHit.Parts (hit : AliasHit) (line front blanks : List Char) : Prop where
  fold_eq : fold line = front ++ hit.group.key ++ hit.amount ++ blanks
  amount : SpellsAmount hit.amount
  blanks : isBlankText blanks = true
  numbers : hit.numbersText <+: line
  offset : originalOffset line (byteLength front) = byteLength hit.numbersText
  folded : fold hit.numbersText <+: front
  folded_eq : ∀ before c after, line = before ++ c :: after → foldChar c ≠ [] →
    byteLength (fold before) = byteLength front → fold hit.numbersText = front

structure AliasGroup.Lists (g : AliasGroup) (betTypes : List BetType) : Prop where
  display : foldKey g.display.toList = g.key
  ne_nil : g.betTypes ≠ []
  ascending : g.betTypes.Pairwise fun i j => i < j
  lt_length : ∀ i ∈ g.betTypes, i < betTypes.length
  mem_iff : ∀ i, i ∈ g.betTypes ↔
    ∃ b, betTypes[i]? = some b ∧ ∃ a ∈ b.aliases, foldKey a.toList = g.key

theorem AliasHit.IsAt.parts {hit : AliasHit} {line : List Char} {i : Nat} (h : hit.IsAt line i) :
    ∃ blanks, hit.Parts line ((fold line).take i) blanks := by
  obtain ⟨blanks, hblanks, htext⟩ := h.stands.exists_append
  obtain ⟨glyph, hglyph, hnumbers⟩ := h.source
  have hbegin : hit.numbersText <+: line := hnumbers ▸ List.take_prefix _ _
  have hoffset : originalOffset line (byteLength ((fold line).take i)) =
      byteLength hit.numbersText := by
    rw [originalOffset_byteLength_take hglyph, hnumbers]
  have hcut : firstBytes (originalOffset line (byteLength ((fold line).take i))) line =
      hit.numbersText := by
    rw [hoffset, firstBytes_byteLength hbegin]
  have hfront := firstBytes_byteLength (List.take_prefix i (fold line))
  refine ⟨blanks, htext, h.stands.spells, hblanks, hbegin, hoffset, ?_, ?_⟩
  · have hbefore := (isBoundary_byteLength (List.take_prefix i (fold line))).prefix_fold_firstBytes
    rwa [hcut, hfront] at hbefore
  · intro before d after hsplit hd hbytes
    have hbegins : BeginsPart line (byteLength ((fold line).take i)) :=
      Or.inr ⟨before, d, after, hsplit, hd, hbytes.symm⟩
    have heq := ((beginsPart_iff_fold_firstBytes_eq line _).mp hbegins).2
    rwa [hcut, hfront] at heq

theorem AliasIndex.lists_of_mem {betTypes : List BetType} {g : AliasGroup}
    (hg : g ∈ (ofBetTypes betTypes).groups) : g.Lists betTypes where
  display := foldKey_display hg
  ne_nil := by
    obtain ⟨b, hb, hdeclares⟩ := exists_declares hg
    obtain ⟨i, hi⟩ := List.mem_iff_getElem?.mp hb
    exact List.ne_nil_of_mem ((mem_betTypes_iff hg i).mpr ⟨b, hi, hdeclares⟩)
  ascending := pairwise_betTypes hg
  lt_length := by
    intro i hi
    obtain ⟨b, hb, -⟩ := (mem_betTypes_iff hg i).mp hi
    exact (List.getElem?_eq_some_iff.mp hb).1
  mem_iff := by
    intro i
    simp only [mem_betTypes_iff hg i, BetType.declares_iff]

/-- Every hit is genuine: the line is what the hit divides it into, and the bet types are those that
declare the alias. -/
theorem AliasIndex.find?_genuine (betTypes : List BetType) (line : List Char) (hit : AliasHit)
    (h : (ofBetTypes betTypes).find? line = some hit) :
    (∃ front blanks, hit.Parts (trim line) front blanks) ∧ hit.group.key ≠ [] ∧
      hit.group.Lists betTypes := by
  obtain ⟨hg, ⟨i, hat⟩, -⟩ := find?_eq_some_iff.mp h
  obtain ⟨blanks, hparts⟩ := hat.parts
  exact ⟨⟨_, blanks, hparts⟩, key_ne_nil hg, lists_of_mem hg⟩

/-- The numbers keep a mark that the folded line is without, and both bet types of the alias are
listed. -/
theorem AliasIndex.find?_genuine_accented : ∃ betTypes hit,
    (ofBetTypes betTypes).find? " 12.3\u03014Đa\u030110".toList = some hit ∧
      hit.numbersText = "12.3\u03014".toList ∧ hit.group = ⟨"da".toList, "đá", [0, 1]⟩ ∧
      (∃ front blanks, hit.Parts (trim " 12.3\u03014Đa\u030110".toList) front blanks) ∧
      hit.group.key ≠ [] ∧ hit.group.Lists betTypes := by
  have hfind : (ofBetTypes [⟨1, "Đá", ["đá"], [], false, none, none⟩,
      ⟨2, "Đá thẳng", ["DA"], [], false, none, none⟩]).find? " 12.3\u03014Đa\u030110".toList =
        some ⟨⟨"da".toList, "đá", [0, 1]⟩, "12.3\u03014".toList, "10".toList⟩ := by
    decide +kernel
  exact ⟨_, _, hfind, rfl, rfl, find?_genuine _ _ _ hfind⟩

end LotterySlip
