import LotterySlip.Proofs.Document.Json.Scalar

/-! Documents survive being written as JSON, as long as their whole numbers have 64 bits and the members
of an object have different names. -/
namespace LotterySlip.Json
open Text

inductive IsJson : Document → Prop
  | null : IsJson .null
  | bool (b : Bool) : IsJson (.bool b)
  | int {i : Int} (h : IsWhole i) : IsJson (.int i)
  | text (s : String) : IsJson (.text s)
  | list {items : List Document} (h : ∀ d ∈ items, IsJson d) : IsJson (.list items)
  | object {members : List (String × Document)} (names : (members.map fun m => m.1).Nodup)
    (h : ∀ m ∈ members, IsJson m.2) : IsJson (.object members)

def chars (d : Document) : List Char := (compact d).toList

def memberChars (m : String × Document) : List Char := (quote m.1).toList ++ ':' :: chars m.2

theorem compactItems_eq (items : List Document) : compactItems items = items.map compact := by
  induction items with
  | nil => rfl
  | cons d ds ih => rw [compactItems, ih, List.map_cons]

theorem compactMembers_eq (members : List (String × Document)) :
    compactMembers members = members.map fun m => quote m.1 ++ ":" ++ compact m.2 := by
  induction members with
  | nil => rfl
  | cons m ms ih => rw [compactMembers, ih, List.map_cons]

theorem intercalate_map_singleton {α : Type} (f : α → List Char) (a : α) :
    [','].intercalate ([a].map f) = f a := List.intercalate_singleton

theorem intercalate_map_cons_cons {α : Type} (f : α → List Char) (a b : α) (cs : List α) :
    [','].intercalate ((a :: b :: cs).map f) =
      f a ++ ',' :: [','].intercalate ((b :: cs).map f) := by
  rw [List.map_cons, List.map_cons, List.intercalate_cons_cons, List.append_assoc,
    List.singleton_append]

/-- What is written with commas begins as its first part does. -/
theorem exists_intercalate_map_cons {α : Type} {f : α → List Char} {a : α} {c : Char}
    {cs : List Char} (h : f a = c :: cs) (as : List α) :
    ∃ tail, [','].intercalate ((a :: as).map f) = c :: tail := by
  cases as with
  | nil => exact ⟨cs, (intercalate_map_singleton f a).trans h⟩
  | cons b bs =>
    rw [intercalate_map_cons_cons, h]
    exact ⟨_, rfl⟩

theorem chars_list (items : List Document) :
    chars (.list items) = '[' :: ([','].intercalate (items.map chars) ++ [']']) := by
  rw [chars, compact, compactItems_eq, String.toList_append, String.toList_append,
    String.toList_intercalate, List.map_map]
  rfl

theorem chars_object (members : List (String × Document)) :
    chars (.object members) = '\x7b' :: ([','].intercalate (members.map memberChars) ++ ['\x7d']) := by
  have hmember : (String.toList ∘ fun m : String × Document => quote m.1 ++ ":" ++ compact m.2) =
      memberChars := by
    funext m
    rw [Function.comp_apply, String.toList_append, String.toList_append, List.append_assoc]
    rfl
  rw [chars, compact, compactMembers_eq, String.toList_append, String.toList_append,
    String.toList_intercalate, List.map_map, hmember]
  rfl

theorem skipSpace_cons {c : Char} (h : isSpace c = false) (cs : List Char) :
    skipSpace (c :: cs) = c :: cs := by
  rw [skipSpace, List.dropWhile_cons_of_neg (by simp [h])]

theorem value?_text (size : Nat) (cs : List Char) : value? (size + 1) ('"' :: cs) =
    (stringBody size cs).map fun r => (.text (String.ofList r.1), r.2) := by
  rw [value?.eq_def]
  rfl

theorem value?_list_nil (size : Nat) (cs : List Char) :
    value? (size + 1) ('[' :: ']' :: cs) = some (.list [], cs) := by
  rw [value?.eq_def]
  rfl

theorem value?_object_nil (size : Nat) (cs : List Char) :
    value? (size + 1) ('\x7b' :: '\x7d' :: cs) = some (.object [], cs) := by
  rw [value?.eq_def]
  rfl

theorem value?_object (size : Nat) (cs : List Char) : value? (size + 1) ('\x7b' :: '"' :: cs) =
    (members? size [] ('"' :: cs)).map fun r => (.object r.1, r.2) := by
  rw [value?.eq_def]
  rfl

theorem value?_list {c : Char} (hspace : isSpace c = false) (hc : c ≠ ']') (size : Nat)
    (cs : List Char) : value? (size + 1) ('[' :: c :: cs) =
      (items? size (c :: cs)).map fun r => (.list r.1, r.2) := by
  have hopen : skipSpace ('[' :: c :: cs) = '[' :: c :: cs := skipSpace_cons rfl _
  rw [value?.eq_def]
  simp only [hopen, skipSpace_cons hspace]
  split
  · next h =>
    cases h
    exact absurd rfl hc
  · rfl

theorem value?_bare {c : Char} (hspace : isSpace c = false) (hc : c ∉ ['"', '[', '\x7b']) (size : Nat)
    (cs : List Char) : value? (size + 1) (c :: cs) =
      (bare? (c :: cs)).map fun r => (.scalar r.1, r.2) := by
  rw [value?.eq_def]
  simp only [skipSpace_cons hspace]
  split
  · next h =>
    cases h
    exact absurd List.mem_cons_self hc
  · next h =>
    cases h
    exact absurd (List.mem_cons_of_mem _ List.mem_cons_self) hc
  · next h =>
    cases h
    exact absurd (List.mem_cons_of_mem _ (List.mem_cons_of_mem _ List.mem_cons_self)) hc
  · rfl

theorem items?_last {size : Nat} {cs rest : List Char} {d : Document}
    (h : value? size cs = some (d, ']' :: rest)) : items? (size + 1) cs = some ([d], rest) := by
  rw [items?.eq_def]
  simp only [h]
  rfl

theorem items?_next {size : Nat} {cs rest : List Char} {d : Document}
    (h : value? size cs = some (d, ',' :: rest)) :
    items? (size + 1) cs = (items? size rest).map fun r => (d :: r.1, r.2) := by
  rw [items?.eq_def]
  simp only [h]
  rfl

theorem members?_last {size : Nat} {cs behind rest : List Char} {before : List (String × Document)}
    {name : List Char} {d : Document} (hname : stringBody size cs = some (name, ':' :: behind))
    (h : value? size behind = some (d, '\x7d' :: rest)) :
    members? (size + 1) before ('"' :: cs) =
      some (putMember (String.ofList name) d before, rest) := by
  have hquote : skipSpace ('"' :: cs) = '"' :: cs := skipSpace_cons rfl _
  have hcolon : after? [':'] (skipSpace (':' :: behind)) = some behind := rfl
  rw [members?.eq_def]
  simp only [hquote, hname, Option.bind_eq_bind, Option.bind_some, hcolon, h]
  rfl

theorem members?_next {size : Nat} {cs behind rest : List Char} {before : List (String × Document)}
    {name : List Char} {d : Document} (hname : stringBody size cs = some (name, ':' :: behind))
    (h : value? size behind = some (d, ',' :: rest)) :
    members? (size + 1) before ('"' :: cs) =
      members? size (putMember (String.ofList name) d before) rest := by
  have hquote : skipSpace ('"' :: cs) = '"' :: cs := skipSpace_cons rfl _
  have hcolon : after? [':'] (skipSpace (':' :: behind)) = some behind := rfl
  rw [members?.eq_def]
  simp only [hquote, hname, Option.bind_eq_bind, Option.bind_some, hcolon, h]
  rfl

theorem after?_eq_none {c d : Char} (h : d ≠ c) (ds cs : List Char) :
    after? (d :: ds) (c :: cs) = none := by
  rw [after?, List.isPrefixOf?, beq_eq_false_iff_ne.mpr h]
  rfl

/-- What begins like no word is a number. -/
theorem bare?_of_notMem {c : Char} (hc : c ∉ ['n', 't', 'f']) (cs : List Char) :
    bare? (c :: cs) = number? (c :: cs) := by
  have hword {d : Char} (ds : List Char) (hd : d ∈ ['n', 't', 'f']) :
      after? (d :: ds) (c :: cs) = none := by
    apply after?_eq_none
    rintro rfl
    exact hc hd
  have hnone : (literals.findSome? fun l => (after? l.1 (c :: cs)).map fun rest => (l.2, rest)) =
      none := by
    rw [List.findSome?_eq_none_iff]
    intro l hl
    rw [Option.map_eq_none_iff]
    simp only [literals, List.mem_cons, List.not_mem_nil, or_false] at hl
    rcases hl with rfl | rfl | rfl <;> exact hword _ (by decide)
  rw [bare?, hnone, Option.none_or]

def ReadsBack (d : Document) : Prop :=
  ∀ size rest, (chars d).length < size → (∀ c ∈ rest.head?, continuesNumber c = false) →
    value? size (chars d ++ rest) = some (d, rest)

theorem isSpace_eq_false {c : Char} (h : c ∉ [' ', '\t', '\n', '\r']) : isSpace c = false := by
  simp only [List.mem_cons, List.not_mem_nil, or_false, not_or] at h
  simp only [isSpace, Bool.or_eq_false_iff, beq_eq_false_iff_ne]
  exact ⟨⟨⟨h.1, h.2.1⟩, h.2.2.1⟩, h.2.2.2⟩

theorem exists_chars_int (i : Int) : ∃ c cs, chars (.int i) = c :: cs ∧
    ∀ ds : List Char, ds.all (fun d => d != '-' && !d.isDigit) = true → c ∉ ds := by
  have hchars : chars (.int i) = (if i < 0 then ['-'] else []) ++ numeral i.natAbs :=
    toList_toString_int i
  obtain ⟨d, ds, hds⟩ := List.exists_cons_of_ne_nil (numeral_ne_nil i.natAbs)
  have hdigit : d.isDigit = true := isDigit_of_mem_numeral (hds ▸ List.mem_cons_self)
  rw [hchars]
  by_cases hneg : i < 0
  · rw [if_pos hneg]
    refine ⟨_, _, rfl, fun ds h hmem => ?_⟩
    simpa using List.all_eq_true.mp h _ hmem
  · rw [if_neg hneg, List.nil_append, hds]
    refine ⟨d, ds, rfl, fun ds h hmem => ?_⟩
    simpa [hdigit] using List.all_eq_true.mp h _ hmem

theorem readsBack_int {i : Int} (h : IsWhole i) : ReadsBack (.int i) := by
  intro size rest hsize hrest
  obtain ⟨size, rfl⟩ := exists_size hsize
  have hnumber : number? (chars (.int i) ++ rest) = some (.int i, rest) := number?_toString h hrest
  obtain ⟨c, cs, hcs, hc⟩ := exists_chars_int i
  rw [hcs, List.cons_append] at hnumber ⊢
  rw [value?_bare (isSpace_eq_false (hc _ rfl)) (hc _ rfl), bare?_of_notMem (hc _ rfl), hnumber]
  rfl

theorem readsBack_text (s : String) : ReadsBack (.text s) := by
  intro size rest hsize _
  obtain ⟨size, rfl⟩ := exists_size hsize
  have hchars : chars (.text s) = '"' :: (s.toList.flatMap escapeChar ++ ['"']) := toList_quote s
  have hle := length_le_flatMap_escapeChar s.toList
  rw [hchars, List.length_cons, List.length_append, List.length_singleton] at hsize
  rw [hchars, List.cons_append, List.append_assoc, List.singleton_append, value?_text,
    stringBody_flatMap _ _ _ (by omega), Option.map_some, String.ofList_toList]

theorem items?_intercalate {d : Document} {ds : List Document} (h : ∀ e ∈ d :: ds, ReadsBack e)
    (size : Nat) (rest : List Char)
    (hsize : ([','].intercalate ((d :: ds).map chars)).length + 1 < size) :
    items? size ([','].intercalate ((d :: ds).map chars) ++ ']' :: rest) = some (d :: ds, rest) := by
  -- What stands behind an item is a comma or the end of the list, and no number goes on with it.
  induction ds generalizing d size with
  | nil =>
    obtain ⟨size, rfl⟩ := exists_size hsize
    rw [intercalate_map_singleton] at hsize ⊢
    apply items?_last
    exact h d List.mem_cons_self size _ (by omega) (not_continuesNumber_cons rfl _)
  | cons e es ih =>
    obtain ⟨size, rfl⟩ := exists_size hsize
    rw [intercalate_map_cons_cons, List.length_append, List.length_cons] at hsize
    rw [intercalate_map_cons_cons, List.append_assoc, List.cons_append, items?_next
      (h d List.mem_cons_self size _ (by omega) (not_continuesNumber_cons rfl _)),
      ih (fun f hf => h f (List.mem_cons_of_mem d hf)) size (by omega)]
    rfl

/-- A value begins neither with a blank nor with the end of a list. -/
theorem IsJson.exists_chars {d : Document} (h : IsJson d) :
    ∃ c cs, chars d = c :: cs ∧ isSpace c = false ∧ c ≠ ']' := by
  cases h with
  | null => exact ⟨_, _, rfl, rfl, by decide⟩
  | bool b => cases b <;> exact ⟨_, _, rfl, rfl, by decide⟩
  | int h =>
    obtain ⟨c, cs, hcs, hc⟩ := exists_chars_int _
    refine ⟨c, cs, hcs, isSpace_eq_false (hc _ rfl), fun he => ?_⟩
    exact hc [']'] rfl (List.mem_singleton.mpr he)
  | text s => exact ⟨_, _, toList_quote s, rfl, by decide⟩
  | list h => exact ⟨_, _, chars_list _, rfl, by decide⟩
  | object names h => exact ⟨_, _, chars_object _, rfl, by decide⟩

theorem readsBack_list {items : List Document} (hjson : ∀ d ∈ items, IsJson d)
    (h : ∀ d ∈ items, ReadsBack d) : ReadsBack (.list items) := by
  intro size rest hsize _
  obtain ⟨size, rfl⟩ := exists_size hsize
  rw [chars_list, List.length_cons, List.length_append, List.length_singleton] at hsize
  rw [chars_list, List.cons_append, List.append_assoc, List.singleton_append]
  cases items with
  | nil => exact value?_list_nil size rest
  | cons d ds =>
    have hitems := items?_intercalate h size rest (by omega)
    obtain ⟨c, cs, hcs, hspace, hc⟩ := (hjson d List.mem_cons_self).exists_chars
    obtain ⟨tail, htail⟩ := exists_intercalate_map_cons hcs ds
    rw [htail, List.cons_append] at hitems ⊢
    rw [value?_list hspace hc, hitems]
    rfl

theorem putMember_eq_append {name : String} {d : Document} {before : List (String × Document)}
    (h : name ∉ before.map fun m => m.1) : putMember name d before = before ++ [(name, d)] := by
  induction before with
  | nil => rfl
  | cons m ms ih =>
    rw [List.map_cons, List.mem_cons, not_or] at h
    rw [putMember, if_neg (Ne.symm h.1), ih h.2, List.cons_append]

theorem memberChars_append (m : String × Document) (rest : List Char) : memberChars m ++ rest =
    '"' :: (m.1.toList.flatMap escapeChar ++ '"' :: ':' :: (chars m.2 ++ rest)) := by
  rw [memberChars, toList_quote]
  simp only [List.cons_append, List.append_assoc, List.nil_append]

theorem length_memberChars (m : String × Document) :
    m.1.toList.length + (chars m.2).length + 3 ≤ (memberChars m).length := by
  have hlen := length_le_flatMap_escapeChar m.1.toList
  have hchars := memberChars_append m []
  simp only [List.append_nil] at hchars
  rw [hchars]
  simp only [List.length_cons, List.length_append]
  omega

theorem notMem_of_nodup {before : List (String × Document)} {m : String × Document}
    {ms : List (String × Document)} (h : ((before ++ m :: ms).map fun m => m.1).Nodup) :
    m.1 ∉ before.map fun m => m.1 := by
  rw [List.map_append, List.nodup_append] at h
  exact fun hmem => h.2.2 _ hmem _ List.mem_cons_self rfl

theorem members?_intercalate (before : List (String × Document)) {m : String × Document}
    {ms : List (String × Document)} (hnames : ((before ++ m :: ms).map fun m => m.1).Nodup)
    (h : ∀ n ∈ m :: ms, ReadsBack n.2) (size : Nat) (rest : List Char)
    (hsize : ([','].intercalate ((m :: ms).map memberChars)).length + 1 < size) :
    members? size before ([','].intercalate ((m :: ms).map memberChars) ++ '\x7d' :: rest) =
      some (before ++ m :: ms, rest) := by
  -- A member that has been read stands behind those before it, as none of them has its name.
  induction ms generalizing before m size with
  | nil =>
    obtain ⟨size, rfl⟩ := exists_size hsize
    have hlen := length_memberChars m
    rw [intercalate_map_singleton] at hsize ⊢
    rw [memberChars_append, members?_last (stringBody_flatMap _ _ _ (by omega))
      (h m List.mem_cons_self size _ (by omega) (not_continuesNumber_cons rfl _)),
      String.ofList_toList, putMember_eq_append (notMem_of_nodup hnames)]
  | cons n ns ih =>
    obtain ⟨size, rfl⟩ := exists_size hsize
    have hnew := notMem_of_nodup hnames
    have hsplit : before ++ m :: n :: ns = (before ++ [m]) ++ n :: ns :=
      List.append_cons before m (n :: ns)
    have hlen := length_memberChars m
    rw [hsplit] at hnames ⊢
    rw [intercalate_map_cons_cons, List.length_append, List.length_cons] at hsize
    rw [intercalate_map_cons_cons, List.append_assoc, List.cons_append, memberChars_append,
      members?_next (stringBody_flatMap _ _ _ (by omega))
        (h m List.mem_cons_self size _ (by omega) (not_continuesNumber_cons rfl _)),
      String.ofList_toList, putMember_eq_append hnew]
    exact ih (before ++ [m]) hnames (fun k hk => h k (List.mem_cons_of_mem m hk)) size (by omega)

theorem readsBack_object {members : List (String × Document)}
    (hnames : (members.map fun m => m.1).Nodup) (h : ∀ m ∈ members, ReadsBack m.2) :
    ReadsBack (.object members) := by
  intro size rest hsize _
  obtain ⟨size, rfl⟩ := exists_size hsize
  rw [chars_object, List.length_cons, List.length_append, List.length_singleton] at hsize
  rw [chars_object, List.cons_append, List.append_assoc, List.singleton_append]
  cases members with
  | nil => exact value?_object_nil size rest
  | cons m ms =>
    have hmembers := members?_intercalate [] hnames h size rest (by omega)
    have hquote := memberChars_append m []
    rw [List.append_nil] at hquote
    obtain ⟨tail, htail⟩ := exists_intercalate_map_cons hquote ms
    rw [htail, List.cons_append] at hmembers ⊢
    rw [value?_object, hmembers]
    rfl

theorem IsJson.readsBack {d : Document} (h : IsJson d) : ReadsBack d := by
  induction h with
  | null =>
    intro size rest hsize _
    obtain ⟨size, rfl⟩ := exists_size hsize
    exact value?_bare rfl (by decide) size _
  | bool b =>
    intro size rest hsize _
    obtain ⟨size, rfl⟩ := exists_size hsize
    cases b <;> exact value?_bare rfl (by decide) size _
  | int h => exact readsBack_int h
  | text s => exact readsBack_text s
  | list h ih => exact readsBack_list h ih
  | object names h ih => exact readsBack_object names ih

/-- A document is read back from its text. -/
theorem IsJson.read?_compact {d : Document} (h : IsJson d) : read? (compact d).toList = some d := by
  have hvalue := h.readsBack ((chars d).length + 1) [] (Nat.lt_succ_self _) nofun
  rw [List.append_nil] at hvalue
  have hread : value? ((compact d).toList.length + 1) (compact d).toList = some (d, []) := hvalue
  rw [read?, hread]
  rfl

end LotterySlip.Json
