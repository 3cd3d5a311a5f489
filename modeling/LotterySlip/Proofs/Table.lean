import LotterySlip.Table

/-! Tables by their keys. -/
namespace LotterySlip.Table
variable {κ α : Type} [Ord κ]

theorem eq_of_entries_eq {s t : Table κ α} (h : s.entries = t.entries) : s = t := by
  cases s
  cases t
  obtain rfl : _ = _ := h
  rfl

section Lookup

variable [DecidableEq κ]

theorem mem_of_get? {t : Table κ α} {k : κ} {v : α} (h : t.get? k = some v) :
    (k, v) ∈ t.entries := by
  obtain ⟨e, he, rfl⟩ := Option.map_eq_some_iff.mp h
  obtain rfl : e.1 = k := by simpa using List.find?_some he
  exact List.mem_of_find?_eq_some he

theorem find?_insertEntry [Std.LawfulEqOrd κ] (k k' : κ) (v : α) (es : List (κ × α)) :
    (insertEntry k v es).find? (fun e => e.1 = k') =
      if k = k' then some (k, v) else es.find? fun e => e.1 = k' := by
  induction es with
  | nil => by_cases hk : k = k' <;> simp [insertEntry, hk]
  | cons e es ih =>
    rw [insertEntry]
    cases hc : compare k e.1 with
    | lt => by_cases hk : k = k' <;> simp [hk]
    | eq =>
      obtain rfl : k = e.1 := Std.LawfulEqCmp.eq_of_compare hc
      by_cases hk : e.1 = k' <;> simp [hk]
    | gt =>
      have hne : k ≠ e.1 := by
        rintro rfl
        simp [Std.ReflCmp.compare_self] at hc
      by_cases he : e.1 = k'
      · have hk : k ≠ k' := fun hk => hne (hk.trans he.symm)
        simp [he, hk]
      · simp only [List.find?_cons, he, decide_false, ih]

variable [Std.TransOrd κ] [Std.LawfulEqOrd κ]

theorem get?_insert (t : Table κ α) (k k' : κ) (v : α) :
    (t.insert k v).get? k' = if k = k' then some v else t.get? k' := by
  rw [get?, insert, find?_insertEntry]
  by_cases hk : k = k'
  · rw [if_pos hk, if_pos hk, Option.map_some]
  · rw [if_neg hk, if_neg hk, ← get?]

def overlay (s t : Table κ α) : Table κ α := t.entries.foldr (fun e u => u.insert e.1 e.2) s

theorem get?_overlay (s t : Table κ α) (k : κ) : (s.overlay t).get? k = (t.get? k).or (s.get? k) := by
  have ht : t.get? k = (t.entries.find? fun e => e.1 = k).map fun e => e.2 := rfl
  rw [overlay, ht]
  induction t.entries with
  | nil => rfl
  | cons e es ih =>
    rw [List.foldr_cons, get?_insert, List.find?_cons]
    by_cases he : e.1 = k
    · simp [he]
    · rw [if_neg he, ih, decide_eq_false he]

end Lookup

section Entries

variable [Std.LawfulEqOrd κ]

theorem insertEntry_perm (k : κ) (v : α) {es : List (κ × α)} (h : k ∉ es.map fun e => e.1) :
    (insertEntry k v es).Perm ((k, v) :: es) := by
  induction es with
  | nil => exact .refl _
  | cons e es ih =>
    rw [List.map_cons, List.mem_cons, not_or] at h
    rw [insertEntry]
    cases hc : compare k e.1 with
    | lt => exact .refl _
    | eq => exact absurd (Std.LawfulEqCmp.eq_of_compare hc) h.1
    | gt => exact ((ih h.2).cons e).trans (.swap _ _ _)

theorem nodup_keys (t : Table κ α) : (t.entries.map fun e => e.1).Nodup := by
  rw [List.Nodup, List.pairwise_map]
  refine t.ascending.imp fun {a b} hlt he => ?_
  have hself : compare b.1 b.1 = .eq := Std.ReflCmp.compare_self
  rw [he, hself] at hlt
  cases hlt

variable [Std.TransOrd κ]

theorem entries_foldl_insert_perm (t : Table κ α) {es : List (κ × α)}
    (h : ((t.entries ++ es).map fun e => e.1).Nodup) :
    (es.foldl (fun t e => t.insert e.1 e.2) t).entries.Perm (t.entries ++ es) := by
  induction es generalizing t with
  | nil =>
    rw [List.append_nil]
    exact .refl _
  | cons e es ih =>
    have hnew : e.1 ∉ t.entries.map fun e => e.1 := by
      rw [List.map_append, List.nodup_append] at h
      exact fun hmem => h.2.2 _ hmem _ List.mem_cons_self rfl
    have hperm : (t.insert e.1 e.2).entries.Perm (e :: t.entries) := insertEntry_perm e.1 e.2 hnew
    have hall : ((t.insert e.1 e.2).entries ++ es).Perm (t.entries ++ e :: es) :=
      (hperm.append_right es).trans List.perm_middle.symm
    rw [List.foldl_cons]
    exact (ih _ ((hall.map fun e => e.1).nodup_iff.mpr h)).trans hall

/-- The table of the entries of a table is that table, in whatever order they come. -/
theorem ofList_eq_of_perm {t : Table κ α} {es : List (κ × α)} (h : es.Perm t.entries) :
    ofList es = t := by
  have hnodup : (((empty : Table κ α).entries ++ es).map fun e => e.1).Nodup :=
    (h.map fun e => e.1).nodup_iff.mpr t.nodup_keys
  have hentries : (ofList es).entries = t.entries := by
    have hperm : (ofList es).entries.Perm t.entries := (entries_foldl_insert_perm empty hnodup).trans h
    refine hperm.eq_of_pairwise (fun a b _ _ hab hba => ?_) (ofList es).ascending t.ascending
    rw [Std.OrientedCmp.gt_of_lt hab] at hba
    cases hba
  exact eq_of_entries_eq hentries

end Entries

end LotterySlip.Table
