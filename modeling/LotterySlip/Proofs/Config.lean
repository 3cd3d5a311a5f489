import LotterySlip.CommandLine.Run
import LotterySlip.Proofs.Line

/-! Configurations that are accepted. Whatever was loaded has passed the checks of its file. -/
namespace LotterySlip.Config

theorem faultless_eq_ok_iff {α : Type} (fault : α → Option ConfigError) (a b : α) :
    faultless fault a = .ok b ↔ fault a = none ∧ a = b := by
  rw [faultless]
  cases fault a <;> simp

theorem readFile_eq_ok_iff {α : Type} (files : Files) (path : String)
    (read : String → String → Except ConfigError α) (a : α) :
    readFile files path read = .ok a ↔ ∃ text, files path = .ok text ∧ read path text = .ok a := by
  rw [readFile]
  cases files path <;> simp

/-- What a file that need not be there comes to: to what is assumed without it, or to what is read. -/
theorem of_readOptionalFile {α : Type} {files : Files} {path : String} {absent a : α}
    {read : String → String → Except ConfigError α}
    (h : readOptionalFile files path absent read = .ok a) :
    a = absent ∨ ∃ text, files path = .ok text ∧ read path text = .ok a := by
  rw [readOptionalFile] at h
  split at h
  · exact Or.inr ((readFile_eq_ok_iff files path read a).mp h)
  · exact Or.inl (Except.ok.inj h).symm

/-- Where every item is tested for its mark, the marks of a list without faults differ. -/
theorem nodup_of_firstFault {α μ : Type} {mark : α → μ} {test : List μ → α → Option ConfigError}
    (htest : ∀ seen a, test seen a = none → mark a ∉ seen) {seen : List μ} {as : List α}
    (h : firstFault mark test seen as = none) :
    (as.map mark).Nodup ∧ ∀ a ∈ as, mark a ∉ seen := by
  induction as generalizing seen with
  | nil => exact ⟨List.nodup_nil, fun _ ha => absurd ha List.not_mem_nil⟩
  | cons a as ih =>
    rw [firstFault, Option.or_eq_none_iff] at h
    obtain ⟨hrest, hnot⟩ := ih h.2
    rw [List.map_cons, List.nodup_cons, List.forall_mem_cons]
    refine ⟨⟨fun hm => ?_, hrest⟩, htest seen a h.1, fun b hb hs => ?_⟩
    · obtain ⟨b, hb, he⟩ := List.mem_map.mp hm
      exact hnot b hb (he ▸ List.mem_cons_self)
    · exact hnot b hb (List.mem_cons_of_mem _ hs)

/-- The names of accepted combinations differ. -/
theorem nodup_of_loadCombinations {files : Files} {dir : String} {combinations : List Combination}
    (h : loadCombinations files dir = .ok combinations) :
    (combinations.map Combination.name).Nodup := by
  rcases of_readOptionalFile h with rfl | ⟨text, -, hread⟩
  · exact List.nodup_nil
  · obtain ⟨cs, -, hcs⟩ := bind_eq_ok_iff.mp hread
    obtain ⟨hfault, rfl⟩ := (faultless_eq_ok_iff _ cs combinations).mp hcs
    refine (nodup_of_firstFault (fun seen c htest => ?_) hfault).1
    simpa [combinationFault] using htest

theorem settingsFault_eq_none_iff (s : Settings) :
    settingsFault s = none ↔ s.priceRate.negative = false ∧ s.options.maxExpandedNumbers ≠ 0 := by
  rw [settingsFault]
  cases s.priceRate.negative <;> by_cases hm : s.options.maxExpandedNumbers = 0 <;> simp [hm]

theorem settingsFault_of_loadSettings {files : Files} {dir : String} {s : Settings}
    (h : loadSettings files dir = .ok s) : settingsFault s = none := by
  rcases of_readOptionalFile h with rfl | ⟨text, -, hread⟩
  · decide
  · obtain ⟨s', -, hs'⟩ := bind_eq_ok_iff.mp hread
    obtain ⟨hfault, rfl⟩ := (faultless_eq_ok_iff settingsFault s' s).mp hs'
    exact hfault

theorem loadHouse_eq_ok_iff (files : Files) (dir : String) (house : Catalogs × Settings) :
    loadHouse files dir = .ok house ↔ ∃ catalogs settings, loadCatalogs files dir = .ok catalogs ∧
      loadSettings files dir = .ok settings ∧
        house = (catalogs.applyOverrides settings.payoutOverrides, settings) := by
  simp only [loadHouse, bind_eq_ok_iff, pure_eq_ok_iff, exists_and_left, eq_comm (a := house)]

end LotterySlip.Config

namespace LotterySlip.CommandLine

/-- The settings of a house are free of faults, wherever they come from. -/
theorem settingsFault_of_house {source : ConfigSource} {files : Files} {catalogs : Catalogs}
    {settings : Settings} (h : source.house files = .ok (catalogs, settings)) :
    Config.settingsFault settings = none := by
  cases source with
  | directory dir =>
    obtain ⟨c, s, -, hs, he⟩ := (Config.loadHouse_eq_ok_iff files dir _).mp h
    obtain ⟨-, rfl⟩ := Prod.mk.inj he
    exact Config.settingsFault_of_loadSettings hs
  | shipped =>
    obtain ⟨-, rfl⟩ := Prod.mk.inj (Except.ok.inj h)
    decide

end LotterySlip.CommandLine
