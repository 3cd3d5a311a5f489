import LotterySlip.Catalog

/-! A small set of catalogs, to try things out on. -/
namespace LotterySlip.Sample

def northern : RegionEntry := ⟨1, "Miền Bắc", .north⟩

def central : RegionEntry := ⟨2, "Miền Trung", .central⟩

def southern : RegionEntry := ⟨3, "Miền Nam", .south⟩

def stations : List Station := [
  ⟨1, "Miền Bắc", northern, ["mb", "hn"]⟩,
  ⟨10, "Đà Nẵng", central, ["dng"]⟩,
  ⟨11, "Khánh Hòa", central, ["kh"]⟩,
  ⟨20, "TP. Hồ Chí Minh", southern, ["tp", "hcm"]⟩,
  ⟨21, "Đồng Tháp", southern, ["dt"]⟩,
  ⟨22, "Cà Mau", southern, ["cm"]⟩,
  ⟨23, "Bến Tre", southern, ["bt"]⟩]

def betTypes : List BetType := [
  ⟨1, "Đầu đuôi", ["dd"], [], false, some (.flat (.ofWord 75)), none⟩,
  ⟨2, "Bao lô", ["b", "bl"], [], false,
    some (.table (.ofList [("central", .ofWord 72), ("north", .ofWord 80), ("south",
    .ofWord 70)])), none⟩,
  ⟨3, "Xỉu chủ", ["xc"], [.south, .central], false,
    some (.table (.ofList [("3", .ofWord 650)])), none⟩,
  ⟨4, "Bao đảo", ["bd", "dao"], [], true, some (.table (.ofList [("south", .ofWord 70)])), none⟩,
  ⟨5, "Đá", ["da"], [], false, none, none⟩]

def combinations : List Combination := [
  ⟨"Tài", ["tai"], .big⟩,
  ⟨"Xỉu", ["xiu"], .small⟩,
  ⟨"Chẵn", ["chan"], .even⟩,
  ⟨"Lẻ", ["le"], .odd⟩,
  ⟨"Chẵn chẵn", ["cc"], .evenEven⟩,
  ⟨"Kép", ["kep"], .doubles⟩,
  ⟨"Đầu 5", ["dau5"], .head 5⟩,
  ⟨"Lucky", ["may man"], .custom "n % 7 == 0"⟩]

def catalogs : Catalogs := ⟨stations, betTypes, combinations⟩

def plain : Catalogs :=
  ⟨[⟨1, "tp", ⟨3, "nam", .south⟩, []⟩], [⟨1, "dd", ["dd"], [], false, none, none⟩], []⟩

end LotterySlip.Sample
