import LotterySlip.Catalog

/-! The catalogs and settings that a house has without a configuration of its own. -/
namespace LotterySlip.Shipped

def northern : RegionEntry := ⟨1, "Miền Bắc", .north⟩

def central : RegionEntry := ⟨2, "Miền Trung", .central⟩

def southern : RegionEntry := ⟨3, "Miền Nam", .south⟩

def stations : List Station := [
  ⟨1, "Miền Bắc", northern, ["mb", "hn", "hanoi"]⟩,
  ⟨10, "Đà Nẵng", central, ["dng"]⟩,
  ⟨11, "Khánh Hòa", central, ["kh"]⟩,
  ⟨12, "Phú Yên", central, ["py"]⟩,
  ⟨13, "Thừa Thiên Huế", central, ["hue"]⟩,
  ⟨14, "Quảng Nam", central, ["qnm"]⟩,
  ⟨15, "Đắk Lắk", central, ["dlk"]⟩,
  ⟨16, "Bình Định", central, ["bdi"]⟩,
  ⟨17, "Quảng Trị", central, ["qt"]⟩,
  ⟨18, "Quảng Bình", central, ["qb"]⟩,
  ⟨19, "Gia Lai", central, ["gl"]⟩,
  ⟨20, "Ninh Thuận", central, ["nt"]⟩,
  ⟨21, "Quảng Ngãi", central, ["qng"]⟩,
  ⟨22, "Đắk Nông", central, ["dno"]⟩,
  ⟨23, "Kon Tum", central, ["kt"]⟩,
  ⟨30, "TP. Hồ Chí Minh", southern, ["tp", "hcm"]⟩,
  ⟨31, "Đồng Tháp", southern, ["dt"]⟩,
  ⟨32, "Cà Mau", southern, ["cm"]⟩,
  ⟨33, "Bến Tre", southern, ["bt"]⟩,
  ⟨34, "Vũng Tàu", southern, ["vt"]⟩,
  ⟨35, "Bạc Liêu", southern, ["bl"]⟩,
  ⟨36, "Đồng Nai", southern, ["dn"]⟩,
  ⟨37, "Cần Thơ", southern, ["ct"]⟩,
  ⟨38, "Sóc Trăng", southern, ["st"]⟩,
  ⟨39, "Tây Ninh", southern, ["tn"]⟩,
  ⟨40, "An Giang", southern, ["ag"]⟩,
  ⟨41, "Bình Thuận", southern, ["bth"]⟩,
  ⟨42, "Vĩnh Long", southern, ["vl"]⟩,
  ⟨43, "Bình Dương", southern, ["bd"]⟩,
  ⟨44, "Trà Vinh", southern, ["tv"]⟩,
  ⟨45, "Long An", southern, ["la"]⟩,
  ⟨46, "Bình Phước", southern, ["bp"]⟩,
  ⟨47, "Hậu Giang", southern, ["hg"]⟩,
  ⟨48, "Tiền Giang", southern, ["tg"]⟩,
  ⟨49, "Kiên Giang", southern, ["kg"]⟩,
  ⟨50, "Đà Lạt", southern, ["dl"]⟩]

def betTypes : List BetType := [
  ⟨1, "Đầu đuôi", ["dd", "dauduoi"], [], false, some (.flat (.ofWord 75)), none⟩,
  ⟨2, "Đầu", ["dau"], [], false, some (.flat (.ofWord 75)), none⟩,
  ⟨3, "Đuôi", ["duoi", "dui"], [], false, some (.flat (.ofWord 75)), none⟩,
  ⟨4, "Bao lô", ["b", "bl", "baolo"], [], false,
    some (.table (.ofList [("2", .ofWord 75), ("3", .ofWord 650), ("4", .ofWord 6000)])), none⟩,
  ⟨5, "Xỉu chủ", ["xc", "xchu"], [.south, .central], false,
    some (.table (.ofList [("3", .ofWord 650)])), none⟩,
  ⟨6, "Bao đảo", ["bdao", "dao"], [], true,
    some (.table (.ofList [("2", .ofWord 75), ("3", .ofWord 650), ("4", .ofWord 6000)])), none⟩,
  ⟨7, "Xỉu chủ đảo", ["xcdao", "xcd"], [.south, .central], true,
    some (.table (.ofList [("3", .ofWord 650)])), none⟩,
  ⟨8, "Đá", ["da"], [], false,
    some (.table (.ofList [("central", .ofWord 750), ("north", .ofWord 650), ("south",
    .ofWord 750)])), none⟩]

def combinations : List Combination := [
  ⟨"Tài", ["tai"], .big⟩,
  ⟨"Xỉu", ["xiu"], .small⟩,
  ⟨"Chẵn", ["chan"], .even⟩,
  ⟨"Lẻ", ["le"], .odd⟩,
  ⟨"Chẵn chẵn", ["chanchan", "cc"], .evenEven⟩,
  ⟨"Lẻ lẻ", ["lele", "ll"], .oddOdd⟩,
  ⟨"Chẵn lẻ", ["chanle", "cl"], .evenOdd⟩,
  ⟨"Lẻ chẵn", ["lechan", "lc"], .oddEven⟩,
  ⟨"Kép", ["kep"], .doubles⟩,
  ⟨"Đầu 0", ["dau0"], .head 0⟩,
  ⟨"Đầu 5", ["dau5"], .head 5⟩,
  ⟨"Đuôi 9", ["duoi9"], .tail 9⟩,
  ⟨"Kép lệch", ["keplech"], .custom "abs(tens - units) == 5"⟩]

def catalogs : Catalogs := ⟨stations, betTypes, combinations⟩

def settings : Settings :=
  ⟨⟨false, 75, 2, by decide, by decide⟩, .standard, .empty⟩

end LotterySlip.Shipped
