/-! Blank characters, and texts cut at them. -/
namespace LotterySlip.Text

/-- The characters with the Unicode property White_Space. -/
def isBlank (c : Char) : Bool :=
  let n := c.toNat
  (0x9 ≤ n && n ≤ 0xD) || n == 0x20 || n == 0x85 || n == 0xA0 || n == 0x1680 ||
    (0x2000 ≤ n && n ≤ 0x200A) || n == 0x2028 || n == 0x2029 || n == 0x202F || n == 0x205F ||
    n == 0x3000

def isBlankText (cs : List Char) : Bool := cs.all isBlank

def trim (cs : List Char) : List Char :=
  ((cs.dropWhile isBlank).reverse.dropWhile isBlank).reverse

def pieces (p : Char → Bool) (cs : List Char) : List (List Char) :=
  (cs.splitOnP p).filter fun piece => !piece.isEmpty

def words (cs : List Char) : List (List Char) := pieces isBlank cs

def unwords (ws : List (List Char)) : List Char := [' '].intercalate ws

def byteLength (cs : List Char) : Nat := (cs.map Char.utf8Size).foldr (· + ·) 0

def after? (start cs : List Char) : Option (List Char) := start.isPrefixOf? cs

end LotterySlip.Text
