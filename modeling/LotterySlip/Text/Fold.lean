import LotterySlip.Text.Blank
import LotterySlip.Text.Decomposition
import LotterySlip.Text.LetterCase
import LotterySlip.Text.Mark

/-! Folded text: without marks and without capitals, so that a name matches however it is accented.
Each folded character remembers which character of the text it came from. -/
namespace LotterySlip.Text

/-- The barred d of Vietnamese is a letter of its own and has no decomposition; it folds to d. -/
def unbar (c : Char) : Char := if c = 'đ' ∨ c = 'Đ' then 'd' else c

/-- What a character folds to: its decomposition without marks, in lowercase. A mark folds to
nothing. -/
def foldChar (c : Char) : List Char :=
  ((decompose c).filter fun d => !isMark d).map fun d => lower (unbar d)

def fold (cs : List Char) : List Char := cs.flatMap foldChar

def foldKey (cs : List Char) : List Char := unwords (words (fold cs))

/-- A folded character and the number of characters that stand before its source. -/
structure Glyph where
  char : Char
  source : Nat
  deriving DecidableEq, Repr

def glyphsFrom (i : Nat) : List Char → List Glyph
  | [] => []
  | c :: cs => (foldChar c).map (⟨·, i⟩) ++ glyphsFrom (i + 1) cs

def glyphs (cs : List Char) : List Glyph := glyphsFrom 0 cs

def origins (cs : List Char) : List Nat :=
  ((glyphs cs).flatMap fun g =>
    List.replicate g.char.utf8Size (byteLength (cs.take g.source))) ++ [byteLength cs]

/-- The byte offset in the text for a byte offset in the folded text. Past the end it is the byte
length of the text. -/
def originalOffset (cs : List Char) (i : Nat) : Nat := (origins cs).getD i (byteLength cs)

end LotterySlip.Text
