import HttpRetry.Text.Ranges

/-!
# Blanks

Two sets of blank characters. The wide one separates words and surrounds the
parts of header values. The narrow one, without the four information
separators, may stand around a numeral or a setting.
-/

namespace HttpRetry

def blankRanges : CodeRanges := [
  (9, 13), (28, 32), (133, 133), (160, 160), (5760, 5760), (8192, 8202), (8232, 8233),
  (8239, 8239), (8287, 8287), (12288, 12288)]

def isBlank (c : Char) : Bool :=
  blankRanges.has c

def isPlainBlank (c : Char) : Bool :=
  isBlank c && !(28 ≤ c.toNat && c.toNat ≤ 31)

def trimBy (drops : Char → Bool) (cs : List Char) : List Char :=
  ((cs.dropWhile drops).reverse.dropWhile drops).reverse

def trimBlanks (cs : List Char) : List Char :=
  trimBy isBlank cs

def words (cs : List Char) : List (List Char) :=
  (cs.splitBy fun a b => isBlank a == isBlank b).filter fun run => !run.any isBlank

end HttpRetry
