/-!
# Code points of texts

A text is a sequence of code points, and some texts hold half a surrogate pair, which
is no character. A string writes such a half as a mark and a letter for the half, and
the mark itself twice; every other code point is its character. So what is written can
be read back: different texts are different strings.
-/

namespace HttpRetry.CodePoint

/-! ## Surrogates -/

def isHigh (point : Nat) : Bool := 0xD800 ≤ point && point < 0xDC00

def isLow (point : Nat) : Bool := 0xDC00 ≤ point && point < 0xE000

def isSurrogate (point : Nat) : Bool := isHigh point || isLow point

def join (high low : Nat) : Nat :=
  0x10000 + (high - 0xD800) * 0x400 + (low - 0xDC00)

/-- Where the halves begin that stand for bytes which are no text: the byte is the
distance from here. -/
def byteBase : Nat := 0xDC00

def isByte (point : Nat) : Bool := 0xDC80 ≤ point && point < 0xDD00

/-! ## Writing and reading -/

/-- What stands before the letter of a half. -/
def mark : Char := Char.ofNat 0x10FFFF

/-- How far the letters are from the halves that they stand for. -/
def letterShift : Nat := 0x800

def write (point : Nat) : List Char :=
  if isSurrogate point then [mark, Char.ofNat (point + letterShift)]
  else if point = mark.toNat then [mark, mark]
  else [Char.ofNat point]

def read : List Char → List Nat
  | [] => []
  | [c] => [c.toNat]
  | c :: d :: rest =>
    if c ≠ mark then c.toNat :: read (d :: rest)
    else (if d = mark then mark.toNat else d.toNat - letterShift) :: read rest

def ofText (s : String) : List Nat :=
  read s.toList

def toText (points : List Nat) : String :=
  String.ofList (points.flatMap write)

def textOf (cs : List Char) : String :=
  toText (cs.map Char.toNat)

/-! ## Order -/

def precedesList : List Nat → List Nat → Bool
  | [], _ => true
  | _ :: _, [] => false
  | p :: ps, q :: qs => p < q || (p == q && precedesList ps qs)

def precedes (s t : String) : Bool :=
  precedesList (ofText s) (ofText t)

/-! ## Halves in a text -/

structure Run where
  point : Nat
  start : Nat
  length : Nat
deriving DecidableEq

def findRun? (letsThrough : Nat → Bool) : (start : Nat) → List Nat → Option Run
  | _, [] => none
  | start, point :: rest =>
    if isSurrogate point && !letsThrough point then
      some ⟨point, start, 1 + (rest.takeWhile isSurrogate).length⟩
    else findRun? letsThrough (start + 1) rest

def hasHalf (s : String) : Bool :=
  (ofText s).any isSurrogate

/-! ## Reading back -/

theorem toNat_ofNat {point : Nat} (h : point < 0xD800 ∨ 0xDFFF < point ∧ point < 0x110000) :
    (Char.ofNat point).toNat = point := by
  rw [Char.ofNat, dif_pos h]
  rfl

theorem ofNat_ne_mark {point : Nat} (h : point < 0xD800 ∨ 0xDFFF < point ∧ point < 0x110000)
    (other : point ≠ 0x10FFFF) : Char.ofNat point ≠ mark := by
  intro same
  have := congrArg Char.toNat same
  rw [toNat_ofNat h, mark, toNat_ofNat (by omega)] at this
  exact other this

theorem read_cons {c : Char} (h : c ≠ mark) (rest : List Char) :
    read (c :: rest) = c.toNat :: read rest := by
  cases rest with
  | nil => rfl
  | cons d rest => rw [read, if_pos h]

theorem read_mark (d : Char) (rest : List Char) :
    read (mark :: d :: rest) =
      (if d = mark then mark.toNat else d.toNat - letterShift) :: read rest := by
  rw [read, if_neg (by simp)]

theorem read_write {point : Nat} (h : point < 0x110000) (rest : List Char) :
    read (write point ++ rest) = point :: read rest := by
  have bounds : isSurrogate point = true ↔ 0xD800 ≤ point ∧ point < 0xE000 := by
    simp [isSurrogate, isHigh, isLow]
    omega
  by_cases half : isSurrogate point = true
  · have between := bounds.1 half
    have letter : (Char.ofNat (point + letterShift)).toNat = point + letterShift :=
      toNat_ofNat (by unfold letterShift; omega)
    have other : Char.ofNat (point + letterShift) ≠ mark :=
      ofNat_ne_mark (by unfold letterShift; omega) (by unfold letterShift; omega)
    rw [write, if_pos half, List.cons_append, List.cons_append, List.nil_append, read_mark,
      if_neg other, letter, Nat.add_sub_cancel]
  · have valid : point < 0xD800 ∨ 0xDFFF < point ∧ point < 0x110000 := by
      have := mt bounds.2 half
      omega
    have value : mark.toNat = 0x10FFFF := toNat_ofNat (by omega)
    by_cases marked : point = mark.toNat
    · rw [write, if_neg half, if_pos marked, List.cons_append, List.cons_append, List.nil_append,
        read_mark, if_pos rfl, marked]
    · have other : Char.ofNat point ≠ mark := ofNat_ne_mark valid (by rwa [value] at marked)
      rw [write, if_neg half, if_neg marked, List.cons_append, List.nil_append, read_cons other,
        toNat_ofNat valid]

/-- Reading gives back the code points that were written. -/
theorem ofText_toText {points : List Nat} (h : ∀ point ∈ points, point < 0x110000) :
    ofText (toText points) = points := by
  rw [ofText, toText, String.toList_ofList]
  induction points with
  | nil => rfl
  | cons point rest ih =>
    rw [List.flatMap_cons, read_write (h point (by simp)),
      ih fun other member => h other (by simp [member])]

end HttpRetry.CodePoint
