import HttpRetry.Text.Utf8

/-!
# AES-128, backwards, in chained blocks

Bytes are polynomials over the field of two elements, modulo x⁸ + x⁴ + x³ + x + 1.
A block is its sixteen bytes column by column. Only decryption is needed.
-/

namespace HttpRetry.Aes

/-! ## The field of bytes -/

def double (b : UInt8) : UInt8 :=
  if b < 0x80 then b <<< 1 else (b <<< 1) ^^^ 0x1b

def mul (a b : UInt8) : UInt8 :=
  go 8 a b 0
where
  go : Nat → UInt8 → UInt8 → UInt8 → UInt8
    | 0, _, _, sum => sum
    | bits + 1, a, b, sum =>
      go bits (a >>> 1) (double b) (if a &&& 1 = 1 then sum ^^^ b else sum)

/-- The inverse of a byte, and zero for zero: its 254th power. -/
def inverse (b : UInt8) : UInt8 :=
  let square (x : UInt8) := mul x x
  let b2 := square b
  let b4 := square b2
  let b8 := square b4
  let b16 := square b8
  let b32 := square b16
  let b64 := square b32
  let b128 := square b64
  mul b2 (mul b4 (mul b8 (mul b16 (mul b32 (mul b64 b128)))))

def rotate (b n : UInt8) : UInt8 :=
  (b <<< n) ||| (b >>> (8 - n))

def substitute (b : UInt8) : UInt8 :=
  let i := inverse b
  i ^^^ rotate i 1 ^^^ rotate i 2 ^^^ rotate i 3 ^^^ rotate i 4 ^^^ 0x63

def restore (b : UInt8) : UInt8 :=
  inverse (rotate b 1 ^^^ rotate b 3 ^^^ rotate b 6 ^^^ 0x05)

def xor (a b : Bytes) : Bytes :=
  List.zipWith (· ^^^ ·) a b

/-! ## Round keys -/

def nextKey (constant : UInt8) (key : Bytes) : Bytes :=
  let turned := match (key.drop 12).map substitute with
    | [a, b, c, d] => [b ^^^ constant, c, d, a]
    | other => other
  let first := xor (key.take 4) turned
  let second := xor ((key.drop 4).take 4) first
  let third := xor ((key.drop 8).take 4) second
  let fourth := xor (key.drop 12) third
  first ++ second ++ third ++ fourth

/-- The key and the `count` round keys after it, the last one first. -/
def keysBackwards : Nat → UInt8 → Bytes → List Bytes → List Bytes
  | 0, _, key, passed => key :: passed
  | count + 1, constant, key, passed =>
    keysBackwards count (double constant) (nextKey constant key) (key :: passed)

/-! ## Blocks -/

/-- Row r of the block moves right by r places. -/
def shiftBack (block : Bytes) : Bytes :=
  (List.range 16).map fun i => block.getD ((i + 16 - 4 * (i % 4)) % 16) 0

def mixColumnBack : Bytes → Bytes
  | a :: b :: c :: d :: rest =>
    let row (p q r s : UInt8) := mul 14 p ^^^ mul 11 q ^^^ mul 13 r ^^^ mul 9 s
    row a b c d :: row b c d a :: row c d a b :: row d a b c :: mixColumnBack rest
  | _ => []

def decryptBlock (key block : Bytes) : Bytes :=
  match keysBackwards 10 1 key [] with
  | last :: keys => rounds keys (xor block last)
  | [] => block
where
  rounds : List Bytes → Bytes → Bytes
    | [], block => block
    | [first], block => xor ((shiftBack block).map restore) first
    | key :: keys, block => rounds keys (mixColumnBack (xor ((shiftBack block).map restore) key))

def decryptChained (key : Bytes) : Nat → (before encrypted : Bytes) → Bytes
  | 0, _, _ => []
  | count + 1, before, encrypted =>
    let block := encrypted.take 16
    xor (decryptBlock key block) before ++ decryptChained key count block (encrypted.drop 16)

/-- Takes off the padding: as many bytes as the last one says, all like it. -/
def unpad (bytes : Bytes) : Option Bytes :=
  match bytes.getLast? with
  | none => none
  | some last =>
    let kept := bytes.length - last.toNat
    if 1 ≤ last ∧ last ≤ 16 ∧ (bytes.drop kept).all (· = last) then some (bytes.take kept)
    else none

def decrypt (key start encrypted : Bytes) : Option Bytes :=
  if encrypted.length % 16 = 0 then
    unpad (decryptChained key (encrypted.length / 16) start encrypted)
  else none

end HttpRetry.Aes
