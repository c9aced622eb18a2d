import HttpRetry.Text.CodePoint
import HttpRetry.Text.Printable

/-!
# Quoted texts

A text is shown between single quotes, or between double quotes when it holds a
single quote and no double one. The backslash, the quote in use and characters
that do not print are escaped, and so is half a surrogate pair.
-/

namespace HttpRetry

def hexDigits (width n : Nat) : List Char :=
  let digits := Nat.toDigits 16 n
  List.replicate (width - digits.length) '0' ++ digits

def quoteChar (quote c : Char) : List Char :=
  if c = '\\' ∨ c = quote then ['\\', c]
  else if c = '\n' then ['\\', 'n']
  else if c = '\r' then ['\\', 'r']
  else if c = '\t' then ['\\', 't']
  else if isPrintable c then [c]
  else if c.toNat < 0x100 then '\\' :: 'x' :: hexDigits 2 c.toNat
  else if c.toNat < 0x10000 then '\\' :: 'u' :: hexDigits 4 c.toNat
  else '\\' :: 'U' :: hexDigits 8 c.toNat

def quotePoint (quote : Char) (point : Nat) : List Char :=
  if CodePoint.isSurrogate point then '\\' :: 'u' :: hexDigits 4 point
  else quoteChar quote (Char.ofNat point)

def quoteFor (cs : List Char) : Char :=
  if cs.contains '\'' && !cs.contains '"' then '"' else '\''

def quoted (s : String) : String :=
  let quote := quoteFor s.toList
  String.ofList (quote :: (CodePoint.ofText s).flatMap (quotePoint quote) ++ [quote])

end HttpRetry
