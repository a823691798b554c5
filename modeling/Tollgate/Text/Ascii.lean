/-!
# ASCII classes

Names in requests and policies are ASCII words. The classes and case maps here
look at ASCII letters and digits only; every other character is left alone.
-/

namespace Tollgate.Text

def isLetter (c : Char) : Bool :=
  ('a' ≤ c && c ≤ 'z') || ('A' ≤ c && c ≤ 'Z')

def isDigit (c : Char) : Bool :=
  '0' ≤ c && c ≤ '9'

def digitValue (c : Char) : Nat :=
  c.toNat - '0'.toNat

def hexValue? (c : Char) : Option Nat :=
  if isDigit c then some (digitValue c)
  else if 'a' ≤ c && c ≤ 'f' then some (c.toNat - 'a'.toNat + 10)
  else if 'A' ≤ c && c ≤ 'F' then some (c.toNat - 'A'.toNat + 10)
  else none

def ofDigits (base : Nat) (digits : List Nat) : Nat :=
  digits.foldl (fun n d => n * base + d) 0

def decimal (cs : List Char) : Nat :=
  ofDigits 10 (cs.map digitValue)

def hexadecimal? (cs : List Char) : Option Nat :=
  (cs.mapM hexValue?).map (ofDigits 16)

/-- ASCII letters in upper case, the rest as it is. -/
def upperCase (s : String) : String :=
  String.ofList (s.toList.map Char.toUpper)

def lowerCase (s : String) : String :=
  String.ofList (s.toList.map Char.toLower)

def padded (width n : Nat) : String :=
  let digits := Nat.toDigits 10 n
  String.ofList (List.replicate (width - digits.length) '0' ++ digits)

def ofInt (i : Int) : String :=
  if i < 0 then "-" ++ String.ofList (Nat.toDigits 10 i.natAbs)
  else String.ofList (Nat.toDigits 10 i.natAbs)

def ofNat (n : Nat) : String :=
  String.ofList (Nat.toDigits 10 n)

end Tollgate.Text
