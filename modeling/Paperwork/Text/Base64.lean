/-
Bytes written in sixty-four letters.

Reading is lenient: characters that do not belong to the alphabet are passed over, and
reading stops where padding completes a group.  What is left over without padding is
an error.
-/
namespace Paperwork.Base64

/-- The alphabet up to its last two letters. -/
def letters : List Char :=
  "ABCDEFGHIJKLMNOPQRSTUVWXYZabcdefghijklmnopqrstuvwxyz0123456789".toList

/-- The alphabet of the standard. -/
def alphabet : List Char := letters ++ ['+', '/']

/-- The alphabet that is safe in addresses. -/
def safeAlphabet : List Char := letters ++ ['-', '_']

/-! ### Writing -/

/-- The letter for a group of six bits. -/
def letter (alphabet : List Char) (n : Nat) : Char := alphabet.getD (n % 64) 'A'

/-- Bytes written with an alphabet, padded to groups of four. -/
def encode (alphabet : List Char) : List UInt8 → List Char
  | [] => []
  | [a] =>
    let n := a.toNat * 16
    [letter alphabet (n / 64), letter alphabet n, '=', '=']
  | [a, b] =>
    let n := (a.toNat * 256 + b.toNat) * 4
    [letter alphabet (n / 4096), letter alphabet (n / 64), letter alphabet n, '=']
  | a :: b :: c :: rest =>
    let n := (a.toNat * 256 + b.toNat) * 256 + c.toNat
    letter alphabet (n / 262144) :: letter alphabet (n / 4096) :: letter alphabet (n / 64)
      :: letter alphabet n :: encode alphabet rest

/-! ### Reading -/

/-- Why a text is not read as bytes. -/
inductive DecodeError
  | notAscii
  | incomplete
  deriving DecidableEq, Repr

/-- The six bits of a letter of the standard alphabet. -/
def bits? (c : Char) : Option Nat :=
  if 'A' ≤ c ∧ c ≤ 'Z' then some (c.toNat - 'A'.toNat)
  else if 'a' ≤ c ∧ c ≤ 'z' then some (c.toNat - 'a'.toNat + 26)
  else if '0' ≤ c ∧ c ≤ '9' then some (c.toNat - '0'.toNat + 52)
  else if c = '+' then some 62
  else if c = '/' then some 63
  else none

/-- What has been read of a group of four letters: its bits that are still to be
written, and behind two letters whether a padding sign has followed. -/
inductive Group
  | start
  | one (bits : Nat)
  | two (bits : Nat) (padded : Bool)
  | three (bits : Nat)

/-- Reads on in the middle of a group. -/
def decodeFrom : Group → List Char → Except DecodeError (List UInt8)
  | .start, [] => .ok []
  | _, [] => .error .incomplete
  | group, c :: rest =>
    if c = '=' then
      match group with
      | .start => decodeFrom .start rest
      | .one bits => decodeFrom (.one bits) rest
      | .two bits padded => if padded then .ok [] else decodeFrom (.two bits true) rest
      | .three _ => .ok []
    else
      match bits? c with
      | none => decodeFrom group rest
      | some n =>
        match group with
        | .start => decodeFrom (.one n) rest
        | .one bits => do
          let bytes ← decodeFrom (.two (n % 16) false) rest
          return UInt8.ofNat (bits * 4 + n / 16) :: bytes
        | .two bits _ => do
          let bytes ← decodeFrom (.three (n % 4)) rest
          return UInt8.ofNat (bits * 16 + n / 4) :: bytes
        | .three bits => do
          let bytes ← decodeFrom .start rest
          return UInt8.ofNat (bits * 64 + n) :: bytes

/-- The bytes that a text stands for. -/
def decode (cs : List Char) : Except DecodeError (List UInt8) :=
  if cs.all fun c => c.toNat < 128 then decodeFrom .start cs else .error .notAscii

end Paperwork.Base64
