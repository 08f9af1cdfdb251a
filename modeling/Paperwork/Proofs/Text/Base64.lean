/-
Bytes written in letters are read back.

Three bytes are written as four letters of six bits each.  Reading takes a letter at a
time and writes a byte behind each letter but the first of a group, so it follows writing
group by group; the two shorter groups at the end are closed by their padding.
-/
import Mathlib
import Paperwork.Text.Base64

namespace Paperwork.Base64

/-! ### Letters -/

/-- A letter is read as the six bits it was written for. -/
theorem bits?_letter (n : Nat) : bits? (letter alphabet n) = some (n % 64) := by
  have hall : ∀ m < 64, bits? (alphabet.getD m 'A') = some m := by decide +kernel
  exact hall _ (Nat.mod_lt n (by decide))

/-- No letter is taken for padding. -/
theorem letter_ne_padding (n : Nat) : letter alphabet n ≠ '=' := by
  intro h
  have hbits := bits?_letter n
  have hpadding : bits? '=' = none := by decide
  rw [h, hpadding] at hbits
  exact absurd hbits nofun

theorem letter_mem (n : Nat) : letter alphabet n ∈ alphabet := by
  have hlt : n % 64 < alphabet.length := Nat.mod_lt n (by decide)
  rw [letter, List.getD_eq_getElem _ _ hlt]
  exact List.getElem_mem hlt

/-- Bytes are written with letters and padding. -/
theorem mem_of_encode {bytes : List UInt8} {c : Char} (h : c ∈ encode alphabet bytes) :
    c ∈ '=' :: alphabet := by
  induction bytes using encode.induct with
  | case1 => exact absurd h List.not_mem_nil
  | case2 a =>
      simp only [encode, List.mem_cons, List.not_mem_nil, or_false] at h
      obtain rfl | rfl | rfl | rfl := h <;> simp [letter_mem]
  | case3 a b =>
      simp only [encode, List.mem_cons, List.not_mem_nil, or_false] at h
      obtain rfl | rfl | rfl | rfl := h <;> simp [letter_mem]
  | case4 a b c rest ih =>
      simp only [encode, List.mem_cons] at h
      obtain rfl | rfl | rfl | rfl | hrest := h
      case inr.inr.inr.inr => exact ih hrest
      all_goals simp [letter_mem]

/-! ### Groups -/

section Groups

variable {n bits : Nat} {a : UInt8} {rest : List Char} {bytes : List UInt8}

/-- The bits of the first letter of a group are kept. -/
theorem decodeFrom_start (h : decodeFrom (.one (n % 64)) rest = .ok bytes) :
    decodeFrom .start (letter alphabet n :: rest) = .ok bytes := by
  rw [decodeFrom, if_neg (letter_ne_padding n), bits?_letter]
  exact h

/-- Behind the second letter the first byte is complete. -/
theorem decodeFrom_one (ha : bits * 4 + n % 64 / 16 = a.toNat)
    (h : decodeFrom (.two (n % 64 % 16) false) rest = .ok bytes) :
    decodeFrom (.one bits) (letter alphabet n :: rest) = .ok (a :: bytes) := by
  rw [decodeFrom, if_neg (letter_ne_padding n), bits?_letter]
  simp only [h, ha, UInt8.ofNat_toNat]
  rfl

theorem decodeFrom_two (ha : bits * 16 + n % 64 / 4 = a.toNat)
    (h : decodeFrom (.three (n % 64 % 4)) rest = .ok bytes) :
    decodeFrom (.two bits false) (letter alphabet n :: rest) = .ok (a :: bytes) := by
  rw [decodeFrom, if_neg (letter_ne_padding n), bits?_letter]
  simp only [h, ha, UInt8.ofNat_toNat]
  rfl

theorem decodeFrom_three (ha : bits * 64 + n % 64 = a.toNat)
    (h : decodeFrom .start rest = .ok bytes) :
    decodeFrom (.three bits) (letter alphabet n :: rest) = .ok (a :: bytes) := by
  rw [decodeFrom, if_neg (letter_ne_padding n), bits?_letter]
  simp only [h, ha, UInt8.ofNat_toNat]
  rfl

/-- Padding ends a group of two letters or three. -/
theorem decodeFrom_two_padding : decodeFrom (.two bits false) ['=', '='] = .ok [] := by
  simp [decodeFrom]

theorem decodeFrom_three_padding : decodeFrom (.three bits) ['='] = .ok [] := by
  simp [decodeFrom]

end Groups

/-- **What is written is read back.** -/
theorem decode_encode (bytes : List UInt8) : decode (encode alphabet bytes) = .ok bytes := by
  have hascii : (encode alphabet bytes).all (fun c => c.toNat < 128) = true := by
    have hall : ('=' :: alphabet).all (fun c => c.toNat < 128) = true := by decide
    exact List.all_eq_true.mpr fun c hc => List.all_eq_true.mp hall c (mem_of_encode hc)
  rw [decode, if_pos hascii]
  clear hascii
  induction bytes using encode.induct with
  | case1 => rfl
  | case2 a =>
      have ha := a.toNat_lt
      rw [encode]
      exact decodeFrom_start (decodeFrom_one (by omega) decodeFrom_two_padding)
  | case3 a b =>
      have ha := a.toNat_lt
      have hb := b.toNat_lt
      rw [encode]
      exact decodeFrom_start (decodeFrom_one (by omega)
        (decodeFrom_two (by omega) decodeFrom_three_padding))
  | case4 a b c rest ih =>
      have ha := a.toNat_lt
      have hb := b.toNat_lt
      have hc := c.toNat_lt
      rw [encode]
      exact decodeFrom_start (decodeFrom_one (by omega)
        (decodeFrom_two (by omega) (decodeFrom_three (by omega) ih)))

end Paperwork.Base64
