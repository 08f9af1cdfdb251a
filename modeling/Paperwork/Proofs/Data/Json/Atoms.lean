/-
Values that are not containers are read as what was written.

A string is escaped character by character and its end is where its quote is.  A number
has no end of its own: it is read up to what may stand behind a value in a
container, or up to the end of the text.
-/
import Paperwork.Data.Json.Reader
import Paperwork.Data.Json.Writer
import Paperwork.Proofs.Answers
import Paperwork.Proofs.Text.Search

namespace Paperwork.Json

open Paperwork.Text

/-! ### Strings -/

theorem hexDigit?_hexChar {n : Nat} (h : n < 16) : hexDigit? (hexChar n) = some n := by
  have hall : ∀ n < 16, hexDigit? (hexChar n) = some n := by decide
  exact hall n h

section Characters

variable {c : Char} {units : List Nat} {rest after : List Char}

theorem readUnits_control (h : readUnits rest = .ok (units, after)) (hc : c.toNat < 0x20) :
    readUnits (['\\', 'u', '0', '0', hexChar (c.toNat / 16), hexChar (c.toNat % 16)] ++ rest)
      = .ok (c.toNat :: units, after) := by
  have hhigh : hexDigit? (hexChar (c.toNat / 16)) = some (c.toNat / 16) :=
    hexDigit?_hexChar (by omega)
  have hlow : hexDigit? (hexChar (c.toNat % 16)) = some (c.toNat % 16) :=
    hexDigit?_hexChar (by omega)
  have hzero : hexDigit? '0' = some 0 := by decide
  have hunit : unit? '0' '0' (hexChar (c.toNat / 16)) (hexChar (c.toNat % 16))
      = some c.toNat := by
    simp only [unit?, hzero, hhigh, hlow, Option.bind_eq_bind, Option.bind_some, Option.pure_def,
      Option.some.injEq]
    omega
  simp only [List.cons_append, List.nil_append, readUnits, hunit, h]
  rfl

theorem readUnits_escape {letter : Char} (h : readUnits rest = .ok (units, after))
    (hletter : letter ≠ 'u') (hescaped : escaped? letter = some c) :
    readUnits (['\\', letter] ++ rest) = .ok (c.toNat :: units, after) := by
  rw [List.cons_append, List.singleton_append, readUnits]
  · simp only [hescaped, h, ok_bind]
    rfl
  · simp [hletter]

theorem readUnits_plain (h : readUnits rest = .ok (units, after)) (hcontrol : ¬c.toNat < 0x20)
    (hquote : c ≠ '"') (hbackslash : c ≠ '\\') :
    readUnits (c :: rest) = .ok (c.toNat :: units, after) := by
  rw [readUnits, if_neg (by simp [hcontrol, hbackslash]), h]
  · rfl
  all_goals simp [hquote, hbackslash]

/-- What is written for a character is read as the character. -/
theorem readUnits_stringChar (h : readUnits rest = .ok (units, after)) (c : Char) :
    readUnits (stringChar c ++ rest) = .ok (c.toNat :: units, after) := by
  unfold stringChar
  split
  case h_8 hquote hbackslash _ _ _ _ _ =>
    split
    · exact readUnits_control h ‹_›
    · exact readUnits_plain h ‹_› hquote hbackslash
  all_goals exact readUnits_escape h (by decide) rfl

end Characters

theorem readUnits_quoted (cs rest : List Char) :
    readUnits (cs.flatMap stringChar ++ '"' :: rest) = .ok (cs.map Char.toNat, rest) := by
  induction cs with
  | nil => rfl
  | cons c cs ih =>
      rw [List.flatMap_cons, List.append_assoc]
      exact readUnits_stringChar ih c

theorem ofUnit_toNat (c : Char) : ofUnit c.toNat = c := by
  rw [ofUnit, if_neg c.toNat_not_surrogate, Char.ofNat_toNat]

theorem ofUnits_toNat : ∀ cs : List Char, ofUnits (cs.map Char.toNat) = cs
  | [] => rfl
  | [c] => congrArg (fun d => [d]) (ofUnit_toNat c)
  | c :: d :: rest => by
      have ih := ofUnits_toNat (d :: rest)
      have hhalf : ¬(0xD800 ≤ c.toNat ∧ c.toNat ≤ 0xDFFF) := c.toNat_not_surrogate
      rw [List.map_cons] at ih
      rw [List.map_cons, List.map_cons, ofUnits, if_neg (by omega), ofUnit_toNat, ih]

/-- **A string is read as the text that was written.** -/
theorem readString_quoted (text : String) (rest : List Char) :
    readString (text.toList.flatMap stringChar ++ '"' :: rest) = .ok (text.toList, rest) := by
  simp only [readString, readUnits_quoted, ok_bind, ofUnits_toNat]
  rfl

/-! ### Integers -/

/-- The signs that may stand behind a value, and the blanks. -/
def endings : List Char := [',', ']', '\x7d', ' ', '\t', '\n', '\r']

/-- Nothing more of a number stands at the head of a text: it is behind a value in a
container, or at its end. -/
def Stops (rest : List Char) : Prop := ∀ c, rest.head? = some c → c ∈ endings

theorem stops_nil : Stops [] := by simp [Stops]

theorem stops_cons {c : Char} (h : c ∈ endings) (rest : List Char) : Stops (c :: rest) := by
  rintro d ⟨⟩
  exact h

theorem notDigit_of_stop {c : Char} (h : c ∈ endings) : Decimal.isDigit c = false := by
  simp only [endings, List.mem_cons, List.not_mem_nil, or_false] at h
  rcases h with rfl | rfl | rfl | rfl | rfl | rfl | rfl <;> rfl

theorem digits_append {ds rest : List Char} (hds : ∀ c ∈ ds, Decimal.isDigit c = true)
    (hrest : Stops rest) : Decimal.digits (ds ++ rest) = (ds, rest) :=
  Text.span_append hds fun c hc => notDigit_of_stop (hrest c hc)

theorem isDigit_toDigits {n : Nat} {c : Char} (h : c ∈ Nat.toDigits 10 n) :
    Decimal.isDigit c = true := by
  have hdigit := Nat.isDigit_of_mem_toDigits (by decide) (by decide) h
  simpa [Char.isDigit, Decimal.isDigit, Char.le_def] using hdigit

theorem not_mem_of_isDigit {d : Char} (hd : Decimal.isDigit d = true) {cs : List Char}
    (hcs : cs.all (fun c => !Decimal.isDigit c) = true) : d ∉ cs := by
  intro hmem
  have hnone := List.all_eq_true.mp hcs d hmem
  simp [hd] at hnone

theorem value_toDigits (n : Nat) : Decimal.value (Nat.toDigits 10 n) = n := by
  have hvalue : ∀ ds, Decimal.value ds = Nat.ofDigitChars 10 ds 0 := by
    intro ds
    rw [Decimal.value, Nat.ofDigitChars]
    congr 1
    funext total c
    rw [Nat.mul_comm]
  rw [hvalue, Nat.ofDigitChars_toDigits (by decide) (by decide)]

/-- A number begins with a digit, and with a zero only if it is zero. -/
theorem toDigits_eq_cons (n : Nat) :
    ∃ d ds, Nat.toDigits 10 n = d :: ds ∧ Decimal.isDigit d = true ∧ (d = '0' → ds = []) := by
  induction n using Nat.strongRecOn with
  | ind n ih =>
      rw [Nat.toDigits_eq_if (by decide)]
      split
      · have hdigit : ∀ n < 10, Decimal.isDigit n.digitChar = true := by decide
        exact ⟨_, _, rfl, hdigit n ‹_›, fun _ => rfl⟩
      · obtain ⟨d, ds, heq, hd, hzero⟩ := ih (n / 10) (by omega)
        refine ⟨d, _, by rw [heq, List.cons_append], hd, fun hd => ?_⟩
        have hvalue := value_toDigits (n / 10)
        rw [heq, hzero hd, hd] at hvalue
        have : Decimal.value ['0'] = 0 := rfl
        omega

/-- The digits of a number are read up to what stands behind it. -/
theorem wholeDigits_toDigits (n : Nat) {rest : List Char} (hrest : Stops rest) :
    wholeDigits (Nat.toDigits 10 n ++ rest) = (Nat.toDigits 10 n, rest) := by
  have hdigits := digits_append (fun c => isDigit_toDigits (n := n)) hrest
  obtain ⟨d, ds, heq, -, hzero⟩ := toDigits_eq_cons n
  by_cases hd : d = '0'
  · rw [heq, hd, hzero hd]
    rfl
  · rw [wholeDigits, hdigits]
    intro rest hcons
    rw [heq] at hcons
    exact hd (List.cons.inj hcons).1

/-- A number ends where its digits end. -/
theorem readNumber_end {rest : List Char} (hrest : Stops rest) :
    fractionDigits rest = ([], rest) ∧ Decimal.exponent? rest = none := by
  cases rest with
  | nil => exact ⟨rfl, rfl⟩
  | cons c rest =>
      have hc := hrest c rfl
      simp only [endings, List.mem_cons, List.not_mem_nil, or_false] at hc
      rcases hc with rfl | rfl | rfl | rfl | rfl | rfl | rfl <;> exact ⟨rfl, rfl⟩

theorem toList_toString_nat (n : Nat) : (toString n).toList = Nat.toDigits 10 n := by
  rw [Nat.toString_eq_repr, Nat.repr, String.toList_ofList]

theorem toList_toString_int (n : Int) :
    (toString n).toList = (if n < 0 then ['-'] else []) ++ Nat.toDigits 10 n.natAbs := by
  cases n with
  | ofNat n =>
      rw [if_neg (by simp)]
      exact toList_toString_nat n
  | negSucc n =>
      have htext : toString (Int.negSucc n) = "-" ++ toString (n + 1) := rfl
      rw [if_pos (Int.negSucc_lt_zero n), htext, String.toList_append, toList_toString_nat]
      rfl

/-- An integer is read back if it has no more digits than are converted. -/
theorem readNumber_int {n : Int} (hn : (toString n.natAbs).length ≤ Decimal.digitLimit)
    {rest : List Char} (hrest : Stops rest) :
    readNumber ((toString n).toList ++ rest) = .ok (.int n, rest) := by
  have hwhole := wholeDigits_toDigits n.natAbs hrest
  obtain ⟨hfraction, hexponent⟩ := readNumber_end hrest
  obtain ⟨d, ds, heq, hd, -⟩ := toDigits_eq_cons n.natAbs
  have hvalue := value_toDigits n.natAbs
  have hlength : ¬Decimal.digitLimit ≤ ds.length := by
    rw [← String.length_toList, toList_toString_nat, heq, List.length_cons] at hn
    omega
  have hsign : d ∉ ['-'] := not_mem_of_isDigit hd rfl
  have hne : d ≠ '-' := by simpa using hsign
  rw [heq] at hwhole hvalue
  rw [List.cons_append] at hwhole
  rw [toList_toString_int, heq]
  by_cases hneg : n < 0
  · simp [readNumber, hneg, hwhole, hfraction, hexponent, hlength, hvalue, abs_of_neg hneg]
  · have hpos : 0 ≤ n := Int.not_lt.mp hneg
    simp [readNumber, hneg, hne, hwhole, hfraction, hexponent, hlength, hvalue,
      abs_of_nonneg hpos]

/-- An integer is none of the words. -/
theorem readAtom_int {n : Int} (hn : (toString n.natAbs).length ≤ Decimal.digitLimit)
    {rest : List Char} (hrest : Stops rest) :
    readAtom ((toString n).toList ++ rest) = .ok (.int n, rest) := by
  obtain ⟨d, ds, heq, hd, -⟩ := toDigits_eq_cons n.natAbs
  have hletters : d ∉ ['n', 't', 'f', 'N', 'I', '-'] := not_mem_of_isDigit hd rfl
  have hnone : keywords.findSome? (fun keyword =>
      (behind? keyword.1 ((toString n).toList ++ rest)).map fun rest => (keyword.2, rest))
        = none := by
    simp only [List.mem_cons, List.not_mem_nil, or_false, not_or] at hletters
    rw [toList_toString_int, heq]
    split <;> simp [keywords, behind?, Ne.symm, hletters]
  rw [readAtom, show keywords.findSome? _ = none from hnone]
  exact readNumber_int hn hrest

end Paperwork.Json
