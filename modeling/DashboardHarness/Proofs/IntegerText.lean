import DashboardHarness.Text.Numeral
import DashboardHarness.Proofs.DurationText

/-!
# Integers read back

An integer is written in decimal, with a minus sign when negative; reading takes an optional
sign, a base prefix, and digits that may be separated by underscores. A decimal numeral that
does not start with a zero has no prefix, so every integer of the signed 64-bit range reads
back from the text it is written as. A point is a digit of no base, so no text with a point
reads as an integer.

Main results:

- `readInt_toString`: every integer of the signed 64-bit range reads back from its text.
- `readInt_range`: what reads as an integer is in the signed 64-bit range.
- `readInt_no_point`: no text that reads as an integer has a point.
-/

namespace DashboardHarness.Text

/-! ## Decimal digits -/

theorem digitValue_of_isDigit {c : Char} (h : c.isDigit = true) : digitValue c = some (c.toNat - 48) := by
  simp [digitValue, h]

/-- Decimal digits read as their value, as long as no prefix of them passes the limit. -/
theorem readDigits_decimal (limit : Nat) (underscores : Bool) :
    ∀ (ds : List Char) (acc : Nat), (∀ c ∈ ds, c.isDigit = true) →
      Nat.ofDigitChars 10 ds acc ≤ limit →
      readDigits 10 limit underscores acc ds = .ok (Nat.ofDigitChars 10 ds acc)
  | [], acc, _, _ => rfl
  | c :: ds, acc, hds, hlimit => by
    have hc := hds c List.mem_cons_self
    have hd := digit_lt_ten hc
    have hne : c ≠ '_' := by
      rintro rfl
      simp at hc
    rw [Nat.ofDigitChars_cons] at hlimit ⊢
    change Nat.ofDigitChars 10 ds (10 * acc + (c.toNat - 48)) ≤ limit at hlimit
    have hstep : 10 * acc + (c.toNat - 48) ≤ limit :=
      Nat.le_trans (ofDigitChars_ge ds _) hlimit
    have hrest := readDigits_decimal limit underscores ds _
      (fun x hx => hds x (List.mem_cons_of_mem _ hx)) hlimit
    simp only [readDigits, hne, digitValue_of_isDigit hc, decide_false, Bool.false_and,
      Bool.false_eq_true, if_false]
    rw [if_neg (by omega), if_neg (by omega), Nat.mul_comm acc 10]
    exact hrest

/-- The decimal digits of a positive number do not start with a zero. -/
theorem toDigits_ne_zero_cons {k : Nat} (hk : 0 < k) (ds : List Char) :
    Nat.toDigits 10 k ≠ '0' :: ds := by
  intro h
  have hdigits : ∀ c ∈ ds, c.isDigit = true := fun c hc =>
    isDigit_toDigits k c (by rw [h]; exact List.mem_cons_of_mem _ hc)
  have hvalue : k = Nat.ofDigitChars 10 ds 0 := by
    calc k = Nat.ofDigitChars 10 (Nat.toDigits 10 k) 0 := Nat.ofDigitChars_ten_toDigits.symm
      _ = Nat.ofDigitChars 10 ds 0 := by simp [h, Nat.ofDigitChars_cons]
  have hlt : k < 10 ^ ds.length := hvalue ▸ ofDigitChars_lt hdigits
  have hpos : 0 < ds.length := by
    cases ds with
    | nil => simp at hvalue; omega
    | cons _ _ => simp
  have hlen := (Nat.length_toDigits_le_iff (by decide) hpos).mpr hlt
  rw [h, List.length_cons] at hlen
  omega

/-- The digits of a number within the limit read as the number. -/
theorem readUnsigned_toDigits {limit k : Nat} (hk : k ≤ limit) :
    readUnsigned limit (Nat.toDigits 10 k) = .ok k := by
  have hnone : '_' ∉ Nat.toDigits 10 k := Nat.underscore_not_in_toDigits
  rcases Nat.eq_zero_or_pos k with rfl | hpos
  · simp [Nat.toDigits_zero, readUnsigned, readDigits]
  · obtain ⟨d, ds, hds⟩ := List.exists_cons_of_ne_nil (Nat.toDigits_ne_nil (n := k) (b := 10))
    have hd : d ≠ '0' := fun h => toDigits_ne_zero_cons hpos ds (h ▸ hds)
    have hread := readDigits_decimal limit true (Nat.toDigits 10 k) 0 (isDigit_toDigits k)
      (by rw [Nat.ofDigitChars_ten_toDigits]; exact hk)
    rw [Nat.ofDigitChars_ten_toDigits] at hread
    rw [hds] at hread hnone ⊢
    simp [readUnsigned, hd, hread, hnone]

/-! ## Integers as written -/

theorem toList_intToString (n : Int) :
    (toString n).toList = (if n < 0 then ['-'] else []) ++ Nat.toDigits 10 n.natAbs := by
  cases n with
  | ofNat k => simp [Int.toString_eq_repr, Int.repr]
  | negSucc k => simp [Int.toString_eq_repr, Int.repr, Int.negSucc_lt_zero]

/-- Every integer of the signed 64-bit range reads back from its decimal text. -/
theorem readInt_toString {n : Int} (hlo : -2 ^ 63 ≤ n) (hhi : n < 2 ^ 63) :
    readInt (toString n) = .ok n := by
  obtain ⟨d, ds, hds⟩ := List.exists_cons_of_ne_nil (Nat.toDigits_ne_nil (n := n.natAbs) (b := 10))
  have hdigit : d.isDigit = true := isDigit_toDigits n.natAbs d (by rw [hds]; exact List.mem_cons_self)
  have hsign : d ≠ '+' ∧ d ≠ '-' := by
    constructor <;> (rintro rfl; simp at hdigit)
  have hread : readUnsigned 18446744073709551615 (d :: ds) = .ok n.natAbs := by
    rw [← hds]
    exact readUnsigned_toDigits (by omega)
  rw [readInt, toList_intToString, hds]
  generalize hm : n.natAbs = m at hread
  by_cases hneg : n < 0
  · simp [hneg, hread]
    rw [if_neg (by omega)]
    congr 1
    omega
  · simp [hneg, hsign.1, hsign.2, hread]
    rw [if_neg (by omega)]
    congr 1
    omega

/-- What reads as an integer is in the signed 64-bit range. -/
theorem readInt_range {s : String} {n : Int} (h : readInt s = .ok n) :
    -2 ^ 63 ≤ n ∧ n < 2 ^ 63 := by
  unfold readInt at h
  dsimp -iota only at h
  split at h
  · cases h
  split at h
  rename_i negative digits _
  split at h
  · cases h
  rename_i m _
  split at h
  · cases h
  rename_i hpos
  split at h
  · cases h
  rename_i hneg
  cases h
  cases negative with
  | false =>
    have hm : m < Nat.pow 2 63 := by simpa using hpos
    simp only [Nat.pow_eq] at hm
    simp only [Bool.false_eq_true, if_false]
    omega
  | true =>
    have hm : m ≤ Nat.pow 2 63 := by simpa using hneg
    simp only [Nat.pow_eq] at hm
    simp only [if_true]
    omega

/-! ## No point -/

/-- Digits of any base read only digits and underscores, so never a point. -/
theorem readDigits_no_point {base limit : Nat} {underscores : Bool} :
    ∀ {acc n : Nat} {ds : List Char}, readDigits base limit underscores acc ds = .ok n → '.' ∉ ds
  | _, _, [], _ => List.not_mem_nil
  | acc, n, c :: ds, h => by
    have hpoint : digitValue '.' = none := by decide
    unfold readDigits at h
    split at h
    · rename_i hc
      have hc' : c = '_' := (by simpa using hc : c = '_' ∧ underscores = true).1
      have hrest := readDigits_no_point h
      simp only [List.mem_cons, not_or, hc']
      exact ⟨by decide, hrest⟩
    split at h
    · cases h
    rename_i d hd
    have hc : c ≠ '.' := by
      rintro rfl
      simp [hpoint] at hd
    split at h
    · cases h
    split at h
    · cases h
    have hrest := readDigits_no_point h
    simp only [List.mem_cons, not_or]
    exact ⟨Ne.symm hc, hrest⟩

/-- A base prefix is a zero and a letter, so no text with a point reads as an unsigned integer. -/
theorem readUnsigned_no_point {limit n : Nat} {cs : List Char} (h : readUnsigned limit cs = .ok n) :
    '.' ∉ cs := by
  unfold readUnsigned at h
  split at h
  · cases h
  split at h
  rename_i base digits hbase
  split at h
  · cases h
  rename_i m hread
  have hdigits := readDigits_no_point hread
  have hpoint : '.'.toLower = '.' := by decide
  split at hbase
  · rename_i _ b c rest _
    have hcover : '.' ∈ b :: c :: rest → '.' ∈ digits := by
      intro hmem
      rcases List.mem_cons.mp hmem with hb | hc
      · subst hb
        simp [hpoint] at hbase
        rw [← hbase.2]
        exact List.mem_cons_self
      · split at hbase <;> (try split at hbase) <;> (try split at hbase) <;>
          obtain ⟨-, rfl⟩ := Prod.mk.inj hbase <;> simp [hc]
    intro hmem
    exact hdigits (hcover (by simpa using hmem))
  · obtain ⟨rfl, rfl⟩ := Prod.mk.inj hbase
    simpa using hdigits
  · obtain ⟨rfl, rfl⟩ := Prod.mk.inj hbase
    exact hdigits

/-- A sign is no point, so no text with a point reads as an integer. -/
theorem readInt_no_point {s : String} {n : Int} (h : readInt s = .ok n) : '.' ∉ s.toList := by
  unfold readInt at h
  dsimp -iota only at h
  split at h
  · cases h
  split at h
  rename_i negative digits hsign
  split at h
  · cases h
  rename_i m hread
  have hdigits := readUnsigned_no_point hread
  split at hsign
  · rename_i rest hs
    obtain ⟨-, rfl⟩ := Prod.mk.inj hsign
    simp [hs, hdigits]
  · rename_i rest hs
    obtain ⟨-, rfl⟩ := Prod.mk.inj hsign
    simp [hs, hdigits]
  · obtain ⟨-, rfl⟩ := Prod.mk.inj hsign
    exact hdigits

end DashboardHarness.Text
