import DashboardHarness.Text.Duration
import DashboardHarness.Proofs.WholeFloats
import Mathlib

/-!
# Durations read back

A duration is written as hours, minutes and seconds, or in one of the smaller units, with a
fraction of the unit when it is not whole; reading splits a text into parts, each a whole
number, an optional fraction after a point and a unit name, and sums the parts in nanoseconds.
The fractions are computed in doubles, which is exact here: the fraction of a written part has
at most nine digits, so all the numbers involved are whole and below the range where doubles
stop being exact.

Main results:

- `readParts_part`: a part made of digits, a fraction and a unit adds its nanoseconds.
- `fractionOf_fractionText`: the fraction written for a remainder reads back as that remainder.
- `readDuration_writeDuration`: every duration in the signed 64-bit range reads back from the
  text it is written as.
- `readParts_unit_letter`: a text that reads as parts has a unit letter.
- `readDuration_unitless`: a duration read from a text without unit letters is a zero.
- `readDuration_range`: what reads as a duration is in the signed 64-bit range.
-/

namespace DashboardHarness.Text

open DashboardHarness.WholeFloat

/-! ## Digits -/

theorem span_append_of_head (p : Char → Bool) {ds rest : List Char} (hds : ∀ c ∈ ds, p c = true)
    (hrest : ∀ c ∈ rest.head?, p c = false) : (ds ++ rest).span p = (ds, rest) := by
  rw [List.span_eq_takeWhile_dropWhile, List.takeWhile_append_of_pos hds,
    List.dropWhile_append_of_pos hds]
  cases rest with
  | nil => simp
  | cons c more =>
    have hc : p c = false := hrest c rfl
    simp [List.takeWhile, List.dropWhile, hc]

theorem digit_lt_ten {c : Char} (h : c.isDigit = true) : c.toNat - 48 < 10 := by
  simp only [Char.isDigit, Bool.and_eq_true, decide_eq_true_eq] at h
  have h1 : c.toNat ≤ 57 := h.2
  omega

/-- Digits read as a number below the power of ten of their count. -/
theorem ofDigitChars_lt {t : List Char} (ht : ∀ c ∈ t, c.isDigit = true) :
    Nat.ofDigitChars 10 t 0 < 10 ^ t.length := by
  induction t with
  | nil => simp
  | cons c t ih =>
    have hc := digit_lt_ten (ht c (by simp))
    have hrest := ih fun x hx => ht x (by simp [hx])
    rw [Nat.ofDigitChars_cons, Nat.ofDigitChars_eq_ofDigitChars_zero]
    simp only [Nat.mul_zero, Nat.zero_add, List.length_cons, Nat.pow_succ]
    have hd : c.toNat - '0'.toNat + 1 ≤ 10 := by
      change c.toNat - 48 + 1 ≤ 10
      omega
    calc 10 ^ t.length * (c.toNat - '0'.toNat) + Nat.ofDigitChars 10 t 0
        < 10 ^ t.length * (c.toNat - '0'.toNat) + 10 ^ t.length := Nat.add_lt_add_left hrest _
      _ = 10 ^ t.length * (c.toNat - '0'.toNat + 1) := by rw [Nat.mul_add, Nat.mul_one]
      _ ≤ 10 ^ t.length * 10 := Nat.mul_le_mul_left _ hd

theorem ofDigitChars_ge (l : List Char) (init : Nat) : init ≤ Nat.ofDigitChars 10 l init := by
  rw [Nat.ofDigitChars_eq_ofDigitChars_zero]
  exact Nat.le_add_right_of_le (Nat.le_mul_of_pos_left init (Nat.pow_pos (by decide)))

theorem isDigit_toDigits (v : Nat) : ∀ c ∈ Nat.toDigits 10 v, c.isDigit = true :=
  fun _ hc => Nat.isDigit_of_mem_toDigits (by decide) (by decide) hc

/-! ## The whole number of a part -/

/-- Reading digits on from `n` gives their value on from `n`, while it stays within `2^63`. -/
theorem leadingInt_go {ds : List Char} (hds : ∀ c ∈ ds, c.isDigit = true) {n : Nat}
    (hv : Nat.ofDigitChars 10 ds n ≤ 2 ^ 63) :
    leadingInt.go n ds = some (Nat.ofDigitChars 10 ds n) := by
  induction ds generalizing n with
  | nil => rfl
  | cons c ds ih =>
    rw [Nat.ofDigitChars_cons] at hv ⊢
    have hstep := ofDigitChars_ge ds (10 * n + (c.toNat - '0'.toNat))
    have hnext : n * 10 + (c.toNat - 48) = 10 * n + (c.toNat - '0'.toNat) := by
      change n * 10 + (c.toNat - 48) = 10 * n + (c.toNat - 48)
      omega
    simp only [leadingInt.go, Nat.pow_eq]
    rw [if_neg (by omega), hnext, if_neg (by omega)]
    exact ih (fun x hx => hds x (by simp [hx])) hv

/-- The whole number of a part is read back from its digits, up to the first character that is
not a digit. -/
theorem leadingInt_toDigits (v : Nat) {rest : List Char}
    (hrest : ∀ c ∈ rest.head?, c.isDigit = false) (hv : v ≤ 2 ^ 63) :
    leadingInt (Nat.toDigits 10 v ++ rest) = some (v, rest) := by
  unfold leadingInt
  rw [span_append_of_head _ (isDigit_toDigits v) hrest]
  simp only
  rw [leadingInt_go (isDigit_toDigits v) (by simpa using hv), Nat.ofDigitChars_ten_toDigits]
  rfl

/-! ## The fraction of a part -/

/-- One digit of a fraction, as the reader takes it: its value, its scale as a double, and whether
the value has overflowed. -/
def fractionStep (acc : Nat × Float × Bool) (c : Char) : Nat × Float × Bool :=
  let (x, scale, overflow) := acc
  if overflow then acc
  else if x > (2 ^ 63 - 1) / 10 then (x, scale, true)
  else
    let y := x * 10 + (c.toNat - 48)
    if y > 2 ^ 63 then (x, scale, true) else (y, scale * 10, false)

theorem leadingFraction_eq (cs : List Char) :
    leadingFraction cs =
      (((cs.span Char.isDigit).1.foldl fractionStep (0, 1, false)).1,
       ((cs.span Char.isDigit).1.foldl fractionStep (0, 1, false)).2.1, (cs.span Char.isDigit).2) :=
  rfl

/-- Up to nine digits read exactly: the value of the digits, and a scale that is the power of ten
of their count, which a double holds exactly. -/
theorem foldl_fractionStep {t : List Char} (ht : ∀ c ∈ t, c.isDigit = true) {x i : Nat}
    (hx : x < 10 ^ i) (hlen : i + t.length ≤ 9) :
    t.foldl fractionStep (x, Float.ofNat (10 ^ i), false) =
      (Nat.ofDigitChars 10 t x, Float.ofNat (10 ^ (i + t.length)), false) := by
  induction t generalizing x i with
  | nil => rfl
  | cons c t ih =>
    have hc := digit_lt_ten (ht c (by simp))
    have hpow : 10 ^ (i + 1) ≤ 10 ^ 9 := Nat.pow_le_pow_right (by decide) (by simp at hlen; omega)
    have hy : x * 10 + (c.toNat - 48) < 10 ^ (i + 1) := by rw [Nat.pow_succ]; omega
    have hscale : Float.ofNat (10 ^ i) * 10 = Float.ofNat (10 ^ (i + 1)) := by
      rw [show (10 : Float) = Float.ofNat 10 from rfl,
        ofNat_mul_ofNat (Nat.pow_pos (by decide)) (by decide) (by rw [← Nat.pow_succ]; omega),
        Nat.pow_succ]
    have hfirst : fractionStep (x, Float.ofNat (10 ^ i), false) c =
        (x * 10 + (c.toNat - 48), Float.ofNat (10 ^ (i + 1)), false) := by
      simp only [fractionStep, Bool.false_eq_true, if_false]
      rw [if_neg (by omega), if_neg (by omega), hscale]
    rw [List.foldl_cons, hfirst, ih (fun d hd => ht d (by simp [hd])) hy (by simp at hlen; omega),
      Nat.ofDigitChars_cons]
    congr 2
    · change x * 10 + (c.toNat - 48) = 10 * x + (c.toNat - 48)
      omega
    · rw [List.length_cons, Nat.add_right_comm, Nat.add_assoc]

/-- A fraction of up to nine digits is read back as its value and the power of ten of its
length. -/
theorem leadingFraction_digits {t rest : List Char} (ht : ∀ c ∈ t, c.isDigit = true)
    (hrest : ∀ c ∈ rest.head?, c.isDigit = false) (hlen : t.length ≤ 9) :
    leadingFraction (t ++ rest) = (Nat.ofDigitChars 10 t 0, Float.ofNat (10 ^ t.length), rest) := by
  rw [leadingFraction_eq, span_append_of_head _ ht hrest]
  have h := foldl_fractionStep ht (x := 0) (i := 0) (by decide) (by omega)
  simp only [Nat.zero_add] at h
  simp only
  rw [show (1 : Float) = Float.ofNat (10 ^ 0) from rfl, h]

/-- The nanoseconds of a fraction of a unit that is a power of ten, computed in doubles the way
the reader computes them, come out exact. -/
theorem fractionNanos_exact {f k p : Nat} (hf : 0 < f) (hfk : f < 10 ^ k) (hkp : k ≤ p)
    (hp : p ≤ 9) :
    (Float.ofNat f * (Float.ofNat (10 ^ p) / Float.ofNat (10 ^ k))).toUInt64.toNat =
      f * 10 ^ (p - k) := by
  have hsplit : 10 ^ p = 10 ^ (p - k) * 10 ^ k := by rw [← Nat.pow_add, Nat.sub_add_cancel hkp]
  have hbound : 10 ^ p < 2 ^ 53 :=
    Nat.lt_of_le_of_lt (Nat.pow_le_pow_right (by decide) hp) (by decide)
  have hprod : f * 10 ^ (p - k) < 10 ^ p := by
    rw [hsplit, Nat.mul_comm (10 ^ (p - k))]
    exact Nat.mul_lt_mul_of_pos_right hfk (Nat.pow_pos (by decide))
  rw [hsplit, ofNat_div_ofNat (Nat.pow_pos (by decide)) (Nat.pow_pos (by decide)) (hsplit ▸ hbound),
    ofNat_mul_ofNat hf (Nat.pow_pos (by decide)) (by omega), toUInt64_ofNat (by omega)]

/-! ## One part -/

/-- What follows a number and a fraction in a part: the unit, whose characters are neither digits
nor points, and then the next part or the end. -/
structure UnitThen (unitChars rest : List Char) (unit : Nat) : Prop where
  nonempty : unitChars ≠ []
  letters : ∀ c ∈ unitChars, (c = '.' || c.isDigit) = false
  names : unitNanos (String.ofList unitChars) = some unit
  next : ∀ c ∈ rest.head?, (c = '.' || c.isDigit) = true

/-- The fraction of a part and the nanoseconds it stands for: none, or a point and up to nine
digits with a positive value, of a unit that is a power of ten at least as fine as the digits. -/
inductive FractionOf : List Char → Nat → Nat → Prop
  | none (unit : Nat) : FractionOf [] unit 0
  | digits (t : List Char) (p : Nat) (hdigits : ∀ c ∈ t, c.isDigit = true)
      (hpos : 0 < Nat.ofDigitChars 10 t 0) (hlen : t.length ≤ p) (hp : p ≤ 9) :
      FractionOf ('.' :: t) (10 ^ p) (Nat.ofDigitChars 10 t 0 * 10 ^ (p - t.length))

theorem unitNanos_pos {s : String} {unit : Nat} (h : unitNanos s = some unit) : 0 < unit := by
  unfold unitNanos at h
  split at h <;> simp only [Option.some.injEq, reduceCtorEq] at h <;> omega

/-- Reading one part: its whole number times its unit and the nanoseconds of its fraction are added
to the total, and reading goes on with the next part. -/
theorem readParts_part (written : String) (fuel total v unit frac : Nat)
    {fracChars unitChars rest : List Char} (hfrac : FractionOf fracChars unit frac)
    (hunit : UnitThen unitChars rest unit) (hv : v * unit ≤ 2 ^ 63)
    (htotal : total + (v * unit + frac) ≤ 2 ^ 63) :
    readParts written (fuel + 1) total (Nat.toDigits 10 v ++ fracChars ++ unitChars ++ rest) =
      readParts written fuel (total + (v * unit + frac)) rest := by
  have hpos := unitNanos_pos hunit.names
  have hv' : v ≤ 2 ^ 63 := Nat.le_trans (Nat.le_mul_of_pos_right v hpos) hv
  obtain ⟨d, ds, hd⟩ : ∃ d ds, Nat.toDigits 10 v = d :: ds := by
    cases h : Nat.toDigits 10 v with
    | nil => exact absurd h Nat.toDigits_ne_nil
    | cons d ds => exact ⟨d, ds, rfl⟩
  have hdigit : d.isDigit = true := isDigit_toDigits v d (by rw [hd]; exact List.mem_cons_self)
  have hspan : (unitChars ++ rest).span (fun c => !(c = '.' || c.isDigit)) = (unitChars, rest) :=
    span_append_of_head _ (fun c hc => by simp [hunit.letters c hc])
      (fun c hc => by simp [hunit.next c hc])
  simp only [List.span_eq_takeWhile_dropWhile, Bool.not_or, Prod.mk.injEq] at hspan
  obtain ⟨htake, hdrop⟩ := hspan
  obtain ⟨u, us, rfl⟩ := List.exists_cons_of_ne_nil hunit.nonempty
  have hul := hunit.letters u (by simp)
  have hudot : u ≠ '.' := by rintro rfl; simp at hul
  have hudigit : u.isDigit = false := by simp at hul; exact hul.2
  have hnames : unitNanos (String.singleton u ++ String.ofList us) = some unit := by
    simpa using hunit.names
  have hcut : ¬ (9223372036854775808 / unit < v) := by
    rw [Nat.not_lt, Nat.le_div_iff_mul_le hpos]
    exact hv
  cases hfrac with
  | none =>
    have hint : leadingInt (Nat.toDigits 10 v ++ (u :: us ++ rest)) = some (v, u :: us ++ rest) :=
      leadingInt_toDigits v (by simpa using hudigit) hv'
    simp only [List.append_nil, List.append_assoc, List.cons_append] at hint htake hdrop ⊢
    rw [hd, List.cons_append] at hint ⊢
    have hpre : us.length + rest.length ≠ ds.length + (us.length + rest.length + 1) := by omega
    have hbound : ¬ (9223372036854775808 < v * unit) := by omega
    have htotal' : ¬ (9223372036854775808 < total + v * unit) := by omega
    simp [readParts, hdigit, hint, hudot, htake, hdrop, hnames, hcut, hpre, hbound, htotal']
  | digits t p hdigits hfpos hlen hp =>
    have ht : t ≠ [] := by rintro rfl; simp at hfpos
    have hint : leadingInt (Nat.toDigits 10 v ++ '.' :: (t ++ u :: us ++ rest)) =
        some (v, '.' :: (t ++ u :: us ++ rest)) :=
      leadingInt_toDigits v (by simp) hv'
    have hfrac : leadingFraction (t ++ (u :: us ++ rest)) =
        (Nat.ofDigitChars 10 t 0, Float.ofNat (10 ^ t.length), u :: us ++ rest) :=
      leadingFraction_digits hdigits (by simpa using hudigit) (by omega)
    have hexact := fractionNanos_exact hfpos (ofDigitChars_lt hdigits) hlen hp
    simp only [List.append_assoc, List.cons_append] at hint hfrac htake hdrop ⊢
    rw [hd, List.cons_append] at hint ⊢
    have hbound : ¬ (9223372036854775808 < v * 10 ^ p + Nat.ofDigitChars 10 t 0 * 10 ^ (p - t.length)) := by
      omega
    have htotal' : ¬ (9223372036854775808 <
        total + (v * 10 ^ p + Nat.ofDigitChars 10 t 0 * 10 ^ (p - t.length))) := by omega
    simp [readParts, hdigit, hint, hfrac, htake, hdrop, hnames, hcut, ht, hfpos, hexact, hbound,
      htotal']

/-! ## Fractions as written -/

/-- Digits with their trailing zeros cut are the digits before those zeros. -/
theorem trimmed_append_zeros (padded : List Char) :
    ∃ z, padded = (padded.reverse.dropWhile (· = '0')).reverse ++ List.replicate z '0' := by
  have hsplit := (List.takeWhile_append_dropWhile (p := (· = '0')) (l := padded.reverse)).symm
  have hzeros : padded.reverse.takeWhile (· = '0') =
      List.replicate (padded.reverse.takeWhile (· = '0')).length '0' :=
    List.eq_replicate_iff.mpr ⟨rfl, fun b hb => by
      have := List.all_eq_true.mp (List.all_takeWhile (p := (· = '0')) (l := padded.reverse)) b hb
      simpa using this⟩
  refine ⟨(padded.reverse.takeWhile (· = '0')).length, ?_⟩
  conv_lhs => rw [← List.reverse_reverse padded, hsplit, hzeros]
  simp [List.reverse_append, List.reverse_replicate]

/-- A fraction as written: nothing for zero, else a point and the digits of the value padded to
`places` digits, without trailing zeros; it reads back as the value in units of `10^places`. -/
theorem fractionOf_fractionText {value places : Nat} (hv : value < 10 ^ places) (hp : places ≤ 9) :
    FractionOf (fractionText value places).toList (10 ^ places) value := by
  rcases Nat.eq_zero_or_pos value with rfl | hpos
  · -- zero is all zeros, all of them cut
    have hempty : fractionText 0 places = "" := by simp [fractionText]
    rw [hempty]
    exact .none _
  · have hplaces : 0 < places := by
      rcases Nat.eq_zero_or_pos places with rfl | h
      · simp at hv; omega
      · exact h
    have hlen : (Nat.toDigits 10 value).length ≤ places :=
      (Nat.length_toDigits_le_iff (by decide) hplaces).mpr hv
    obtain ⟨z, hz⟩ := trimmed_append_zeros
      (List.replicate (places - (Nat.toDigits 10 value).length) '0' ++ Nat.toDigits 10 value)
    have hpadded : Nat.ofDigitChars 10
        (List.replicate (places - (Nat.toDigits 10 value).length) '0' ++ Nat.toDigits 10 value) 0 =
          value := by
      rw [Nat.ofDigitChars_append, Nat.ofDigitChars_replicate_zero, Nat.mul_zero,
        Nat.ofDigitChars_ten_toDigits]
    have hdigits : ∀ c ∈ List.replicate (places - (Nat.toDigits 10 value).length) '0' ++
        Nat.toDigits 10 value, c.isDigit = true := by
      intro c hc
      rcases List.mem_append.mp hc with hc | hc
      · rw [List.eq_of_mem_replicate hc]
        rfl
      · exact isDigit_toDigits value c hc
    have hlength : (List.replicate (places - (Nat.toDigits 10 value).length) '0' ++
        Nat.toDigits 10 value).length = places := by
      simp only [List.length_append, List.length_replicate]
      omega
    simp only [fractionText]
    generalize (List.replicate (places - (Nat.toDigits 10 value).length) '0' ++
      Nat.toDigits 10 value) = padded at hz hpadded hdigits hlength ⊢
    generalize (List.dropWhile (fun x => decide (x = '0')) padded.reverse).reverse = trimmed at hz ⊢
    subst hz
    have hvalue : value = Nat.ofDigitChars 10 trimmed 0 * 10 ^ (places - trimmed.length) := by
      rw [← hpadded, Nat.ofDigitChars_append, Nat.ofDigitChars_replicate_zero, Nat.mul_comm]
      simp only [List.length_append, List.length_replicate] at hlength
      congr 2
      omega
    have htpos : 0 < Nat.ofDigitChars 10 trimmed 0 := by
      rcases Nat.eq_zero_or_pos (Nat.ofDigitChars 10 trimmed 0) with h | h
      · rw [h, Nat.zero_mul] at hvalue; omega
      · exact h
    have hne : trimmed.isEmpty = false := by
      cases trimmed with
      | nil => simp at htpos
      | cons _ _ => rfl
    have htlen : trimmed.length ≤ places := by
      simp only [List.length_append] at hlength
      omega
    rw [hne, if_neg Bool.false_ne_true, String.toList_ofList, hvalue]
    exact .digits trimmed places (fun c hc => hdigits c (List.mem_append_left _ hc)) htpos htlen hp

/-! ## Parts as written -/

theorem toList_toString (n : Nat) : (toString n).toList = Nat.toDigits 10 n := by
  simp [Nat.toString_eq_repr]

/-- A whole number of a unit, written without a fraction, is read back as its nanoseconds. -/
theorem readParts_whole (written : String) (fuel total v unit : Nat) (u : String)
    (rest : List Char) (hunit : UnitThen u.toList rest unit) (htotal : total + v * unit ≤ 2 ^ 63) :
    readParts written (fuel + 1) total ((toString v ++ u).toList ++ rest) =
      readParts written fuel (total + v * unit) rest := by
  have h := readParts_part written fuel total v unit 0 (.none unit) hunit (by omega) (by omega)
  simpa [toList_toString] using h

/-- A number of nanoseconds written in a unit of `10^p` nanoseconds, with a fraction, is read back
as that number. -/
theorem readParts_unitText (written : String) (fuel total n p : Nat) (u : String)
    (rest : List Char) (hunit : UnitThen u.toList rest (10 ^ p)) (hp : p ≤ 9)
    (htotal : total + n ≤ 2 ^ 63) :
    readParts written (fuel + 1) total ((unitText n p u).toList ++ rest) =
      readParts written fuel (total + n) rest := by
  have hsplit : n / 10 ^ p * 10 ^ p + n % 10 ^ p = n := by
    rw [Nat.mul_comm]
    exact Nat.div_add_mod n (10 ^ p)
  have h := readParts_part written fuel total (n / 10 ^ p) (10 ^ p) (n % 10 ^ p)
    (fractionOf_fractionText (Nat.mod_lt n (Nat.pow_pos (by decide))) hp) hunit (by omega)
    (by omega)
  rw [hsplit] at h
  simpa [unitText, toList_toString] using h

/-! ## Durations as written -/

/-- A duration is written as its sign, then its size. -/
theorem writeDuration_sign (d : Int) :
    writeDuration d = (if d < 0 then "-" else "") ++ writeDuration (d.natAbs : Int) := by
  by_cases h : d = 0
  · subst h
    rfl
  · have hn : d.natAbs ≠ 0 := Int.natAbs_ne_zero.mpr h
    simp only [writeDuration, Int.natAbs_natCast, hn, if_false, Int.natCast_nonneg, Int.not_lt.mpr,
      String.empty_append]
    split_ifs <;> simp only [String.append_assoc]

theorem readParts_nil (written : String) (fuel total : Nat) :
    readParts written fuel total [] = .ok total := by
  cases fuel <;> rfl

/-- A unit ends a duration, or another part follows it, which starts with a digit. -/
theorem unitThen_of {u : String} {unit : Nat} {rest : List Char} (hnames : unitNanos u = some unit)
    (hne : u.toList ≠ []) (hletters : ∀ c ∈ u.toList, (c = '.' || c.isDigit) = false)
    (hrest : ∀ c ∈ rest.head?, (c = '.' || c.isDigit) = true) : UnitThen u.toList rest unit :=
  ⟨hne, hletters, by simpa using hnames, hrest⟩

theorem head_toString_append (v : Nat) (s : String) (rest : List Char) :
    ∀ c ∈ ((toString v ++ s).toList ++ rest).head?, (c = '.' || c.isDigit) = true := by
  obtain ⟨d, ds, hd⟩ : ∃ d ds, Nat.toDigits 10 v = d :: ds := by
    cases h : Nat.toDigits 10 v with
    | nil => exact absurd h Nat.toDigits_ne_nil
    | cons d ds => exact ⟨d, ds, rfl⟩
  have hdigit : d.isDigit = true := isDigit_toDigits v d (by rw [hd]; exact List.mem_cons_self)
  simp [hd, hdigit]

theorem head_unitText (n p : Nat) (u : String) :
    ∀ c ∈ (unitText n p u).toList.head?, (c = '.' || c.isDigit) = true := by
  simpa [unitText, String.append_assoc] using
    head_toString_append (n / 10 ^ p) (fractionText (n % 10 ^ p) p ++ u) []

/-- The seconds of a duration of at least a second, after its hours and minutes. -/
theorem readParts_seconds (written : String) (fuel total n : Nat) (htotal : total + n ≤ 2 ^ 63) :
    readParts written (fuel + 1) total (unitText n 9 "s").toList = .ok (total + n) := by
  have h := readParts_unitText written fuel total n 9 "s" []
    (unitThen_of (by decide) (by decide) (by simp) (by simp)) (by decide) htotal
  rw [List.append_nil] at h
  rw [h, readParts_nil]

/-- The size of a positive duration, as written, is read back. -/
theorem readParts_size (written : String) (fuel : Nat) {n : Nat} (hpos : 0 < n) (hn : n ≤ 2 ^ 63) :
    readParts written (fuel + 3) 0 (writeDuration (n : Int)).toList = .ok n := by
  have hne : n ≠ 0 := Nat.pos_iff_ne_zero.mp hpos
  simp only [writeDuration, Int.natAbs_natCast, hne, if_false, Int.natCast_nonneg, Int.not_lt.mpr,
    String.empty_append]
  by_cases h1 : n < 1000
  · -- nanoseconds
    have h := readParts_whole written (fuel + 2) 0 n 1 "ns" []
      (unitThen_of (by decide) (by decide) (by simp) (by simp)) (by omega)
    rw [List.append_nil] at h
    rw [if_pos h1, h, readParts_nil, Nat.zero_add, Nat.mul_one]
  by_cases h2 : n < 1000000
  · -- microseconds
    have h := readParts_unitText written (fuel + 2) 0 n 3 "µs" []
      (unitThen_of (by decide) (by decide) (by simp) (by simp)) (by decide) (by omega)
    rw [List.append_nil] at h
    rw [if_neg h1, if_pos h2, h, readParts_nil, Nat.zero_add]
  by_cases h3 : n < 1000000000
  · -- milliseconds
    have h := readParts_unitText written (fuel + 2) 0 n 6 "ms" []
      (unitThen_of (by decide) (by decide) (by simp) (by simp)) (by decide) (by omega)
    rw [List.append_nil] at h
    rw [if_neg h1, if_neg h2, if_pos h3, h, readParts_nil, Nat.zero_add]
  rw [if_neg h1, if_neg h2, if_neg h3]
  have hsplit : n = n / 3600000000000 * 3600000000000 + n / 60000000000 % 60 * 60000000000 +
      n % 60000000000 := by omega
  have hminutes : ∀ c ∈ (toString (n / 60000000000 % 60) ++ "m").toList.head?,
      (c = '.' || c.isDigit) = true := by
    simpa using head_toString_append (n / 60000000000 % 60) "m" []
  by_cases hH : n / 3600000000000 > 0
  · rw [if_pos hH, if_pos (by simp [hH]), String.toList_append, String.toList_append,
      List.append_assoc]
    rw [readParts_whole written (fuel + 2) 0 _ 3600000000000 "h" _
      (unitThen_of (by decide) (by decide) (by simp) (by simpa using hminutes)) (by omega)]
    rw [readParts_whole written (fuel + 1) _ _ 60000000000 "m" _
      (unitThen_of (by decide) (by decide) (by simp) (head_unitText _ 9 "s")) (by omega)]
    rw [readParts_seconds written fuel _ _ (by omega)]
    congr 1
    omega
  by_cases hM : n / 60000000000 % 60 > 0
  · rw [if_neg hH, if_pos (by simp [hM]), String.toList_append, String.toList_append,
      String.toList_empty, List.nil_append]
    rw [readParts_whole written (fuel + 2) 0 _ 60000000000 "m" _
      (unitThen_of (by decide) (by decide) (by simp) (head_unitText _ 9 "s")) (by omega)]
    rw [readParts_seconds written (fuel + 1) _ _ (by omega)]
    congr 1
    omega
  · rw [if_neg hH, if_neg (by simp [hH, hM]), String.empty_append, String.empty_append,
      readParts_seconds written (fuel + 2) 0 _ (by omega)]
    congr 1
    omega

/-- One character is no duration part: a number needs a unit after it. -/
theorem readParts_single (written : String) (fuel total : Nat) (c : Char) (v : Nat) :
    readParts written fuel total [c] ≠ .ok v := by
  cases fuel with
  | zero => simp [readParts]
  | succ fuel =>
    by_cases hdot : c = '.'
    · subst hdot
      simp [readParts, leadingInt, leadingInt.go, leadingFraction]
    · by_cases hdigit : c.isDigit = true
      · have hsmall : ¬ (9223372036854775808 < c.toNat - 48) := by
          have := digit_lt_ten hdigit
          omega
        simp [readParts, leadingInt, leadingInt.go, hdigit, hsmall]
      · simp [readParts, hdot, hdigit]

/-- A read that succeeds starts with a digit or a point. -/
theorem readParts_head {written : String} {fuel total : Nat} {c : Char} {cs : List Char} {v : Nat}
    (h : readParts written (fuel + 1) total (c :: cs) = .ok v) : (c = '.' || c.isDigit) = true := by
  by_contra hc
  have hc' : c ≠ '.' ∧ c.isDigit = false := by simpa using hc
  simp [readParts, hc'.1, hc'.2] at h

/-- The text of a positive size, as the reader sees it: at least two characters, of which the first
is a digit or a point, and which read back as the size with any fuel from three on. -/
theorem size_text {n : Nat} (hpos : 0 < n) (hn : n ≤ 2 ^ 63) (written : String) :
    ∃ c cs, (writeDuration (n : Int)).toList = c :: cs ∧ c ≠ '-' ∧ c ≠ '+' ∧ cs ≠ [] ∧
      readParts written ((c :: cs).length + 1) 0 (c :: cs) = .ok n := by
  have hread := readParts_size written 0 hpos hn
  cases hbody : (writeDuration (n : Int)).toList with
  | nil =>
    rw [hbody, readParts_nil] at hread
    cases hread
    omega
  | cons c cs =>
    rw [hbody] at hread
    have hc := readParts_head hread
    have hcs : cs ≠ [] := by
      rintro rfl
      exact readParts_single written 3 0 c n hread
    obtain ⟨d, ds, rfl⟩ := List.exists_cons_of_ne_nil hcs
    refine ⟨c, d :: ds, rfl, ?_, ?_, hcs, ?_⟩
    · rintro rfl; simp at hc
    · rintro rfl; simp at hc
    · have hfuel : (c :: d :: ds).length + 1 = ds.length + 3 := by simp
      rw [hfuel]
      exact readParts_size written ds.length hpos hn ▸ (hbody ▸ rfl)

theorem readDuration_zero_written : readDuration (writeDuration 0) = .ok 0 := by decide

/-- Every duration that fits a signed 64-bit word reads back, as written, as itself. -/
theorem readDuration_writeDuration {d : Int} (hlo : -2 ^ 63 ≤ d) (hhi : d < 2 ^ 63) :
    readDuration (writeDuration d) = .ok d := by
  rcases Int.lt_trichotomy d 0 with hneg | rfl | hpos
  · have hn : 0 < d.natAbs := Int.natAbs_pos.mpr (by omega)
    have hn' : d.natAbs ≤ 2 ^ 63 := by omega
    obtain ⟨c, cs, hbody, hc1, hc2, hcs, hread⟩ :=
      size_text hn hn' ("-" ++ writeDuration (d.natAbs : Int))
    have hs : ("-" ++ writeDuration (d.natAbs : Int)).toList = '-' :: c :: cs := by
      rw [String.toList_append, hbody]
      rfl
    rw [writeDuration_sign, if_pos hneg]
    unfold readDuration
    rw [hs]
    simp only [List.cons.injEq, List.isEmpty_cons, hcs, and_false, if_false, Bool.false_eq_true,
      hread, if_true]
    congr 1
    omega
  · exact readDuration_zero_written
  · have hn : 0 < d.natAbs := Int.natAbs_pos.mpr (by omega)
    have hn' : d.natAbs ≤ 2 ^ 63 := by omega
    obtain ⟨c, cs, hbody, hc1, hc2, hcs, hread⟩ := size_text hn hn' (writeDuration (d.natAbs : Int))
    rw [writeDuration_sign, if_neg (by omega), String.empty_append]
    unfold readDuration
    rw [hbody]
    have hsmall : ¬ (9223372036854775807 < d.natAbs) := by omega
    have hread' : readParts (writeDuration (d.natAbs : Int)) (cs.length + 1 + 1) 0 (c :: cs) =
        .ok d.natAbs := by simpa using hread
    generalize hm : d.natAbs = m at hread' hsmall ⊢
    simp [hc1, hc2, hcs, hread', hsmall]
    omega

/-! ## Reading without a unit -/

/-- Every unit name has one of the letters that mark a duration with a unit. -/
theorem unitNanos_letter {s : String} {unit : Nat} (h : unitNanos s = some unit) :
    s.toList.any (fun c => "nsuµmh".toList.contains c) = true := by
  unfold unitNanos at h
  split at h <;> first | decide | cases h

theorem leadingInt_rest {cs after : List Char} {v : Nat} (h : leadingInt cs = some (v, after)) :
    after = cs.dropWhile Char.isDigit := by
  unfold leadingInt at h
  simp only [List.span_eq_takeWhile_dropWhile, Option.map_eq_some_iff, Prod.mk.injEq] at h
  obtain ⟨_, _, _, rfl⟩ := h
  rfl

theorem leadingFraction_rest (cs : List Char) :
    (leadingFraction cs).2.2 = cs.dropWhile Char.isDigit := by
  rw [leadingFraction_eq, List.span_eq_takeWhile_dropWhile]

/-- A part is read only when its unit is named, so the text read has a unit letter. -/
theorem readParts_unit_letter {written : String} {fuel total v : Nat} {cs : List Char}
    (h : readParts written fuel total cs = .ok v) (hcs : cs ≠ []) :
    cs.any (fun c => "nsuµmh".toList.contains c) = true := by
  obtain ⟨c, cs, rfl⟩ := List.exists_cons_of_ne_nil hcs
  cases fuel with
  | zero => simp [readParts] at h
  | succ fuel =>
  suffices hunit : ∃ after : List Char, (∀ x ∈ after, x ∈ c :: cs) ∧ ∃ unit,
      unitNanos (String.ofList (after.takeWhile fun d => !decide (d = '.') && !d.isDigit)) =
        some unit by
    obtain ⟨after, hsub, unit, hnames⟩ := hunit
    obtain ⟨x, hx, hletter⟩ := List.any_eq_true.mp (unitNanos_letter hnames)
    rw [String.toList_ofList] at hx
    exact List.any_eq_true.mpr ⟨x, hsub x ((List.takeWhile_sublist _).subset hx), hletter⟩
  by_cases hc : (c = '.' || c.isDigit) = true
  swap
  · have hc' : c ≠ '.' ∧ c.isDigit = false := by simpa using hc
    simp [readParts, hc'.1, hc'.2] at h
  cases hli : leadingInt (c :: cs) with
  | none => simp [readParts, hc, hli] at h
  | some r =>
    obtain ⟨v₀, afterInt⟩ := r
    have hafter := leadingInt_rest hli
    have hsub : ∀ x ∈ afterInt, x ∈ c :: cs := fun x hx =>
      (List.dropWhile_sublist _).subset (hafter ▸ hx)
    cases afterInt with
    | nil => simp [readParts, hc, hli] at h
    | cons a more =>
      by_cases ha : a = '.'
      · subst ha
        simp [readParts, hc, hli] at h
        refine ⟨(leadingFraction more).2.2, fun x hx => hsub x ?_, ?_⟩
        · rw [leadingFraction_rest] at hx
          exact List.mem_cons_of_mem _ ((List.dropWhile_sublist _).subset hx)
        · split at h
          · cases h
          split at h
          · cases h
          split at h
          · cases h
          · rename_i unit hunit
            exact ⟨unit, hunit⟩
      · simp [readParts, hc, hli, ha] at h
        refine ⟨a :: more, hsub, ?_⟩
        split at h
        · cases h
        split at h
        · cases h
        split at h
        · cases h
        · rename_i unit hunit
          exact ⟨unit, hunit⟩

/-- A duration read without any unit letter is a zero, signed or not. -/
theorem readDuration_unitless {s : String} {d : Int} (h : readDuration s = .ok d)
    (hno : s.toList.any (fun c => "nsuµmh".toList.contains c) = false) :
    d = 0 ∧ (s = "0" ∨ s = "-0" ∨ s = "+0") := by
  unfold readDuration at h
  split at h
  rename_i negative body hsign
  have hbody : s.toList = body ∨ s.toList = '-' :: body ∨ s.toList = '+' :: body := by
    split at hsign <;> simp_all
  split at h
  · subst body
    cases h
    refine ⟨rfl, ?_⟩
    rcases hbody with hs | hs | hs <;> simp [← String.toList_inj, hs]
  split at h
  · cases h
  split at h
  · cases h
  rename_i total hread
  obtain ⟨x, hx, hletter⟩ := List.any_eq_true.mp
    (readParts_unit_letter hread (by simpa using ‹¬body.isEmpty = true›))
  have hxs : x ∈ s.toList := by rcases hbody with hs | hs | hs <;> simp [hs, hx]
  exact absurd hletter (List.any_eq_false.mp hno x hxs)

/-! ## The range of durations read -/

/-- The running total of the parts never passes `2^63`. -/
theorem readParts_le {written : String} {fuel total v : Nat} {cs : List Char}
    (h : readParts written fuel total cs = .ok v) (ht : total ≤ 2 ^ 63) : v ≤ 2 ^ 63 := by
  induction fuel generalizing total cs with
  | zero =>
    cases cs with
    | nil =>
      simp only [readParts, Except.ok.injEq] at h
      omega
    | cons => simp [readParts] at h
  | succ fuel ih =>
    cases cs with
    | nil =>
      simp only [readParts, Except.ok.injEq] at h
      omega
    | cons c more =>
      unfold readParts at h
      dsimp -iota only at h
      repeat' split at h
      any_goals cases h
      all_goals exact ih h (by simp only [Nat.pow_eq] at *; omega)

/-- What reads as a duration is in the signed 64-bit range of nanoseconds. -/
theorem readDuration_range {s : String} {d : Int} (h : readDuration s = .ok d) :
    -2 ^ 63 ≤ d ∧ d < 2 ^ 63 := by
  unfold readDuration at h
  split at h
  split at h
  · cases h
    omega
  split at h
  · cases h
  split at h
  · cases h
  rename_i total hread
  have hle := readParts_le hread (Nat.zero_le _)
  split at h
  · cases h
    omega
  split at h
  · cases h
  · cases h
    simp only [Nat.pow_eq] at *
    omega

end DashboardHarness.Text
