/-!
# Lower case

The simple lower-case mapping of Unicode 17, one character at a time: a capital letter becomes
its small letter, every other character stays. The mapping is kept as runs of code points: in a
run either every code point moves by the same offset, or capitals and small letters alternate,
each capital followed by its small letter. Two mappings leave their block: U+0130 (capital I
with dot above) becomes a plain `i`, and U+212A (Kelvin sign) becomes a plain `k`.

Main results:

- `lowerCode_ascii`: on ASCII the mapping is the ASCII one.
- `lowerChar_kelvin`, `lowerChar_dotted_capital_i`: the two mappings into ASCII from outside it.
-/

namespace DashboardHarness.Text

/-- How the capitals of a run find their small letters. -/
inductive CaseShift where
  /-- Every code point of the run moves by the same offset. -/
  | offset (delta : Int)
  /-- The run alternates a capital and its small letter, starting with a capital. -/
  | pairs

/-- A run of code points, both ends included, with one rule for their small letters. -/
structure CaseRun where
  /-- The first code point of the run. -/
  first : Nat
  /-- The last code point of the run. -/
  last : Nat
  /-- How the run is lowered. -/
  shift : CaseShift

/-- The runs of the lower-case mapping beyond plain ASCII, in increasing order. -/
def caseRuns : List CaseRun :=
  [⟨0x41, 0x5A, .offset (32)⟩, ⟨0xC0, 0xD6, .offset (32)⟩, ⟨0xD8, 0xDE, .offset (32)⟩,
   ⟨0x100, 0x12F, .pairs⟩, ⟨0x130, 0x130, .offset (-199)⟩, ⟨0x132, 0x137, .pairs⟩,
   ⟨0x139, 0x148, .pairs⟩, ⟨0x14A, 0x177, .pairs⟩, ⟨0x178, 0x178, .offset (-121)⟩,
   ⟨0x179, 0x17E, .pairs⟩, ⟨0x181, 0x181, .offset (210)⟩, ⟨0x182, 0x185, .pairs⟩,
   ⟨0x186, 0x186, .offset (206)⟩, ⟨0x187, 0x187, .offset (1)⟩, ⟨0x189, 0x18A, .offset (205)⟩,
   ⟨0x18B, 0x18B, .offset (1)⟩, ⟨0x18E, 0x18E, .offset (79)⟩, ⟨0x18F, 0x18F, .offset (202)⟩,
   ⟨0x190, 0x190, .offset (203)⟩, ⟨0x191, 0x191, .offset (1)⟩, ⟨0x193, 0x193, .offset (205)⟩,
   ⟨0x194, 0x194, .offset (207)⟩, ⟨0x196, 0x196, .offset (211)⟩, ⟨0x197, 0x197, .offset (209)⟩,
   ⟨0x198, 0x198, .offset (1)⟩, ⟨0x19C, 0x19C, .offset (211)⟩, ⟨0x19D, 0x19D, .offset (213)⟩,
   ⟨0x19F, 0x19F, .offset (214)⟩, ⟨0x1A0, 0x1A5, .pairs⟩, ⟨0x1A6, 0x1A6, .offset (218)⟩,
   ⟨0x1A7, 0x1A7, .offset (1)⟩, ⟨0x1A9, 0x1A9, .offset (218)⟩, ⟨0x1AC, 0x1AC, .offset (1)⟩,
   ⟨0x1AE, 0x1AE, .offset (218)⟩, ⟨0x1AF, 0x1AF, .offset (1)⟩, ⟨0x1B1, 0x1B2, .offset (217)⟩,
   ⟨0x1B3, 0x1B6, .pairs⟩, ⟨0x1B7, 0x1B7, .offset (219)⟩, ⟨0x1B8, 0x1B8, .offset (1)⟩,
   ⟨0x1BC, 0x1BC, .offset (1)⟩, ⟨0x1C4, 0x1C4, .offset (2)⟩, ⟨0x1C5, 0x1C5, .offset (1)⟩,
   ⟨0x1C7, 0x1C7, .offset (2)⟩, ⟨0x1C8, 0x1C8, .offset (1)⟩, ⟨0x1CA, 0x1CA, .offset (2)⟩,
   ⟨0x1CB, 0x1DC, .pairs⟩, ⟨0x1DE, 0x1EF, .pairs⟩, ⟨0x1F1, 0x1F1, .offset (2)⟩,
   ⟨0x1F2, 0x1F5, .pairs⟩, ⟨0x1F6, 0x1F6, .offset (-97)⟩, ⟨0x1F7, 0x1F7, .offset (-56)⟩,
   ⟨0x1F8, 0x21F, .pairs⟩, ⟨0x220, 0x220, .offset (-130)⟩, ⟨0x222, 0x233, .pairs⟩,
   ⟨0x23A, 0x23A, .offset (10795)⟩, ⟨0x23B, 0x23B, .offset (1)⟩, ⟨0x23D, 0x23D, .offset (-163)⟩,
   ⟨0x23E, 0x23E, .offset (10792)⟩, ⟨0x241, 0x241, .offset (1)⟩, ⟨0x243, 0x243, .offset (-195)⟩,
   ⟨0x244, 0x244, .offset (69)⟩, ⟨0x245, 0x245, .offset (71)⟩, ⟨0x246, 0x24F, .pairs⟩,
   ⟨0x370, 0x373, .pairs⟩, ⟨0x376, 0x376, .offset (1)⟩, ⟨0x37F, 0x37F, .offset (116)⟩,
   ⟨0x386, 0x386, .offset (38)⟩, ⟨0x388, 0x38A, .offset (37)⟩, ⟨0x38C, 0x38C, .offset (64)⟩,
   ⟨0x38E, 0x38F, .offset (63)⟩, ⟨0x391, 0x3A1, .offset (32)⟩, ⟨0x3A3, 0x3AB, .offset (32)⟩,
   ⟨0x3CF, 0x3CF, .offset (8)⟩, ⟨0x3D8, 0x3EF, .pairs⟩, ⟨0x3F4, 0x3F4, .offset (-60)⟩,
   ⟨0x3F7, 0x3F7, .offset (1)⟩, ⟨0x3F9, 0x3F9, .offset (-7)⟩, ⟨0x3FA, 0x3FA, .offset (1)⟩,
   ⟨0x3FD, 0x3FF, .offset (-130)⟩, ⟨0x400, 0x40F, .offset (80)⟩, ⟨0x410, 0x42F, .offset (32)⟩,
   ⟨0x460, 0x481, .pairs⟩, ⟨0x48A, 0x4BF, .pairs⟩, ⟨0x4C0, 0x4C0, .offset (15)⟩,
   ⟨0x4C1, 0x4CE, .pairs⟩, ⟨0x4D0, 0x52F, .pairs⟩, ⟨0x531, 0x556, .offset (48)⟩,
   ⟨0x10A0, 0x10C5, .offset (7264)⟩, ⟨0x10C7, 0x10C7, .offset (7264)⟩,
   ⟨0x10CD, 0x10CD, .offset (7264)⟩, ⟨0x13A0, 0x13EF, .offset (38864)⟩,
   ⟨0x13F0, 0x13F5, .offset (8)⟩, ⟨0x1C89, 0x1C89, .offset (1)⟩,
   ⟨0x1C90, 0x1CBA, .offset (-3008)⟩, ⟨0x1CBD, 0x1CBF, .offset (-3008)⟩,
   ⟨0x1E00, 0x1E95, .pairs⟩, ⟨0x1E9E, 0x1E9E, .offset (-7615)⟩, ⟨0x1EA0, 0x1EFF, .pairs⟩,
   ⟨0x1F08, 0x1F0F, .offset (-8)⟩, ⟨0x1F18, 0x1F1D, .offset (-8)⟩,
   ⟨0x1F28, 0x1F2F, .offset (-8)⟩, ⟨0x1F38, 0x1F3F, .offset (-8)⟩,
   ⟨0x1F48, 0x1F4D, .offset (-8)⟩, ⟨0x1F59, 0x1F59, .offset (-8)⟩,
   ⟨0x1F5B, 0x1F5B, .offset (-8)⟩, ⟨0x1F5D, 0x1F5D, .offset (-8)⟩,
   ⟨0x1F5F, 0x1F5F, .offset (-8)⟩, ⟨0x1F68, 0x1F6F, .offset (-8)⟩,
   ⟨0x1F88, 0x1F8F, .offset (-8)⟩, ⟨0x1F98, 0x1F9F, .offset (-8)⟩,
   ⟨0x1FA8, 0x1FAF, .offset (-8)⟩, ⟨0x1FB8, 0x1FB9, .offset (-8)⟩,
   ⟨0x1FBA, 0x1FBB, .offset (-74)⟩, ⟨0x1FBC, 0x1FBC, .offset (-9)⟩,
   ⟨0x1FC8, 0x1FCB, .offset (-86)⟩, ⟨0x1FCC, 0x1FCC, .offset (-9)⟩,
   ⟨0x1FD8, 0x1FD9, .offset (-8)⟩, ⟨0x1FDA, 0x1FDB, .offset (-100)⟩,
   ⟨0x1FE8, 0x1FE9, .offset (-8)⟩, ⟨0x1FEA, 0x1FEB, .offset (-112)⟩,
   ⟨0x1FEC, 0x1FEC, .offset (-7)⟩, ⟨0x1FF8, 0x1FF9, .offset (-128)⟩,
   ⟨0x1FFA, 0x1FFB, .offset (-126)⟩, ⟨0x1FFC, 0x1FFC, .offset (-9)⟩,
   ⟨0x2126, 0x2126, .offset (-7517)⟩, ⟨0x212A, 0x212A, .offset (-8383)⟩,
   ⟨0x212B, 0x212B, .offset (-8262)⟩, ⟨0x2132, 0x2132, .offset (28)⟩,
   ⟨0x2160, 0x216F, .offset (16)⟩, ⟨0x2183, 0x2183, .offset (1)⟩, ⟨0x24B6, 0x24CF, .offset (26)⟩,
   ⟨0x2C00, 0x2C2F, .offset (48)⟩, ⟨0x2C60, 0x2C60, .offset (1)⟩,
   ⟨0x2C62, 0x2C62, .offset (-10743)⟩, ⟨0x2C63, 0x2C63, .offset (-3814)⟩,
   ⟨0x2C64, 0x2C64, .offset (-10727)⟩, ⟨0x2C67, 0x2C6C, .pairs⟩,
   ⟨0x2C6D, 0x2C6D, .offset (-10780)⟩, ⟨0x2C6E, 0x2C6E, .offset (-10749)⟩,
   ⟨0x2C6F, 0x2C6F, .offset (-10783)⟩, ⟨0x2C70, 0x2C70, .offset (-10782)⟩,
   ⟨0x2C72, 0x2C72, .offset (1)⟩, ⟨0x2C75, 0x2C75, .offset (1)⟩,
   ⟨0x2C7E, 0x2C7F, .offset (-10815)⟩, ⟨0x2C80, 0x2CE3, .pairs⟩, ⟨0x2CEB, 0x2CEE, .pairs⟩,
   ⟨0x2CF2, 0x2CF2, .offset (1)⟩, ⟨0xA640, 0xA66D, .pairs⟩, ⟨0xA680, 0xA69B, .pairs⟩,
   ⟨0xA722, 0xA72F, .pairs⟩, ⟨0xA732, 0xA76F, .pairs⟩, ⟨0xA779, 0xA77C, .pairs⟩,
   ⟨0xA77D, 0xA77D, .offset (-35332)⟩, ⟨0xA77E, 0xA787, .pairs⟩, ⟨0xA78B, 0xA78B, .offset (1)⟩,
   ⟨0xA78D, 0xA78D, .offset (-42280)⟩, ⟨0xA790, 0xA793, .pairs⟩, ⟨0xA796, 0xA7A9, .pairs⟩,
   ⟨0xA7AA, 0xA7AA, .offset (-42308)⟩, ⟨0xA7AB, 0xA7AB, .offset (-42319)⟩,
   ⟨0xA7AC, 0xA7AC, .offset (-42315)⟩, ⟨0xA7AD, 0xA7AD, .offset (-42305)⟩,
   ⟨0xA7AE, 0xA7AE, .offset (-42308)⟩, ⟨0xA7B0, 0xA7B0, .offset (-42258)⟩,
   ⟨0xA7B1, 0xA7B1, .offset (-42282)⟩, ⟨0xA7B2, 0xA7B2, .offset (-42261)⟩,
   ⟨0xA7B3, 0xA7B3, .offset (928)⟩, ⟨0xA7B4, 0xA7C3, .pairs⟩, ⟨0xA7C4, 0xA7C4, .offset (-48)⟩,
   ⟨0xA7C5, 0xA7C5, .offset (-42307)⟩, ⟨0xA7C6, 0xA7C6, .offset (-35384)⟩,
   ⟨0xA7C7, 0xA7CA, .pairs⟩, ⟨0xA7CB, 0xA7CB, .offset (-42343)⟩, ⟨0xA7CC, 0xA7DB, .pairs⟩,
   ⟨0xA7DC, 0xA7DC, .offset (-42561)⟩, ⟨0xA7F5, 0xA7F5, .offset (1)⟩,
   ⟨0xFF21, 0xFF3A, .offset (32)⟩, ⟨0x10400, 0x10427, .offset (40)⟩,
   ⟨0x104B0, 0x104D3, .offset (40)⟩, ⟨0x10570, 0x1057A, .offset (39)⟩,
   ⟨0x1057C, 0x1058A, .offset (39)⟩, ⟨0x1058C, 0x10592, .offset (39)⟩,
   ⟨0x10594, 0x10595, .offset (39)⟩, ⟨0x10C80, 0x10CB2, .offset (64)⟩,
   ⟨0x10D50, 0x10D65, .offset (32)⟩, ⟨0x118A0, 0x118BF, .offset (32)⟩,
   ⟨0x16E40, 0x16E5F, .offset (32)⟩, ⟨0x16EA0, 0x16EB8, .offset (27)⟩,
   ⟨0x1E900, 0x1E921, .offset (34)⟩]

/-- The small letter of a code point inside a run. -/
def CaseRun.lower (r : CaseRun) (n : Nat) : Nat :=
  match r.shift with
  | .offset delta => (n + delta).toNat
  | .pairs => if (n - r.first) % 2 == 0 then n + 1 else n

/-- The lower-case code point of a code point, by the table of this module. -/
def lowerCode (n : Nat) : Nat :=
  if n < 0x80 then (if 0x41 ≤ n && n ≤ 0x5A then n + 32 else n)
  else
    match caseRuns.find? (fun r => r.first ≤ n && n ≤ r.last) with
    | some r => r.lower n
    | none => n

/-- The small letter of a capital letter; every other character stays. -/
def lowerChar (c : Char) : Char :=
  let n := lowerCode c.toNat
  if n.isValidChar then Char.ofNat n else c

/-- A text with every capital letter replaced by its small letter. -/
def lower (s : String) : String :=
  String.ofList (s.toList.map lowerChar)

theorem lowerChar_kelvin : lowerChar '\u212A' = 'k' := by decide

theorem lowerChar_dotted_capital_i : lowerChar '\u0130' = 'i' := by decide

/-- On ASCII the mapping moves exactly the capitals A to Z, by 32. -/
theorem lowerCode_ascii (n : Nat) (h : n < 0x80) :
    lowerCode n = if 0x41 ≤ n ∧ n ≤ 0x5A then n + 32 else n := by
  simp [lowerCode, h]

end DashboardHarness.Text
