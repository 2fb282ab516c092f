import ScatterPick.Number.Binary

/-!
# Numbers that are not finite

There are three of them in each format: the two infinities, and one that is undefined.
-/

namespace ScatterPick.Number

open Float.Model.UnpackedFloat

section Pattern

variable {spec : Float.Model.Format} {b : BitVec spec.numBits}

/-- Below the highest exponent everything is finite. -/
theorem isFinite_unpack (hexponent : unpackExponent b ≠ -BitVec.ofNat spec.exponentBits 1) :
    (unpack spec b).isFinite = true := by
  delta unpack
  dsimp only
  rw [if_neg hexponent]
  by_cases hlowest : unpackExponent b = BitVec.ofNat spec.exponentBits 0
  · rw [if_pos hlowest]
    by_cases hmantissa : unpackMantissa b = BitVec.ofNat spec.mantissaBitsWithoutImplicit 0
    · rw [dif_pos hmantissa]
      rfl
    · rw [dif_neg hmantissa]
      rfl
  · rw [if_neg hlowest]
    rfl

/-- The highest exponent without a mantissa is that of an infinity. -/
theorem eq_packedInfinity (hexponent : unpackExponent b = -BitVec.ofNat spec.exponentBits 1)
    (hmantissa : unpackMantissa b = BitVec.ofNat spec.mantissaBitsWithoutImplicit 0) :
    b = packedInfinity spec (.ofBitVec (unpackSign b)) := by
  have hsign : (Sign.ofBitVec (unpackSign b)).toBitVec = unpackSign b := by
    generalize unpackSign b = sign
    revert sign
    decide
  have hzero : (0 : BitVec spec.mantissaBitsWithoutImplicit) = unpackMantissa b := hmantissa.symm
  rw [packedInfinity, packComponents, hsign, ← hexponent, hzero]
  -- Bit by bit, the three parts put together again are the pattern.
  refine BitVec.eq_of_getLsbD_eq fun i (hi : i < 1 + spec.exponentBits + _) => ?_
  rw [BitVec.getLsbD_append, BitVec.getLsbD_append]
  split
  · rename_i hlow
    simp [unpackMantissa, hlow]
  · rename_i hhigh
    split
    · rename_i hmiddle
      simp [unpackExponent, hmiddle, Nat.add_sub_of_le (Nat.le_of_not_lt hhigh)]
    · have htop : i = spec.mantissaBitsWithoutImplicit + spec.exponentBits := by omega
      rw [htop]
      delta unpackSign
      simp

/-- The bits of what is not finite. -/
theorem bits_of_not_finite (hvalid : spec.Valid b) (h : (unpack spec b).isFinite = false) :
    b = packedNaN spec ∨ b = packedInfinity spec .positive ∨ b = packedInfinity spec .negative := by
  have hexponent : unpackExponent b = -BitVec.ofNat spec.exponentBits 1 := by
    refine Decidable.byContradiction fun hother => ?_
    rw [isFinite_unpack hother] at h
    cases h
  by_cases hmantissa : unpackMantissa b = BitVec.ofNat spec.mantissaBitsWithoutImplicit 0
  · have hinfinity := eq_packedInfinity hexponent hmantissa
    cases hsign : Sign.ofBitVec (unpackSign b) with
    | positive => exact Or.inr (Or.inl (hsign ▸ hinfinity))
    | negative => exact Or.inr (Or.inr (hsign ▸ hinfinity))
  · exact Or.inl (hvalid.eq_packedNaN hexponent hmantissa)

end Pattern

/-- A single is known by its bits. -/
theorem single_eq_of_toBits {x y : Float32} (h : x.toBits = y.toBits) : x = y := by
  obtain ⟨⟨b, hb⟩⟩ := x
  obtain ⟨⟨c, hc⟩⟩ := y
  obtain rfl : b = c := h
  rfl

/-- A double is known by its bits. -/
theorem double_eq_of_toBits {x y : Float} (h : x.toBits = y.toBits) : x = y := by
  obtain ⟨⟨b, hb⟩⟩ := x
  obtain ⟨⟨c, hc⟩⟩ := y
  obtain rfl : b = c := h
  rfl

/-- A single that is not finite is undefined or infinite. -/
theorem single_of_not_finite {x : Float32} (h : x.isFinite = false) :
    x = Binary.toSingle .nan ∨ x = Binary.toSingle (.infinity false) ∨
      x = Binary.toSingle (.infinity true) := by
  have hbits {b : UInt32} (hb : x.toBits.toBitVec = b.toBitVec) {y : Float32} (hy : y.toBits = b) :
      x = y := single_eq_of_toBits ((UInt32.eq_of_toBitVec_eq hb).trans hy.symm)
  rcases bits_of_not_finite x.toModel.valid h with hnan | hpositive | hnegative
  · exact Or.inl (hbits (b := 0x7FC00000) hnan (by decide +kernel))
  · exact Or.inr (Or.inl (hbits (b := 0x7F800000) hpositive (by decide +kernel)))
  · exact Or.inr (Or.inr (hbits (b := 0xFF800000) hnegative (by decide +kernel)))

/-- A double that is not finite is undefined or infinite. -/
theorem double_of_not_finite {x : Float} (h : x.isFinite = false) :
    x = Binary.toDouble .nan ∨ x = Binary.toDouble (.infinity false) ∨
      x = Binary.toDouble (.infinity true) := by
  have hbits {b : UInt64} (hb : x.toBits.toBitVec = b.toBitVec) {y : Float} (hy : y.toBits = b) :
      x = y := double_eq_of_toBits ((UInt64.eq_of_toBitVec_eq hb).trans hy.symm)
  rcases bits_of_not_finite x.toModel.valid h with hnan | hpositive | hnegative
  · exact Or.inl (hbits (b := 0x7FF8000000000000) hnan (by decide +kernel))
  · exact Or.inr (Or.inl (hbits (b := 0x7FF0000000000000) hpositive (by decide +kernel)))
  · exact Or.inr (Or.inr (hbits (b := 0xFFF0000000000000) hnegative (by decide +kernel)))

end ScatterPick.Number
