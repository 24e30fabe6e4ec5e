import Questionnaire.Proofs.Number.Rounding

namespace Questionnaire.Number

open Float.Model (Format UnpackedFloat)
open Float.Model.UnpackedFloat (Sign packComponents unpackMantissa unpackExponent unpackSign)

/-!
# Signs and magnitudes

A floating point number is stored in three fields: its sign, its exponent and the digits of its
mantissa behind the first one.

* `unpack_eq` — the fields tell what the number is.
* `Binary.IsCanonical.unpack_pack` — a magnitude of the right size is unpacked as it was packed.
* `Binary.toFloat`, `toFloat_ofFloat` — every finite number is the one with its magnitude and its
  sign.
* `signed_abs` — a number is its absolute value with its sign.
-/

/-! ### Fields -/

variable (bits : BitVec (Format.numBits .binary64))

/-- The last 52 bits are the mantissa, without its first digit if that is one. -/
theorem unpackMantissa_toNat :
    (@unpackMantissa .binary64 bits).toNat = bits.toNat % twoTo 52 := by
  simp [unpackMantissa]

/-- The eleven bits in front of them are the exponent. -/
theorem unpackExponent_toNat :
    (@unpackExponent .binary64 bits).toNat = bits.toNat / twoTo 52 % twoTo 11 := by
  simp [unpackExponent, Nat.shiftRight_eq_div_pow]

/-- The first bit is the sign. -/
theorem unpackSign_toNat :
    (@unpackSign .binary64 bits).toNat = bits.toNat / twoTo 63 % 2 := by
  simp [unpackSign, Nat.shiftRight_eq_div_pow]

/-! ### Packing and unpacking -/

/-- A mantissa with all its digits is packed without the leading one. -/
theorem pack_normal (s : Sign) {m : ℕ} {e : ℤ} (hm : 0 < m) (hlow : 2 ^ 52 ≤ m) (hhigh : m < 2 ^ 53)
    (hleast : -1074 ≤ e) (hgreatest : e ≤ 971) :
    UnpackedFloat.pack .binary64 (.finite s m e hm) =
      packComponents .binary64 s (.ofNat 11 (e + 1075).toNat) (.ofNat 52 m) := by
  have hlog : m.log2 = 52 := (Nat.log2_eq_iff hm.ne').mpr ⟨hlow, hhigh⟩
  have hbias : (e + (Format.exponentBias .binary64 : ℕ) + (52 : ℕ)).toNat = (e + 1075).toNat := by
    show (e + (1023 : ℕ) + (52 : ℕ)).toNat = (e + 1075).toNat
    omega
  have hbits : ¬2 ^ 11 ≤ (e + 1075).toNat + 1 := by omega
  rw [UnpackedFloat.pack]
  simp only [hbias, hlog, if_neg hbits]
  rfl

/-- A small mantissa is packed as it is, with no exponent. -/
theorem pack_subnormal (s : Sign) {m : ℕ} (hm : 0 < m) (hhigh : m < 2 ^ 52) :
    UnpackedFloat.pack .binary64 (.finite s m (-1074) hm) =
      packComponents .binary64 s 0 (.ofNat 52 m) := by
  have hlog : m.log2 < 52 := (Nat.log2_lt hm.ne').mpr hhigh
  have hdigits : ¬m.log2 + 1 = 1 + 52 := by omega
  rw [UnpackedFloat.pack]
  exact if_neg hdigits

/-- Behind a first digit, a mantissa of 52 bits stands for so much more. -/
theorem append_one_toNat (mantissa : BitVec 52) :
    ((1#1 ++ mantissa : BitVec 53)).toNat = twoTo 52 + mantissa.toNat := by
  have hlow : mantissa.toNat < 2 ^ 52 := mantissa.isLt
  rw [BitVec.toNat_append, ← Nat.shiftLeft_add_eq_or_of_lt hlow, Nat.shiftLeft_eq]
  rfl

/-- A magnitude with a sign, which zero has too. -/
def Binary.unpacked (b : Binary) (s : Sign) : UnpackedFloat :=
  if h : 0 < b.mantissa then .finite s b.mantissa b.exponent h else .zero s

/-- A magnitude other than zero is unpacked to itself with a sign. -/
theorem Binary.unpacked_of_pos {b : Binary} (h : 0 < b.mantissa) (s : Sign) :
    b.unpacked s = .finite s b.mantissa b.exponent h := dif_pos h

/-- The magnitude that the fields of a number tell. -/
def magnitudeOf (field fraction : ℕ) : Binary :=
  if field = 0 then ⟨fraction, -1074, false⟩
  else ⟨twoTo 52 + fraction, (field : ℤ) - 1075, fraction == 0 && field > 1⟩

/-- The fields of a number tell what it is. -/
theorem unpack_eq : UnpackedFloat.unpack .binary64 bits =
    let field := bits.toNat / twoTo 52 % twoTo 11
    let fraction := bits.toNat % twoTo 52
    let s := Sign.ofBitVec (@unpackSign .binary64 bits)
    if field = 2047 then if fraction = 0 then .infinity s else .notANumber
    else (magnitudeOf field fraction).unpacked s := by
  have hmantissa := unpackMantissa_toNat bits
  have hexponent := unpackExponent_toNat bits
  rw [← hmantissa, ← hexponent]
  have hones : (@unpackExponent .binary64 bits = -1#11) ↔
      (@unpackExponent .binary64 bits).toNat = 2047 := BitVec.toNat_inj.symm
  have hzeros : (@unpackExponent .binary64 bits = 0#11) ↔
      (@unpackExponent .binary64 bits).toNat = 0 := BitVec.toNat_inj.symm
  have hzero : (@unpackMantissa .binary64 bits = 0#52) ↔
      (@unpackMantissa .binary64 bits).toNat = 0 := BitVec.toNat_inj.symm
  rw [UnpackedFloat.unpack]
  dsimp only
  -- The field of ones is infinite or not a number; the field of zeros is subnormal.
  by_cases hinfinite : (@unpackExponent .binary64 bits).toNat = 2047
  · rw [if_pos (hones.mpr hinfinite), if_pos hinfinite]
    simp only [hzero]
  rw [if_neg (mt hones.mp hinfinite), if_neg hinfinite]
  by_cases hsmall : (@unpackExponent .binary64 bits).toNat = 0
  · rw [if_pos (hzeros.mpr hsmall), magnitudeOf, if_pos hsmall, Binary.unpacked]
    by_cases hfraction : (@unpackMantissa .binary64 bits).toNat = 0
    · rw [dif_pos (hzero.mpr hfraction), dif_neg hfraction.not_gt]
    · rw [dif_neg (mt hzero.mp hfraction), dif_pos (Nat.pos_of_ne_zero hfraction)]
      congr 1
      rw [hsmall]
      rfl
  · rw [if_neg (mt hzeros.mp hsmall), magnitudeOf, if_neg hsmall, Binary.unpacked_of_pos (by simp)]
    congr 1
    exact append_one_toNat _

/-- The leading digit is not stored. -/
theorem ofNat_add (fraction : ℕ) :
    BitVec.ofNat 52 (2 ^ 52 + fraction) = BitVec.ofNat 52 fraction :=
  BitVec.eq_of_toNat_eq (by simp)

/-- The fields of a number that has been packed. -/
theorem unpack_packComponents (s : Sign) {field fraction : ℕ} (hfield : field < 2047)
    (hfraction : fraction < 2 ^ 52) :
    UnpackedFloat.unpack .binary64
        (packComponents .binary64 s (.ofNat 11 field) (.ofNat 52 fraction)) =
      (magnitudeOf field fraction).unpacked s := by
  rw [unpack_eq]
  dsimp only
  rw [← unpackExponent_toNat, ← unpackMantissa_toNat, UnpackedFloat.unpackSign_packComponents,
    Sign.ofBitVec_toBitVec, UnpackedFloat.unpackExponent_packComponents,
    UnpackedFloat.unpackMantissa_packComponents, BitVec.toNat_ofNat, BitVec.toNat_ofNat, Nat.mod_eq_of_lt hfraction,
    Nat.mod_eq_of_lt (show field < 2 ^ 11 by omega), if_neg hfield.ne]

/-- What has been packed is unpacked as it was. -/
theorem Binary.IsCanonical.unpack_pack {b : Binary} (hb : b.IsCanonical) (s : Sign) :
    (Float.Model.pack (b.unpacked s)).unpack = b.unpacked s := by
  obtain ⟨m, e, narrow⟩ := b
  obtain ⟨hpos, hlt, hleast, hgreatest, hfull, -⟩ := hb
  dsimp only at *
  rw [Binary.unpacked_of_pos hpos]
  show UnpackedFloat.unpack .binary64 (UnpackedFloat.pack .binary64 _) = _
  -- The leading one of a normal float is not packed.
  by_cases hdigits : 2 ^ 52 ≤ m
  · rw [pack_normal s hpos hdigits hlt hleast hgreatest]
    obtain ⟨fraction, rfl⟩ := Nat.exists_eq_add_of_le hdigits
    have hfield : (e + 1075).toNat < 2047 := by omega
    have hpacked := unpack_packComponents s hfield (show fraction < 2 ^ 52 by omega)
    rw [← ofNat_add] at hpacked
    refine hpacked.trans ?_
    rw [magnitudeOf, if_neg (by omega), Binary.unpacked_of_pos (by simp)]
    congr 1
    dsimp only
    omega
  · obtain rfl : e = -1074 := hfull.resolve_left hdigits
    rw [pack_subnormal s hpos (by omega)]
    exact (unpack_packComponents s (by decide) (by omega)).trans (Binary.unpacked_of_pos hpos s)

/-- The magnitude of a number is told by two of its fields. -/
theorem ofFloat_eq (x : Float) : Binary.ofFloat x =
    magnitudeOf (x.toBits.toNat / twoTo 52 % twoTo 11) (x.toBits.toNat % twoTo 52) := by
  simp only [Binary.ofFloat, magnitudeOf, beq_iff_eq]

/-- A magnitude of a finite number: zero, or canonical. -/
def Binary.IsFinite (b : Binary) : Prop := b.mantissa = 0 ∨ b.IsCanonical

/-- The magnitude that the fields tell is finite unless all bits of the exponent are set. -/
theorem isFinite_magnitudeOf {field fraction : ℕ} (hfield : field < 2047)
    (hfraction : fraction < 2 ^ 52) : (magnitudeOf field fraction).IsFinite := by
  rw [magnitudeOf]
  split
  · refine (Nat.eq_zero_or_pos fraction).imp_right fun hpos => ?_
    exact ⟨hpos, hfraction.trans (by decide), le_rfl, by norm_num, .inr rfl, by simp⟩
  · have htwo : twoTo 52 = 2 ^ 52 := rfl
    right
    constructor <;> dsimp only <;> try omega
    simp only [Bool.and_eq_true, beq_iff_eq, decide_eq_true_eq]
    omega

/-! ### Signs and magnitudes -/

/-- The sign of a number. -/
def signOf (x : Float) : Sign := if isNegative x then .negative else .positive

/-- The number with a magnitude and a sign. -/
def Binary.toFloat (b : Binary) (s : Sign) : Float := .ofModel (.pack (b.unpacked s))

/-- The sign of a number is that of its first bit. -/
theorem ofBitVec_unpackSign (x : Float) :
    Sign.ofBitVec (@unpackSign .binary64 x.toBits.toBitVec) = signOf x := by
  have hlt : x.toBits.toNat < 2 ^ 64 := x.toBits.toBitVec.isLt
  have hbit : @unpackSign .binary64 x.toBits.toBitVec = 0#1 ↔ ¬twoTo 63 ≤ x.toBits.toNat := by
    rw [← BitVec.toNat_inj, unpackSign_toNat]
    show x.toBits.toNat / 2 ^ 63 % 2 = 0 ↔ ¬2 ^ 63 ≤ x.toBits.toNat
    omega
  rw [Sign.ofBitVec, signOf, isNegative]
  simp only [hbit, decide_eq_true_eq, ite_not]

/-- A number is unpacked to an infinity, to no number at all, or to its magnitude with its sign. -/
theorem unpack_toModel (x : Float) : x.toModel.unpack =
    if x.toBits.toNat / twoTo 52 % twoTo 11 = 2047 then
      if x.toBits.toNat % twoTo 52 = 0 then .infinity (signOf x) else .notANumber
    else (Binary.ofFloat x).unpacked (signOf x) := by
  rw [ofFloat_eq, ← ofBitVec_unpackSign]
  exact unpack_eq x.toBits.toBitVec

/-- Every number is packed as it was unpacked. -/
theorem ofModel_pack (x : Float) : Float.ofModel (.pack x.toModel.unpack) = x :=
  Float.ofBits_toBits x

/-- A finite number has a magnitude and a sign. -/
theorem toFloat_ofFloat {x : Float} (h : x.isFinite = true) :
    (Binary.ofFloat x).IsFinite ∧ (Binary.ofFloat x).toFloat (signOf x) = x := by
  have hunpacked := unpack_toModel x
  have hfinite : x.toModel.unpack.isFinite = true := h
  have hexponent : x.toBits.toNat / twoTo 52 % twoTo 11 < 2 ^ 11 := Nat.mod_lt _ (by decide)
  have hfraction : x.toBits.toNat % twoTo 52 < 2 ^ 52 := Nat.mod_lt _ (by decide)
  -- A finite float does not have the field of ones.
  have hfield : x.toBits.toNat / twoTo 52 % twoTo 11 ≠ 2047 := by
    intro hones
    rw [hunpacked, if_pos hones] at hfinite
    split at hfinite <;> cases hfinite
  rw [if_neg hfield] at hunpacked
  constructor
  · rw [ofFloat_eq]
    exact isFinite_magnitudeOf (by omega) hfraction
  · rw [Binary.toFloat, ← hunpacked, ofModel_pack]

/-- A number that is not finite is infinite or no number. -/
theorem eq_of_not_isFinite {x : Float} (h : x.isFinite = false) :
    x = .ofModel (.pack (.infinity (signOf x))) ∨ x = .ofModel (.pack .notANumber) := by
  have hunpacked := unpack_toModel x
  have hfinite : x.toModel.unpack.isFinite = false := h
  split at hunpacked
  · split at hunpacked
    · left
      rw [← hunpacked, ofModel_pack]
    · right
      rw [← hunpacked, ofModel_pack]
  · rw [hunpacked, Binary.unpacked] at hfinite
    split at hfinite <;> cases hfinite

variable {b : Binary}

/-- A finite magnitude is unpacked from its number. -/
theorem Binary.IsFinite.unpack_toFloat (hb : b.IsFinite) (s : Sign) :
    (b.toFloat s).toModel.unpack = b.unpacked s := by
  rcases hb with hzero | hb
  · rw [Binary.toFloat, Binary.unpacked, dif_neg hzero.not_gt]
    cases s <;> rfl
  · exact hb.unpack_pack s

/-- A number is negated by its sign. -/
theorem Binary.IsFinite.neg_toFloat (hb : b.IsFinite) (s : Sign) :
    -b.toFloat s = b.toFloat (-s) := by
  show Float.ofModel (.pack (b.toFloat s).toModel.unpack.neg) = _
  rw [hb.unpack_toFloat, Binary.toFloat, Binary.unpacked, Binary.unpacked]
  split <;> rfl

/-- The absolute value of a number has its magnitude and no minus. -/
theorem Binary.IsFinite.abs_toFloat (hb : b.IsFinite) (s : Sign) :
    (b.toFloat s).abs = b.toFloat .positive := by
  show Float.ofModel (.pack (b.toFloat s).toModel.unpack.abs) = _
  rw [hb.unpack_toFloat, Binary.toFloat, Binary.unpacked, Binary.unpacked]
  split <;> rfl

/-- A number is its absolute value with its sign. -/
theorem signed_abs (x : Float) : (if isNegative x then -x.abs else x.abs) = x := by
  -- A finite float is its magnitude with its sign.  The others are an infinity and what is no number.
  cases hfinite : x.isFinite with
  | true =>
    obtain ⟨hb, hx⟩ := toFloat_ofFloat hfinite
    have habs : x.abs = (Binary.ofFloat x).toFloat .positive := by
      rw [← hb.abs_toFloat (signOf x), hx]
    rw [habs, hb.neg_toFloat]
    refine Eq.trans ?_ hx
    rw [signOf]
    split <;> rfl
  | false =>
    rcases eq_of_not_isFinite hfinite with hx | hx
    · rw [signOf] at hx
      split at hx
      · next hnegative =>
        rw [if_pos hnegative, hx]
        rfl
      · next hnegative =>
        rw [if_neg hnegative, hx]
        rfl
    · rw [hx]
      rfl

end Questionnaire.Number
