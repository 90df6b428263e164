import Chroma420.Colour.Basic

/-!
# Colours of bytes

The Rec.601 limited-range transform in fixed point: luma runs from 16, chroma is
centred on 128, and the coefficients are integers that stand for 256ths.  A
channel is the weighted sum of the centred samples plus half of 256, shifted
right by eight places toward the floor, and only then limited to a byte.

The grey of a byte pixel is the luminance of its limited colour.  Its weights
stand for thousandths and add up to a thousand, so a neutral colour is its own
grey.
-/

namespace Chroma420.FixedPoint

/-- A sample as a signed number, counted from `bias`. -/
def centred (sample : UInt8) (bias : Int32) : Int32 := Int32.ofNat sample.toNat - bias

/-- A sum of 256ths as a byte: its floor, limited to the range of bytes. -/
def toByte (sum : Int32) : UInt8 :=
  let value := sum >>> 8
  if value < 0 then 0 else if 255 < value then 255 else value.toNatClampNeg.toUInt8

/-- Red, in 256ths and before the range is limited. -/
def redSum (sample : Yuv) : Int32 :=
  centred sample.luma 16 * 298 + 409 * centred sample.v 128 + 128

def greenSum (sample : Yuv) : Int32 :=
  centred sample.luma 16 * 298 - 100 * centred sample.u 128 - 208 * centred sample.v 128 + 128

def blueSum (sample : Yuv) : Int32 :=
  centred sample.luma 16 * 298 + 516 * centred sample.u 128 + 128

def rgb (sample : Yuv) : Rgb UInt8 :=
  ⟨toByte (redSum sample), toByte (greenSum sample), toByte (blueSum sample)⟩

/-- The luminance of a colour, rounded down. -/
def luminance (colour : Rgb UInt8) : UInt8 :=
  let weighted :=
    299 * colour.red.toUInt32 + 587 * colour.green.toUInt32 + 114 * colour.blue.toUInt32
  (weighted / 1000).toUInt8

def grey (sample : Yuv) : UInt8 := luminance (rgb sample)

instance : ColourDomain UInt8 where
  full := 255
  blank := 0
  rgb := rgb
  grey _ colour := luminance colour

def pixel (order : ChannelOrder) (sample : Yuv) : Pixel UInt8 := sample.pixel order

/-! ### Arithmetic of words

An operation on words whose result over the integers fits a word gives this result. -/

/-- An integer in the range of a signed word. -/
def FitsWord (n : Int) : Prop := -2147483648 ≤ n ∧ n < 2147483648

section Words

variable {a b : Int32}

theorem toInt_add_of_fits (h : FitsWord (a.toInt + b.toInt)) :
    (a + b).toInt = a.toInt + b.toInt := by
  obtain ⟨hlow, hhigh⟩ := h
  rw [Int32.toInt_add, Int.bmod_eq_of_le] <;> omega

theorem toInt_sub_of_fits (h : FitsWord (a.toInt - b.toInt)) :
    (a - b).toInt = a.toInt - b.toInt := by
  obtain ⟨hlow, hhigh⟩ := h
  rw [Int32.toInt_sub, Int.bmod_eq_of_le] <;> omega

theorem toInt_mul_of_fits (h : FitsWord (a.toInt * b.toInt)) :
    (a * b).toInt = a.toInt * b.toInt := by
  obtain ⟨hlow, hhigh⟩ := h
  rw [Int32.toInt_mul, Int.bmod_eq_of_le] <;> omega

end Words

theorem toInt_shift (sum : Int32) : (sum >>> 8).toInt = sum.toInt / 256 := by
  have hplaces : ((8 : Int32).toBitVec.smod 32).toNat = 8 := by decide
  rw [← Int32.toInt_toBitVec, Int32.toBitVec_shiftRight, BitVec.toInt_sshiftRight', hplaces,
    Int32.toInt_toBitVec, Int.shiftRight_eq_div_pow]
  rfl

/-! ### The same sums over the integers

All sums stay far inside the range of a 32-bit word, so the word arithmetic is
exact. -/

theorem toInt_centred {sample : UInt8} {bias : Int32} (h : 0 ≤ bias.toInt ∧ bias.toInt < 256) :
    (centred sample bias).toInt = sample.toNat - bias.toInt := by
  have hsample := sample.toNat_lt
  have hword : (Int32.ofNat sample.toNat).toInt = sample.toNat :=
    Int32.toInt_ofNat_of_lt (by omega)
  have hfits : FitsWord (sample.toNat - bias.toInt) := ⟨by omega, by omega⟩
  rw [← hword] at hfits ⊢
  exact toInt_sub_of_fits hfits

theorem toInt_centred_16 (sample : UInt8) : (centred sample 16).toInt = sample.toNat - 16 :=
  toInt_centred (by decide)

theorem toInt_centred_128 (sample : UInt8) : (centred sample 128).toInt = sample.toNat - 128 :=
  toInt_centred (by decide)

/-- Every operation that the sums of a colour are made of gives on words what it gives on
    integers. -/
structure SumsFit (y u v : Int32) : Prop where
  luma : (y * 298).toInt = y.toInt * 298
  red_v : (409 * v).toInt = 409 * v.toInt
  red : (y * 298 + 409 * v).toInt = (y * 298).toInt + (409 * v).toInt
  red_half : (y * 298 + 409 * v + 128).toInt = (y * 298 + 409 * v).toInt + 128
  green_u : (100 * u).toInt = 100 * u.toInt
  green_v : (208 * v).toInt = 208 * v.toInt
  green_without_v : (y * 298 - 100 * u).toInt = (y * 298).toInt - (100 * u).toInt
  green : (y * 298 - 100 * u - 208 * v).toInt = (y * 298 - 100 * u).toInt - (208 * v).toInt
  green_half : (y * 298 - 100 * u - 208 * v + 128).toInt =
    (y * 298 - 100 * u - 208 * v).toInt + 128
  blue_u : (516 * u).toInt = 516 * u.toInt
  blue : (y * 298 + 516 * u).toInt = (y * 298).toInt + (516 * u).toInt
  blue_half : (y * 298 + 516 * u + 128).toInt = (y * 298 + 516 * u).toInt + 128

theorem sumsFit_of_small {y u v : Int32} (hy : -256 < y.toInt ∧ y.toInt < 256)
    (hu : -256 < u.toInt ∧ u.toInt < 256) (hv : -256 < v.toInt ∧ v.toInt < 256) :
    SumsFit y u v := by
  have hluma : (y * 298).toInt = y.toInt * 298 :=
    toInt_mul_of_fits ⟨by change _ ≤ _ * 298; omega, by change _ * 298 < _; omega⟩
  have hred : (409 * v).toInt = 409 * v.toInt :=
    toInt_mul_of_fits ⟨by change _ ≤ 409 * _; omega, by change 409 * _ < _; omega⟩
  have hgreenU : (100 * u).toInt = 100 * u.toInt :=
    toInt_mul_of_fits ⟨by change _ ≤ 100 * _; omega, by change 100 * _ < _; omega⟩
  have hgreenV : (208 * v).toInt = 208 * v.toInt :=
    toInt_mul_of_fits ⟨by change _ ≤ 208 * _; omega, by change 208 * _ < _; omega⟩
  have hblue : (516 * u).toInt = 516 * u.toInt :=
    toInt_mul_of_fits ⟨by change _ ≤ 516 * _; omega, by change 516 * _ < _; omega⟩
  have hredSum := @toInt_add_of_fits (y * 298) (409 * v) ⟨by omega, by omega⟩
  have hgreenPart := @toInt_sub_of_fits (y * 298) (100 * u) ⟨by omega, by omega⟩
  have hgreenSum := @toInt_sub_of_fits (y * 298 - 100 * u) (208 * v) ⟨by omega, by omega⟩
  have hblueSum := @toInt_add_of_fits (y * 298) (516 * u) ⟨by omega, by omega⟩
  have hhalf : ∀ sum : Int32, -1000000 < sum.toInt → sum.toInt < 1000000 →
      (sum + 128).toInt = sum.toInt + 128 := by
    intro sum hlow hhigh
    exact toInt_add_of_fits ⟨by change _ ≤ _ + 128; omega, by change _ + 128 < _; omega⟩
  exact ⟨hluma, hred, hredSum, hhalf _ (by omega) (by omega), hgreenU, hgreenV, hgreenPart,
    hgreenSum, hhalf _ (by omega) (by omega), hblue, hblueSum, hhalf _ (by omega) (by omega)⟩

theorem sumsFit (sample : Yuv) :
    SumsFit (centred sample.luma 16) (centred sample.u 128) (centred sample.v 128) := by
  have hluma := sample.luma.toNat_lt
  have hu := sample.u.toNat_lt
  have hv := sample.v.toNat_lt
  apply sumsFit_of_small
  · rw [toInt_centred_16]
    omega
  · rw [toInt_centred_128]
    omega
  · rw [toInt_centred_128]
    omega

theorem toInt_redSum (sample : Yuv) :
    (redSum sample).toInt =
      298 * (sample.luma.toNat - 16) + 409 * (sample.v.toNat - 128) + 128 := by
  have h := sumsFit sample
  rw [redSum, h.red_half, h.red, h.luma, h.red_v, toInt_centred_16, toInt_centred_128]
  omega

theorem toInt_greenSum (sample : Yuv) :
    (greenSum sample).toInt =
      298 * (sample.luma.toNat - 16) - 100 * (sample.u.toNat - 128)
        - 208 * (sample.v.toNat - 128) + 128 := by
  have h := sumsFit sample
  rw [greenSum, h.green_half, h.green, h.green_without_v, h.luma, h.green_u, h.green_v,
    toInt_centred_16, toInt_centred_128, toInt_centred_128]
  omega

theorem toInt_blueSum (sample : Yuv) :
    (blueSum sample).toInt =
      298 * (sample.luma.toNat - 16) + 516 * (sample.u.toNat - 128) + 128 := by
  have h := sumsFit sample
  rw [blueSum, h.blue_half, h.blue, h.luma, h.blue_u, toInt_centred_16, toInt_centred_128]
  omega

/-- A byte is the floor of its sum, limited to 0 and 255. -/
theorem toInt_toByte (sum : Int32) :
    ((toByte sum).toNat : Int) = max 0 (min 255 (sum.toInt / 256)) := by
  simp only [toByte, Int32.lt_iff_toInt_lt, toInt_shift]
  change ((if sum.toInt / 256 < 0 then (0 : UInt8)
    else if 255 < sum.toInt / 256 then 255 else _).toNat : Int) = _
  split
  · change (0 : Int) = _; omega
  · split
    · change (255 : Int) = _; omega
    · have : (sum >>> 8).toNatClampNeg = (sum.toInt / 256).toNat := by
        rw [← toInt_shift]; rfl
      rw [this, Nat.toUInt8, UInt8.toNat_ofNat']
      omega

/-- The weighted sum of the luminance fits its word. -/
theorem toNat_weighted (colour : Rgb UInt8) :
    (299 * colour.red.toUInt32 + 587 * colour.green.toUInt32
      + 114 * colour.blue.toUInt32).toNat =
        299 * colour.red.toNat + 587 * colour.green.toNat + 114 * colour.blue.toNat := by
  have hr := colour.red.toNat_lt
  have hg := colour.green.toNat_lt
  have hb := colour.blue.toNat_lt
  simp only [UInt32.toNat_add, UInt32.toNat_mul, UInt8.toNat_toUInt32, UInt32.reduceToNat]
  omega

/-- The luminance is the floor of the weighted sum of a thousand parts; nothing
    is lost when it becomes a byte. -/
theorem toNat_luminance (colour : Rgb UInt8) :
    (luminance colour).toNat =
      (299 * colour.red.toNat + 587 * colour.green.toNat + 114 * colour.blue.toNat) / 1000 := by
  have hr := colour.red.toNat_lt
  have hg := colour.green.toNat_lt
  have hb := colour.blue.toNat_lt
  simp only [luminance, UInt32.toNat_toUInt8, UInt32.toNat_div, toNat_weighted, UInt32.reduceToNat]
  omega

end Chroma420.FixedPoint
