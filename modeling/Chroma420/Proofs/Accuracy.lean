import Mathlib.Algebra.Order.Field.Rat
import Mathlib.Algebra.Order.Group.MinMax
import Mathlib.Tactic.Linarith
import Mathlib.Tactic.NormNum
import Chroma420.Proofs.GreyModes

/-!
# Accuracy of the colours of bytes

The exact colour of a triple is a matter of rational numbers: luma from 16 to 235 and chroma around
128 are stretched to the full range, and the Rec.601 matrix is applied (`exact`).  The fixed-point
transform comes near it in three steps, and each step has its own share in the error.

The coefficients are rounded to 256ths.  Over the range of bytes this moves a channel by at most
3/10 (`redSum_near`, `greenSum_near`, `blueSum_near`).  The floor of a sum to which half of 256 has
been added is the nearest integer, which moves it by at most 1/2 (`abs_floor_sub_le`).  Limiting a
channel to the range of a byte brings it no further away from the exact one, which is limited too
(`abs_limited_sub_le`).

So a channel is off by at most 4/5 (`colours_are_accurate`), and no sum leaves its word on the way
(`SumsFit`).
-/

namespace Chroma420

namespace FixedPoint

/-! ### The exact colour -/

/-- Luma from 16 to 235 on the range from 0 to 255. -/
def exactLuma (sample : Yuv) : ℚ := 255 / 219 * (sample.luma.toNat - 16)

/-- A sample of chroma, counted from its centre, on the range of luma. -/
def exactChroma (sample : UInt8) : ℚ := 255 / 224 * (sample.toNat - 128)

/-- The exact channels of a triple, before their range is limited. -/
def exact (sample : Yuv) : Component → ℚ
  | .red => exactLuma sample + 1.402 * exactChroma sample.v
  | .green => exactLuma sample - 0.114 * 1.772 / 0.587 * exactChroma sample.u
      - 0.299 * 1.402 / 0.587 * exactChroma sample.v
  | .blue => exactLuma sample + 1.772 * exactChroma sample.u
  | .alpha => 255

/-- A value limited to the range of a byte. -/
def limited (value : ℚ) : ℚ := max 0 (min 255 value)

theorem abs_limited_sub_le (a b : ℚ) : |limited a - limited b| ≤ |a - b| := by
  have hmin : |min 255 a - min 255 b| ≤ |a - b| := by
    rw [min_comm 255 a, min_comm 255 b]
    simpa using abs_min_sub_min_le_max a 255 b 255
  have hmax : |limited a - limited b| ≤ |min 255 a - min 255 b| := by
    unfold limited
    rw [max_comm 0 (min 255 a), max_comm 0 (min 255 b)]
    exact abs_max_sub_max_le_abs _ _ _
  exact hmax.trans hmin

/-! ### Rounding -/

theorem toByte_eq_limited (sum : Int32) :
    ((toByte sum).toNat : ℚ) = limited ((sum.toInt / 256 : ℤ) : ℚ) := by
  have h : (((toByte sum).toNat : ℤ) : ℚ) = ((max 0 (min 255 (sum.toInt / 256)) : ℤ) : ℚ) := by
    rw [toInt_toByte]
  push_cast at h
  exact h

/-- With half of 256 added beforehand, the floor of a sum of 256ths is off by at most a half. -/
theorem abs_floor_sub_le (sum : ℤ) :
    |((sum / 256 : ℤ) : ℚ) - ((sum : ℚ) - 128) / 256| ≤ 1 / 2 := by
  have hlow : ((sum / 256 : ℤ) : ℚ) * 256 ≤ sum := by
    exact_mod_cast Int.ediv_mul_le sum (by decide)
  have hhigh : (sum : ℚ) ≤ ((sum / 256 : ℤ) : ℚ) * 256 + 255 := by
    exact_mod_cast (by omega : sum ≤ sum / 256 * 256 + 255)
  rw [abs_le]
  constructor
  · linarith
  · linarith

/-- If a sum without its half is within 3/10 of a value, its byte is within 4/5 of the limited
    value. -/
theorem abs_toByte_sub_le {sum : Int32} {value : ℚ}
    (h : |((sum.toInt : ℚ) - 128) / 256 - value| ≤ 3 / 10) :
    |((toByte sum).toNat : ℚ) - limited value| ≤ 4 / 5 := by
  rw [toByte_eq_limited]
  calc
    |limited ((sum.toInt / 256 : ℤ) : ℚ) - limited value|
      ≤ |((sum.toInt / 256 : ℤ) : ℚ) - value| := abs_limited_sub_le _ _
    _ ≤ |((sum.toInt / 256 : ℤ) : ℚ) - ((sum.toInt : ℚ) - 128) / 256| +
        |((sum.toInt : ℚ) - 128) / 256 - value| := abs_sub_le _ _ _
    _ ≤ 1 / 2 + 3 / 10 := add_le_add (abs_floor_sub_le sum.toInt) h
    _ = 4 / 5 := by norm_num

/-! ### Coefficients -/

theorem byte_range (sample : UInt8) : 0 ≤ (sample.toNat : ℚ) ∧ (sample.toNat : ℚ) ≤ 255 := by
  have h : sample.toNat ≤ 255 := Nat.le_of_lt_succ sample.toNat_lt
  exact ⟨Nat.cast_nonneg _, by exact_mod_cast h⟩

theorem redSum_near (sample : Yuv) :
    |(((redSum sample).toInt : ℚ) - 128) / 256 - exact sample .red| ≤ 3 / 10 := by
  obtain ⟨hluma, hluma'⟩ := byte_range sample.luma
  obtain ⟨hv, hv'⟩ := byte_range sample.v
  rw [toInt_redSum, exact, exactLuma, exactChroma, abs_le]
  push_cast
  constructor
  · linarith
  · linarith

theorem greenSum_near (sample : Yuv) :
    |(((greenSum sample).toInt : ℚ) - 128) / 256 - exact sample .green| ≤ 3 / 10 := by
  obtain ⟨hluma, hluma'⟩ := byte_range sample.luma
  obtain ⟨hu, hu'⟩ := byte_range sample.u
  obtain ⟨hv, hv'⟩ := byte_range sample.v
  rw [toInt_greenSum, exact, exactLuma, exactChroma, exactChroma, abs_le]
  push_cast
  constructor
  · linarith
  · linarith

theorem blueSum_near (sample : Yuv) :
    |(((blueSum sample).toInt : ℚ) - 128) / 256 - exact sample .blue| ≤ 3 / 10 := by
  obtain ⟨hluma, hluma'⟩ := byte_range sample.luma
  obtain ⟨hu, hu'⟩ := byte_range sample.u
  rw [toInt_blueSum, exact, exactLuma, exactChroma, abs_le]
  push_cast
  constructor
  · linarith
  · linarith

/-- A channel of bytes is within 4/5 of the exact one. -/
theorem abs_channel_sub_le (sample : Yuv) (component : Component) :
    |(((rgb sample).channel component).toNat : ℚ) - limited (exact sample component)| ≤ 4 / 5 := by
  cases component with
  | red =>
    simp only [Rgb.channel, rgb]
    exact abs_toByte_sub_le (redSum_near sample)
  | green =>
    simp only [Rgb.channel, rgb]
    exact abs_toByte_sub_le (greenSum_near sample)
  | blue =>
    simp only [Rgb.channel, rgb]
    exact abs_toByte_sub_le (blueSum_near sample)
  | alpha =>
    have halpha : ((rgb sample).channel .alpha).toNat = 255 := rfl
    rw [halpha, exact, limited]
    norm_num

end FixedPoint

/-! ### Frames -/

/-- Painting that has completed agrees with the conversion of single coordinates, whatever the
    source. -/
theorem frameAgrees_of_completed {α : Type} [ColourDomain α] {order : ChannelOrder}
    {source : Source} {stride : UInt32} {greyOf : Yuv → UInt8} {before after : Outputs α}
    (h : paint order source stride before = .completed after)
    (hgreyOf : ∀ sample : Yuv, (sample.convert order : Converted α).grey = greyOf sample) :
    FrameAgrees order source stride greyOf before after := by
  obtain ⟨_, ⟨_, hreadable⟩, hpainted⟩ := paint_eq_completed.1 h
  exact hpainted.agrees hgreyOf hreadable

/-- Every channel of every visible pixel is within 4/5 of the exact one of its samples. -/
def FrameAccurate (order : ChannelOrder) (source : Source) (stride : UInt32)
    (colour : Array UInt8) : Prop :=
  ∀ p : Point, p.Inside source.size → ∃ sample, source.sample? p = some sample ∧
    ∀ component, ∃ byte : UInt8,
      colour[p.y.toNat * stride.toNat + 4 * p.x.toNat + order.offset component]? = some byte ∧
        |(byte.toNat : ℚ) - FixedPoint.limited (FixedPoint.exact sample component)| ≤ 4 / 5

theorem frameAccurate_of_completed {order : ChannelOrder} {source : Source} {stride : UInt32}
    {before after : Outputs UInt8} (h : paint order source stride before = .completed after) :
    FrameAccurate order source stride after.colour := by
  have hagrees : FrameAgrees order source stride FixedPoint.grey before after :=
    frameAgrees_of_completed h fun _ => rfl
  intro p hp
  obtain ⟨sample, hsample, _⟩ := hagrees.pixel p hp
  refine ⟨sample, hsample, ?_⟩
  intro component
  exact ⟨_, hagrees.channel hp hsample component, FixedPoint.abs_channel_sub_le sample component⟩

/-- The colours of bytes are computed without leaving the word of a sum, and each channel is within
    4/5 of the exact Rec.601 value, limited to the range of a byte.  This holds for every triple of
    samples, and hence for every visible channel of every painted frame.  A frame that is well laid
    out is painted. -/
theorem colours_are_accurate :
    (∀ sample : Yuv,
      ((FixedPoint.centred sample.luma 16).toInt = sample.luma.toNat - 16 ∧
        (FixedPoint.centred sample.u 128).toInt = sample.u.toNat - 128 ∧
        (FixedPoint.centred sample.v 128).toInt = sample.v.toNat - 128) ∧
      FixedPoint.SumsFit (FixedPoint.centred sample.luma 16) (FixedPoint.centred sample.u 128)
        (FixedPoint.centred sample.v 128) ∧
      ∀ component, |(((FixedPoint.rgb sample).channel component).toNat : ℚ) -
        FixedPoint.limited (FixedPoint.exact sample component)| ≤ 4 / 5) ∧
    (∀ (source : Source) (order : ChannelOrder) (stride : UInt32) (before after : Outputs UInt8),
      paint order source stride before = .completed after →
      FrameAccurate order source stride after.colour) ∧
    ∀ image : Image, image.check = .ok () →
      ∀ (order : ChannelOrder) (stride : UInt32) (before : Outputs UInt8),
        requireDestination image.size stride before.colour.size = .ok () →
        (∀ grey ∈ before.grey, grey.check = .ok () ∧ grey.size = image.size) →
        ∃ after, paint order image.source stride before = .completed after ∧
          FrameAccurate order image.source stride after.colour := by
  refine ⟨?_, ?_, ?_⟩
  · intro sample
    exact ⟨⟨FixedPoint.toInt_centred_16 _, FixedPoint.toInt_centred_128 _,
      FixedPoint.toInt_centred_128 _⟩, FixedPoint.sumsFit sample,
      FixedPoint.abs_channel_sub_le sample⟩
  · intro source order stride before after h
    exact frameAccurate_of_completed h
  · intro image hcheck order stride before hdestination hgrey
    obtain ⟨after, hafter, _⟩ :=
      Image.paint_agrees hcheck order (fun _ => rfl) hdestination hgrey
    exact ⟨after, hafter, frameAccurate_of_completed hafter⟩

theorem odd_picture_is_painted_accurately :
    ∃ after, paint .bgra oddPicture.source 13
        (⟨Array.replicate 39 7, some ⟨⟨3, 3⟩, Plane.blank 5 15 9⟩⟩ : Outputs UInt8) =
          .completed after ∧
      FrameAccurate .bgra oddPicture.source 13 after.colour := by
  obtain ⟨_, hcompleted, hvalid⟩ := colours_are_accurate
  obtain ⟨after, hafter, _⟩ := hvalid oddPicture rfl .bgra 13
    ⟨Array.replicate 39 7, some ⟨⟨3, 3⟩, Plane.blank 5 15 9⟩⟩ rfl
    (by rintro grey ⟨⟩; exact ⟨rfl, rfl⟩)
  exact ⟨after, hafter, hcompleted oddPicture.source .bgra 13 _ after hafter⟩

end Chroma420
