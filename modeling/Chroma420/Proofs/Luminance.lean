import Chroma420.Proofs.Accuracy

/-!
# Luminance of converted pixels

The grey of a byte pixel is not its luma sample but the luminance of its colour.  The two belong
together all the same.  The weights of the luminance are those with which the Rec.601 matrix spreads
luma over the channels, so in their sum chroma nearly cancels, and what remains is luma on the full
range (`weighted_near`).  The rounded coefficients and channels leave it within 4/5, and the floor
of the luminance takes less than 1 away from it: the grey is within 9/5 of the exact luma.

This needs a colour whose range has not been limited (`Unsaturated`), for a limited channel has lost
its share of luma.  Limited or not, the weights add up to a thousand, so the luminance lies between
the least and the greatest channel (`luminance_between`), and hence fits a byte.
-/

namespace Chroma420

namespace FixedPoint

/-! ### Colours whose range is not limited -/

/-- A sum that is in the range of a byte once it has been shifted. -/
def FitsByte (sum : Int32) : Prop :=
  (0 : Int32) ≤ sum >>> 8 ∧ sum >>> 8 ≤ (255 : Int32)

/-- No channel of the colour has been limited. -/
structure Unsaturated (sample : Yuv) : Prop where
  red : FitsByte (redSum sample)
  green : FitsByte (greenSum sample)
  blue : FitsByte (blueSum sample)

theorem toByte_of_fitsByte {sum : Int32} (h : FitsByte sum) :
    ((toByte sum).toNat : ℤ) = sum.toInt / 256 := by
  rw [FitsByte, Int32.le_iff_toInt_le, Int32.le_iff_toInt_le, toInt_shift] at h
  have hlow : 0 ≤ sum.toInt / 256 := h.1
  have hhigh : sum.toInt / 256 ≤ 255 := h.2
  rw [toInt_toByte, min_eq_right hhigh, max_eq_right hlow]

/-- A channel that is not limited is within a half of its sum. -/
theorem abs_toByte_sub_sum_le {sum : Int32} (h : FitsByte sum) :
    |((toByte sum).toNat : ℚ) - ((sum.toInt : ℚ) - 128) / 256| ≤ 1 / 2 := by
  have hfloor : ((toByte sum).toNat : ℚ) = ((sum.toInt / 256 : ℤ) : ℚ) := by
    exact_mod_cast toByte_of_fitsByte h
  rw [hfloor]
  exact abs_floor_sub_le sum.toInt

/-! ### Weighted means -/

/-- The mean of the channels under the weights of the luminance. -/
def weightedMean (colour : Rgb UInt8) : ℚ :=
  (299 * colour.red.toNat + 587 * colour.green.toNat + 114 * colour.blue.toNat) / 1000

/-- Under the weights of the luminance chroma nearly cancels. -/
theorem weighted_near {sample : Yuv} (h : Unsaturated sample) :
    |weightedMean (rgb sample) - exactLuma sample| ≤ 4 / 5 := by
  have hred := abs_le.1 (abs_toByte_sub_sum_le h.red)
  have hgreen := abs_le.1 (abs_toByte_sub_sum_le h.green)
  have hblue := abs_le.1 (abs_toByte_sub_sum_le h.blue)
  rw [toInt_redSum] at hred
  rw [toInt_greenSum] at hgreen
  rw [toInt_blueSum] at hblue
  push_cast at hred hgreen hblue
  obtain ⟨hluma, hluma'⟩ := byte_range sample.luma
  obtain ⟨hu, hu'⟩ := byte_range sample.u
  obtain ⟨hv, hv'⟩ := byte_range sample.v
  -- what is left of U is 587 * 100 - 114 * 516, and of V 299 * 409 - 587 * 208, in parts of 256000
  rw [weightedMean, rgb, exactLuma, abs_le]
  constructor
  · linarith
  · linarith

theorem luminance_floor (colour : Rgb UInt8) :
    weightedMean colour - 1 < (luminance colour).toNat ∧
      ((luminance colour).toNat : ℚ) ≤ weightedMean colour := by
  have hfloor := toNat_luminance colour
  have hlow : ((luminance colour).toNat : ℚ) * 1000 ≤
      299 * colour.red.toNat + 587 * colour.green.toNat + 114 * colour.blue.toNat := by
    exact_mod_cast (by omega : (luminance colour).toNat * 1000 ≤ _)
  have hhigh : (299 * colour.red.toNat + 587 * colour.green.toNat + 114 * colour.blue.toNat : ℚ) <
      ((luminance colour).toNat + 1) * 1000 := by
    exact_mod_cast (by omega : _ < ((luminance colour).toNat + 1) * 1000)
  rw [weightedMean]
  constructor
  · linarith
  · linarith

theorem grey_near_luma {sample : Yuv} (h : Unsaturated sample) :
    |((grey sample).toNat : ℚ) - exactLuma sample| < 9 / 5 := by
  obtain ⟨hlow, hhigh⟩ := abs_le.1 (weighted_near h)
  obtain ⟨hfloor, hceil⟩ := luminance_floor (rgb sample)
  rw [grey, abs_lt]
  constructor
  · linarith
  · linarith

theorem luminance_between (colour : Rgb UInt8) :
    min colour.red.toNat (min colour.green.toNat colour.blue.toNat) ≤ (luminance colour).toNat ∧
      (luminance colour).toNat ≤
        max colour.red.toNat (max colour.green.toNat colour.blue.toNat) := by
  rw [toNat_luminance]
  constructor
  · rw [Nat.le_div_iff_mul_le (by decide)]
    omega
  · apply Nat.div_le_of_le_mul
    omega

/-- How the grey of a triple goes with its luma and its colour. -/
structure Recovers (sample : Yuv) (colour : Rgb UInt8) (grey : UInt8) : Prop where
  near_luma : Unsaturated sample →
    |(grey.toNat : ℚ) - 255 * ((sample.luma.toNat : ℚ) - 16) / 219| < 9 / 5
  at_least : min colour.red.toNat (min colour.green.toNat colour.blue.toNat) ≤ grey.toNat
  at_most : grey.toNat ≤ max colour.red.toNat (max colour.green.toNat colour.blue.toNat)
  /-- The word of the luminance is a byte already. -/
  not_narrowed : grey.toNat =
    ((299 * colour.red.toUInt32 + 587 * colour.green.toUInt32 + 114 * colour.blue.toUInt32)
      / 1000).toNat

theorem recovers (sample : Yuv) : Recovers sample (rgb sample) (grey sample) := by
  obtain ⟨hleast, hmost⟩ := luminance_between (rgb sample)
  refine ⟨?_, hleast, hmost, ?_⟩
  · intro h
    rw [← div_mul_eq_mul_div]
    exact grey_near_luma h
  · rw [UInt32.toNat_div, toNat_weighted]
    exact toNat_luminance (rgb sample)

end FixedPoint

/-! ### Frames -/

/-- The grey of every visible coordinate goes with the colour that was painted there. -/
def FrameRecovers (order : ChannelOrder) (source : Source) (stride : UInt32)
    (colour : Array UInt8) (grey : GreyImage) : Prop :=
  ∀ p : Point, p.Inside source.size → ∃ sample, source.sample? p = some sample ∧
    ∃ (channels : Rgb UInt8) (value : UInt8),
      (∀ component, colour[p.y.toNat * stride.toNat + 4 * p.x.toNat + order.offset component]? =
        some (channels.channel component)) ∧
      grey.plane.samples[p.y.toNat * grey.plane.stride.toNat + p.x.toNat]? = some value ∧
      FixedPoint.Recovers sample channels value

section Frames

variable {order : ChannelOrder} {source : Source} {stride : UInt32} {before after : Outputs UInt8}
  {image : GreyImage}

theorem frameRecovers_of_completed (h : paint order source stride before = .completed after)
    (hgrey : before.grey = some image) :
    ∃ grey, after.grey = some grey ∧ FrameRecovers order source stride after.colour grey := by
  have hagrees : FrameAgrees order source stride FixedPoint.grey before after :=
    frameAgrees_of_completed h fun _ => rfl
  have hrel := hagrees.grey
  rw [hgrey] at hrel
  obtain ⟨grey, hwritten, hpainted⟩ := exists_of_optionRel_some hrel
  refine ⟨grey, hwritten, ?_⟩
  intro p hp
  obtain ⟨sample, hsample, _⟩ := hagrees.pixel p hp
  obtain ⟨value, hread, hvalue⟩ := hpainted.sample p hp
  rw [hsample] at hread
  cases hread
  rw [← hpainted.stride_eq] at hvalue
  exact ⟨sample, hsample, _, _, hagrees.channel hp hsample, hvalue, FixedPoint.recovers sample⟩

/-- What a converter completes in fused mode is a painted frame with its grey. -/
theorem Converter.paint_of_fused {converter : Converter}
    (hmode : converter.options.grey = .fused)
    (h : (converter.convert source before).ending = .completed after) :
    (∃ image, before.grey = some image) ∧
      paint converter.options.order source converter.stride before = .completed after := by
  rcases haccept : converter.accept source before.grey with cause | _
  · rw [ending_of_refused haccept] at h
    cases h
  · obtain ⟨image, himage, _⟩ := grey_of_accept haccept (by rw [hmode]; decide)
    rw [ending_of_accepted haccept] at h
    simp only [passes, hmode] at h
    exact ⟨⟨image, himage⟩, h⟩

theorem Converter.frameRecovers_of_fused {converter : Converter}
    (hmode : converter.options.grey = .fused)
    (h : (converter.convert source before).ending = .completed after) :
    ∃ grey, after.grey = some grey ∧
      FrameRecovers converter.options.order source converter.stride after.colour grey := by
  obtain ⟨⟨image, himage⟩, hpaint⟩ := paint_of_fused hmode h
  exact frameRecovers_of_completed hpaint himage

end Frames

/-- The grey of every triple recovers its luma where the colour is not limited, and lies between the
    channels in any case.  The same holds at every pixel of a painted grey picture, whether the
    frame was painted directly or by a converter in fused mode.  A picture that is well laid out is
    painted, and a converter paints it if there is no cause to reject it. -/
theorem greys_recover_luma :
    (∀ sample : Yuv,
      FixedPoint.Recovers sample (FixedPoint.rgb sample) (FixedPoint.grey sample)) ∧
    (∀ (source : Source) (order : ChannelOrder) (stride : UInt32) (colour : Array UInt8)
      (image : GreyImage) (after : Outputs UInt8),
      paint order source stride ⟨colour, some image⟩ = .completed after →
      ∃ grey, after.grey = some grey ∧ FrameRecovers order source stride after.colour grey) ∧
    (∀ (picture : Image) (order : ChannelOrder) (stride : UInt32) (colour : Array UInt8)
      (image : GreyImage), picture.check = .ok () →
      requireDestination picture.size stride colour.size = .ok () →
      image.check = .ok () → image.size = picture.size →
      ∃ colour' grey, paint order picture.source stride ⟨colour, some image⟩ =
          .completed ⟨colour', some grey⟩ ∧
        FrameRecovers order picture.source stride colour' grey) ∧
    (∀ (converter : Converter) (source : Source) (before after : Outputs UInt8),
      converter.options.grey = .fused →
      (converter.convert source before).ending = .completed after →
      ∃ grey, after.grey = some grey ∧
        FrameRecovers converter.options.order source converter.stride after.colour grey) ∧
    ∀ (converter : Converter) (picture : Image) (before : Outputs UInt8),
      converter.options.grey = .fused →
      converter.firstCause? picture before.colour.size before.grey = none →
      ∃ colour grey, (converter.convert picture.source before).ending =
          .completed ⟨colour, some grey⟩ ∧
        FrameRecovers converter.options.order picture.source converter.stride colour grey := by
  refine ⟨FixedPoint.recovers, ?_, ?_, ?_, ?_⟩
  · intro source order stride colour image after h
    exact frameRecovers_of_completed h rfl
  · intro picture order stride colour image hcheck hdestination hlayout hsize
    have hgreys : ∀ grey ∈ (⟨colour, some image⟩ : Outputs UInt8).grey,
        grey.check = .ok () ∧ grey.size = picture.size := by
      rintro grey ⟨⟩
      exact ⟨hlayout, hsize⟩
    obtain ⟨⟨colour', grey'⟩, hafter, _⟩ :=
      Image.paint_agrees hcheck order (fun _ => rfl) hdestination hgreys
    obtain ⟨grey, hwritten, hrecovers⟩ := frameRecovers_of_completed hafter rfl
    cases hwritten
    exact ⟨colour', grey, hafter, hrecovers⟩
  · intro converter source before after hmode h
    exact Converter.frameRecovers_of_fused hmode h
  · intro converter picture before hmode hcause
    obtain ⟨⟨colour, grey'⟩, hafter, _⟩ := Converter.convert_of_no_cause hcause
    obtain ⟨grey, hwritten, hrecovers⟩ := Converter.frameRecovers_of_fused hmode hafter
    cases hwritten
    exact ⟨colour, grey, hafter, hrecovers⟩

theorem odd_picture_keeps_its_luma :
    (FixedPoint.Unsaturated ⟨120, 100, 150⟩ ∧
      |((FixedPoint.grey ⟨120, 100, 150⟩).toNat : ℚ) - 255 * (120 - 16) / 219| < 9 / 5) ∧
    (∃ colour grey, paint .bgra oddPicture.source 13
          ⟨Array.replicate 39 7, some ⟨⟨3, 3⟩, Plane.blank 5 15 9⟩⟩ =
        .completed ⟨colour, some grey⟩ ∧
      FrameRecovers .bgra oddPicture.source 13 colour grey) ∧
    ∃ colour grey, ((separateConverter.withGrey .fused).convert oddPicture.source
          ⟨Array.replicate 36 7, some (GreyImage.blank ⟨3, 3⟩)⟩).ending =
        .completed ⟨colour, some grey⟩ ∧
      FrameRecovers .bgra oddPicture.source 12 colour grey := by
  obtain ⟨htriples, hframes, hpictures, hfused, hconversions⟩ := greys_recover_luma
  have hrange : FixedPoint.Unsaturated ⟨120, 100, 150⟩ := by
    refine ⟨?_, ?_, ?_⟩
    · exact ⟨by decide, by decide⟩
    · exact ⟨by decide, by decide⟩
    · exact ⟨by decide, by decide⟩
  refine ⟨⟨hrange, (htriples ⟨120, 100, 150⟩).near_luma hrange⟩, ?_, ?_⟩
  · obtain ⟨colour, grey, hafter, _⟩ := hpictures oddPicture .bgra 13 (Array.replicate 39 7)
      ⟨⟨3, 3⟩, Plane.blank 5 15 9⟩ rfl rfl rfl rfl
    obtain ⟨_, hwritten, hrecovers⟩ := hframes oddPicture.source .bgra 13 _ _ _ hafter
    cases hwritten
    exact ⟨colour, grey, hafter, hrecovers⟩
  · obtain ⟨colour, grey, hafter, _⟩ := hconversions (separateConverter.withGrey .fused) oddPicture
      ⟨Array.replicate 36 7, some (GreyImage.blank ⟨3, 3⟩)⟩ rfl rfl
    obtain ⟨_, hwritten, hrecovers⟩ :=
      hfused (separateConverter.withGrey .fused) oddPicture.source _ _ rfl hafter
    cases hwritten
    exact ⟨colour, grey, hafter, hrecovers⟩

end Chroma420
