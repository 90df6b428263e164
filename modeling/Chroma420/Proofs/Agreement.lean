import Chroma420.Colour.FixedPoint
import Chroma420.Colour.UnitRange
import Chroma420.Proofs.Copying
import Chroma420.Proofs.Reading

/-!
# Frames agree with pixels

A frame conversion and the conversion of single coordinates are two ways to the
same pixels.  For a picture whose check passes, and outputs that have room for
it, a frame conversion completes and leaves at every visible coordinate what the
conversion of this coordinate gives; every other element of its outputs, which
can only be padding at the end of a row, is as it was before
(`frames_agree_with_pixels`).

What is left is stated over plain indices: the pixel of column `x` of row `y`
starts at `y * stride + 4 * x`, and its grey is at `y * stride + x` of a grey
picture with a stride of its own.
-/

namespace Chroma420

/-! ### What a conversion leaves -/

/-- The visible samples of a grey picture are those of a function of the
    coordinate; size, stride and padding are those of `before`. -/
structure GreyAgrees (size : Size) (grey : Point → Option UInt8) (before after : GreyImage) :
    Prop where
  size_eq : after.size = before.size
  stride_eq : after.plane.stride = before.plane.stride
  length_eq : after.plane.samples.size = before.plane.samples.size
  sample : ∀ p : Point, p.Inside size → ∃ value, grey p = some value ∧
    after.plane.samples[p.y.toNat * before.plane.stride.toNat + p.x.toNat]? = some value
  padding : ∀ i, (∀ p : Point, p.Inside size →
      i ≠ p.y.toNat * before.plane.stride.toNat + p.x.toNat) →
    after.plane.samples[i]? = before.plane.samples[i]?

/-- The visible pixels are those of the samples of a source, and their greys are
    given by `greyOf`; all other elements are those of `before`. -/
structure FrameAgrees {α : Type} [ColourDomain α] (order : ChannelOrder) (source : Source)
    (stride : UInt32) (greyOf : Yuv → UInt8) (before after : Outputs α) : Prop where
  length_eq : after.colour.size = before.colour.size
  pixel : ∀ p : Point, p.Inside source.size → ∃ sample, source.sample? p = some sample ∧
    source.pixel? order p = some (sample.pixel order : Pixel α) ∧
    source.convert? order p = some (⟨sample.pixel order, greyOf sample⟩ : Converted α) ∧
    ∀ k (hk : k < 4), after.colour[p.y.toNat * stride.toNat + 4 * p.x.toNat + k]? =
      some (sample.pixel order : Pixel α)[k]
  padding : ∀ i, (∀ p : Point, p.Inside source.size →
      i < p.y.toNat * stride.toNat + 4 * p.x.toNat ∨
        p.y.toNat * stride.toNat + 4 * p.x.toNat + 4 ≤ i) →
    after.colour[i]? = before.colour[i]?
  grey : Option.Rel (GreyAgrees source.size fun p => (source.sample? p).map greyOf)
    before.grey after.grey

theorem GreyImage.FilledBy.agrees {size : Size} {content : Point → List UInt8}
    {grey : Point → Option UInt8} {before after : GreyImage}
    (h : FilledBy content (fun p => p.Inside size) before after)
    (hcontent : ∀ p : Point, p.Inside size → ∃ value, grey p = some value ∧ content p = [value]) :
    GreyAgrees size grey before after := by
  refine ⟨h.size_eq, h.stride_eq, h.samples.size_eq, ?_, ?_⟩
  · intro p hp
    obtain ⟨value, hvalue, hcell⟩ := hcontent p hp
    refine ⟨value, hvalue, ?_⟩
    have hinside := h.samples.inside p hp 0 (by omega)
    rw [hcell] at hinside
    exact hinside
  · intro i hi
    apply h.samples.outside
    intro p hp
    have hne : i ≠ before.index p := hi p hp
    omega

theorem Painted.agrees {α : Type} [ColourDomain α] {order : ChannelOrder} {source : Source}
    {stride : UInt32} {greyOf : Yuv → UInt8} {before after : Outputs α}
    (h : Painted order source stride (fun p => p.Inside source.size) before after)
    (hgreyOf : ∀ sample : Yuv, (sample.convert order : Converted α).grey = greyOf sample)
    (hsample : ∀ p : Point, p.Inside source.size → ∃ sample, source.sample? p = some sample) :
    FrameAgrees order source stride greyOf before after := by
  have hconvert : ∀ p sample, source.sample? p = some sample →
      source.convert? order p = some (⟨sample.pixel order, greyOf sample⟩ : Converted α) := by
    intro p sample hp
    rw [Source.convert?, hp, ← hgreyOf]
    rfl
  refine ⟨h.colour.size_eq, ?_, h.colour.outside, ?_⟩
  · intro p hp
    obtain ⟨sample, hp'⟩ := hsample p hp
    have hpixel : source.pixel? order p = some (sample.pixel order : Pixel α) := by
      rw [Source.pixel?, hconvert p sample hp']
      rfl
    refine ⟨sample, hp', hpixel, hconvert p sample hp', ?_⟩
    intro k hk
    have hinside := h.colour.inside p hp k hk
    rw [Source.pixelCell, hpixel] at hinside
    rw [Point.colourIndex] at hinside
    rw [hinside]
    exact List.getElem?_eq_getElem (by rw [Vector.length_toList]; exact hk)
  · have hgrey := h.grey
    rcases hbefore : before.grey with _ | old <;> rcases hafter : after.grey with _ | new <;>
      rw [hbefore, hafter] at hgrey
    · exact .none
    · exact absurd hgrey Option.not_rel_none_some
    · exact absurd hgrey Option.not_rel_some_none
    · rw [Option.rel_some_some] at hgrey
      refine .some (hgrey.agrees ?_)
      intro p hp
      obtain ⟨sample, hp'⟩ := hsample p hp
      refine ⟨greyOf sample, by rw [hp']; rfl, ?_⟩
      rw [Source.greyCell, hconvert p sample hp']

/-! ### Frames of pictures -/

theorem Image.stride_ne_zero {image : Image} (hcheck : image.check = .ok ()) {stride : UInt32}
    {length : Nat} (hdestination : requireDestination image.size stride length = .ok ()) :
    stride ≠ 0 := by
  rintro rfl
  obtain ⟨hwidth, _⟩ := luma_laidOut hcheck
  obtain ⟨_, _, hrow⟩ := requireDestination_eq_ok.1 hdestination
  rw [UInt32.toNat_zero] at hrow
  omega

theorem Image.exists_sample_source {image : Image} (hcheck : image.source.check = .ok ())
    {p : Point} (hp : p.Inside image.source.size) :
    ∃ sample, image.source.sample? p = some sample := by
  rw [image.check_source] at hcheck
  rw [image.size_source] at hp
  exact exists_sample hcheck hp

theorem Image.paint_painted {α : Type} [ColourDomain α] {image : Image} (order : ChannelOrder)
    {stride : UInt32} {before : Outputs α}
    (hchecks : checkPaint image.source stride before = .ok ()) :
    ∃ after, paint order image.source stride before = .completed after ∧
      Painted order image.source stride (fun p => p.Inside image.source.size) before after := by
  obtain ⟨hcheck, hdestination, _⟩ := checkPaint_eq_ok.1 hchecks
  apply Chroma420.paint_painted hchecks (stride_ne_zero hcheck hdestination)
  intro p hp
  rw [image.size_source] at hp
  obtain ⟨sample, hsample⟩ := exists_sample hcheck hp
  exact ⟨sample.convert order, by rw [Source.convert?, hsample]; rfl⟩

theorem Image.hasLuma {image : Image} (h : image.check = .ok ()) : image.source.HasLuma := by
  intro y hy
  rw [image.size_source] at hy ⊢
  exact exists_lumaRow h hy

theorem Image.copyLuma_filledBy {image : Image} {before : GreyImage}
    (hchecks : checkCopy image.source before = .ok ()) :
    ∃ after, copyLuma image.source before = .completed after ∧
      GreyImage.FilledBy image.source.lumaCell (fun p => p.Inside image.size) before after := by
  obtain ⟨hcheck, _⟩ := checkCopy_eq_ok.1 hchecks
  obtain ⟨after, hafter, hfilled⟩ := Chroma420.copyLuma_filledBy hchecks (hasLuma hcheck)
  rw [image.size_source] at hfilled
  exact ⟨after, hafter, hfilled⟩

theorem Image.paint_agrees_of_check {α : Type} [ColourDomain α] {image : Image}
    {greyOf : Yuv → UInt8} (order : ChannelOrder)
    (hgreyOf : ∀ sample : Yuv, (sample.convert order : Converted α).grey = greyOf sample)
    {stride : UInt32} {before : Outputs α}
    (hchecks : checkPaint image.source stride before = .ok ()) :
    ∃ after, paint order image.source stride before = .completed after ∧
      FrameAgrees order image.source stride greyOf before after := by
  obtain ⟨hcheck, _⟩ := checkPaint_eq_ok.1 hchecks
  rw [← image.check_source] at hcheck
  obtain ⟨after, hafter, hpainted⟩ := paint_painted order hchecks
  exact ⟨after, hafter, hpainted.agrees hgreyOf fun p hp => exists_sample_source hcheck hp⟩

theorem Image.paint_agrees {α : Type} [ColourDomain α] {image : Image}
    (hcheck : image.check = .ok ()) {greyOf : Yuv → UInt8} (order : ChannelOrder)
    (hgreyOf : ∀ sample : Yuv, (sample.convert order : Converted α).grey = greyOf sample)
    {stride : UInt32} {before : Outputs α}
    (hdestination : requireDestination image.size stride before.colour.size = .ok ())
    (hgrey : ∀ grey ∈ before.grey, grey.check = .ok () ∧ grey.size = image.size) :
    ∃ after, paint order image.source stride before = .completed after ∧
      FrameAgrees order image.source stride greyOf before after := by
  have hchecks : checkPaint image.source stride before = .ok () := by
    refine checkPaint_eq_ok.2 ⟨hcheck, hdestination, ?_⟩
    intro grey hmem
    obtain ⟨hlayout, hsize⟩ := hgrey grey hmem
    exact requireGrey_eq_ok.2 ⟨hlayout, hsize.symm⟩
  exact paint_agrees_of_check order hgreyOf hchecks

theorem Image.copyLuma_agrees_of_check {image : Image} {before : GreyImage}
    (hchecks : checkCopy image.source before = .ok ()) :
    ∃ after, copyLuma image.source before = .completed after ∧
      GreyAgrees image.size image.source.luma? before after := by
  obtain ⟨hcheck, _⟩ := checkCopy_eq_ok.1 hchecks
  obtain ⟨after, hafter, hfilled⟩ := copyLuma_filledBy hchecks
  refine ⟨after, hafter, hfilled.agrees ?_⟩
  intro p hp
  obtain ⟨luma, hsome⟩ := exists_luma hcheck hp
  exact ⟨luma, hsome, by rw [Source.lumaCell, hsome]⟩

/-- Three columns, three rows and padding behind every row. -/
def oddPicture : Image :=
  .semiPlanar {
    size := ⟨3, 3⟩
    luma := Plane.tabulate 4 3 fun x y => UInt8.ofNat (40 * y + 15 * x + 20)
    chroma := Plane.tabulate 5 2 fun x y => UInt8.ofNat (90 * y + 30 * x + 60)
    order := .vu }

end Chroma420
