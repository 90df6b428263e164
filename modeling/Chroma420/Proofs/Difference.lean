import Chroma420.Proofs.Agreement
import Chroma420.Proofs.Completion

/-!
# Two frames of one size

Two frames of one size may share some samples and differ in others.  Converted into the
same outputs, they end alike, and what they leave is the same wherever their samples are
(`Source.AlikeOutside`): the pixel of a coordinate, and the luminance beside it, depend on
the sample of this coordinate alone, and the grey of a float pixel and a copied grey
depend on its luma alone.

Frames that have the same sample at every visible coordinate cannot be told apart by a
conversion (`Source.Interchangeable`), whatever their planes look like.
-/

namespace Chroma420

/-! ### Relations of frames -/

/-- All conversions of two frames end alike on the same outputs.  They may leave different
    pixels and luminances at some coordinates, and a different luma at some. -/
structure Source.AlikeOutside (pixels lumas : Point → Prop) (first second : Source) : Prop where
  bytes : ∀ (order : ChannelOrder) (stride : UInt32) (before : Outputs UInt8),
    (paint order first stride before).Alike (Outputs.SameOutside stride pixels pixels)
      (paint order second stride before)
  floats : ∀ (order : ChannelOrder) (stride : UInt32) (before : Outputs Float32),
    (paint order first stride before).Alike (Outputs.SameOutside stride pixels lumas)
      (paint order second stride before)
  luma : ∀ before : GreyImage,
    (copyLuma first before).Alike (GreyImage.SameOutside lumas) (copyLuma second before)

/-- All conversions of two frames end with the same outputs. -/
structure Source.Interchangeable (first second : Source) : Prop where
  bytes : ∀ (order : ChannelOrder) (stride : UInt32) (before : Outputs UInt8),
    paint order first stride before = paint order second stride before
  floats : ∀ (order : ChannelOrder) (stride : UInt32) (before : Outputs Float32),
    paint order first stride before = paint order second stride before
  luma : ∀ before : GreyImage, copyLuma first before = copyLuma second before

variable {pixels lumas : Point → Prop} {first second : Source}

theorem Source.AlikeOutside.copyLuma_eq (h : AlikeOutside pixels lumas first second)
    (hlumas : ∀ p, ¬ lumas p) (before : GreyImage) :
    copyLuma first before = copyLuma second before := by
  apply Ending.Alike.eq
  apply (h.luma before).mono
  intro one two hsame
  exact hsame.eq hlumas

theorem Source.AlikeOutside.float_greys_eq (h : AlikeOutside pixels lumas first second)
    (hlumas : ∀ p, ¬ lumas p) (order : ChannelOrder) (stride : UInt32) (before : Outputs Float32) :
    (paint order first stride before).Alike (fun one two => one.grey = two.grey)
      (paint order second stride before) := by
  apply (h.floats order stride before).mono
  intro one two hsame
  exact eq_of_optionRel (fun _ _ h => h.eq hlumas) hsame.grey

theorem Source.AlikeOutside.interchangeable (h : AlikeOutside pixels lumas first second)
    (hpixels : ∀ p, ¬ pixels p) (hlumas : ∀ p, ¬ lumas p) : Interchangeable first second := by
  refine ⟨?_, ?_, h.copyLuma_eq hlumas⟩
  · intro order stride before
    apply Ending.Alike.eq
    apply (h.bytes order stride before).mono
    intro one two hsame
    exact hsame.eq hpixels hpixels
  · intro order stride before
    apply Ending.Alike.eq
    apply (h.floats order stride before).mono
    intro one two hsame
    exact hsame.eq hpixels hlumas

/-! ### Frames that can be read -/

section Painting

variable {α : Type} [ColourDomain α] {greys : Point → Prop}

/-- Two frames under one verdict, both with all of their samples, are painted alike outside of
    the coordinates where their samples or their greys are different. -/
theorem paint_alike (order : ChannelOrder) (stride : UInt32) (before : Outputs α)
    (hcheck : first.check = second.check) (hsize : first.size = second.size)
    (hfirst : first.Readable) (hsecond : second.Readable)
    (hpixels : ∀ p : Point, p.Inside first.size → first.sample? p ≠ second.sample? p → pixels p)
    (hgreys : ∀ p : Point, p.Inside first.size →
      first.greyCell α order p ≠ second.greyCell α order p → greys p) :
    (paint order first stride before).Alike (Outputs.SameOutside stride pixels greys)
      (paint order second stride before) := by
  have hchecks : checkPaint second stride before = checkPaint first stride before := by
    simp only [checkPaint, hcheck, hsize]
  apply paint_alike_of_painted hchecks (iff_of_true hsecond hfirst)
  intro _ after after' hpainted hpainted'
  rw [← hsize] at hpainted'
  apply hpainted.compare hpainted' _ hgreys
  intro p hp hdiffer
  apply hpixels p hp
  intro hsame
  apply hdiffer
  simp only [Source.pixelCell, Source.pixel?, Source.convert?, hsame]

end Painting

/-- For a copy of luma only rows of luma have to be there, and only luma counts. -/
theorem copyLuma_alike (before : GreyImage) (hcheck : first.check = second.check)
    (hsize : first.size = second.size) (hfirst : first.HasLuma) (hsecond : second.HasLuma)
    (hlumas : ∀ p : Point, p.Inside first.size → first.luma? p ≠ second.luma? p → lumas p) :
    (copyLuma first before).Alike (GreyImage.SameOutside lumas) (copyLuma second before) := by
  have hchecks : checkCopy second before = checkCopy first before := by
    simp only [checkCopy, hcheck, hsize]
  rcases hverdict : checkCopy first before with cause | _
  · rw [hverdict] at hchecks
    rw [copyLuma_of_error hverdict, copyLuma_of_error hchecks]
    exact .rejected cause before
  · rw [hverdict] at hchecks
    obtain ⟨after, hcopy, hfilled⟩ := copyLuma_filledBy hverdict hfirst
    obtain ⟨after', hcopy', hfilled'⟩ := copyLuma_filledBy hchecks hsecond
    rw [← hsize] at hfilled'
    rw [hcopy, hcopy']
    refine .completed (hfilled.compare hfilled' (.refl _ before) ?_)
    intro p hp hdiffer
    apply hlumas p hp
    intro hsame
    apply hdiffer
    simp only [Source.lumaCell, hsame]

/-! ### Pictures -/

namespace Image

theorem readable {image : Image} (h : image.check = .ok ()) : image.source.Readable := by
  intro p hp
  rw [← image.check_source] at h
  exact exists_sample_source h hp

variable {first second : Image}

/-- Two pictures of one size are converted alike outside of the coordinates where they have
    different samples. -/
theorem alikeOutside (hfirst : first.check = .ok ()) (hsecond : second.check = .ok ())
    (hsize : first.size = second.size)
    (hpixels : ∀ p : Point, p.Inside first.size →
      first.source.sample? p ≠ second.source.sample? p → pixels p)
    (hlumas : ∀ p : Point, p.Inside first.size →
      first.source.luma? p ≠ second.source.luma? p → lumas p) :
    first.source.AlikeOutside pixels lumas second.source := by
  have hcheck : first.source.check = second.source.check := by
    rw [check_source, check_source, hfirst, hsecond]
  rw [← first.size_source] at hpixels hlumas
  rw [← first.size_source, ← second.size_source] at hsize
  refine ⟨?_, ?_, ?_⟩
  · intro order stride before
    apply paint_alike order stride before hcheck hsize (readable hfirst) (readable hsecond) hpixels
    intro p hp hdiffer
    apply hpixels p hp
    intro hsame
    apply hdiffer
    simp only [Source.greyCell, Source.convert?, hsame]
  · intro order stride before
    apply paint_alike order stride before hcheck hsize (readable hfirst) (readable hsecond) hpixels
    intro p hp hdiffer
    apply hlumas p hp
    intro hsame
    apply hdiffer
    obtain ⟨sample, hsample⟩ := readable hfirst p hp
    obtain ⟨sample', hsample'⟩ := readable hsecond p (hsize ▸ hp)
    rw [Source.greyCell_of_raw_luma (fun _ _ => rfl) hsample,
      Source.greyCell_of_raw_luma (fun _ _ => rfl) hsample', Source.lumaCell, Source.lumaCell,
      hsame]
  · intro before
    exact copyLuma_alike before hcheck hsize (hasLuma hfirst) (hasLuma hsecond) hlumas

end Image

end Chroma420
