import Chroma420.Image
import Chroma420.Proofs.Agreement
import Chroma420.Proofs.Completion

/-!
# Fresh pictures with pairs of chroma

A fresh picture has tight rows.  A row of pairs has two samples for every block, so for an odd
width it is one sample longer than a row of luma, and for the widest frame of all, with
2 ^ 32 - 1 columns, it has 2 ^ 32 samples.  This length does not fit the word of a stride.  The
plane is made in full, but its stride is narrowed to zero, and a check refuses a plane whose
rows are shorter than they have to be.

All other fresh pictures are valid and are converted by every conversion whose outputs are
accepted (`fresh_pairs_are_valid_below_the_widest`).

What a check finds is a fact about shapes (`Image.check_shape`), and the shape of a fresh picture
is known without its samples (`shape_blank_semiPlanar`).
-/

namespace Chroma420

/-! ### Checks look at shapes -/

/-- A check of a picture looks at its shape, and computes over plain numbers. -/
theorem Image.check_shape (image : Image) : image.check = image.shape.check := by
  cases image with
  | planar image =>
    rw [check, PlanarImage.check, Plane.checkLuma_shape, Plane.checkChroma_shape _ _ (by decide),
      Plane.checkChroma_shape _ _ (by decide)]
    rfl
  | semiPlanar image =>
    rw [check, SemiPlanarImage.check, Plane.checkLuma_shape,
      Plane.checkChroma_shape _ _ (by decide)]
    rfl

/-! ### Shapes of fresh pictures -/

theorem Plane.shape_blank {α : Type} (stride : UInt32) (count : UInt64) (sample : α) :
    (Plane.blank stride count sample).shape = ⟨stride, count.toNat⟩ := by
  rw [shape, blank, Array.size_replicate]

theorem shape_blank_planar (size : Size) :
    (Image.planar (PlanarImage.blank size)).shape = PlanarImage.blankShape size := by
  simp only [Image.shape, PlanarImage.blank, Plane.shape_blank, PlanarImage.blankShape,
    Size.tightShape]

theorem shape_blank_semiPlanar (size : Size) (order : ChromaOrder) :
    (Image.semiPlanar (SemiPlanarImage.blank size order)).shape =
      SemiPlanarImage.blankShape size order := by
  simp only [Image.shape, SemiPlanarImage.blank, Plane.shape_blank, SemiPlanarImage.blankShape,
    Size.tightShape]

/-! ### Rows of pairs -/

namespace SemiPlanarImage

variable {size : Size} {order : ChromaOrder}

/-- The length of a row of pairs is exact, and it fits the word of a count. -/
theorem toNat_pairRow (size : Size) :
    (pairRow size).toNat = 2 * ((size.width.toNat + 1) / 2) ∧ (pairRow size).toNat ≤ 2 ^ 32 := by
  have htwo : (2 : UInt64).toNat ≤ 2 := by decide
  obtain ⟨hexact, hfits⟩ := Plane.toNat_chromaRow size htwo
  have hrow : (pairRow size).toNat = size.chroma.width.toNat * 2 := hexact
  have hfits : size.chroma.width.toNat * 2 ≤ 2 ^ 32 := hfits
  have hhalf := size.toNat_chroma_width
  omega

theorem toNat_pairStride (h : size.width.toNat ≠ 2 ^ 32 - 1) :
    (pairRow size).toUInt32.toNat = 2 * ((size.width.toNat + 1) / 2) := by
  obtain ⟨hrow, _⟩ := toNat_pairRow size
  have hwidth := size.width.toNat_lt
  rw [UInt64.toNat_toUInt32, hrow, Nat.mod_eq_of_lt (by omega)]

/-- The one row of pairs that is too long for the word of a stride. -/
theorem pairStride_of_widest (h : size.width.toNat = 2 ^ 32 - 1) :
    (pairRow size).toUInt32 = 0 := by
  obtain ⟨hrow, _⟩ := toNat_pairRow size
  rw [← UInt32.toNat_inj, UInt64.toNat_toUInt32, hrow, h]
  rfl

theorem toNat_pairCount (size : Size) :
    (pairRow size * size.chroma.height.toUInt64).toNat =
      2 * ((size.width.toNat + 1) / 2) * ((size.height.toNat + 1) / 2) := by
  obtain ⟨hrow, hfits⟩ := toNat_pairRow size
  have hheight : size.chroma.height.toUInt64.toNat = (size.height.toNat + 1) / 2 := by
    rw [UInt32.toNat_toUInt64, Size.toNat_chroma_height]
  have hrows := size.height.toNat_lt
  have hproduct := mul_lt_word hfits (show (size.height.toNat + 1) / 2 < 2 ^ 32 by omega)
  rw [← hheight] at hproduct
  rw [toNat_mul_of_fits hproduct, hrow, hheight]

end SemiPlanarImage

/-! ### Verdicts on fresh pictures -/

namespace PlaneShape

theorem check_of_tight {shape : PlaneShape} {rowLength rows : Nat} (kind : PlaneKind)
    (hstride : shape.stride.toNat = rowLength) (hlength : shape.length = rowLength * rows) :
    shape.check kind rowLength rows = .ok () := by
  rw [check, require_bind_eq_ok, require_eq_ok, hstride, hlength]
  exact ⟨Nat.le_refl _, rfl⟩

theorem checkLuma_tightShape {size : Size} (hwidth : 0 < size.width.toNat)
    (hheight : 0 < size.height.toNat) : size.tightShape.checkLuma size = .ok () := by
  rw [checkLuma, require_bind_eq_ok, Size.isEmpty_eq_false]
  exact ⟨⟨hwidth, hheight⟩, check_of_tight .luma rfl size.toNat_area⟩

end PlaneShape

namespace SemiPlanarImage

variable {size : Size}

theorem check_blank_eq_shape (size : Size) (order : ChromaOrder) :
    (blank size order).check = (blankShape size order).check := by
  rw [← shape_blank_semiPlanar, ← Image.check_shape]
  rfl

theorem check_blank (order : ChromaOrder) (hwidth : 0 < size.width.toNat)
    (hheight : 0 < size.height.toNat) (hnarrow : size.width.toNat ≠ 2 ^ 32 - 1) :
    (blank size order).check = .ok () := by
  rw [check_blank_eq_shape, blankShape, ImageShape.check, check_bind_eq_ok]
  refine ⟨PlaneShape.checkLuma_tightShape hwidth hheight, ?_⟩
  apply PlaneShape.check_of_tight
  · rw [toNat_pairStride hnarrow, Size.toNat_chroma_width, Nat.mul_comm]
  · rw [toNat_pairCount, Size.toNat_chroma_width, Size.toNat_chroma_height, Nat.mul_comm 2]

/-- The widest fresh picture is refused: its pairs are there, but they have no stride. -/
theorem check_blank_of_widest (order : ChromaOrder) (hheight : 0 < size.height.toNat)
    (hwidest : size.width.toNat = 2 ^ 32 - 1) :
    (blank size order).check =
      .error (.planeMinimum .chroma ⟨2 ^ 32 * ((size.height.toNat + 1) / 2), 0⟩) := by
  have hwidth : 0 < size.width.toNat := by omega
  have hstride := pairStride_of_widest hwidest
  have hcolumns : size.chroma.width.toNat * 2 = 2 ^ 32 := by
    rw [Size.toNat_chroma_width, hwidest]
    rfl
  have hrows := size.toNat_chroma_height
  rw [check_blank_eq_shape, blankShape, ImageShape.check, check_bind_eq_error]
  right
  refine ⟨PlaneShape.checkLuma_tightShape hwidth hheight, ?_⟩
  rw [PlaneShape.checkChroma, PlaneShape.check, require_bind_eq_error, hstride, hcolumns, hrows]
  left
  constructor
  · change ¬ 2 ^ 32 ≤ (0 : UInt32).toNat
    decide
  · rw [UInt32.toNat_zero, Nat.zero_mul]

end SemiPlanarImage

/-! ### Conversions of fresh pictures -/

/-- Every conversion of a frame completes, in both colour domains and orders, with a grey picture
    or without, if only its outputs are accepted. -/
structure Source.Completes (source : Source) : Prop where
  paint : ∀ {α : Type} [ColourDomain α] (order : ChannelOrder) (stride : UInt32)
    (before : Outputs α), requireDestination source.size stride before.colour.size = .ok () →
    (∀ grey ∈ before.grey, requireGrey source.size grey = .ok ()) →
    ∃ after, paint order source stride before = .completed after
  copyLuma : ∀ before : GreyImage, requireGrey source.size before = .ok () →
    ∃ after, copyLuma source before = .completed after

/-- Every conversion of a frame is rejected for one cause, whatever its outputs are. -/
structure Source.Refused (source : Source) (cause : Rejection) : Prop where
  paint : ∀ {α : Type} [ColourDomain α] (order : ChannelOrder) (stride : UInt32)
    (before : Outputs α), paint order source stride before = .rejected cause before
  copyLuma : ∀ before : GreyImage, copyLuma source before = .rejected cause before

theorem Image.completes {image : Image} (hcheck : image.check = .ok ()) :
    image.source.Completes := by
  constructor
  · intro α _ order stride before hdestination hgrey
    rw [image.size_source] at hdestination hgrey
    obtain ⟨after, hafter, _⟩ :=
      paint_painted order (checkPaint_eq_ok.2 ⟨hcheck, hdestination, hgrey⟩)
    exact ⟨after, hafter⟩
  · intro before hgrey
    rw [image.size_source] at hgrey
    obtain ⟨after, hafter, _⟩ := copyLuma_filledBy (checkCopy_eq_ok.2 ⟨hcheck, hgrey⟩)
    exact ⟨after, hafter⟩

theorem Source.refused {source : Source} {cause : Rejection} (h : source.check = .error cause) :
    source.Refused cause := by
  constructor
  · intro α _ order stride before
    apply paint_of_error
    rw [checkPaint, check_bind_eq_error]
    exact .inl h
  · intro before
    apply copyLuma_of_error
    rw [checkCopy, check_bind_eq_error]
    exact .inl h

/-- The pairs of a fresh picture fill their plane, in rows of two samples for each block.  Such a
    picture is valid in either chroma order and is converted by every conversion, except for the
    widest one: there the stride of the pairs is zero, and every conversion is rejected for it. -/
theorem fresh_pairs_are_valid_below_the_widest (size : Size) (order : ChromaOrder)
    (hwidth : 0 < size.width.toNat) (hheight : 0 < size.height.toNat) :
    (SemiPlanarImage.blank size order).chroma.samples.size =
        2 * ((size.width.toNat + 1) / 2) * ((size.height.toNat + 1) / 2) ∧
      (size.width.toNat ≠ 2 ^ 32 - 1 →
        (SemiPlanarImage.blank size order).chroma.stride.toNat =
            2 * ((size.width.toNat + 1) / 2) ∧
          (SemiPlanarImage.blank size order).check = .ok () ∧
          (SemiPlanarImage.blank size order).source.Completes) ∧
      (size.width.toNat = 2 ^ 32 - 1 →
        (SemiPlanarImage.blank size order).chroma.stride = 0 ∧
          (SemiPlanarImage.blank size order).source.Refused
            (.planeMinimum .chroma ⟨2 ^ 32 * ((size.height.toNat + 1) / 2), 0⟩)) := by
  refine ⟨?_, ?_, ?_⟩
  · rw [← SemiPlanarImage.toNat_pairCount]
    exact Array.size_replicate
  · intro hnarrow
    have hcheck := SemiPlanarImage.check_blank order hwidth hheight hnarrow
    exact ⟨SemiPlanarImage.toNat_pairStride hnarrow, hcheck,
      @Image.completes (.semiPlanar (SemiPlanarImage.blank size order)) hcheck⟩
  · intro hwidest
    exact ⟨SemiPlanarImage.pairStride_of_widest hwidest,
      Source.refused (SemiPlanarImage.check_blank_of_widest order hheight hwidest)⟩

theorem fresh_pairs_of_three_columns_and_of_the_widest :
    (SemiPlanarImage.blank ⟨3, 3⟩ .vu).source.Completes ∧
      (SemiPlanarImage.blank ⟨4294967295, 1⟩ .uv).chroma.samples.size = 4294967296 ∧
      (SemiPlanarImage.blank ⟨4294967295, 1⟩ .uv).chroma.stride = 0 ∧
      (SemiPlanarImage.blank ⟨4294967295, 1⟩ .uv).source.Refused
        (.planeMinimum .chroma ⟨4294967296, 0⟩) := by
  obtain ⟨_, hvalid, _⟩ := fresh_pairs_are_valid_below_the_widest ⟨3, 3⟩ .vu (by decide) (by decide)
  obtain ⟨_, _, hcompletes⟩ := hvalid (by decide)
  obtain ⟨hcount, _, hwidest⟩ :=
    fresh_pairs_are_valid_below_the_widest ⟨4294967295, 1⟩ .uv (by decide) (by decide)
  obtain ⟨hstride, hrefused⟩ := hwidest rfl
  exact ⟨hcompletes, hcount, hstride, hrefused⟩

end Chroma420
