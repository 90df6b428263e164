import Chroma420.Proofs.Agreement

/-!
# Conversions always return

A conversion faults when it reaches for an element that is not there, when it
would walk rows of no elements, or when it copies a row of another length than
that of its target.  For a picture none of this can happen, whatever its planes,
strides and size, whatever the outputs, and under every converter: the checks
that come first leave only frames on which every step succeeds
(`conversions_always_return`).

The arguments of the checks and of the steps are words.  The same theorem says
that they are exact: a sum or product that is used is never one that has
wrapped (`CountsExact`, `Plane.OffsetsExact`).
-/

namespace Chroma420

/-! ### Endings that return -/

namespace Ending

variable {β γ : Type}

/-- The buffers come back: the conversion completes or is rejected. -/
def Returns (ending : Ending β) : Prop :=
  ∃ after, ending = .completed after ∨ ∃ cause, ending = .rejected cause after

theorem Returns.completed (after : β) : (completed after).Returns :=
  ⟨after, .inl rfl⟩

theorem Returns.rejected (cause : Rejection) (after : β) : (rejected cause after).Returns :=
  ⟨after, .inr ⟨cause, rfl⟩⟩

theorem Returns.map {ending : Ending β} (h : ending.Returns) (f : β → γ) :
    (ending.map f).Returns := by
  obtain ⟨after, rfl | ⟨cause, rfl⟩⟩ := h
  · exact .completed (f after)
  · exact .rejected cause (f after)

theorem Returns.andThen {first : Ending β} {next : β → Ending β} (h : first.Returns)
    (hnext : ∀ mid, (next mid).Returns) : (first.andThen next).Returns := by
  obtain ⟨mid, rfl | ⟨cause, rfl⟩⟩ := h
  · exact hnext mid
  · exact .rejected cause mid

theorem returns_ofWrites {verdict : Except Rejection Unit} {before : β} {write? : β → Option β}
    (h : verdict = .ok () → ∃ after, ofWrites verdict before write? = .completed after) :
    (ofWrites verdict before write?).Returns := by
  rcases hverdict : verdict with cause | _
  · exact .rejected cause before
  · obtain ⟨after, hafter⟩ := h hverdict
    rw [hverdict] at hafter
    rw [hafter]
    exact .completed after

end Ending

/-! ### Frame conversions -/

section Conversions

variable {α : Type} [ColourDomain α]

theorem Image.paint_returns (image : Image) (order : ChannelOrder) (stride : UInt32)
    (before : Outputs α) : (paint order image.source stride before).Returns := by
  apply Ending.returns_ofWrites
  intro hchecks
  obtain ⟨after, hafter, _⟩ := image.paint_painted order hchecks
  exact ⟨after, hafter⟩

theorem Image.copyLuma_returns (image : Image) (before : GreyImage) :
    (copyLuma image.source before).Returns := by
  apply Ending.returns_ofWrites
  intro hchecks
  obtain ⟨after, hafter, _⟩ := image.copyLuma_filledBy hchecks
  exact ⟨after, hafter⟩

namespace Converter

theorem paintColour_returns (converter : Converter) (image : Image) (before : Outputs α) :
    (converter.paintColour image.source before).Returns := by
  obtain ⟨colour, grey⟩ := before
  exact (image.paint_returns _ _ _).map _

omit [ColourDomain α] in
theorem copyGrey_returns (image : Image) (before : Outputs α) :
    (copyGrey image.source before).Returns := by
  obtain ⟨colour, _ | grey⟩ := before
  · exact .completed _
  · exact (image.copyLuma_returns grey).map _

theorem passes_returns (converter : Converter) (image : Image) (before : Outputs α) :
    (converter.passes image.source before).Returns := by
  rw [passes]
  rcases converter.options.grey with _ | _ | _
  · exact converter.paintColour_returns image before
  · exact image.paint_returns _ _ before
  · exact (converter.paintColour_returns image before).andThen (copyGrey_returns image)

theorem convert_returns (converter : Converter) (image : Image) (before : Outputs α) :
    (converter.convert image.source before).ending.Returns := by
  rcases haccept : converter.accept image.source before.grey with cause | _
  · rw [ending_of_refused haccept]
    exact .rejected cause before
  · rw [ending_of_accepted haccept]
    exact converter.passes_returns image before

end Converter

end Conversions

/-! ### Rows to walk -/

/-- Walking a plane row by row meets exactly `rows` rows, each with `rowLength`
    samples to take from its start. -/
structure Plane.Walkable {α : Type} (plane : Plane α) (rowLength rows : Nat) : Prop where
  stride_ne_zero : plane.stride ≠ 0
  row_fits : rowLength ≤ plane.stride.toNat
  rows_eq : plane.samples.size / plane.stride.toNat = rows

theorem Plane.LaidOut.walkable_of_stride {α : Type} {plane : Plane α} {rowLength rows : Nat}
    (h : plane.LaidOut rowLength rows) (hstride : plane.stride ≠ 0) :
    plane.Walkable rowLength rows := by
  have hpositive : 0 < plane.stride.toNat := by
    rw [Nat.pos_iff_ne_zero]
    exact fun hzero => hstride (UInt32.toNat_inj.1 hzero)
  refine ⟨hstride, h.row_fits, ?_⟩
  rw [h.size_eq]
  exact Nat.mul_div_cancel_left rows hpositive

theorem Plane.LaidOut.walkable {α : Type} {plane : Plane α} {rowLength rows : Nat}
    (h : plane.LaidOut rowLength rows) (hrow : 0 < rowLength) : plane.Walkable rowLength rows := by
  have hfits := h.row_fits
  apply h.walkable_of_stride
  intro hzero
  rw [hzero, UInt32.toNat_zero] at hfits
  omega

theorem GreyImage.walkable {grey : GreyImage} {size : Size} (hcheck : grey.check = .ok ())
    (hsize : grey.size = size) : grey.plane.Walkable size.width.toNat size.height.toNat := by
  subst hsize
  obtain ⟨hwidth, _, hlaid⟩ := check_eq_ok.1 hcheck
  exact hlaid.walkable hwidth

theorem Image.walkable_of_checkPaint {α : Type} {image : Image} {stride : UInt32}
    {before : Outputs α} (hchecks : checkPaint image.source stride before = .ok ()) :
    (Plane.mk before.colour stride).Walkable (4 * image.size.width.toNat)
        image.size.height.toNat ∧
      ∀ grey ∈ before.grey, grey.plane.Walkable image.size.width.toNat
        image.size.height.toNat := by
  have hroom := hasRoom_of_checkPaint hchecks
  have hcheck := (checkPaint_eq_ok.1 hchecks).1
  rw [image.size_source] at hroom
  obtain ⟨hwidth, _⟩ := luma_laidOut hcheck
  refine ⟨hroom.colour.walkable (by omega), ?_⟩
  intro grey hmem
  exact (hroom.grey grey hmem).walkable hwidth

theorem Image.walkable_of_checkCopy {image : Image} {before : GreyImage}
    (hchecks : checkCopy image.source before = .ok ()) :
    before.plane.Walkable image.size.width.toNat image.size.height.toNat := by
  obtain ⟨_, hgrey⟩ := checkCopy_eq_ok.1 hchecks
  obtain ⟨hlayout, hsize⟩ := requireGrey_eq_ok.1 hgrey
  exact GreyImage.walkable hlayout hsize.symm

/-! ### Single coordinates -/

/-- Everything that is read at a coordinate is there, and with it the result of
    every conversion of the coordinate. -/
structure Source.ReadableAt (source : Source) (α : Type) [ColourDomain α] (point : Point) :
    Prop where
  row : ∃ row, source.lumaRow? point.y = some row ∧ row.length = source.size.width.toNat
  luma : ∃ luma, source.luma? point = some luma
  sample : ∃ sample, source.sample? point = some sample
  pixel : ∀ order, ∃ pixel : Pixel α, source.pixel? order point = some pixel
  converted : ∀ order, ∃ converted : Converted α, source.convert? order point = some converted

theorem Image.readableAt {α : Type} [ColourDomain α] {image : Image}
    (hcheck : image.check = .ok ()) {point : Point} (hp : point.Inside image.size) :
    image.source.ReadableAt α point := by
  obtain ⟨sample, hsample⟩ := exists_sample hcheck hp
  refine ⟨?_, exists_luma hcheck hp, ⟨sample, hsample⟩, ?_, ?_⟩
  · rw [image.size_source]
    exact exists_lumaRow hcheck hp.2
  · intro order
    refine ⟨sample.pixel order, ?_⟩
    rw [Source.pixel?, Source.convert?, hsample]
    rfl
  · intro order
    refine ⟨sample.convert order, ?_⟩
    rw [Source.convert?, hsample]
    rfl

/-! ### Counts -/

/-- The counts that the checks of a frame compute, for any stride of a plane or of
    colour rows, are those over the unbounded integers.  The number of colour
    elements is used only where it fits. -/
structure CountsExact (size : Size) (stride : UInt32) : Prop where
  area : size.area.toNat = size.width.toNat * size.height.toNat
  rows : (stride.toUInt64 * size.height.toUInt64).toNat = stride.toNat * size.height.toNat
  chroma_width : size.chroma.width.toNat = (size.width.toNat + 1) / 2
  chroma_height : size.chroma.height.toNat = (size.height.toNat + 1) / 2
  chroma_rows : (stride.toUInt64 * size.chroma.height.toUInt64).toNat =
    stride.toNat * size.chroma.height.toNat
  chroma_row : ∀ components : UInt64, components.toNat ≤ 2 →
    (size.chroma.width.toUInt64 * components).toNat =
      size.chroma.width.toNat * components.toNat
  chroma_area : ∀ components : UInt64, components.toNat ≤ 2 →
    (size.chroma.width.toUInt64 * components * size.chroma.height.toUInt64).toNat =
      size.chroma.width.toNat * components.toNat * size.chroma.height.toNat
  colour_row : (size.width.toUInt64 * 4).toNat = 4 * size.width.toNat
  colour : requireColourFits size = .ok () →
    (size.area * 4).toNat = 4 * size.width.toNat * size.height.toNat
  pixel_end : ∀ x : UInt32, (x.toUInt64 * 4 + 4).toNat = 4 * x.toNat + 4

theorem countsExact (size : Size) (stride : UInt32) : CountsExact size stride := by
  refine ⟨size.toNat_area, toNat_rows stride size, toNat_halfUp _, toNat_halfUp _,
    toNat_rows stride size.chroma, ?_, ?_, toNat_mul_four _, ?_, ?_⟩
  · intro components h
    exact (Plane.toNat_chromaRow size h).1
  · intro components h
    obtain ⟨hexact, hrow⟩ := Plane.toNat_chromaRow size h
    rw [toNat_mul_of_fits, hexact, UInt32.toNat_toUInt64]
    rw [hexact, UInt32.toNat_toUInt64]
    exact mul_lt_word hrow size.chroma.height.toNat_lt
  · intro hfits
    rw [requireColourFits_eq, require_eq_ok] at hfits
    exact toNat_area_mul_four hfits
  · intro x
    have hx := x.toNat_lt
    rw [UInt64.toNat_add, toNat_mul_four]
    change (4 * x.toNat + 4) % 2 ^ 64 = _
    omega

/-! ### Safety -/

/-- Every conversion of every picture returns, and no count or offset on the way has
    wrapped.  Where the check of a picture passes, every visible coordinate can
    be read and converted. -/
theorem conversions_always_return (image : Image) (α : Type) [ColourDomain α] :
    (∀ (order : ChannelOrder) (stride : UInt32) (before : Outputs α),
      (paint order image.source stride before).Returns) ∧
    (∀ before : GreyImage, (copyLuma image.source before).Returns) ∧
    (∀ (converter : Converter) (before : Outputs α),
      (converter.convert image.source before).ending.Returns) ∧
    (∀ (stride : UInt32) (before : Outputs α),
      checkPaint image.source stride before = .ok () →
        (Plane.mk before.colour stride).Walkable (4 * image.size.width.toNat)
            image.size.height.toNat ∧
          ∀ grey ∈ before.grey, grey.plane.Walkable image.size.width.toNat
            image.size.height.toNat) ∧
    (∀ before : GreyImage, checkCopy image.source before = .ok () →
      before.plane.Walkable image.size.width.toNat image.size.height.toNat) ∧
    (image.check = .ok () → ∀ point : Point, point.Inside image.size →
      image.source.ReadableAt α point) ∧
    (∀ (size : Size) (stride : UInt32), CountsExact size stride) ∧
    (∀ (plane : Plane UInt8) (point : Point), plane.OffsetsExact image.size.width point) ∧
    ∀ converter : Converter,
      converter.stride.toNat = 4 * converter.size.width.toNat ∧
        converter.colourLength.toNat =
          4 * converter.size.width.toNat * converter.size.height.toNat := by
  refine ⟨image.paint_returns, image.copyLuma_returns,
    fun converter => converter.convert_returns image, ?_, ?_, ?_, countsExact, ?_, ?_⟩
  · intro stride before hchecks
    exact Image.walkable_of_checkPaint hchecks
  · intro before hchecks
    exact Image.walkable_of_checkCopy hchecks
  · intro hcheck point hp
    exact Image.readableAt hcheck hp
  · intro plane point
    exact plane.offsetsExact image.size.width point
  · intro converter
    exact ⟨converter.toNat_stride, converter.toNat_colourLength⟩

theorem odd_picture_always_returns :
    (paint .rgba oddPicture.source 0 (⟨#[], none⟩ : Outputs UInt8)).Returns ∧
      oddPicture.source.ReadableAt UInt8 ⟨2, 2⟩ := by
  obtain ⟨hpaint, _, _, _, _, hreadable, _⟩ := conversions_always_return oddPicture UInt8
  exact ⟨hpaint .rgba 0 _, hreadable rfl ⟨2, 2⟩ (by decide)⟩

end Chroma420
