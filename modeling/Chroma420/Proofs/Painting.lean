import Chroma420.Frame
import Chroma420.Proofs.Cells
import Chroma420.Proofs.Layout

/-!
# Painting

Painting visits coordinates one after the other.  `Painted` says what the outputs
hold once some of them have been visited: their pixels and greys are filled, and
nothing else has changed.  A step keeps it (`Painted.step`) and, by induction
over the coordinates, so does a run over any list of visible coordinates
(`paintPoints?_painted`).

Room for the cells is what the checks provide (`Outputs.HasRoom`).
-/

namespace Chroma420

/-! ### Room -/

section Room

variable {α : Type}

/-- Every row of the outputs has room for a row of a frame of this size, and there
    are as many rows. -/
structure Outputs.HasRoom (outputs : Outputs α) (size : Size) (stride : UInt32) : Prop where
  colour : (Plane.mk outputs.colour stride).LaidOut (4 * size.width.toNat) size.height.toNat
  grey : ∀ image ∈ outputs.grey, image.plane.LaidOut size.width.toNat size.height.toNat

theorem Outputs.HasRoom.pixel {outputs : Outputs α} {size : Size} {stride : UInt32} {p : Point}
    (h : outputs.HasRoom size stride) (hp : p.Inside size) :
    4 * p.x.toNat + 4 ≤ stride.toNat ∧ p.colourIndex stride + 4 ≤ outputs.colour.size := by
  have hx := UInt32.lt_iff_toNat_lt.1 hp.1
  have hrow : 4 * size.width.toNat ≤ stride.toNat := h.colour.row_fits
  have hinside : p.y.toNat * stride.toNat + 4 * size.width.toNat ≤ outputs.colour.size :=
    h.colour.row_inside (UInt32.lt_iff_toNat_lt.1 hp.2)
  rw [Point.colourIndex]
  omega

theorem GreyImage.room {image : GreyImage} {size : Size} {p : Point}
    (h : image.plane.LaidOut size.width.toNat size.height.toNat) (hp : p.Inside size) :
    p.x.toNat < image.plane.stride.toNat ∧ image.index p + 1 ≤ image.plane.samples.size := by
  have hx := UInt32.lt_iff_toNat_lt.1 hp.1
  have hrow := h.row_fits
  have hinside := h.row_inside (UInt32.lt_iff_toNat_lt.1 hp.2)
  rw [GreyImage.index]
  omega

theorem putPixel?_eq_some (colour : Array α) {stride : UInt32} {p : Point} (pixel : Pixel α)
    (hrow : 4 * p.x.toNat + 4 ≤ stride.toNat) (hroom : p.colourIndex stride + 4 ≤ colour.size) :
    putPixel? colour stride p pixel =
      some (overwrite colour (p.colourIndex stride) pixel.toList) := by
  rw [putPixel?]
  exact if_pos ⟨hrow, hroom⟩

theorem GreyImage.put?_eq_some (image : GreyImage) {p : Point} (grey : UInt8)
    (hrow : p.x.toNat < image.plane.stride.toNat)
    (hroom : image.index p + 1 ≤ image.plane.samples.size) :
    image.put? p grey =
      some { image with plane := image.plane.overwrite (image.index p) [grey] } := by
  rw [put?]
  exact if_pos ⟨UInt32.lt_iff_toNat_lt.2 hrow, hroom⟩

theorem checkPaint_eq_ok {source : Source} {stride : UInt32} {before : Outputs α} :
    checkPaint source stride before = .ok () ↔
      source.check = .ok () ∧ requireDestination source.size stride before.colour.size = .ok () ∧
        ∀ image ∈ before.grey, requireGrey source.size image = .ok () := by
  rw [checkPaint, check_bind_eq_ok, check_bind_eq_ok]
  rcases before.grey with _ | image
  · simp
  · simp

theorem Image.checkPaint_eq_ok {image : Image} {stride : UInt32} {before : Outputs α} :
    checkPaint image.source stride before = .ok () ↔
      image.check = .ok () ∧ requireDestination image.size stride before.colour.size = .ok () ∧
        ∀ grey ∈ before.grey, requireGrey image.size grey = .ok () := by
  rw [Chroma420.checkPaint_eq_ok, image.check_source, image.size_source]

theorem hasRoom_of_checkPaint {source : Source} {stride : UInt32} {before : Outputs α}
    (h : checkPaint source stride before = .ok ()) :
    before.HasRoom source.size stride := by
  obtain ⟨_, hdestination, hgrey⟩ := checkPaint_eq_ok.1 h
  obtain ⟨_, hsize, hrow⟩ := requireDestination_eq_ok.1 hdestination
  refine ⟨⟨hrow, hsize⟩, ?_⟩
  intro image himage
  obtain ⟨hcheck, hsame⟩ := requireGrey_eq_ok.1 (hgrey image himage)
  obtain ⟨_, _, hlaid⟩ := GreyImage.check_eq_ok.1 hcheck
  rw [hsame]
  exact hlaid

end Room

/-! ### Painted outputs -/

section Painting

variable {α : Type} [ColourDomain α]

def Source.pixelCell (source : Source) (order : ChannelOrder) (point : Point) : List α :=
  match (source.pixel? order point : Option (Pixel α)) with
  | some pixel => pixel.toList
  | none => []

def Source.greyCell (α : Type) [ColourDomain α] (source : Source) (order : ChannelOrder)
    (point : Point) : List UInt8 :=
  match (source.convert? order point : Option (Converted α)) with
  | some converted => [converted.grey]
  | none => []

/-- The samples of the visited coordinates of a grey picture hold their content,
    and nothing else of the picture has changed. -/
structure GreyImage.FilledBy (content : Point → List UInt8) (visited : Point → Prop)
    (before after : GreyImage) : Prop where
  size_eq : after.size = before.size
  stride_eq : after.plane.stride = before.plane.stride
  samples : Filled 1 before.index content visited before.plane.samples after.plane.samples

/-- The outputs once the visited coordinates have been painted. -/
structure Painted (order : ChannelOrder) (source : Source) (stride : UInt32)
    (visited : Point → Prop) (before after : Outputs α) : Prop where
  colour : Filled 4 (fun point => point.colourIndex stride) (source.pixelCell order) visited
    before.colour after.colour
  grey : Option.Rel (GreyImage.FilledBy (source.greyCell α order) visited) before.grey after.grey

variable {order : ChannelOrder} {source : Source} {stride : UInt32} {size : Size}
  {visited : Point → Prop} {before mid after : Outputs α}

theorem Painted.none_visited : Painted order source stride (fun _ => False) before before := by
  refine ⟨Filled.none_visited, ?_⟩
  rcases before.grey with _ | image
  · exact .none
  · exact .some ⟨rfl, rfl, Filled.none_visited⟩

theorem GreyImage.FilledBy.laidOut {content : Point → List UInt8} {before after : GreyImage}
    {rowLength rows : Nat} (h : FilledBy content visited before after)
    (hbefore : before.plane.LaidOut rowLength rows) : after.plane.LaidOut rowLength rows := by
  refine ⟨?_, ?_⟩
  · rw [h.stride_eq]; exact hbefore.row_fits
  · rw [h.samples.size_eq, h.stride_eq]; exact hbefore.size_eq

theorem Painted.hasRoom (h : Painted order source stride visited before mid)
    (hroom : before.HasRoom size stride) : mid.HasRoom size stride := by
  refine ⟨⟨hroom.colour.row_fits, ?_⟩, ?_⟩
  · change mid.colour.size = _
    rw [h.colour.size_eq]
    exact hroom.colour.size_eq
  · intro image himage
    have hgrey := h.grey
    rw [Option.mem_def.1 himage] at hgrey
    rcases hbefore : before.grey with _ | old
    · rw [hbefore] at hgrey
      exact absurd hgrey Option.not_rel_none_some
    · rw [hbefore, Option.rel_some_some] at hgrey
      exact hgrey.laidOut (hroom.grey old hbefore)

/-! ### One step -/

theorem GreyImage.FilledBy.write {content : Point → List UInt8} {before mid : GreyImage}
    {p : Point} {grey : UInt8} (h : FilledBy content visited before mid)
    (hroom : mid.plane.LaidOut size.width.toNat size.height.toNat)
    (hvisited : ∀ q, visited q → q.Inside size) (hp : p.Inside size)
    (hcontent : content p = [grey]) :
    FilledBy content (fun q => visited q ∨ q = p) before
      { mid with plane := mid.plane.overwrite (mid.index p) [grey] } := by
  have hindex : ∀ q, before.index q = mid.index q := by
    intro q
    rw [index, index, h.stride_eq]
  refine ⟨h.size_eq, h.stride_eq, ?_⟩
  change Filled 1 before.index content _ before.plane.samples
    (overwrite mid.plane.samples (mid.index p) [grey])
  rw [← hindex, ← hcontent]
  apply h.samples.write
  · rw [hcontent]; rfl
  · rw [hindex]; exact (room hroom hp).2
  · intro q hq hne
    rw [hindex, hindex]
    exact index_apart (room hroom (hvisited q hq)).1 (room hroom hp).1 hne

/-- Painting one more coordinate succeeds where the source has a sample. -/
theorem Painted.step {p : Point} {converted : Converted α}
    (h : Painted order source stride visited before mid) (hroom : mid.HasRoom size stride)
    (hvisited : ∀ q, visited q → q.Inside size) (hp : p.Inside size)
    (hconverted : source.convert? order p = some converted) :
    ∃ after, paintPoint? order source stride mid p = some after ∧
      Painted order source stride (fun q => visited q ∨ q = p) before after := by
  have hpixelCell : (source.pixelCell order p : List α) = converted.pixel.toList := by
    rw [Source.pixelCell, Source.pixel?, hconverted]
    rfl
  have hgreyCell : source.greyCell α order p = [converted.grey] := by
    rw [Source.greyCell, hconverted]
  obtain ⟨hrow, hend⟩ := hroom.pixel hp
  have hcolour : Filled 4 (fun point => point.colourIndex stride) (source.pixelCell order)
      (fun q => visited q ∨ q = p) before.colour
      (overwrite mid.colour (p.colourIndex stride) converted.pixel.toList) := by
    rw [← hpixelCell]
    apply h.colour.write p
    · rw [hpixelCell, Vector.length_toList]
    · exact hend
    · intro q hq hne
      exact Point.colourIndex_apart (hroom.pixel (hvisited q hq)).1 hrow hne
  have hput := putPixel?_eq_some mid.colour converted.pixel hrow hend
  obtain ⟨colour, grey⟩ := mid
  rcases grey with _ | image
  · have hgrey := h.grey
    refine ⟨⟨overwrite colour (p.colourIndex stride) converted.pixel.toList, none⟩, ?_, hcolour, ?_⟩
    · simp only [paintPoint?, hconverted, Outputs.put?, hput, Option.bind_eq_bind,
        Option.bind_some]
    · rcases hbefore : before.grey with _ | old
      · exact .none
      · rw [hbefore] at hgrey
        exact absurd hgrey Option.not_rel_some_none
  · have hlaid := hroom.grey image rfl
    obtain ⟨hgreyRow, hgreyEnd⟩ := GreyImage.room hlaid hp
    have hputGrey := image.put?_eq_some converted.grey hgreyRow hgreyEnd
    have hgrey := h.grey
    refine ⟨⟨overwrite colour (p.colourIndex stride) converted.pixel.toList, some { image with
      plane := image.plane.overwrite (image.index p) [converted.grey] }⟩, ?_, hcolour, ?_⟩
    · simp only [paintPoint?, hconverted, Outputs.put?, hput, hputGrey, Option.bind_eq_bind,
        Option.bind_some]
    · rcases hbefore : before.grey with _ | old
      · rw [hbefore] at hgrey
        exact absurd hgrey Option.not_rel_none_some
      · rw [hbefore, Option.rel_some_some] at hgrey
        exact .some (hgrey.write hlaid hvisited hp hgreyCell)

/-! ### A run of steps -/

theorem paintPoints?_painted (hroom : before.HasRoom size stride) (points : List Point)
    (hinside : ∀ p ∈ points, p.Inside size)
    (hreadable : ∀ p ∈ points, ∃ converted : Converted α,
      source.convert? order p = some converted) :
    ∃ after, paintPoints? order source stride points before = some after ∧
      Painted order source stride (· ∈ points) before after := by
  apply exists_foldlM_of_step (fun visited => Painted order source stride visited before)
    Painted.none_visited points
  intro p hp visited mid hvisited hpainted
  obtain ⟨converted, hconverted⟩ := hreadable p hp
  exact hpainted.step (hpainted.hasRoom hroom) (fun q hq => hinside q (hvisited q hq))
    (hinside p hp) hconverted

/-! ### Whole frames -/

theorem paint_painted (hcheck : checkPaint source stride before = .ok ()) (hstride : stride ≠ 0)
    (hreadable : ∀ p : Point, p.Inside source.size → ∃ converted : Converted α,
      source.convert? order p = some converted) :
    ∃ after, paint order source stride before = .completed after ∧
      Painted order source stride (fun p => p.Inside source.size) before after := by
  obtain ⟨after, hafter, hpainted⟩ := paintPoints?_painted (hasRoom_of_checkPaint hcheck)
    source.size.points (fun p hp => Size.mem_points.1 hp)
    (fun p hp => hreadable p (Size.mem_points.1 hp))
  refine ⟨after, ?_, ?_⟩
  · rw [paint, Ending.ofWrites_eq_completed]
    refine ⟨hcheck, ?_⟩
    rw [if_neg hstride]
    exact hafter
  · simpa only [Size.mem_points] using hpainted

end Painting

end Chroma420
