import Chroma420.Proofs.Completion
import Chroma420.Proofs.Difference
import Chroma420.Proofs.Parts

/-!
# Coordinates in any order

A pixel is a function of its coordinate, so coordinates may be converted in any order, and
more than once.  Here one coordinate at a time is written through a writer of its row
(`RowWriter`): the row is taken out of the outputs, the converted sample is written at its
column, and the row goes back (`writePoint?`).

For a coordinate of the frame this is the same as writing into the whole outputs
(`writePoint?_eq_paintPoint?`).  A list that holds every coordinate of the frame and no other
therefore leaves what a conversion of the frame leaves, whatever its order and its repetitions
(`any_order_paints_the_frame`): both end in the state in which the cells of all coordinates
are filled, and there is only one such state.
-/

namespace Chroma420

variable {α : Type}

/-! ### Writing into one row -/

/-- One row of the outputs: its pixels, and its samples of grey if there is a grey picture. -/
structure RowWriter (α : Type) where
  colour : Array α
  grey : Option (Array UInt8)

def RowWriter.write? (writer : RowWriter α) (x : UInt32) (converted : Converted α) :
    Option (RowWriter α) := do
  let ⟨colour, grey⟩ := writer
  let start := 4 * x.toNat
  let colour ←
    if start + 4 ≤ colour.size then some (overwrite colour start converted.pixel.toList) else none
  match grey with
  | none => some ⟨colour, none⟩
  | some row =>
    if x.toNat < row.size then
      some ⟨colour, some (overwrite row x.toNat [converted.grey])⟩
    else none

/-! ### Rows of the outputs -/

/-- The first `length` elements of the chunk `y` of a buffer, which is cut into chunks of
    `stride` elements. -/
def chunkRow? {β : Type} (elements : Array β) (stride y length : Nat) : Option (Array β) :=
  if (y + 1) * stride ≤ elements.size ∧ length ≤ stride then
    some (elements.extract (y * stride) (y * stride + length))
  else none

/-- A writer of the visible part of row `y`. -/
def Outputs.openRow? (outputs : Outputs α) (width stride y : UInt32) : Option (RowWriter α) := do
  let ⟨colour, grey⟩ := outputs
  let colour ← chunkRow? colour stride.toNat y.toNat (4 * width.toNat)
  match grey with
  | none => some ⟨colour, none⟩
  | some image =>
    let row ← chunkRow? image.plane.samples image.plane.stride.toNat y.toNat width.toNat
    some ⟨colour, some row⟩

/-- The outputs with what a writer holds in the place of row `y`. -/
def Outputs.closeRow (outputs : Outputs α) (stride y : UInt32) (writer : RowWriter α) :
    Outputs α where
  colour := overwrite outputs.colour (y.toNat * stride.toNat) writer.colour.toList
  grey :=
    match outputs.grey, writer.grey with
    | some image, some row =>
      some { image with plane := image.plane.overwrite (image.index ⟨0, y⟩) row.toList }
    | grey, _ => grey

/-- A row of a laid-out plane can be taken out, and what is then written into it is written
    into the plane once the row is back. -/
theorem Plane.LaidOut.exists_chunkRow {β : Type} {plane : Plane β} {rowLength rows y : Nat}
    (h : plane.LaidOut rowLength rows) (hy : y < rows) :
    ∃ row, chunkRow? plane.samples plane.stride.toNat y rowLength = some row ∧
      row.size = rowLength ∧ ∀ {offset : Nat} {new : List β}, offset + new.length ≤ rowLength →
        Chroma420.overwrite plane.samples (y * plane.stride.toNat)
            (Chroma420.overwrite row offset new).toList =
          Chroma420.overwrite plane.samples (y * plane.stride.toNat + offset) new := by
  have hinside := h.row_inside hy
  have hchunk : (y + 1) * plane.stride.toNat ≤ plane.samples.size := by
    rw [h.size_eq, Nat.mul_comm plane.stride.toNat]
    exact Nat.mul_le_mul_right _ hy
  refine ⟨_, if_pos ⟨hchunk, h.row_fits⟩, ?_, ?_⟩
  · rw [size_part hinside, Nat.add_sub_cancel_left]
  · intro offset new hroom
    exact overwrite_putBack (Nat.le_add_right _ _) hinside (by omega)

/-! ### One coordinate -/

section Writing

variable [ColourDomain α] {order : ChannelOrder} {source : Source} {stride : UInt32}
  {before mid after : Outputs α}

/-- Converts one coordinate and writes it through a writer of its row. -/
def writePoint? (order : ChannelOrder) (source : Source) (stride : UInt32) (outputs : Outputs α)
    (point : Point) : Option (Outputs α) := do
  let converted ← source.convert? order point
  let writer ← outputs.openRow? source.size.width stride point.y
  let written ← writer.write? point.x converted
  some (outputs.closeRow stride point.y written)

def writePoints? (order : ChannelOrder) (source : Source) (stride : UInt32)
    (points : List Point) (outputs : Outputs α) : Option (Outputs α) :=
  points.foldlM (writePoint? order source stride) outputs

theorem writePoint?_eq_paintPoint? {p : Point} (hroom : before.HasRoom source.size stride)
    (hp : p.Inside source.size) :
    writePoint? order source stride before p = paintPoint? order source stride before p := by
  have hx := UInt32.lt_iff_toNat_lt.1 hp.1
  have hy := UInt32.lt_iff_toNat_lt.1 hp.2
  rcases hconvert : (source.convert? order p : Option (Converted α)) with _ | converted
  · simp only [writePoint?, paintPoint?, hconvert, Option.bind_eq_bind, Option.bind_none]
  · obtain ⟨colour, grey⟩ := before
    obtain ⟨hrow, hend⟩ := hroom.pixel hp
    have hput := putPixel?_eq_some colour converted.pixel hrow hend
    have hlength : converted.pixel.toList.length = 4 := Vector.length_toList
    obtain ⟨row, hopen, hsize, hclose⟩ := hroom.colour.exists_chunkRow hy
    have hclose := @hclose (4 * p.x.toNat) converted.pixel.toList (by omega)
    have hfits : 4 * p.x.toNat + 4 ≤ row.size := by omega
    rcases grey with _ | image
    · simp only [writePoint?, paintPoint?, hconvert, Outputs.put?, hput, Outputs.openRow?, hopen,
        RowWriter.write?, if_pos hfits, Option.bind_eq_bind, Option.bind_some, Outputs.closeRow,
        hclose, Point.colourIndex]
    · -- the grey picture is a plane with a stride of its own, and its row is taken out alike
      have hlaid := hroom.grey image rfl
      obtain ⟨hgreyRow, hgreyEnd⟩ := GreyImage.room hlaid hp
      have hputGrey := image.put?_eq_some converted.grey hgreyRow hgreyEnd
      obtain ⟨greyRow, hopenGrey, hsizeGrey, hcloseGrey⟩ := hlaid.exists_chunkRow hy
      have hcloseGrey := @hcloseGrey p.x.toNat [converted.grey] hx
      have hfitsGrey : p.x.toNat < greyRow.size := by omega
      simp only [writePoint?, paintPoint?, hconvert, Outputs.put?, hput, hputGrey,
        Outputs.openRow?, hopen, hopenGrey, RowWriter.write?, if_pos hfits, if_pos hfitsGrey,
        Option.bind_eq_bind, Option.bind_some, Outputs.closeRow, hclose, Point.colourIndex,
        Plane.overwrite, GreyImage.index, UInt32.toNat_zero, Nat.add_zero, hcloseGrey]

/-! ### Many coordinates -/

/-- Painting a coordinate leaves the outputs their room. -/
theorem Outputs.HasRoom.paintPoint {p : Point} (hroom : before.HasRoom source.size stride)
    (hp : p.Inside source.size) (h : paintPoint? order source stride before p = some after) :
    after.HasRoom source.size stride := by
  obtain ⟨converted, hconverted, _⟩ := Option.bind_eq_some_iff.1 h
  obtain ⟨painted, hpaint, hpainted⟩ :=
    Painted.none_visited.step hroom (fun _ => False.elim) hp hconverted
  rw [hpaint] at h
  cases h
  exact hpainted.hasRoom hroom

theorem writePoints?_eq_paintPoints? (hroom : before.HasRoom source.size stride)
    {points : List Point} (hpoints : ∀ p ∈ points, p.Inside source.size) :
    writePoints? order source stride points before =
      paintPoints? order source stride points before := by
  induction points generalizing before with
  | nil => rfl
  | cons p rest ih =>
    have hp := hpoints p List.mem_cons_self
    rw [writePoints?, paintPoints?, List.foldlM_cons, List.foldlM_cons,
      writePoint?_eq_paintPoint? hroom hp]
    rcases hstep : paintPoint? order source stride before p with _ | mid
    · rfl
    · exact ih (hroom.paintPoint hp hstep) fun q hq => hpoints q (List.mem_cons_of_mem _ hq)

/-- Writing every coordinate of a frame that can be read leaves the state in which all of them
    are painted. -/
theorem writePoints?_painted (hroom : before.HasRoom source.size stride)
    (hreadable : source.Readable) {points : List Point}
    (hpoints : ∀ p, p ∈ points ↔ p.Inside source.size) :
    ∃ after, writePoints? order source stride points before = some after ∧
      Painted order source stride (fun p => p.Inside source.size) before after := by
  have hinside : ∀ p ∈ points, p.Inside source.size := fun p hp => (hpoints p).1 hp
  have hconverts : ∀ p ∈ points, ∃ converted : Converted α,
      source.convert? order p = some converted :=
    fun p hp => hreadable.exists_convert order (hinside p hp)
  obtain ⟨after, hafter, hpainted⟩ := paintPoints?_painted hroom points hinside hconverts
  refine ⟨after, ?_, ?_⟩
  · rw [writePoints?_eq_paintPoints? hroom hinside, hafter]
  · simpa only [hpoints] using hpainted

/-- What a run over every coordinate of a frame reads has to be there. -/
theorem readable_of_writePoints? {points : List Point}
    (hpoints : ∀ p, p ∈ points ↔ p.Inside source.size)
    (h : writePoints? order source stride points before = some after) : source.Readable := by
  intro p hp
  obtain ⟨mid, next, hstep⟩ := exists_step_of_foldlM h p ((hpoints p).2 hp)
  obtain ⟨converted, hconverted, _⟩ := Option.bind_eq_some_iff.1 hstep
  exact Source.exists_sample_of_convert hconverted

end Writing

/-- The coordinates of a frame can be converted and written through the writers of their rows in
    any order, and any number of times.  For a frame that can be read, as every valid picture
    can, this leaves what one conversion of the frame leaves in the same outputs, padding
    included; for any other frame both fail. -/
theorem any_order_paints_the_frame :
    (∀ image : Image, image.check = .ok () →
      image.source.Readable ∧ 0 < image.source.size.width) ∧
    ∀ {α : Type} [ColourDomain α] (order : ChannelOrder) (source : Source) (stride : UInt32)
      (before : Outputs α) (points : List Point), checkPaint source stride before = .ok () →
      0 < source.size.width → (∀ p, p ∈ points ↔ p.Inside source.size) →
      (source.Readable → ∃ after, writePoints? order source stride points before = some after ∧
        paint order source stride before = .completed after) ∧
      (¬ source.Readable → writePoints? order source stride points before = none ∧
        paint order source stride before = .fault) := by
  constructor
  · intro image hcheck
    rw [image.size_source]
    exact ⟨Image.readable hcheck, Image.width_pos hcheck⟩
  · intro α _ order source stride before points hcheck hwidth hpoints
    have hroom := hasRoom_of_checkPaint hcheck
    have hstride : stride ≠ 0 := by
      rintro rfl
      have hrow : 4 * source.size.width.toNat ≤ 0 := hroom.colour.row_fits
      have hcolumns := UInt32.lt_iff_toNat_lt.1 hwidth
      omega
    constructor
    · intro hreadable
      obtain ⟨after, hafter, hpainted⟩ := writePoints?_painted hroom hreadable hpoints
      obtain ⟨whole, hwhole, hall⟩ := paint_of_readable order hcheck hstride hreadable
      refine ⟨after, hafter, ?_⟩
      rw [hwhole, hall.unique hpainted fun _ _ => rfl]
    · intro hreadable
      constructor
      · rw [Option.eq_none_iff_forall_ne_some]
        intro after hafter
        exact hreadable (readable_of_writePoints? hpoints hafter)
      · exact paint_eq_fault.2 ⟨hcheck, fun h => hreadable h.2⟩

/-- The coordinates of three rows of three, from the lower right to the upper left, the corner
    twice. -/
def scattered : List Point :=
  ⟨0, 0⟩ :: (Size.mk 3 3).points.reverse

theorem odd_picture_in_scattered_order :
    ∃ after, writePoints? .bgra oddPicture.source 13 scattered
        (⟨Array.replicate 39 7, some ⟨⟨3, 3⟩, Plane.blank 5 15 9⟩⟩ : Outputs UInt8) =
          some after ∧
      paint .bgra oddPicture.source 13
        ⟨Array.replicate 39 7, some ⟨⟨3, 3⟩, Plane.blank 5 15 9⟩⟩ = .completed after := by
  obtain ⟨hvalid, horder⟩ := any_order_paints_the_frame
  obtain ⟨hreadable, hwidth⟩ := hvalid oddPicture rfl
  have hscattered : ∀ p, p ∈ scattered ↔ p.Inside oddPicture.source.size := by
    intro p
    have hcorner : (⟨0, 0⟩ : Point).Inside ⟨3, 3⟩ := by decide
    rw [scattered, List.mem_cons, List.mem_reverse, Size.mem_points]
    constructor
    · rintro (rfl | hp)
      · exact hcorner
      · exact hp
    · exact .inr
  exact (horder .bgra oddPicture.source 13 _ scattered rfl hwidth hscattered).1 hreadable

end Chroma420
