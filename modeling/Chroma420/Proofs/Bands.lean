import Chroma420.Proofs.Cropping

/-!
# Converting in bands

A frame can be converted band by band.  The rows of a band are taken out of the outputs, the
cropped frame is converted into them, and they are put back (`paintBand`, `copyBand`).
A step paints the coordinates of its band and leaves all others alone
(`paintBand_painted`); after any number of bands the coordinates of all of them have been
painted (`paintBands_painted`).  Bands that hold every row, in any order and with any overlap,
therefore leave the same outputs as one conversion of the whole frame.

Together with what a conversion of one cropped frame leaves in outputs of its own
(`Image.showsRows`), this is `conversion_commutes_with_cropping`.
-/

namespace Chroma420

/-! ### Rows of outputs -/

section Rows

variable {α : Type} {height : UInt32}

/-- The rows of a band, as a grey picture of their own. -/
def GreyImage.rows (image : GreyImage) (band : Band height) : GreyImage where
  size := ⟨image.size.width, band.rows⟩
  plane := image.plane.crop band.first.toNat band.stop.toNat

/-- Puts samples in the place of the rows of a band. -/
def GreyImage.putRows (image : GreyImage) (band : Band height) (part : GreyImage) : GreyImage :=
  let start := band.first.toNat * image.plane.stride.toNat
  { image with plane := image.plane.overwrite start part.plane.samples.toList }

/-- The rows of a band, as outputs of their own. -/
def Outputs.rows (outputs : Outputs α) (stride : UInt32) (band : Band height) : Outputs α where
  colour := outputs.colour.extract (band.first.toNat * stride.toNat)
    (band.stop.toNat * stride.toNat)
  grey := outputs.grey.map fun image => image.rows band

/-- Puts elements, and samples of grey if there are any, in the place of the rows of a band. -/
def Outputs.putRows (outputs : Outputs α) (stride : UInt32) (band : Band height)
    (part : Outputs α) : Outputs α where
  colour := overwrite outputs.colour (band.first.toNat * stride.toNat) part.colour.toList
  grey :=
    match outputs.grey, part.grey with
    | some image, some rows => some (image.putRows band rows)
    | grey, _ => grey

/-- Rows of cells that have been filled on their own are filled once they are back in the
    whole. -/
theorem Filled.putRows {β : Type} {breadth : Nat} {width : UInt32} {band : Band height}
    {place : Point → Nat} {content content' : Point → List β} {whole part : Array β} (stride : Nat)
    (h : Filled breadth place content (fun p => p.Inside ⟨width, band.rows⟩)
      (whole.extract (band.first.toNat * stride) (band.stop.toNat * stride)) part)
    (hplace : ∀ p : Point, place p = p.y.toNat * stride + breadth * p.x.toNat)
    (hrow : breadth * width.toNat ≤ stride) (hstop : band.stop.toNat * stride ≤ whole.size)
    (hcontent : ∀ p : Point, p.Inside ⟨width, band.rows⟩ → content' (band.place p) = content p) :
    Filled breadth place content' (fun p => p.Inside ⟨width, height⟩ ∧ band.Holds p.y) whole
      (overwrite whole (band.first.toNat * stride) part.toList) := by
  have hvisited : (fun q => ∃ p : Point, p.Inside ⟨width, band.rows⟩ ∧ band.place p = q) =
      fun q => q.Inside ⟨width, height⟩ ∧ band.Holds q.y :=
    funext fun q => propext band.exists_place_iff
  rw [← hvisited]
  apply h.putBack (Nat.mul_le_mul_right _ (Nat.le_of_lt band.order.1)) hstop
  · -- a cell ends in its row, and the row in the band
    intro p hp
    have hx : breadth * (p.x.toNat + 1) ≤ breadth * width.toNat :=
      Nat.mul_le_mul_left _ (UInt32.lt_iff_toNat_lt.1 hp.1)
    have hy : (p.y.toNat + 1) * stride ≤ band.rows.toNat * stride :=
      Nat.mul_le_mul_right _ (UInt32.lt_iff_toNat_lt.1 hp.2)
    rw [Nat.mul_succ] at hx
    rw [Nat.succ_mul, band.toNat_rows, Nat.sub_mul] at hy
    rw [hplace]
    omega
  · intro p hp
    rw [hplace, hplace, band.toNat_place_y hp.2, Nat.add_mul, Nat.add_assoc]
    rfl
  · exact hcontent

theorem GreyImage.FilledBy.putRows {width : UInt32} {band : Band height}
    {content content' : Point → List UInt8} {before part : GreyImage}
    (h : FilledBy content (fun p => p.Inside ⟨width, band.rows⟩) (before.rows band) part)
    (hroom : before.plane.LaidOut width.toNat height.toNat)
    (hcontent : ∀ p : Point, p.Inside ⟨width, band.rows⟩ → content' (band.place p) = content p) :
    FilledBy content' (fun p => p.Inside ⟨width, height⟩ ∧ band.Holds p.y) before
      (before.putRows band part) := by
  refine ⟨rfl, rfl, ?_⟩
  apply Filled.putRows before.plane.stride.toNat h.samples
  · intro p
    rw [Nat.one_mul]
    rfl
  · rw [Nat.one_mul]
    exact hroom.row_fits
  · exact hroom.crop_inside band.order.2
  · exact hcontent

end Rows

/-! ### Bands of a conversion -/

theorem requireGrey_rows {size : Size} {grey : GreyImage} (band : Band size.height)
    (hwidth : 0 < size.width) (h : requireGrey size grey = .ok ()) :
    requireGrey ⟨size.width, band.rows⟩ (grey.rows band) = .ok () := by
  obtain ⟨hlayout, hsize⟩ := requireGrey_eq_ok.1 h
  rw [GreyImage.check, ← hsize] at hlayout
  rw [requireGrey_eq_ok, GreyImage.check, GreyImage.rows, ← hsize]
  exact ⟨Plane.checkLuma_crop band hlayout hwidth UInt32.le_rfl, rfl⟩

section Painting

variable {α : Type} [ColourDomain α] {image : Image} {band : Band image.size.height}
  {order : ChannelOrder} {source : Source} {stride : UInt32} {visited : Point → Prop}
  {before mid after part : Outputs α}

theorem Painted.checkPaint_eq (h : Painted order source stride visited before after)
    (other : Source) (stride' : UInt32) :
    checkPaint other stride' after = checkPaint other stride' before := by
  have hgrey := h.grey
  obtain ⟨colour, grey⟩ := before
  obtain ⟨colour', grey'⟩ := after
  simp only [checkPaint, h.colour.size_eq]
  cases hgrey with
  | none => rfl
  | some hfilled => simp only [requireGrey, hfilled.sameOutside.check_eq, hfilled.size_eq]

theorem Painted.putRows (hroom : before.HasRoom image.size stride)
    (hcheck : image.check = .ok ())
    (h : Painted order (image.crop band image.size.width).source stride
      (fun p => p.Inside ⟨image.size.width, band.rows⟩) (before.rows stride band) part) :
    Painted order image.source stride (fun p => p.Inside image.size ∧ band.Holds p.y) before
      (before.putRows stride band part) := by
  have hsample : ∀ p : Point, p.Inside ⟨image.size.width, band.rows⟩ →
      image.source.sample? (band.place p) =
        (image.crop band image.size.width).source.sample? p := fun p hp =>
    (Image.sample?_crop hcheck (Image.width_pos hcheck) UInt32.le_rfl hp).symm
  constructor
  · apply h.colour.putRows stride.toNat (fun _ => rfl) hroom.colour.row_fits
      (hroom.colour.crop_inside band.order.2)
    intro p hp
    simp only [Source.pixelCell, Source.pixel?, Source.convert?, hsample p hp]
  · have hgrey := h.grey
    obtain ⟨colour, grey⟩ := before
    obtain ⟨colour', grey'⟩ := part
    rcases grey with _ | old
    · cases hgrey
      exact .none
    · cases hgrey with
      | some hfilled =>
        refine .some (hfilled.putRows (hroom.grey old rfl) ?_)
        intro p hp
        simp only [Source.greyCell, Source.convert?, hsample p hp]

omit [ColourDomain α] in
/-- Outputs that are accepted for a frame are accepted for each band of it, cut to its rows. -/
theorem checkPaint_rows (band : Band image.size.height)
    (h : checkPaint image.source stride before = .ok ()) :
    checkPaint (image.crop band image.size.width).source stride (before.rows stride band) =
      .ok () := by
  have hroom := hasRoom_of_checkPaint h
  obtain ⟨hcheck, hdestination, hgrey⟩ := Image.checkPaint_eq_ok.1 h
  rw [image.size_source] at hroom
  obtain ⟨hfits, _, hrow⟩ := requireDestination_eq_ok.1 hdestination
  have hwidth := Image.width_pos hcheck
  have hrows : band.rows.toNat ≤ image.size.height.toNat := by
    have horder := band.order
    rw [band.toNat_rows]
    omega
  have hcropped := hroom.colour.crop band.first.toNat (Nat.le_refl _) band.order.2
  rw [Image.checkPaint_eq_ok, Image.size_crop]
  refine ⟨Image.check_crop hcheck hwidth UInt32.le_rfl, requireDestination_eq_ok.2 ?_, ?_⟩
  · refine ⟨?_, ?_, hrow⟩
    · exact Nat.lt_of_le_of_lt (Nat.mul_le_mul_left _ hrows) hfits
    · rw [band.toNat_rows]
      exact hcropped.size_eq
  · intro rows hrows
    obtain ⟨grey, hmem, rfl⟩ := Option.map_eq_some_iff.1 hrows
    exact requireGrey_rows band hwidth (hgrey grey hmem)

/-- Converts one band of a picture into its rows of the outputs. -/
def paintBand (order : ChannelOrder) (image : Image) (stride : UInt32)
    (band : Band image.size.height) (outputs : Outputs α) : Ending (Outputs α) :=
  (paint order (image.crop band image.size.width).source stride (outputs.rows stride band)).map
    (outputs.putRows stride band)

theorem paintBand_painted (band : Band image.size.height)
    (h : checkPaint image.source stride before = .ok ()) :
    ∃ after, paintBand order image stride band before = .completed after ∧
      Painted order image.source stride (fun p => p.Inside image.size ∧ band.Holds p.y)
        before after := by
  have hroom := hasRoom_of_checkPaint h
  obtain ⟨hcheck, _⟩ := Image.checkPaint_eq_ok.1 h
  rw [image.size_source] at hroom
  obtain ⟨part, hpaint, hpainted⟩ := Image.paint_painted order (checkPaint_rows band h)
  rw [Image.size_source, Image.size_crop] at hpainted
  refine ⟨before.putRows stride band part, ?_, ?_⟩
  · rw [paintBand, hpaint]
    rfl
  · exact hpainted.putRows hroom hcheck

end Painting

section Copying

variable {image : Image} {visited : Point → Prop} {content : Point → List UInt8}
  {before after : GreyImage}

theorem GreyImage.FilledBy.checkCopy_eq (h : FilledBy content visited before after)
    (source : Source) : checkCopy source after = checkCopy source before := by
  simp only [checkCopy, requireGrey, h.sameOutside.check_eq, h.size_eq]

theorem checkCopy_rows (band : Band image.size.height)
    (h : checkCopy image.source before = .ok ()) :
    checkCopy (image.crop band image.size.width).source (before.rows band) = .ok () := by
  obtain ⟨hcheck, hgrey⟩ := Image.checkCopy_eq_ok.1 h
  have hwidth := Image.width_pos hcheck
  rw [Image.checkCopy_eq_ok, Image.size_crop]
  exact ⟨Image.check_crop hcheck hwidth UInt32.le_rfl, requireGrey_rows band hwidth hgrey⟩

/-- Copies the luma of one band of a picture into its rows of a grey picture. -/
def copyBand (image : Image) (band : Band image.size.height) (grey : GreyImage) :
    Ending GreyImage :=
  (copyLuma (image.crop band image.size.width).source (grey.rows band)).map (grey.putRows band)

theorem copyBand_filledBy (band : Band image.size.height)
    (h : checkCopy image.source before = .ok ()) :
    ∃ after, copyBand image band before = .completed after ∧
      GreyImage.FilledBy image.source.lumaCell (fun p => p.Inside image.size ∧ band.Holds p.y)
        before after := by
  have hroom := laidOut_of_checkCopy h
  obtain ⟨hcheck, _⟩ := Image.checkCopy_eq_ok.1 h
  rw [image.size_source] at hroom
  obtain ⟨part, hcopy, hfilled⟩ := Image.copyLuma_filledBy (checkCopy_rows band h)
  rw [Image.size_crop] at hfilled
  refine ⟨before.putRows band part, ?_, hfilled.putRows hroom ?_⟩
  · rw [copyBand, hcopy]
    rfl
  · intro p hp
    simp only [Source.lumaCell,
      Image.luma?_crop hcheck (Image.width_pos hcheck) UInt32.le_rfl hp]

end Copying

/-! ### Runs over bands -/

/-- One conversion after the other, as long as they complete. -/
def Ending.sequence {ι β : Type} (step : ι → β → Ending β) : List ι → β → Ending β
  | [], outputs => .completed outputs
  | item :: rest, outputs => (step item outputs).andThen (sequence step rest)

/-- What an ending that completes leaves. -/
def Ending.completed? {β : Type} : Ending β → Option β
  | completed outputs => some outputs
  | rejected _ _ | fault => none

theorem Ending.completed?_eq_some {β : Type} {ending : Ending β} {outputs : β} :
    ending.completed? = some outputs ↔ ending = .completed outputs := by
  cases ending <;> simp [completed?]

/-- A sequence completes where the fold of its completed steps has a result. -/
theorem Ending.sequence_of_foldlM {ι β : Type} {step : ι → β → Ending β} {items : List ι}
    {before after : β}
    (h : items.foldlM (fun mid item => (step item mid).completed?) before = some after) :
    sequence step items before = .completed after := by
  induction items generalizing before with
  | nil =>
    cases h
    rfl
  | cons item rest ih =>
    rw [List.foldlM_cons] at h
    obtain ⟨mid, hmid, hrest⟩ := Option.bind_eq_some_iff.1 h
    rw [completed?_eq_some] at hmid
    rw [sequence, hmid]
    exact ih hrest

/-- A sequence whose steps complete, and keep what `holds` says of the items visited so far,
    completes, and `holds` says it of all items. -/
theorem Ending.sequence_completes {ι β : Type} {step : ι → β → Ending β} {before : β}
    (holds : (ι → Prop) → β → Prop) (hnone : holds (fun _ => False) before)
    (hstep : ∀ item visited mid, holds visited mid → ∃ after, step item mid = .completed after ∧
      holds (fun other => visited other ∨ other = item) after) (items : List ι) :
    ∃ after, sequence step items before = .completed after ∧ holds (· ∈ items) after := by
  have hrun : ∃ after, items.foldlM (fun mid item => (step item mid).completed?) before =
      some after ∧ holds (· ∈ items) after := by
    apply exists_foldlM_of_step holds hnone
    intro item _ visited mid _ hmid
    obtain ⟨after, hafter, hnext⟩ := hstep item visited mid hmid
    exact ⟨after, completed?_eq_some.2 hafter, hnext⟩
  obtain ⟨after, hafter, hholds⟩ := hrun
  exact ⟨after, sequence_of_foldlM hafter, hholds⟩

/-- The coordinates of a picture that lie in one of some bands. -/
def Image.InBands (image : Image) (bands : Band image.size.height → Prop) (p : Point) : Prop :=
  p.Inside image.size ∧ ∃ band, bands band ∧ band.Holds p.y

theorem Image.inBands_add (image : Image) (bands : Band image.size.height → Prop)
    (band : Band image.size.height) :
    image.InBands (fun other => bands other ∨ other = band) =
      fun p => image.InBands bands p ∨ (p.Inside image.size ∧ band.Holds p.y) := by
  funext p
  simp only [InBands, or_and_right, exists_or, exists_eq_left, and_or_left]

theorem Image.inBands_none (image : Image) : image.InBands (fun _ => False) = fun _ => False := by
  funext p
  simp only [InBands, false_and, exists_false, and_false]

/-- Bands that hold every row of a frame, in any order and with any overlap. -/
def Band.Cover {height : UInt32} (bands : List (Band height)) : Prop :=
  ∀ y, y < height → ∃ band ∈ bands, band.Holds y

theorem Image.inBands_of_cover {image : Image} {bands : List (Band image.size.height)}
    (h : Band.Cover bands) :
    image.InBands (· ∈ bands) = fun p => p.Inside image.size := by
  funext p
  apply propext
  simp only [InBands]
  constructor
  · rintro ⟨hp, _⟩
    exact hp
  · intro hp
    exact ⟨hp, h p.y hp.2⟩

section Painting

variable {α : Type} [ColourDomain α] {image : Image} {order : ChannelOrder} {stride : UInt32}
  {before : Outputs α}

def paintBands (order : ChannelOrder) (image : Image) (stride : UInt32)
    (bands : List (Band image.size.height)) (outputs : Outputs α) : Ending (Outputs α) :=
  .sequence (paintBand order image stride) bands outputs

theorem paintBands_painted (order : ChannelOrder) (bands : List (Band image.size.height))
    (h : checkPaint image.source stride before = .ok ()) :
    ∃ after, paintBands order image stride bands before = .completed after ∧
      Painted order image.source stride (image.InBands (· ∈ bands))
        before after := by
  have hroom := hasRoom_of_checkPaint h
  rw [image.size_source] at hroom
  have hstart : Painted order image.source stride (image.InBands fun _ => False) before before := by
    rw [image.inBands_none]
    exact Painted.none_visited
  apply Ending.sequence_completes
    (fun bands => Painted order image.source stride (image.InBands bands) before) hstart
  intro band visited mid hmid
  rw [← hmid.checkPaint_eq] at h
  obtain ⟨after, hafter, hpainted⟩ := paintBand_painted band h
  refine ⟨after, hafter, ?_⟩
  rw [image.inBands_add]
  exact hmid.trans hpainted hroom (fun _ hp => hp.1) fun _ hp => hp.1

/-- Bands that hold every row leave what one conversion of the whole frame leaves. -/
theorem paintBands_eq_paint {bands : List (Band image.size.height)} (hcover : Band.Cover bands)
    (h : checkPaint image.source stride before = .ok ()) :
    paintBands order image stride bands before = paint order image.source stride before := by
  obtain ⟨after, hafter, hpainted⟩ := paintBands_painted order bands h
  obtain ⟨whole, hwhole, hall⟩ := Image.paint_painted order h
  rw [Image.inBands_of_cover hcover] at hpainted
  rw [image.size_source] at hall
  rw [hafter, hwhole, hpainted.unique hall fun _ _ => rfl]

end Painting

section Copying

variable {image : Image} {before : GreyImage}

def copyBands (image : Image) (bands : List (Band image.size.height)) (grey : GreyImage) :
    Ending GreyImage :=
  .sequence (copyBand image) bands grey

theorem copyBands_filledBy (bands : List (Band image.size.height))
    (h : checkCopy image.source before = .ok ()) :
    ∃ after, copyBands image bands before = .completed after ∧
      GreyImage.FilledBy image.source.lumaCell (image.InBands (· ∈ bands))
        before after := by
  have hroom := laidOut_of_checkCopy h
  rw [image.size_source] at hroom
  have hstart : GreyImage.FilledBy image.source.lumaCell (image.InBands fun _ => False)
      before before := by
    rw [image.inBands_none]
    exact ⟨rfl, rfl, Filled.none_visited⟩
  apply Ending.sequence_completes
    (fun bands => GreyImage.FilledBy image.source.lumaCell (image.InBands bands) before) hstart
  intro band visited mid hmid
  rw [← hmid.checkCopy_eq] at h
  obtain ⟨after, hafter, hfilled⟩ := copyBand_filledBy band h
  refine ⟨after, hafter, ?_⟩
  rw [image.inBands_add]
  exact hmid.trans hfilled hroom (fun _ hp => hp.1) fun _ hp => hp.1

theorem copyBands_eq_copyLuma {bands : List (Band image.size.height)} (hcover : Band.Cover bands)
    (h : checkCopy image.source before = .ok ()) :
    copyBands image bands before = copyLuma image.source before := by
  obtain ⟨after, hafter, hfilled⟩ := copyBands_filledBy bands h
  obtain ⟨whole, hwhole, hall⟩ := Image.copyLuma_filledBy h
  rw [Image.inBands_of_cover hcover] at hfilled
  rw [hafter, hwhole, hfilled.unique hall (.refl _ before) fun _ _ => rfl]

end Copying

/-! ### Cropping and converting -/

/-- A valid picture is valid once cropped to a band, and all conversions of the two agree in
    the rows of the band.  Bands that hold every row, converted one after the other into their
    rows of the same outputs, leave what one conversion of the whole frame leaves. -/
theorem conversion_commutes_with_cropping (image : Image) (hcheck : image.check = .ok ()) :
    (∀ (band : Band image.size.height) (width : UInt32), 0 < width → width ≤ image.size.width →
      (image.crop band width).check = .ok () ∧
        Source.ShowsRows band width (image.crop band width).source image.source) ∧
    ∀ bands : List (Band image.size.height), Band.Cover bands →
      (∀ {α : Type} [ColourDomain α] (order : ChannelOrder) (stride : UInt32)
        (before : Outputs α), checkPaint image.source stride before = .ok () →
        ∃ after, paintBands order image stride bands before = .completed after ∧
          paint order image.source stride before = .completed after) ∧
      ∀ before : GreyImage, checkCopy image.source before = .ok () →
        ∃ after, copyBands image bands before = .completed after ∧
          copyLuma image.source before = .completed after := by
  constructor
  · intro band width hpositive hwidth
    exact ⟨Image.check_crop hcheck hpositive hwidth,
      Image.showsRows hcheck band hpositive hwidth⟩
  · intro bands hcover
    constructor
    · intro α _ order stride before hchecks
      obtain ⟨after, hafter, _⟩ := Image.paint_painted order hchecks
      exact ⟨after, by rw [paintBands_eq_paint hcover hchecks, hafter], hafter⟩
    · intro before hchecks
      obtain ⟨after, hafter, _⟩ := Image.copyLuma_filledBy hchecks
      exact ⟨after, by rw [copyBands_eq_copyLuma hcover hchecks, hafter], hafter⟩

/-- The two upper rows of three. -/
def upperBand : Band 3 := ⟨0, 2, rfl, by decide, by decide⟩

/-- The last row of three, which has half of its blocks only. -/
def lastBand : Band 3 := ⟨2, 3, rfl, by decide, by decide⟩

theorem odd_picture_converts_in_bands :
    (oddPicture.crop lastBand 2).check = .ok () ∧
      (∃ after after', paint .rgba (oddPicture.crop lastBand 2).source 9
          (⟨Array.replicate 9 0, some ⟨⟨2, 1⟩, Plane.blank 2 2 0⟩⟩ : Outputs UInt8) =
            .completed after ∧
        paint .rgba oddPicture.source 13
          (⟨Array.replicate 39 7, some ⟨⟨3, 3⟩, Plane.blank 5 15 9⟩⟩ : Outputs UInt8) =
            .completed after' ∧
        after.ShowsRows lastBand 2 9 13 after') ∧
      (∃ after after', copyLuma (oddPicture.crop lastBand 2).source
          ⟨⟨2, 1⟩, Plane.blank 2 2 0⟩ = .completed after ∧
        copyLuma oddPicture.source ⟨⟨3, 3⟩, Plane.blank 4 12 9⟩ = .completed after' ∧
        after.ShowsRows lastBand 2 after') ∧
      (∃ after, paintBands .bgra oddPicture 13 [lastBand, upperBand]
          (⟨Array.replicate 39 7, some ⟨⟨3, 3⟩, Plane.blank 5 15 9⟩⟩ : Outputs UInt8) =
            .completed after ∧
        paint .bgra oddPicture.source 13
          ⟨Array.replicate 39 7, some ⟨⟨3, 3⟩, Plane.blank 5 15 9⟩⟩ = .completed after) ∧
      ∃ after, copyBands oddPicture [lastBand, upperBand] ⟨⟨3, 3⟩, Plane.blank 4 12 9⟩ =
          .completed after ∧
        copyLuma oddPicture.source ⟨⟨3, 3⟩, Plane.blank 4 12 9⟩ = .completed after := by
  have hcover : Band.Cover [lastBand, upperBand] := by
    intro y hy
    by_cases hupper : y < 2
    · exact ⟨upperBand, by simp, UInt32.zero_le, hupper⟩
    · exact ⟨lastBand, by simp, UInt32.not_lt.1 hupper, hy⟩
  obtain ⟨hcrop, hbands⟩ := conversion_commutes_with_cropping oddPicture rfl
  obtain ⟨hcheck, hrows⟩ := hcrop lastBand 2 (by decide) (by decide)
  obtain ⟨hpaint, hcopy⟩ := hbands [lastBand, upperBand] hcover
  exact ⟨hcheck, hrows.paint .rgba 9 13 _ _ rfl rfl rfl, hrows.copyLuma _ _ rfl rfl,
    hpaint .bgra 13 _ rfl, hcopy _ rfl⟩

end Chroma420
