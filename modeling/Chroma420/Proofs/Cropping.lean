import Chroma420.Proofs.Difference
import Chroma420.Proofs.Parts

/-!
# Cropping to a band

A band is a run of rows of a frame that begins at an even row (`Band`).  A picture can be
cropped to a band without moving a sample: each plane keeps its stride and loses the rows
above and below the band, and the columns to the right are left out by a smaller width
(`Image.crop`).

The chroma of a band begins at half its first row and ends at half its last row, rounded
up.  Because the first row is even, these are exactly as many chroma rows as the cropped
picture needs (`Band.toNat_halfUp_rows`), also for a last band that ends at an odd height, so a
picture whose check passes still passes it once cropped.  For the same reason the block of a
coordinate of the band is the block of that coordinate in the whole frame, and the samples
of the cropped picture are those of the whole one (`Image.sample?_crop`).

Conversions then agree: the cropped frame is converted to the rows that the whole frame has in
the band, whatever buffers the two are converted into (`Image.showsRows`).
-/

namespace Chroma420

/-! ### Bands -/

/-- Rows of a frame of some height, from an even one up to, and without, another. -/
structure Band (height : UInt32) where
  first : UInt32
  stop : UInt32
  even : first.toNat % 2 = 0
  nonempty : first < stop
  inside : stop ≤ height
deriving DecidableEq

namespace Band

variable {height : UInt32}

/-- The number of rows of a band. -/
def rows (band : Band height) : UInt32 := band.stop - band.first

def Holds (band : Band height) (y : UInt32) : Prop := band.first ≤ y ∧ y < band.stop

/-- The place in the frame of a coordinate that is counted from the top of the band. -/
def place (band : Band height) (p : Point) : Point := ⟨p.x, band.first + p.y⟩

/-- The first row of the chroma grid that the band needs. -/
def chromaFirst (band : Band height) : Nat := band.first.toNat / 2

/-- The row of the chroma grid behind the last one that the band needs. -/
def chromaStop (band : Band height) : Nat := (band.stop.toNat + 1) / 2

theorem toNat_rows (band : Band height) :
    band.rows.toNat = band.stop.toNat - band.first.toNat :=
  UInt32.toNat_sub_of_le _ _ (UInt32.le_of_lt band.nonempty)

theorem order (band : Band height) :
    band.first.toNat < band.stop.toNat ∧ band.stop.toNat ≤ height.toNat :=
  ⟨UInt32.lt_iff_toNat_lt.1 band.nonempty, UInt32.le_iff_toNat_le.1 band.inside⟩

/-- A band that begins at an even row needs all of its chroma rows and no other. -/
theorem toNat_halfUp_rows (band : Band height) :
    (halfUp band.rows).toNat = band.chromaStop - band.chromaFirst := by
  have heven := band.even
  have horder := band.order
  rw [toNat_halfUp, band.toNat_rows, chromaStop, chromaFirst]
  omega

theorem chromaStop_le (band : Band height) : band.chromaStop ≤ (halfUp height).toNat := by
  have horder := band.order
  rw [chromaStop, toNat_halfUp]
  omega

theorem toNat_place_y (band : Band height) {p : Point} (hp : p.y < band.rows) :
    (band.place p).y.toNat = band.first.toNat + p.y.toNat := by
  have hrows := UInt32.lt_iff_toNat_lt.1 hp
  have horder := band.order
  have hheight := height.toNat_lt
  rw [band.toNat_rows] at hrows
  rw [place, UInt32.toNat_add, Nat.mod_eq_of_lt (by omega)]

/-- The coordinates of a band, placed in the frame, are those of its rows. -/
theorem exists_place_iff (band : Band height) {width : UInt32} {q : Point} :
    (∃ p : Point, p.Inside ⟨width, band.rows⟩ ∧ band.place p = q) ↔
      q.Inside ⟨width, height⟩ ∧ band.Holds q.y := by
  have horder := band.order
  constructor
  · rintro ⟨p, ⟨hx, hy⟩, rfl⟩
    have hplace := band.toNat_place_y hy
    have hrows := UInt32.lt_iff_toNat_lt.1 hy
    rw [band.toNat_rows] at hrows
    refine ⟨⟨hx, UInt32.lt_iff_toNat_lt.2 ?_⟩, UInt32.le_iff_toNat_le.2 ?_,
      UInt32.lt_iff_toNat_lt.2 ?_⟩
    · change (band.place p).y.toNat < height.toNat
      omega
    · omega
    · omega
  · rintro ⟨⟨hx, _⟩, hfirst, hstop⟩
    have hle := UInt32.le_iff_toNat_le.1 hfirst
    have hlt := UInt32.lt_iff_toNat_lt.1 hstop
    refine ⟨⟨q.x, q.y - band.first⟩, ⟨hx, UInt32.lt_iff_toNat_lt.2 ?_⟩, ?_⟩
    · change (q.y - band.first).toNat < band.rows.toNat
      rw [band.toNat_rows, UInt32.toNat_sub_of_le _ _ hfirst]
      omega
    · rw [place, Point.mk.injEq]
      exact ⟨rfl, by rw [UInt32.add_comm, UInt32.sub_add_cancel]⟩

theorem inside_place (band : Band height) {width width' : UInt32} {p : Point}
    (hwidth : width ≤ width') (hp : p.Inside ⟨width, band.rows⟩) :
    (band.place p).Inside ⟨width', height⟩ := by
  obtain ⟨hinside, _⟩ := band.exists_place_iff.1 ⟨p, hp, rfl⟩
  exact ⟨UInt32.lt_of_lt_of_le hinside.1 hwidth, hinside.2⟩

/-- The block of a coordinate of the band lies half as far down as the band. -/
theorem chroma_place (band : Band height) {p : Point} (hp : p.y < band.rows) :
    (band.place p).chroma.x = p.chroma.x ∧
      (band.place p).chroma.y.toNat = band.chromaFirst + p.chroma.y.toNat := by
  have heven := band.even
  refine ⟨rfl, ?_⟩
  rw [chromaFirst, Point.toNat_chroma_y, Point.toNat_chroma_y, band.toNat_place_y hp]
  omega

end Band

/-! ### Rows of a plane -/

namespace Plane

variable {α : Type}

/-- The rows of a plane from `first` up to, and without, `stop`. -/
def crop (plane : Plane α) (first stop : Nat) : Plane α where
  samples := plane.samples.extract (first * plane.stride.toNat) (stop * plane.stride.toNat)
  stride := plane.stride

variable {plane : Plane α} {rowLength rowLength' stop height : Nat}

theorem LaidOut.crop_inside (h : plane.LaidOut rowLength height) (hstop : stop ≤ height) :
    stop * plane.stride.toNat ≤ plane.samples.size := by
  rw [h.size_eq, Nat.mul_comm]
  exact Nat.mul_le_mul_left _ hstop

theorem LaidOut.crop (h : plane.LaidOut rowLength height) (first : Nat)
    (hrow : rowLength' ≤ rowLength) (hstop : stop ≤ height) :
    (plane.crop first stop).LaidOut rowLength' (stop - first) := by
  refine ⟨Nat.le_trans hrow h.row_fits, ?_⟩
  change (plane.samples.extract _ _).size = plane.stride.toNat * (stop - first)
  rw [size_part (h.crop_inside hstop), ← Nat.sub_mul, Nat.mul_comm]

/-- A sample of a cropped plane is a sample of the plane, in a row further down. -/
theorem LaidOut.getElem?_crop (h : plane.LaidOut rowLength height) (hstop : stop ≤ height)
    {first i y : Nat} (hy : y < stop - first) (hi : i < plane.stride.toNat) :
    (plane.crop first stop).samples[y * plane.stride.toNat + i]? =
      plane.samples[(first + y) * plane.stride.toNat + i]? := by
  have hrow : (y + 1) * plane.stride.toNat ≤ (stop - first) * plane.stride.toNat :=
    Nat.mul_le_mul_right _ hy
  rw [Nat.succ_mul, Nat.sub_mul] at hrow
  have hplace : first * plane.stride.toNat + (y * plane.stride.toNat + i) =
      (first + y) * plane.stride.toNat + i := by rw [Nat.add_mul, Nat.add_assoc]
  rw [← hplace]
  exact getElem?_part (h.crop_inside hstop) (by omega)

/-! ### Checks of a cropped plane -/

variable {size : Size} {width : UInt32} {components : UInt64}

theorem checkLuma_crop (band : Band size.height) (h : plane.checkLuma size = .ok ())
    (hpositive : 0 < width) (hwidth : width ≤ size.width) :
    (plane.crop band.first.toNat band.stop.toNat).checkLuma ⟨width, band.rows⟩ = .ok () := by
  have horder := band.order
  obtain ⟨_, _, hlaid⟩ := checkLuma_eq_ok.1 h
  have hcropped := hlaid.crop band.first.toNat (UInt32.le_iff_toNat_le.1 hwidth) horder.2
  rw [← band.toNat_rows] at hcropped
  have hrows : 0 < band.rows.toNat := by
    rw [band.toNat_rows]
    omega
  exact checkLuma_eq_ok.2 ⟨UInt32.lt_iff_toNat_lt.1 hpositive, hrows, hcropped⟩

theorem checkChroma_crop (band : Band size.height) (hcomponents : components.toNat ≤ 2)
    (h : plane.checkChroma size components = .ok ()) (hwidth : width ≤ size.width) :
    (plane.crop band.chromaFirst band.chromaStop).checkChroma ⟨width, band.rows⟩ components =
      .ok () := by
  have hlaid := (checkChroma_eq_ok hcomponents).1 h
  have hcolumns := UInt32.le_iff_toNat_le.1 hwidth
  have hhalf : (halfUp width).toNat ≤ size.chroma.width.toNat := by
    rw [Size.toNat_chroma_width, toNat_halfUp]
    omega
  have hcropped := hlaid.crop band.chromaFirst (Nat.mul_le_mul_right components.toNat hhalf)
    band.chromaStop_le
  rw [← band.toNat_halfUp_rows] at hcropped
  exact (checkChroma_eq_ok hcomponents).2 hcropped

end Plane

/-! ### Cropped pictures -/

/-- A picture cropped to a band and to its first columns. -/
def PlanarImage.crop (image : PlanarImage) (band : Band image.size.height) (width : UInt32) :
    PlanarImage where
  size := ⟨width, band.rows⟩
  luma := image.luma.crop band.first.toNat band.stop.toNat
  u := image.u.crop band.chromaFirst band.chromaStop
  v := image.v.crop band.chromaFirst band.chromaStop

/-- A picture cropped to a band and to its first columns. -/
def SemiPlanarImage.crop (image : SemiPlanarImage) (band : Band image.size.height)
    (width : UInt32) : SemiPlanarImage where
  size := ⟨width, band.rows⟩
  luma := image.luma.crop band.first.toNat band.stop.toNat
  chroma := image.chroma.crop band.chromaFirst band.chromaStop
  order := image.order

namespace Image

/-- A picture cropped to a band and to its first columns, in its own layout. -/
def crop : (image : Image) → Band image.size.height → UInt32 → Image
  | planar image, band, width => planar (image.crop band width)
  | semiPlanar image, band, width => semiPlanar (image.crop band width)

variable {image : Image} {band : Band image.size.height} {width : UInt32}

@[simp] theorem size_crop : (image.crop band width).size = ⟨width, band.rows⟩ := by
  cases image with
  | planar image => rfl
  | semiPlanar image => rfl

theorem luma_crop :
    (image.crop band width).luma = image.luma.crop band.first.toNat band.stop.toNat := by
  cases image with
  | planar image => rfl
  | semiPlanar image => rfl

/-- A valid picture is valid once cropped. -/
theorem check_crop (hcheck : image.check = .ok ()) (hpositive : 0 < width)
    (hwidth : width ≤ image.size.width) : (image.crop band width).check = .ok () := by
  cases image with
  | planar image =>
    obtain ⟨hluma, hrest⟩ := check_bind_eq_ok.1 hcheck
    obtain ⟨hu, hv⟩ := check_bind_eq_ok.1 hrest
    exact check_bind_eq_ok.2 ⟨Plane.checkLuma_crop band hluma hpositive hwidth,
      check_bind_eq_ok.2 ⟨Plane.checkChroma_crop band (by decide) hu hwidth,
        Plane.checkChroma_crop band (by decide) hv hwidth⟩⟩
  | semiPlanar image =>
    obtain ⟨hluma, hchroma⟩ := check_bind_eq_ok.1 hcheck
    exact check_bind_eq_ok.2 ⟨Plane.checkLuma_crop band hluma hpositive hwidth,
      Plane.checkChroma_crop band (by decide) hchroma hwidth⟩

/-! ### Samples of a cropped picture -/

theorem luma?_crop (hcheck : image.check = .ok ()) (hpositive : 0 < width)
    (hwidth : width ≤ image.size.width) {p : Point} (hp : p.Inside ⟨width, band.rows⟩) :
    (image.crop band width).source.luma? p = image.source.luma? (band.place p) := by
  obtain ⟨_, _, hlaid⟩ := luma_laidOut hcheck
  have hplace : (band.place p).Inside image.size := band.inside_place hwidth hp
  have hrow := UInt32.lt_iff_toNat_lt.1 hp.2
  have hcolumn := UInt32.lt_iff_toNat_lt.1 hplace.1
  have hfits := hlaid.row_fits
  rw [band.toNat_rows] at hrow
  rw [luma?_eq (check_crop hcheck hpositive hwidth) (by rw [size_crop]; exact hp), luma_crop,
    luma?_eq hcheck hplace, band.toNat_place_y hp.2]
  exact hlaid.getElem?_crop band.order.2 hrow (Nat.lt_of_lt_of_le hcolumn hfits)

/-- A block of the cropped picture is the block as far down in the whole one as the chroma of
    the band begins. -/
theorem chroma?_crop (hcheck : image.check = .ok ()) (hpositive : 0 < width)
    (hwidth : width ≤ image.size.width) {c c' : Point}
    (hc : c.Inside (Size.mk width band.rows).chroma) (hc' : c'.Inside image.size.chroma)
    (hx : c'.x = c.x) (hy : c'.y.toNat = band.chromaFirst + c.y.toNat) :
    (image.crop band width).source.chroma? c = image.source.chroma? c' := by
  have hcropped : (image.crop band width).check = .ok () := check_crop hcheck hpositive hwidth
  have hrow := UInt32.lt_iff_toNat_lt.1 hc.2
  have hcolumn := UInt32.lt_iff_toNat_lt.1 hc'.1
  rw [Size.chroma, band.toNat_halfUp_rows] at hrow
  rw [hx] at hcolumn
  cases image with
  | planar image =>
    obtain ⟨_, _, _, hu, hv⟩ := PlanarImage.check_eq_ok.1 hcheck
    have hufits := hu.row_fits
    have hvfits := hv.row_fits
    change (image.crop band width).source.chroma? c = image.source.chroma? c'
    rw [PlanarImage.chroma?_eq, PlanarImage.chroma?_eq, hx, hy,
      ← hu.getElem?_crop band.chromaStop_le hrow (Nat.lt_of_lt_of_le hcolumn hufits),
      ← hv.getElem?_crop band.chromaStop_le hrow (Nat.lt_of_lt_of_le hcolumn hvfits)]
    rfl
  | semiPlanar image =>
    obtain ⟨_, _, _, hchroma⟩ := SemiPlanarImage.check_eq_ok.1 hcheck
    have hfits := hchroma.row_fits
    have hpositions := image.order.uPosition_add_vPosition
    have hpair : 2 * c.x.toNat + 1 < image.chroma.stride.toNat := by
      change c.x.toNat < image.size.chroma.width.toNat at hcolumn
      omega
    change (image.crop band width).source.chroma? c = image.source.chroma? c'
    rw [SemiPlanarImage.chroma?_eq hcropped hc, SemiPlanarImage.chroma?_eq hcheck hc', hx, hy]
    simp only [Nat.add_assoc]
    rw [← hchroma.getElem?_crop band.chromaStop_le hrow (by omega),
      ← hchroma.getElem?_crop band.chromaStop_le hrow (by omega)]
    rfl

/-- The samples of a cropped picture are those of the whole one, as far down as the band
    begins. -/
theorem sample?_crop (hcheck : image.check = .ok ()) (hpositive : 0 < width)
    (hwidth : width ≤ image.size.width) {p : Point} (hp : p.Inside ⟨width, band.rows⟩) :
    (image.crop band width).source.sample? p = image.source.sample? (band.place p) := by
  obtain ⟨hx, hy⟩ := band.chroma_place hp.2
  have hplace : (band.place p).Inside image.size := band.inside_place hwidth hp
  rw [Source.sample?, Source.sample?, luma?_crop hcheck hpositive hwidth hp,
    chroma?_crop hcheck hpositive hwidth hp.chroma hplace.chroma hx hy]

end Image

/-! ### Rows that show a band -/

/-- The visible samples of a grey picture are those that another one has in a band. -/
def GreyImage.ShowsRows {height : UInt32} (band : Band height) (width : UInt32)
    (part whole : GreyImage) : Prop :=
  ∀ p : Point, p.Inside ⟨width, band.rows⟩ → ∃ value,
    part.plane.samples[p.y.toNat * part.plane.stride.toNat + p.x.toNat]? = some value ∧
      whole.plane.samples[(band.first.toNat + p.y.toNat) * whole.plane.stride.toNat +
        p.x.toNat]? = some value

/-- The visible pixels and greys of some outputs are those that others have in a band. -/
structure Outputs.ShowsRows {α : Type} {height : UInt32} (band : Band height) (width : UInt32)
    (stride stride' : UInt32) (part whole : Outputs α) : Prop where
  pixel : ∀ p : Point, p.Inside ⟨width, band.rows⟩ → ∃ pixel : Pixel α, ∀ k (hk : k < 4),
    part.colour[p.y.toNat * stride.toNat + 4 * p.x.toNat + k]? = some pixel[k] ∧
      whole.colour[(band.first.toNat + p.y.toNat) * stride'.toNat + 4 * p.x.toNat + k]? =
        some pixel[k]
  grey : Option.Rel (GreyImage.ShowsRows band width) part.grey whole.grey

section Showing

variable {image : Image} {band : Band image.size.height} {width : UInt32}

theorem GreyAgrees.showsRows {grey grey' : Point → Option UInt8}
    {before part before' whole : GreyImage}
    (hpart : GreyAgrees ⟨width, band.rows⟩ grey before part)
    (hwhole : GreyAgrees image.size grey' before' whole) (hwidth : width ≤ image.size.width)
    (hgrey : ∀ p : Point, p.Inside ⟨width, band.rows⟩ → grey p = grey' (band.place p)) :
    part.ShowsRows band width whole := by
  intro p hp
  obtain ⟨value, hvalue, hsample⟩ := hpart.sample p hp
  obtain ⟨value', hvalue', hsample'⟩ := hwhole.sample _ (band.inside_place hwidth hp)
  rw [hgrey p hp, hvalue'] at hvalue
  cases hvalue
  rw [← hpart.stride_eq] at hsample
  rw [← hwhole.stride_eq, band.toNat_place_y hp.2] at hsample'
  exact ⟨value, hsample, hsample'⟩

theorem FrameAgrees.showsRows {α : Type} [ColourDomain α] {order : ChannelOrder}
    {stride stride' : UInt32} {greyOf : Yuv → UInt8} {before part before' whole : Outputs α}
    (hcheck : image.check = .ok ()) (hpositive : 0 < width) (hwidth : width ≤ image.size.width)
    (hpart : FrameAgrees order (image.crop band width).source stride greyOf before part)
    (hwhole : FrameAgrees order image.source stride' greyOf before' whole)
    (hgrey : before.grey.isSome = before'.grey.isSome) :
    part.ShowsRows band width stride stride' whole := by
  have hsample : ∀ p : Point, p.Inside ⟨width, band.rows⟩ →
      (image.crop band width).source.sample? p = image.source.sample? (band.place p) :=
    fun p hp => Image.sample?_crop hcheck hpositive hwidth hp
  have hsize : (image.crop band width).source.size = ⟨width, band.rows⟩ := by
    rw [Image.size_source, Image.size_crop]
  constructor
  · intro p hp
    have hplace : (band.place p).Inside image.source.size := by
      rw [image.size_source]
      exact band.inside_place hwidth hp
    obtain ⟨sample, hread, _, _, hpixel⟩ := hpart.pixel p (by rw [hsize]; exact hp)
    obtain ⟨sample', hread', _, _, hpixel'⟩ := hwhole.pixel _ hplace
    rw [hsample p hp, hread'] at hread
    cases hread
    refine ⟨sample.pixel order, fun k hk => ⟨hpixel k hk, ?_⟩⟩
    rw [← hpixel' k hk, band.toNat_place_y hp.2]
    rfl
  · have hgreyPart := hpart.grey
    have hgreyWhole := hwhole.grey
    rw [hsize] at hgreyPart
    rw [image.size_source] at hgreyWhole
    apply optionRel_both hgrey _ hgreyPart hgreyWhole
    intro old old' rows all hagrees hagrees'
    apply hagrees.showsRows hagrees' hwidth
    intro p hp
    rw [hsample p hp]

end Showing

/-! ### Conversions of a cropped picture -/

/-- All conversions of a cropped frame leave the rows that the whole frame has in a band,
    whatever accepted outputs the two are converted into. -/
structure Source.ShowsRows {height : UInt32} (band : Band height) (width : UInt32)
    (part whole : Source) : Prop where
  paint : ∀ {α : Type} [ColourDomain α] (order : ChannelOrder) (stride stride' : UInt32)
    (before before' : Outputs α), checkPaint part stride before = .ok () →
    checkPaint whole stride' before' = .ok () → before.grey.isSome = before'.grey.isSome →
    ∃ after after', paint order part stride before = .completed after ∧
      paint order whole stride' before' = .completed after' ∧
      after.ShowsRows band width stride stride' after'
  copyLuma : ∀ before before' : GreyImage, checkCopy part before = .ok () →
    checkCopy whole before' = .ok () →
    ∃ after after', copyLuma part before = .completed after ∧
      copyLuma whole before' = .completed after' ∧ after.ShowsRows band width after'

theorem Image.showsRows {image : Image} (hcheck : image.check = .ok ())
    (band : Band image.size.height) {width : UInt32} (hpositive : 0 < width)
    (hwidth : width ≤ image.size.width) :
    Source.ShowsRows band width (image.crop band width).source image.source := by
  constructor
  · intro α _ order stride stride' before before' hchecks hchecks' hgrey
    obtain ⟨after, hafter, hagrees⟩ := paint_agrees_of_check order (fun _ => rfl) hchecks
    obtain ⟨after', hafter', hagrees'⟩ := paint_agrees_of_check order (fun _ => rfl) hchecks'
    exact ⟨after, after', hafter, hafter',
      hagrees.showsRows hcheck hpositive hwidth hagrees' hgrey⟩
  · intro before before' hchecks hchecks'
    obtain ⟨after, hafter, hagrees⟩ := copyLuma_agrees_of_check hchecks
    obtain ⟨after', hafter', hagrees'⟩ := copyLuma_agrees_of_check hchecks'
    rw [size_crop] at hagrees
    refine ⟨after, after', hafter, hafter', hagrees.showsRows hagrees' hwidth ?_⟩
    intro p hp
    exact luma?_crop hcheck hpositive hwidth hp

end Chroma420
