import Chroma420.Proofs.Allocation

/-!
# Fresh planes

Every plane of a fresh planar picture has one sample for each place of its grid, and a fresh grey
picture is one such plane.  The length of a row is then the width of a grid.  It fits the word of a
stride at every width, so the widest picture, which fails as soon as its chroma comes in pairs, is
no exception here.

A check works out the same lengths in words of its own.  It comes to the lengths over the unbounded
integers that a fresh plane has (`Plane.Tight`), and all that it can find wrong with fresh planes is
that there is nothing in them (`PlanarImage.Tight.check_eq_ok`).

Fresh planes hold zeros, in rows without padding.  So a conversion of a fresh picture is known to
the last element: all of its pixels are the pixel of three zeros, whatever the colour rows held
before (`Source.IsUniform.paint_eq`), and its luma is what a fresh grey picture holds already.
-/

namespace Chroma420

/-! ### Tight planes -/

/-- The stride of a plane is the length of its rows over the unbounded integers, and the plane holds
    these rows and nothing else. -/
structure Plane.Tight {α : Type} (plane : Plane α) (rowLength rows : Nat) : Prop where
  stride_eq : plane.stride.toNat = rowLength
  size_eq : plane.samples.size = rowLength * rows

/-- All planes of a picture are tight, those of chroma with half of the rows and columns, rounded
    up. -/
structure PlanarImage.Tight (image : PlanarImage) : Prop where
  luma : image.luma.Tight image.size.width.toNat image.size.height.toNat
  u : image.u.Tight ((image.size.width.toNat + 1) / 2) ((image.size.height.toNat + 1) / 2)
  v : image.v.Tight ((image.size.width.toNat + 1) / 2) ((image.size.height.toNat + 1) / 2)

def GreyImage.Tight (image : GreyImage) : Prop :=
  image.plane.Tight image.size.width.toNat image.size.height.toNat

theorem Plane.Tight.laidOut {α : Type} {plane : Plane α} {rowLength rows : Nat}
    (h : plane.Tight rowLength rows) : plane.LaidOut rowLength rows := by
  refine ⟨Nat.le_of_eq h.stride_eq.symm, ?_⟩
  rw [h.size_eq, h.stride_eq]

theorem Plane.tight_blank {α : Type} (size : Size) (sample : α) :
    (blank size.width size.area sample).Tight size.width.toNat size.height.toNat := by
  refine ⟨rfl, ?_⟩
  rw [← size.toNat_area]
  exact Array.size_replicate

theorem PlanarImage.tight_blank (size : Size) : (blank size).Tight := by
  have hchroma := Plane.tight_blank size.chroma (0 : UInt8)
  rw [size.toNat_chroma_width, size.toNat_chroma_height] at hchroma
  exact ⟨Plane.tight_blank size 0, hchroma, hchroma⟩

theorem GreyImage.tight_blank (size : Size) : (blank size).Tight := Plane.tight_blank size 0

/-! ### Verdicts on tight planes -/

theorem Plane.checkLuma_of_empty {α : Type} (plane : Plane α) {size : Size}
    (h : ¬ size.isEmpty = false) : plane.checkLuma size = .error .zeroSize := by
  rw [checkLuma, require_bind_eq_error]
  exact .inl ⟨h, rfl⟩

theorem PlanarImage.check_of_empty {image : PlanarImage} (h : ¬ image.size.isEmpty = false) :
    image.check = .error .zeroSize := by
  rw [check, check_bind_eq_error]
  exact .inl (image.luma.checkLuma_of_empty h)

theorem GreyImage.check_of_empty {image : GreyImage} (h : ¬ image.size.isEmpty = false) :
    image.check = .error .zeroSize :=
  image.plane.checkLuma_of_empty h

theorem PlanarImage.Tight.check_eq_ok {image : PlanarImage} (h : image.Tight) :
    image.check = .ok () ↔ image.size.isEmpty = false := by
  rw [PlanarImage.check_eq_ok, Size.isEmpty_eq_false, Size.toNat_chroma_width,
    Size.toNat_chroma_height, ← and_assoc]
  exact and_iff_left ⟨h.luma.laidOut, h.u.laidOut, h.v.laidOut⟩

theorem GreyImage.Tight.check_eq_ok {image : GreyImage} (h : image.Tight) :
    image.check = .ok () ↔ image.size.isEmpty = false := by
  rw [GreyImage.check_eq_ok, Size.isEmpty_eq_false, ← and_assoc]
  exact and_iff_left (Plane.Tight.laidOut h)

/-- Colour rows without padding are a destination whenever their length fits a stride: then the
    elements of the whole frame can be counted, too. -/
theorem requireDestination_of_tight {size : Size} {stride : UInt32} {length : Nat}
    (hstride : stride.toNat = 4 * size.width.toNat)
    (hlength : length = 4 * size.width.toNat * size.height.toNat) :
    requireDestination size stride length = .ok () := by
  rw [requireDestination_eq_ok, ← hstride]
  have hrow : stride.toNat ≤ 2 ^ 32 := Nat.le_of_lt stride.toNat_lt
  refine ⟨mul_lt_word hrow size.height.toNat_lt, ?_, Nat.le_refl _⟩
  rw [hlength, hstride]

/-! ### What fresh planes hold -/

theorem Plane.getElem?_blank {α : Type} {size : Size} {p : Point} (sample : α)
    (hp : p.Inside size) :
    (blank size.width size.area sample).samples[p.y.toNat * size.width.toNat + p.x.toNat]? =
      some sample := by
  have hx := UInt32.lt_iff_toNat_lt.1 hp.1
  have hrow : p.y.toNat * size.width.toNat + size.width.toNat ≤ _ :=
    (tight_blank size sample).laidOut.row_inside (UInt32.lt_iff_toNat_lt.1 hp.2)
  rw [Array.getElem?_eq_getElem (by omega)]
  exact congrArg some (Array.getElem_replicate _)

/-- Every sample that belongs to a frame is the same. -/
def Source.IsUniform (source : Source) (sample : Yuv) : Prop :=
  ∀ p : Point, p.Inside source.size → source.sample? p = some sample

theorem PlanarImage.isUniform_blank (size : Size) : (blank size).source.IsUniform ⟨0, 0, 0⟩ := by
  intro p (hp : p.Inside size)
  have hx := UInt32.lt_iff_toNat_lt.1 hp.1
  have hy := UInt32.lt_iff_toNat_lt.1 hp.2
  have hsize : size.isEmpty = false :=
    Size.isEmpty_eq_false.2 ⟨Nat.zero_lt_of_lt hx, Nat.zero_lt_of_lt hy⟩
  have hcheck : (blank size).check = .ok () := (tight_blank size).check_eq_ok.2 hsize
  have hluma := @Image.luma?_eq (.planar (blank size)) hcheck p hp
  have hchroma : (Plane.blank size.chroma.width size.chroma.area (0 : UInt8)).at?
      p.chroma.x p.chroma.y = some 0 := by
    rw [Plane.at?_eq]
    exact Plane.getElem?_blank 0 hp.chroma
  rw [Source.sample?_eq_some]
  constructor
  · exact hluma.trans (Plane.getElem?_blank 0 hp)
  · simp only [source, blank, hchroma]
    rfl

/-! ### Uniform outputs -/

/-- A grey picture of tight rows with one grey; a fresh one has the grey zero. -/
def GreyImage.uniform (size : Size) (grey : UInt8) : GreyImage :=
  ⟨size, Plane.blank size.width size.area grey⟩

/-- Outputs in which all pixels are the pixel of one triple, and all greys its grey. -/
def Outputs.uniform {α : Type} [ColourDomain α] (order : ChannelOrder) (size : Size)
    (stride : UInt32) (sample : Yuv) : Outputs α where
  colour := (Plane.tabulate stride size.height.toNat fun x _ =>
    (sample.pixel order : Pixel α)[x % 4]).samples
  grey := some (.uniform size (sample.convert order : Converted α).grey)

theorem GreyImage.filledBy_uniform {content : Point → List UInt8} {size : Size} {grey : UInt8}
    (old : UInt8) (hcontent : ∀ p : Point, p.Inside size → content p = [grey]) :
    FilledBy content (fun p => p.Inside size) (uniform size old) (uniform size grey) := by
  refine ⟨rfl, rfl, ?_⟩
  apply Filled.of_tight Nat.one_pos (Nat.one_mul size.width.toNat).symm
  · intro p
    rw [Nat.one_mul]
    rfl
  · exact (Plane.tight_blank size old).size_eq
  · exact (Plane.tight_blank size grey).size_eq
  · intro p hp k hk
    have hk : k = 0 := by omega
    rw [hk, hcontent p hp]
    exact Plane.getElem?_blank grey hp

theorem Outputs.size_uniform {α : Type} [ColourDomain α] {order : ChannelOrder} {size : Size}
    {stride : UInt32} {sample : Yuv} :
    (uniform order size stride sample : Outputs α).colour.size =
      stride.toNat * size.height.toNat :=
  Array.size_ofFn

theorem Outputs.getElem?_uniform {α : Type} [ColourDomain α] {order : ChannelOrder} {size : Size}
    {stride : UInt32} {sample : Yuv} (hstride : stride.toNat = 4 * size.width.toNat) {p : Point}
    (hp : p.Inside size) {k : Nat} (hk : k < 4) :
    (uniform order size stride sample : Outputs α).colour[p.colourIndex stride + k]? =
      some (sample.pixel order : Pixel α)[k] := by
  have hx := UInt32.lt_iff_toNat_lt.1 hp.1
  have hcolumn : 4 * p.x.toNat + k < stride.toNat := by omega
  have hchannel : (4 * p.x.toNat + k) % 4 = k := by omega
  simp only [uniform, Point.colourIndex, Nat.add_assoc]
  rw [Plane.getElem?_tabulate hcolumn (UInt32.lt_iff_toNat_lt.1 hp.2)]
  simp only [hchannel]

section Uniform

variable {source : Source} {sample : Yuv}

theorem Source.IsUniform.painted {α : Type} [ColourDomain α] (h : source.IsUniform sample)
    (order : ChannelOrder) {stride : UInt32} {colour : Array α} (old : UInt8)
    (hstride : stride.toNat = 4 * source.size.width.toNat)
    (hcolour : colour.size = stride.toNat * source.size.height.toNat) :
    Painted order source stride (fun p => p.Inside source.size)
      ⟨colour, some (.uniform source.size old)⟩
      (Outputs.uniform order source.size stride sample) := by
  have hconvert : ∀ p : Point, p.Inside source.size →
      source.convert? order p = some (sample.convert order : Converted α) :=
    fun p hp => Source.convert?_of_sample (h p hp)
  constructor
  · refine Filled.of_tight (by decide) hstride ?_ hcolour Outputs.size_uniform ?_
    · intro p
      rfl
    · intro p hp k hk
      have hpixel : (source.pixelCell order p : List α) =
          (sample.pixel order : Pixel α).toList := by
        rw [Source.pixelCell, Source.pixel?, hconvert p hp]
        rfl
      rw [hpixel, Outputs.getElem?_uniform hstride hp hk, Vector.getElem?_toList,
        Vector.getElem?_eq_getElem hk]
  · apply Option.Rel.some
    apply GreyImage.filledBy_uniform
    intro p hp
    rw [Source.greyCell, hconvert p hp]

/-- Painting a uniform frame leaves nothing of what the colour rows and the grey picture held. -/
theorem Source.IsUniform.paint_eq {α : Type} [ColourDomain α] (h : source.IsUniform sample)
    (order : ChannelOrder) {stride : UInt32} {colour : Array α} {old : UInt8}
    (hchecks : checkPaint source stride ⟨colour, some (.uniform source.size old)⟩ = .ok ())
    (hwidth : 0 < source.size.width.toNat)
    (hstride : stride.toNat = 4 * source.size.width.toNat) :
    paint order source stride ⟨colour, some (.uniform source.size old)⟩ =
      .completed (Outputs.uniform order source.size stride sample) := by
  obtain ⟨_, hdestination, _⟩ := checkPaint_eq_ok.1 hchecks
  obtain ⟨_, hcolour, _⟩ := requireDestination_eq_ok.1 hdestination
  have hnonzero : stride ≠ 0 := by
    rintro rfl
    rw [UInt32.toNat_zero] at hstride
    omega
  have hreadable : source.Readable := fun p hp => ⟨sample, h p hp⟩
  exact paint_eq_completed.2 ⟨hchecks, ⟨hnonzero, hreadable⟩, h.painted order old hstride hcolour⟩

theorem Source.IsUniform.copyLuma_eq (h : source.IsUniform sample) {old : UInt8}
    (hchecks : checkCopy source (.uniform source.size old) = .ok ()) (hluma : source.HasLuma) :
    copyLuma source (.uniform source.size old) = .completed (.uniform source.size sample.luma) := by
  refine copyLuma_eq_completed.2 ⟨hchecks, hluma, GreyImage.filledBy_uniform old ?_⟩
  intro p hp
  obtain ⟨hsome, _⟩ := Source.sample?_eq_some.1 (h p hp)
  rw [Source.lumaCell, hsome]

end Uniform

/-! ### Conversions of fresh planes -/

/-- Fresh planes are usable at every size.  Their strides are the exact lengths of their rows, a
    check passes if they have any samples and otherwise says that they have none, and a fresh planar
    picture is converted into a fresh grey one, alone or beside tight colour rows. -/
theorem fresh_planes_are_usable (size : Size) :
    ((PlanarImage.blank size).Tight ∧ (GreyImage.blank size).Tight) ∧
    (((PlanarImage.blank size).check = .ok () ↔ size.width ≠ 0 ∧ size.height ≠ 0) ∧
      ((GreyImage.blank size).check = .ok () ↔ size.width ≠ 0 ∧ size.height ≠ 0)) ∧
    (¬ (size.width ≠ 0 ∧ size.height ≠ 0) →
      (PlanarImage.blank size).check = .error .zeroSize ∧
        (GreyImage.blank size).check = .error .zeroSize) ∧
    (size.width ≠ 0 ∧ size.height ≠ 0 →
      copyLuma (PlanarImage.blank size).source (GreyImage.blank size) =
          .completed (GreyImage.blank size) ∧
        ∀ {α : Type} [ColourDomain α] (order : ChannelOrder) (stride : UInt32) (colour : Array α),
          stride.toNat = 4 * size.width.toNat →
          colour.size = 4 * size.width.toNat * size.height.toNat →
          paint order (PlanarImage.blank size).source stride
              ⟨colour, some (GreyImage.blank size)⟩ =
            .completed (Outputs.uniform order size stride ⟨0, 0, 0⟩)) := by
  have hsome : size.width ≠ 0 ∧ size.height ≠ 0 ↔ size.isEmpty = false := by
    simp [Size.isEmpty]
  rw [hsome]
  have himage := PlanarImage.tight_blank size
  have hgrey := GreyImage.tight_blank size
  refine ⟨⟨himage, hgrey⟩, ⟨himage.check_eq_ok, hgrey.check_eq_ok⟩, ?_, ?_⟩
  · intro hempty
    exact ⟨PlanarImage.check_of_empty hempty, GreyImage.check_of_empty hempty⟩
  · intro hnonempty
    have huniform := PlanarImage.isUniform_blank size
    have hcheck : (PlanarImage.blank size).check = .ok () := himage.check_eq_ok.2 hnonempty
    have hrequired : requireGrey size (GreyImage.blank size) = .ok () :=
      requireGrey_eq_ok.2 ⟨hgrey.check_eq_ok.2 hnonempty, rfl⟩
    constructor
    · apply huniform.copyLuma_eq (checkCopy_eq_ok.2 ⟨hcheck, hrequired⟩)
      exact @Image.hasLuma (.planar (PlanarImage.blank size)) hcheck
    · intro α _ order stride colour hstride hcolour
      obtain ⟨hwidth, _⟩ := Size.isEmpty_eq_false.1 hnonempty
      refine huniform.paint_eq order (checkPaint_eq_ok.2 ⟨hcheck, ?_, ?_⟩) hwidth hstride
      · exact requireDestination_of_tight hstride hcolour
      · rintro grey ⟨⟩
        exact hrequired

/-- The widest planes there are, planes without samples, and odd planes beside colour rows of
    floats. -/
theorem widest_and_odd_planes_are_usable :
    (PlanarImage.blank ⟨4294967295, 3⟩).check = .ok () ∧
      (PlanarImage.blank ⟨4294967295, 3⟩).u.stride.toNat = 2147483648 ∧
      copyLuma (PlanarImage.blank ⟨4294967295, 3⟩).source (GreyImage.blank ⟨4294967295, 3⟩) =
        .completed (GreyImage.blank ⟨4294967295, 3⟩) ∧
      (PlanarImage.blank ⟨0, 7⟩).check = .error .zeroSize ∧
      paint .bgra (PlanarImage.blank ⟨3, 3⟩).source 12
          ⟨Array.replicate 36 (0.5 : Float32), some (GreyImage.blank ⟨3, 3⟩)⟩ =
        .completed (Outputs.uniform .bgra ⟨3, 3⟩ 12 ⟨0, 0, 0⟩) := by
  obtain ⟨⟨hwidest, _⟩, ⟨hvalid, _⟩, _, hconverted⟩ := fresh_planes_are_usable ⟨4294967295, 3⟩
  obtain ⟨_, _, hempty, _⟩ := fresh_planes_are_usable ⟨0, 7⟩
  obtain ⟨_, _, _, hodd⟩ := fresh_planes_are_usable ⟨3, 3⟩
  refine ⟨hvalid.2 (by decide), hwidest.u.stride_eq, (hconverted (by decide)).1,
    (hempty (by decide)).1, ?_⟩
  exact (hodd (by decide)).2 .bgra 12 _ rfl Array.size_replicate

/-- The zeros of a fresh picture are not black: as bytes they are green. -/
example : (Yuv.pixel .bgra ⟨0, 0, 0⟩ : Pixel UInt8) = #v[0, 135, 0, 255] := by decide

end Chroma420
