import Chroma420.Proofs.Difference

/-!
# Interleaved chroma

The two layouts of a picture hold the same samples in different places.  A semi-planar
picture interleaves a planar one if it has the same visible luma and, for every place of
the chroma grid, the two chroma samples side by side in the positions that its order
gives them.  Strides, and what is behind the visible part of a row, are its own.

Reading undoes the difference.  The second chroma plane becomes the other place of a pair,
and its stride the one stride of the pairs; both checks ask for as many rows as the chroma
grid has, so the last row and the last column of an odd frame are there in both layouts.
No conversion can then tell the two pictures apart (`interleaved_is_interchangeable`).

Every valid planar picture has such a counterpart, in either order and with any strides
that are long enough (`PlanarImage.interleave`).
-/

namespace Chroma420

/-- A semi-planar picture holds the visible samples of a planar one, and its planes have
    full rows. -/
structure SemiPlanarImage.Interleaves (packed : SemiPlanarImage) (image : PlanarImage) : Prop where
  size_eq : packed.size = image.size
  luma_laidOut : packed.luma.LaidOut image.size.width.toNat image.size.height.toNat
  chroma_laidOut : packed.chroma.LaidOut (2 * image.size.chroma.width.toNat)
    image.size.chroma.height.toNat
  luma : ∀ p : Point, p.Inside image.size →
    packed.luma.samples[p.y.toNat * packed.luma.stride.toNat + p.x.toNat]? =
      image.luma.samples[p.y.toNat * image.luma.stride.toNat + p.x.toNat]?
  u : ∀ c : Point, c.Inside image.size.chroma →
    packed.chroma.samples[c.y.toNat * packed.chroma.stride.toNat + 2 * c.x.toNat +
        packed.order.uPosition]? =
      image.u.samples[c.y.toNat * image.u.stride.toNat + c.x.toNat]?
  v : ∀ c : Point, c.Inside image.size.chroma →
    packed.chroma.samples[c.y.toNat * packed.chroma.stride.toNat + 2 * c.x.toNat +
        packed.order.vPosition]? =
      image.v.samples[c.y.toNat * image.v.stride.toNat + c.x.toNat]?

/-! ### A counterpart for every picture -/

namespace Plane

section Padded

variable {α : Type} {stride : UInt32} {rows width : Nat} {sample padding : Nat → Nat → α}

/-- A plane of full rows that show samples up to a width and padding behind it. -/
def padded (stride : UInt32) (rows width : Nat) (sample padding : Nat → Nat → α) : Plane α :=
  tabulate stride rows fun x y => if x < width then sample x y else padding x y

theorem padded_laidOut (h : width ≤ stride.toNat) :
    (padded stride rows width sample padding).LaidOut width rows :=
  tabulate_laidOut h

theorem getElem?_padded {x y : Nat} (h : width ≤ stride.toNat) (hx : x < width) (hy : y < rows) :
    (padded stride rows width sample padding).samples[y * stride.toNat + x]? =
      some (sample x y) := by
  rw [padded, getElem?_tabulate (by omega) hy, if_pos hx]

end Padded

/-- The sample at a column of a row, or zero where there is none. -/
def sampleAt (plane : Plane UInt8) (x y : Nat) : UInt8 :=
  (plane.samples[y * plane.stride.toNat + x]?).getD 0

theorem LaidOut.getElem?_eq_sampleAt {plane : Plane UInt8} {rowLength rows x y : Nat}
    (h : plane.LaidOut rowLength rows) (hx : x < rowLength) (hy : y < rows) :
    plane.samples[y * plane.stride.toNat + x]? = some (plane.sampleAt x y) := by
  have hinside := h.row_inside hy
  rw [sampleAt, Array.getElem?_eq_getElem (by omega)]
  rfl

end Plane

namespace PlanarImage

/-- The sample at a column of a row of pairs. -/
def pairSample (image : PlanarImage) (order : ChromaOrder) (x y : Nat) : UInt8 :=
  if x % 2 = order.uPosition then image.u.sampleAt (x / 2) y else image.v.sampleAt (x / 2) y

theorem pairSample_uPosition (image : PlanarImage) (order : ChromaOrder) (x y : Nat) :
    image.pairSample order (2 * x + order.uPosition) y = image.u.sampleAt x y := by
  have hpositions := order.uPosition_add_vPosition
  have hhalf : (2 * x + order.uPosition) / 2 = x := by omega
  rw [pairSample, if_pos (by omega), hhalf]

theorem pairSample_vPosition (image : PlanarImage) (order : ChromaOrder) (x y : Nat) :
    image.pairSample order (2 * x + order.vPosition) y = image.v.sampleAt x y := by
  have hpositions := order.uPosition_add_vPosition
  have hhalf : (2 * x + order.vPosition) / 2 = x := by omega
  rw [pairSample, if_neg (by omega), hhalf]

/-- The samples of a planar picture with both chroma planes in one.  A function says what is
    behind the visible part of the rows. -/
def interleave (image : PlanarImage) (order : ChromaOrder) (lumaStride pairStride : UInt32)
    (padding : Nat → Nat → UInt8) : SemiPlanarImage where
  size := image.size
  luma := Plane.padded lumaStride image.size.height.toNat image.size.width.toNat
    image.luma.sampleAt padding
  chroma := Plane.padded pairStride image.size.chroma.height.toNat
    (2 * image.size.chroma.width.toNat) (image.pairSample order) padding
  order := order

theorem interleave_interleaves {image : PlanarImage} (hcheck : image.check = .ok ())
    (order : ChromaOrder) {lumaStride pairStride : UInt32} (padding : Nat → Nat → UInt8)
    (hluma : image.size.width.toNat ≤ lumaStride.toNat)
    (hpairs : 2 * image.size.chroma.width.toNat ≤ pairStride.toNat) :
    (image.interleave order lumaStride pairStride padding).Interleaves image := by
  obtain ⟨_, _, hlaid, hu, hv⟩ := check_eq_ok.1 hcheck
  have hpositions := order.uPosition_add_vPosition
  refine ⟨rfl, Plane.padded_laidOut hluma, Plane.padded_laidOut hpairs, ?_, ?_, ?_⟩
  · intro p hp
    have hx := UInt32.lt_iff_toNat_lt.1 hp.1
    have hy := UInt32.lt_iff_toNat_lt.1 hp.2
    rw [hlaid.getElem?_eq_sampleAt hx hy]
    exact Plane.getElem?_padded hluma hx hy
  · intro c hc
    have hx := UInt32.lt_iff_toNat_lt.1 hc.1
    have hy := UInt32.lt_iff_toNat_lt.1 hc.2
    rw [hu.getElem?_eq_sampleAt hx hy, ← image.pairSample_uPosition order, Nat.add_assoc]
    exact Plane.getElem?_padded hpairs (by change 2 * c.x.toNat + order.uPosition < _; omega) hy
  · intro c hc
    have hx := UInt32.lt_iff_toNat_lt.1 hc.1
    have hy := UInt32.lt_iff_toNat_lt.1 hc.2
    rw [hv.getElem?_eq_sampleAt hx hy, ← image.pairSample_vPosition order, Nat.add_assoc]
    exact Plane.getElem?_padded hpairs (by change 2 * c.x.toNat + order.vPosition < _; omega) hy

end PlanarImage

/-! ### Reading both layouts -/

namespace SemiPlanarImage.Interleaves

variable {packed : SemiPlanarImage} {image : PlanarImage}

theorem check_eq_ok (h : packed.Interleaves image) (hcheck : image.check = .ok ()) :
    packed.check = .ok () := by
  obtain ⟨hwidth, hheight, _⟩ := PlanarImage.check_eq_ok.1 hcheck
  rw [SemiPlanarImage.check_eq_ok, h.size_eq, Nat.mul_comm]
  exact ⟨hwidth, hheight, h.luma_laidOut, h.chroma_laidOut⟩

theorem luma?_eq (h : packed.Interleaves image) (hcheck : image.check = .ok ()) {p : Point}
    (hp : p.Inside image.size) : packed.source.luma? p = image.source.luma? p := by
  have hpacked : p.Inside packed.size := by
    rw [h.size_eq]
    exact hp
  calc
    packed.source.luma? p
      = packed.luma.samples[p.y.toNat * packed.luma.stride.toNat + p.x.toNat]? :=
        @Image.luma?_eq (.semiPlanar packed) (h.check_eq_ok hcheck) p hpacked
    _ = image.luma.samples[p.y.toNat * image.luma.stride.toNat + p.x.toNat]? := h.luma p hp
    _ = image.source.luma? p := (@Image.luma?_eq (.planar image) hcheck p hp).symm

theorem chroma?_eq (h : packed.Interleaves image) (hcheck : image.check = .ok ()) {c : Point}
    (hc : c.Inside image.size.chroma) : packed.source.chroma? c = image.source.chroma? c := by
  have hpacked : c.Inside packed.size.chroma := by
    rw [h.size_eq]
    exact hc
  rw [SemiPlanarImage.chroma?_eq (h.check_eq_ok hcheck) hpacked, PlanarImage.chroma?_eq,
    h.u c hc, h.v c hc]

theorem sample?_eq (h : packed.Interleaves image) (hcheck : image.check = .ok ()) {p : Point}
    (hp : p.Inside image.size) : packed.source.sample? p = image.source.sample? p := by
  rw [Source.sample?, Source.sample?, h.luma?_eq hcheck hp, h.chroma?_eq hcheck hp.chroma]

end SemiPlanarImage.Interleaves

/-- A picture with interleaved chroma is valid if its planar counterpart is, has the same
    samples, and is converted to the same outputs with the same ending: in both colour
    domains, in every order and stride, and whatever the outputs were. -/
theorem interleaved_is_interchangeable {image : PlanarImage} {packed : SemiPlanarImage}
    (hcheck : image.check = .ok ()) (h : packed.Interleaves image) :
    packed.check = .ok () ∧
      (∀ p : Point, p.Inside image.size → ∃ sample, image.source.sample? p = some sample ∧
        packed.source.sample? p = some sample) ∧
      image.source.Interchangeable packed.source := by
  have hpacked := h.check_eq_ok hcheck
  refine ⟨hpacked, ?_, ?_⟩
  · intro p hp
    obtain ⟨sample, hsample⟩ := @Image.exists_sample (.planar image) hcheck p hp
    refine ⟨sample, hsample, ?_⟩
    rw [h.sample?_eq hcheck hp]
    exact hsample
  · have halike : image.source.AlikeOutside (fun _ => False) (fun _ => False) packed.source := by
      apply @Image.alikeOutside _ _ (.planar image) (.semiPlanar packed) hcheck hpacked
        h.size_eq.symm
      · intro p hp hdiffer
        exact hdiffer (h.sample?_eq hcheck hp).symm
      · intro p hp hdiffer
        exact hdiffer (h.luma?_eq hcheck hp).symm
    exact halike.interchangeable (fun _ => id) fun _ => id

/-- Three columns, three rows, and a stride of its own for every plane. -/
def oddPlanes : PlanarImage where
  size := ⟨3, 3⟩
  luma := Plane.tabulate 4 3 fun x y => UInt8.ofNat (40 * y + 15 * x + 20)
  u := Plane.tabulate 2 2 fun x y => UInt8.ofNat (90 * y + 30 * x + 60)
  v := Plane.tabulate 3 2 fun x y => UInt8.ofNat (200 - 50 * y - 20 * x)

theorem odd_planes_are_interchangeable :
    oddPlanes.check = .ok () ∧
      (oddPlanes.interleave .vu 3 5 fun x _ => UInt8.ofNat x).Interleaves oddPlanes ∧
      (oddPlanes.interleave .vu 3 5 fun x _ => UInt8.ofNat x).check = .ok () ∧
      oddPlanes.source.Interchangeable
        (oddPlanes.interleave .vu 3 5 fun x _ => UInt8.ofNat x).source := by
  have hpacked : (oddPlanes.interleave .vu 3 5 fun x _ => UInt8.ofNat x).Interleaves oddPlanes :=
    PlanarImage.interleave_interleaves rfl .vu _ (by decide) (by decide)
  obtain ⟨hcheck, _, hsame⟩ := interleaved_is_interchangeable rfl hpacked
  exact ⟨rfl, hpacked, hcheck, hsame⟩

end Chroma420
