import Chroma420.Proofs.Layout

/-!
# Reading laid-out pictures

Offsets into a plane are words that wrap, but at the coordinates of a frame they
never do: the start of a row stays 2 ^ 33 - 1 below the wrap, and what is added
to it is smaller (`Plane.offsetsExact`).

What is read is then an element of a plane at a plain index (`Image.luma?_eq`,
`PlanarImage.chroma?_eq`, `SemiPlanarImage.chroma?_eq`).

A picture whose check passes therefore has a luma row for every visible row, and
a luma sample with both chroma samples for every visible coordinate
(`Image.exists_sample`).  The height is where the check and the reading meet:
reading never looks at it, and only the exact length of each plane keeps the last
row, or the last row of chroma of an odd frame, inside its plane.
-/

namespace Chroma420

namespace Plane

variable {α : Type}

/-! ### Offsets -/

theorem toNat_rowStart_add (plane : Plane α) (y : UInt32) {n : UInt64}
    (hn : n.toNat ≤ 2 ^ 33 - 2) :
    (plane.rowStart y + n).toNat = y.toNat * plane.stride.toNat + n.toNat := by
  have hy := y.toNat_lt
  have hs := plane.stride.toNat_lt
  have hrow : y.toNat * plane.stride.toNat ≤ (2 ^ 32 - 1) * (2 ^ 32 - 1) :=
    Nat.mul_le_mul (by omega) (by omega)
  rw [UInt64.toNat_add, toNat_rowStart, Nat.mod_eq_of_lt]
  omega

theorem toNat_pairOffset {x : UInt32} : (x.toUInt64 * 2).toNat = 2 * x.toNat := by
  have hx := x.toNat_lt
  rw [UInt64.toNat_mul, UInt32.toNat_toUInt64]
  change x.toNat * 2 % 2 ^ 64 = 2 * x.toNat
  omega

theorem toNat_pairEnd (plane : Plane α) {x : UInt32} (y : UInt32) (hx : x.toNat < 2 ^ 31) :
    (plane.rowStart y + x.toUInt64 * 2 + 2).toNat =
      y.toNat * plane.stride.toNat + 2 * x.toNat + 2 := by
  have htwo : (x.toUInt64 * 2 + 2).toNat = 2 * x.toNat + 2 := by
    rw [UInt64.toNat_add, toNat_pairOffset]
    change (2 * x.toNat + 2) % 2 ^ 64 = 2 * x.toNat + 2
    omega
  rw [UInt64.add_assoc, toNat_rowStart_add, htwo, Nat.add_assoc]
  rw [htwo]
  omega

/-- The offsets at which a plane is read for a luma coordinate of a frame are the
    offsets over the unbounded integers. -/
structure OffsetsExact (plane : Plane α) (width : UInt32) (point : Point) : Prop where
  row_start : (plane.rowStart point.y).toNat = point.y.toNat * plane.stride.toNat
  row_end : (plane.rowStart point.y + width.toUInt64).toNat =
    point.y.toNat * plane.stride.toNat + width.toNat
  chroma : (plane.rowStart point.chroma.y + point.chroma.x.toUInt64).toNat =
    point.chroma.y.toNat * plane.stride.toNat + point.chroma.x.toNat
  pair_start : (plane.rowStart point.chroma.y + point.chroma.x.toUInt64 * 2).toNat =
    point.chroma.y.toNat * plane.stride.toNat + 2 * point.chroma.x.toNat
  pair_end : (plane.rowStart point.chroma.y + point.chroma.x.toUInt64 * 2 + 2).toNat =
    point.chroma.y.toNat * plane.stride.toNat + 2 * point.chroma.x.toNat + 2

theorem offsetsExact (plane : Plane α) (width : UInt32) (point : Point) :
    plane.OffsetsExact width point := by
  have hwidth := width.toNat_lt
  have hchroma : point.chroma.x.toNat < 2 ^ 31 := by
    have := point.x.toNat_lt
    rw [Point.toNat_chroma_x]; omega
  refine ⟨plane.toNat_rowStart point.y, ?_, ?_, ?_, plane.toNat_pairEnd _ hchroma⟩
  · rw [toNat_rowStart_add, UInt32.toNat_toUInt64]
    rw [UInt32.toNat_toUInt64]; omega
  · rw [toNat_rowStart_add, UInt32.toNat_toUInt64]
    rw [UInt32.toNat_toUInt64]; omega
  · rw [toNat_rowStart_add, toNat_pairOffset]
    rw [toNat_pairOffset]; omega

/-! ### Spans -/

theorem span?_eq_some {plane : Plane α} {start stop : UInt64} {first length : Nat}
    (hfirst : start.toNat = first) (hlast : stop.toNat = first + length)
    (hinside : first + length ≤ plane.samples.size) :
    plane.span? start stop = some ⟨plane.samples, first, length, hinside⟩ := by
  have hspan : start ≤ stop ∧ stop.toNat ≤ plane.samples.size := by
    rw [UInt64.le_iff_toNat_le]; omega
  rw [span?, dif_pos hspan]
  simp only [Option.some.injEq, Span.mk.injEq, true_and]
  omega

theorem row?_eq_some {plane : Plane α} {width y : UInt32}
    (hinside : y.toNat * plane.stride.toNat + width.toNat ≤ plane.samples.size) :
    plane.row? width y =
      some ⟨plane.samples, y.toNat * plane.stride.toNat, width.toNat, hinside⟩ := by
  have hoffsets := plane.offsetsExact width ⟨0, y⟩
  exact span?_eq_some hoffsets.row_start hoffsets.row_end hinside

/-- Where a row can be taken, all of its samples are. -/
theorem length_of_row? {plane : Plane α} {width y : UInt32} {row : Span α}
    (h : plane.row? width y = some row) : row.length = width.toNat := by
  have hoffsets := plane.offsetsExact width ⟨0, y⟩
  rw [row?, span?] at h
  split at h
  · cases h
    have hstart : (plane.rowStart y).toNat = y.toNat * plane.stride.toNat := hoffsets.row_start
    have hend : (plane.rowStart y + width.toUInt64).toNat =
        y.toNat * plane.stride.toNat + width.toNat := hoffsets.row_end
    simp only [hstart, hend, Nat.add_sub_cancel_left]
  · cases h

theorem at?_eq (plane : Plane α) (x y : UInt32) :
    plane.at? x y = plane.samples[y.toNat * plane.stride.toNat + x.toNat]? := by
  have hx := x.toNat_lt
  rw [at?, toNat_rowStart_add, UInt32.toNat_toUInt64]
  rw [UInt32.toNat_toUInt64]; omega

theorem pair?_eq_some {plane : Plane α} {x y : UInt32} (hx : x.toNat < 2 ^ 31)
    (hinside : y.toNat * plane.stride.toNat + 2 * x.toNat + 2 ≤ plane.samples.size) :
    plane.pair? x y =
      some ⟨plane.samples, y.toNat * plane.stride.toNat + 2 * x.toNat, 2, hinside⟩ := by
  refine span?_eq_some ?_ (plane.toNat_pairEnd y hx) hinside
  rw [toNat_rowStart_add, toNat_pairOffset]
  rw [toNat_pairOffset]; omega

/-! ### Laid-out planes -/

theorem LaidOut.exists_at {plane : Plane α} {rowLength rows : Nat} {point : Point}
    (h : plane.LaidOut rowLength rows) (hx : point.x.toNat < rowLength)
    (hy : point.y.toNat < rows) : ∃ sample, plane.at? point.x point.y = some sample := by
  have hrow := h.row_inside hy
  rw [at?_eq]
  exact ⟨_, Array.getElem?_eq_getElem (by omega)⟩

end Plane

theorem Span.get?_of_lt {α : Type} {span : Span α} {i : Nat} (hi : i < span.length) :
    span.get? i = span.samples[span.start + i]? := by
  rw [Span.get?, if_pos hi]

/-! ### Laid-out pictures -/

theorem PlanarImage.chroma?_eq (image : PlanarImage) (point : Point) :
    image.source.chroma? point = (do
      let u ← image.u.samples[point.y.toNat * image.u.stride.toNat + point.x.toNat]?
      let v ← image.v.samples[point.y.toNat * image.v.stride.toNat + point.x.toNat]?
      some (u, v)) := by
  simp only [source, Plane.at?_eq]

/-- The pairs of the chroma grid lie in their plane, and their columns are small enough for
    offsets that do not wrap. -/
theorem SemiPlanarImage.pair_inside {image : SemiPlanarImage} (h : image.check = .ok ())
    {point : Point} (hp : point.Inside image.size.chroma) :
    point.y.toNat * image.chroma.stride.toNat + 2 * point.x.toNat + 2 ≤
      image.chroma.samples.size ∧ point.x.toNat < 2 ^ 31 := by
  have hx := UInt32.lt_iff_toNat_lt.1 hp.1
  have hy := UInt32.lt_iff_toNat_lt.1 hp.2
  have hhalf : image.size.chroma.width.toNat ≤ 2 ^ 31 := by
    have hwidth := image.size.width.toNat_lt
    rw [Size.toNat_chroma_width]; omega
  obtain ⟨_, _, _, hchroma⟩ := check_eq_ok.1 h
  have hrow := hchroma.row_inside hy
  omega

/-- The two samples of a pair, in places that the order decides. -/
theorem SemiPlanarImage.chroma?_eq {image : SemiPlanarImage} (h : image.check = .ok ())
    {point : Point} (hp : point.Inside image.size.chroma) :
    image.source.chroma? point = (do
      let u ← image.chroma.samples[point.y.toNat * image.chroma.stride.toNat +
        2 * point.x.toNat + image.order.uPosition]?
      let v ← image.chroma.samples[point.y.toNat * image.chroma.stride.toNat +
        2 * point.x.toNat + image.order.vPosition]?
      some (u, v)) := by
  obtain ⟨hrow, hx⟩ := pair_inside h hp
  have hpair : image.chroma.pair? point.x point.y = some _ := Plane.pair?_eq_some hx hrow
  have hpositions := image.order.uPosition_add_vPosition
  have hu : image.order.uPosition < 2 := by omega
  have hv : image.order.vPosition < 2 := by omega
  simp only [source, hpair, Option.bind_eq_bind, Option.bind_some, Span.get?, if_pos hu, if_pos hv]

theorem PlanarImage.exists_chroma {image : PlanarImage} (h : image.check = .ok ()) {point : Point}
    (hp : point.Inside image.size.chroma) :
    ∃ u v, image.source.chroma? point = some (u, v) := by
  have hx := UInt32.lt_iff_toNat_lt.1 hp.1
  have hy := UInt32.lt_iff_toNat_lt.1 hp.2
  obtain ⟨_, _, _, hu, hv⟩ := check_eq_ok.1 h
  obtain ⟨u, hu⟩ := hu.exists_at hx hy
  obtain ⟨v, hv⟩ := hv.exists_at hx hy
  refine ⟨u, v, ?_⟩
  simp only [source, hu, hv]
  rfl

theorem SemiPlanarImage.exists_chroma {image : SemiPlanarImage} (h : image.check = .ok ())
    {point : Point} (hp : point.Inside image.size.chroma) :
    ∃ u v, image.source.chroma? point = some (u, v) := by
  obtain ⟨hrow, _⟩ := pair_inside h hp
  have hpositions := image.order.uPosition_add_vPosition
  rw [chroma?_eq h hp, Array.getElem?_eq_getElem (by omega), Array.getElem?_eq_getElem (by omega)]
  exact ⟨_, _, rfl⟩

namespace Image

variable {image : Image}

theorem luma_laidOut (h : image.check = .ok ()) :
    0 < image.size.width.toNat ∧ 0 < image.size.height.toNat ∧
      image.luma.LaidOut image.size.width.toNat image.size.height.toNat := by
  cases image with
  | planar image =>
    obtain ⟨hwidth, hheight, hluma, _, _⟩ := PlanarImage.check_eq_ok.1 h
    exact ⟨hwidth, hheight, hluma⟩
  | semiPlanar image =>
    obtain ⟨hwidth, hheight, hluma, _⟩ := SemiPlanarImage.check_eq_ok.1 h
    exact ⟨hwidth, hheight, hluma⟩

theorem width_pos (h : image.check = .ok ()) : 0 < image.size.width := by
  obtain ⟨hwidth, _⟩ := luma_laidOut h
  exact UInt32.lt_iff_toNat_lt.2 hwidth

theorem exists_lumaRow (h : image.check = .ok ()) {y : UInt32} (hy : y < image.size.height) :
    ∃ row, image.source.lumaRow? y = some row ∧ row.length = image.size.width.toNat := by
  obtain ⟨_, _, hluma⟩ := luma_laidOut h
  have hinside := hluma.row_inside (UInt32.lt_iff_toNat_lt.1 hy)
  rw [lumaRow?_source, Plane.row?_eq_some hinside]
  exact ⟨_, rfl, rfl⟩

/-- The luma of a visible coordinate, as an element of its plane. -/
theorem luma?_eq (h : image.check = .ok ()) {point : Point} (hp : point.Inside image.size) :
    image.source.luma? point =
      image.luma.samples[point.y.toNat * image.luma.stride.toNat + point.x.toNat]? := by
  obtain ⟨_, _, hluma⟩ := luma_laidOut h
  have hinside := hluma.row_inside (UInt32.lt_iff_toNat_lt.1 hp.2)
  rw [Source.luma?, lumaRow?_source, Plane.row?_eq_some hinside]
  exact Span.get?_of_lt (UInt32.lt_iff_toNat_lt.1 hp.1)

theorem exists_luma (h : image.check = .ok ()) {point : Point} (hp : point.Inside image.size) :
    ∃ luma, image.source.luma? point = some luma := by
  have hx := UInt32.lt_iff_toNat_lt.1 hp.1
  obtain ⟨_, _, hluma⟩ := luma_laidOut h
  have hinside := hluma.row_inside (UInt32.lt_iff_toNat_lt.1 hp.2)
  rw [luma?_eq h hp]
  exact ⟨_, Array.getElem?_eq_getElem (by omega)⟩

theorem exists_chroma (h : image.check = .ok ()) {point : Point}
    (hp : point.Inside image.size.chroma) :
    ∃ u v, image.source.chroma? point = some (u, v) := by
  cases image with
  | planar image => exact PlanarImage.exists_chroma h hp
  | semiPlanar image => exact SemiPlanarImage.exists_chroma h hp

theorem exists_sample (h : image.check = .ok ()) {point : Point} (hp : point.Inside image.size) :
    ∃ sample, image.source.sample? point = some sample := by
  obtain ⟨luma, hluma⟩ := exists_luma h hp
  obtain ⟨u, v, hchroma⟩ := exists_chroma h hp.chroma
  exact ⟨⟨luma, u, v⟩, Source.sample?_eq_some.2 ⟨hluma, hchroma⟩⟩

end Image

end Chroma420
