import Chroma420.Proofs.Difference

/-!
# What one byte of a picture can change

Two runs are compared here: the conversion of a valid picture, and that of the same picture
with another value in one byte of one plane.  A byte has a column and a row in its plane,
because an index splits in one way by a stride.  A luma byte is then read for one coordinate
only, and a chroma byte for the coordinates of one block; behind the visible part of a row
a byte is not read at all.

So the outputs of both runs agree outside of the pixels and greys of these coordinates
(`one_byte_reaches_its_pixels`).  Chroma never reaches luma: a copy of luma, and the grey
beside float pixels, are the same in both runs whatever byte of chroma has changed.
-/

namespace Chroma420

/-- A byte of one of the planes of a picture.  Planar pictures have the planes `u` and `v`,
    semi-planar ones have `pairs`. -/
inductive PlaneByte where
  | luma (i : Nat)
  | u (i : Nat)
  | v (i : Nat)
  | pairs (i : Nat)
deriving DecidableEq, Repr

namespace Image

/-- The same picture with another value in one byte, if it has this byte. -/
def withByte : Image → PlaneByte → UInt8 → Image
  | planar image, .luma i, value => planar { image with luma := image.luma.overwrite i [value] }
  | planar image, .u i, value => planar { image with u := image.u.overwrite i [value] }
  | planar image, .v i, value => planar { image with v := image.v.overwrite i [value] }
  | semiPlanar image, .luma i, value =>
    semiPlanar { image with luma := image.luma.overwrite i [value] }
  | semiPlanar image, .pairs i, value =>
    semiPlanar { image with chroma := image.chroma.overwrite i [value] }
  | image, _, _ => image

/-! ### Places of bytes -/

/-- The column and the row of a luma byte among the luma samples. -/
def lumaPlace? (image : Image) : PlaneByte → Option (Nat × Nat)
  | .luma i => some (i % image.luma.stride.toNat, i / image.luma.stride.toNat)
  | _ => none

/-- The column and the row of a chroma byte in the chroma grid. -/
def chromaPlace? : Image → PlaneByte → Option (Nat × Nat)
  | planar image, .u i => some (i % image.u.stride.toNat, i / image.u.stride.toNat)
  | planar image, .v i => some (i % image.v.stride.toNat, i / image.v.stride.toNat)
  | semiPlanar image, .pairs i =>
    some (i % image.chroma.stride.toNat / 2, i / image.chroma.stride.toNat)
  | _, _ => none

def ReachesLuma (image : Image) (byte : PlaneByte) (p : Point) : Prop :=
  p.Inside image.size ∧ image.lumaPlace? byte = some (p.x.toNat, p.y.toNat)

/-- A visible coordinate belongs to the block of a chroma byte. -/
def ReachesChroma (image : Image) (byte : PlaneByte) (p : Point) : Prop :=
  p.Inside image.size ∧ ∃ cx cy, image.chromaPlace? byte = some (cx, cy) ∧
    (p.x.toNat = 2 * cx ∨ p.x.toNat = 2 * cx + 1) ∧ (p.y.toNat = 2 * cy ∨ p.y.toNat = 2 * cy + 1)

def Reaches (image : Image) (byte : PlaneByte) (p : Point) : Prop :=
  image.ReachesLuma byte p ∨ image.ReachesChroma byte p

/-- A byte lies behind the visible part of its row. -/
def IsPadding (image : Image) (byte : PlaneByte) : Prop :=
  (∃ x y, image.lumaPlace? byte = some (x, y) ∧ image.size.width.toNat ≤ x) ∨
    ∃ cx cy, image.chromaPlace? byte = some (cx, cy) ∧ image.size.chroma.width.toNat ≤ cx

variable {image : Image} {byte : PlaneByte}

theorem chromaPlace?_of_lumaPlace {place : Nat × Nat} (h : image.lumaPlace? byte = some place) :
    image.chromaPlace? byte = none := by
  cases byte with
  | luma i => cases image <;> rfl
  | u i => cases h
  | v i => cases h
  | pairs i => cases h

theorem not_reachesLuma_of_chroma {place : Nat × Nat} (h : image.chromaPlace? byte = some place)
    (p : Point) : ¬ image.ReachesLuma byte p := by
  rintro ⟨_, hplace⟩
  rw [chromaPlace?_of_lumaPlace hplace] at h
  cases h

theorem IsPadding.not_reaches (h : image.IsPadding byte) (p : Point) :
    ¬ image.Reaches byte p := by
  rcases h with ⟨x, y, hplace, hx⟩ | ⟨cx, cy, hplace, hx⟩
  · rintro (⟨hp, hreached⟩ | ⟨hp, cx, cy, hreached, _, _⟩)
    · rw [hplace] at hreached
      cases hreached
      have := UInt32.lt_iff_toNat_lt.1 hp.1
      omega
    · rw [chromaPlace?_of_lumaPlace hplace] at hreached
      cases hreached
  · rintro (hluma | ⟨hp, cx', cy', hreached, hcolumn, _⟩)
    · exact not_reachesLuma_of_chroma hplace p hluma
    · rw [hplace] at hreached
      cases hreached
      have hblock := UInt32.lt_iff_toNat_lt.1 hp.chroma.1
      rw [Point.toNat_chroma_x] at hblock
      omega

end Image

/-! ### Reading past the byte -/

theorem Plane.sameLayout_overwrite {α : Type} (plane : Plane α) (i : Nat) (new : List α) :
    plane.SameLayout (plane.overwrite i new) :=
  ⟨rfl, size_overwrite _ _ _⟩

@[simp] theorem Plane.stride_overwrite {α : Type} (plane : Plane α) (i : Nat) (new : List α) :
    (plane.overwrite i new).stride = plane.stride := rfl

/-- At every other column or row than its own, a byte is not found. -/
theorem Plane.getElem?_overwrite_of_ne {plane : Plane UInt8} {i x y : Nat} (value : UInt8)
    (hx : x < plane.stride.toNat)
    (hne : (i % plane.stride.toNat, i / plane.stride.toNat) ≠ (x, y)) :
    (plane.overwrite i [value]).samples[y * plane.stride.toNat + x]? =
      plane.samples[y * plane.stride.toNat + x]? := by
  have hindex : i ≠ y * plane.stride.toNat + x := by
    rintro rfl
    exact hne (Prod.ext_iff.2 (column_row_of_index hx))
  exact Array.getElem?_setIfInBounds_ne hindex

namespace Image

variable {image : Image} {byte : PlaneByte} {value : UInt8} {p : Point}

@[simp] theorem size_withByte (image : Image) (byte : PlaneByte) (value : UInt8) :
    (image.withByte byte value).size = image.size := by
  cases image <;> cases byte <;> rfl

@[simp] theorem check_withByte (image : Image) (byte : PlaneByte) (value : UInt8) :
    (image.withByte byte value).check = image.check := by
  have hsame := fun (plane : Plane UInt8) i => plane.sameLayout_overwrite i [value]
  cases image with
  | planar image =>
    cases byte with
    | luma i => simp only [withByte, check, PlanarImage.check, (hsame _ i).checkLuma_eq]
    | u i => simp only [withByte, check, PlanarImage.check, (hsame _ i).checkChroma_eq]
    | v i => simp only [withByte, check, PlanarImage.check, (hsame _ i).checkChroma_eq]
    | pairs i => rfl
  | semiPlanar image =>
    cases byte with
    | luma i => simp only [withByte, check, SemiPlanarImage.check, (hsame _ i).checkLuma_eq]
    | u i => rfl
    | v i => rfl
    | pairs i => simp only [withByte, check, SemiPlanarImage.check, (hsame _ i).checkChroma_eq]

theorem luma_withByte (image : Image) (byte : PlaneByte) (value : UInt8) :
    (image.withByte byte value).luma =
      match byte with
      | .luma i => image.luma.overwrite i [value]
      | _ => image.luma := by
  cases image <;> cases byte <;> rfl

theorem luma?_withByte (hcheck : image.check = .ok ()) (hp : p.Inside image.size)
    (hreach : ¬ image.ReachesLuma byte p) :
    (image.withByte byte value).source.luma? p = image.source.luma? p := by
  have hx := UInt32.lt_iff_toNat_lt.1 hp.1
  obtain ⟨_, _, hlaid⟩ := luma_laidOut hcheck
  have hrow := hlaid.row_fits
  rw [luma?_eq hcheck hp, luma?_eq (by simpa using hcheck) (by simpa using hp), luma_withByte]
  cases byte with
  | luma i =>
    apply Plane.getElem?_overwrite_of_ne value (by omega)
    intro hplace
    exact hreach ⟨hp, congrArg some hplace⟩
  | u i => rfl
  | v i => rfl
  | pairs i => rfl

theorem chroma?_withByte_planar {image : PlanarImage} (hcheck : image.check = .ok ()) {c : Point}
    (hc : c.Inside image.size.chroma)
    (hplace : (planar image).chromaPlace? byte ≠ some (c.x.toNat, c.y.toNat)) :
    ((planar image).withByte byte value).source.chroma? c = image.source.chroma? c := by
  have hx := UInt32.lt_iff_toNat_lt.1 hc.1
  obtain ⟨_, _, _, hu, hv⟩ := PlanarImage.check_eq_ok.1 hcheck
  have hrow := hu.row_fits
  have hrow' := hv.row_fits
  cases byte with
  | luma i => rfl
  | u i =>
    have hcolumn : c.x.toNat < image.u.stride.toNat := by omega
    have hread := Plane.getElem?_overwrite_of_ne value hcolumn fun h => hplace (congrArg some h)
    simp only [withByte, source, PlanarImage.chroma?_eq, Plane.stride_overwrite, hread]
  | v i =>
    have hcolumn : c.x.toNat < image.v.stride.toNat := by omega
    have hread := Plane.getElem?_overwrite_of_ne value hcolumn fun h => hplace (congrArg some h)
    simp only [withByte, source, PlanarImage.chroma?_eq, Plane.stride_overwrite, hread]
  | pairs i => rfl

theorem chroma?_withByte_semiPlanar {image : SemiPlanarImage} (hcheck : image.check = .ok ())
    {c : Point} (hc : c.Inside image.size.chroma)
    (hplace : (semiPlanar image).chromaPlace? byte ≠ some (c.x.toNat, c.y.toNat)) :
    ((semiPlanar image).withByte byte value).source.chroma? c = image.source.chroma? c := by
  have hx := UInt32.lt_iff_toNat_lt.1 hc.1
  obtain ⟨_, _, _, hlaid⟩ := SemiPlanarImage.check_eq_ok.1 hcheck
  have hrow := hlaid.row_fits
  cases byte with
  | luma i => rfl
  | u i => rfl
  | v i => rfl
  | pairs i =>
    -- both positions of a pair halve to its column, so the byte is in neither of them
    have hread : ∀ position < 2,
        (image.chroma.overwrite i [value]).samples[
            c.y.toNat * image.chroma.stride.toNat + 2 * c.x.toNat + position]? =
          image.chroma.samples[
            c.y.toNat * image.chroma.stride.toNat + 2 * c.x.toNat + position]? := by
      intro position hposition
      rw [Nat.add_assoc]
      apply Plane.getElem?_overwrite_of_ne value (by omega)
      intro h
      obtain ⟨hcolumn, hline⟩ := Prod.mk.inj h
      have hhalf : (2 * c.x.toNat + position) / 2 = c.x.toNat := by omega
      exact hplace (by rw [chromaPlace?, hcolumn, hline, hhalf])
    have hpositions := image.order.uPosition_add_vPosition
    have hu := hread image.order.uPosition (by omega)
    have hv := hread image.order.vPosition (by omega)
    have hcheck' := (check_withByte (semiPlanar image) (.pairs i) value).trans hcheck
    have hchanged := SemiPlanarImage.chroma?_eq hcheck' hc
    rw [SemiPlanarImage.chroma?_eq hcheck hc]
    refine hchanged.trans ?_
    simp only [Plane.stride_overwrite, hu, hv]

theorem chroma?_withByte (hcheck : image.check = .ok ()) {c : Point}
    (hc : c.Inside image.size.chroma)
    (hplace : image.chromaPlace? byte ≠ some (c.x.toNat, c.y.toNat)) :
    (image.withByte byte value).source.chroma? c = image.source.chroma? c := by
  cases image with
  | planar image => exact chroma?_withByte_planar hcheck hc hplace
  | semiPlanar image => exact chroma?_withByte_semiPlanar hcheck hc hplace

theorem sample?_withByte (hcheck : image.check = .ok ()) (hp : p.Inside image.size)
    (hreach : ¬ image.Reaches byte p) :
    (image.withByte byte value).source.sample? p = image.source.sample? p := by
  have hluma : ¬ image.ReachesLuma byte p := fun h => hreach (.inl h)
  have hchroma : image.chromaPlace? byte ≠ some (p.chroma.x.toNat, p.chroma.y.toNat) := by
    intro hplace
    rw [Point.toNat_chroma_x, Point.toNat_chroma_y] at hplace
    exact hreach (.inr ⟨hp, _, _, hplace, by omega, by omega⟩)
  rw [Source.sample?, Source.sample?, luma?_withByte hcheck hp hluma,
    chroma?_withByte hcheck hp.chroma hchroma]

end Image

/-- One byte of a valid picture changes nothing in its conversions but the pixels and greys of
    the coordinates that it reaches.  A luma byte reaches the coordinate of its column and
    row, and a chroma byte those of its block, where they are visible.  A byte behind the
    visible part of its row changes nothing, and a chroma byte changes no luma, neither in
    a copy nor beside float pixels. -/
theorem one_byte_reaches_its_pixels (image : Image) (hcheck : image.check = .ok ())
    (byte : PlaneByte) (value : UInt8) :
    (image.withByte byte value).check = .ok () ∧
      image.source.AlikeOutside (image.Reaches byte) (image.ReachesLuma byte)
        (image.withByte byte value).source ∧
      (image.IsPadding byte → image.source.Interchangeable (image.withByte byte value).source) ∧
      ∀ place, image.chromaPlace? byte = some place →
        (∀ before : GreyImage,
          copyLuma image.source before = copyLuma (image.withByte byte value).source before) ∧
        ∀ (order : ChannelOrder) (stride : UInt32) (before : Outputs Float32),
          (paint order image.source stride before).Alike (fun one two => one.grey = two.grey)
            (paint order (image.withByte byte value).source stride before) := by
  have hchanged : (image.withByte byte value).check = .ok () := by
    rw [image.check_withByte]
    exact hcheck
  have halike : image.source.AlikeOutside (image.Reaches byte) (image.ReachesLuma byte)
      (image.withByte byte value).source := by
    apply Image.alikeOutside hcheck hchanged (image.size_withByte byte value).symm
    · intro p hp hdiffer
      by_contra hreach
      exact hdiffer (Image.sample?_withByte hcheck hp hreach).symm
    · intro p hp hdiffer
      by_contra hreach
      exact hdiffer (Image.luma?_withByte hcheck hp hreach).symm
  refine ⟨hchanged, halike, ?_, ?_⟩
  · intro hpadding
    apply halike.interchangeable hpadding.not_reaches
    intro p hluma
    exact hpadding.not_reaches p (.inl hluma)
  · intro place hplace
    have hlumas := Image.not_reachesLuma_of_chroma hplace
    exact ⟨halike.copyLuma_eq hlumas, halike.float_greys_eq hlumas⟩

/-- The last byte of the first row of pairs is padding, and the third of the second row belongs
    to the block in the corner. -/
theorem odd_picture_byte_reaches_its_corner :
    oddPicture.check = .ok () ∧
      (oddPicture.IsPadding (.pairs 4) ∧
        oddPicture.source.Interchangeable (oddPicture.withByte (.pairs 4) 0).source) ∧
      oddPicture.Reaches (.pairs 7) ⟨2, 2⟩ ∧
      oddPicture.source.AlikeOutside (oddPicture.Reaches (.pairs 7))
        (oddPicture.ReachesLuma (.pairs 7)) (oddPicture.withByte (.pairs 7) 0).source ∧
      ∀ before : GreyImage, copyLuma oddPicture.source before =
        copyLuma (oddPicture.withByte (.pairs 7) 0).source before := by
  obtain ⟨_, _, hpadding, _⟩ := one_byte_reaches_its_pixels oddPicture rfl (.pairs 4) 0
  obtain ⟨_, hcorner, _, hchroma⟩ := one_byte_reaches_its_pixels oddPicture rfl (.pairs 7) 0
  have hbehind : oddPicture.IsPadding (.pairs 4) := .inr ⟨2, 0, rfl, by decide⟩
  refine ⟨rfl, ⟨hbehind, hpadding hbehind⟩, ?_, hcorner, (hchroma (1, 1) rfl).1⟩
  exact .inr ⟨by decide, 1, 1, rfl, by decide, by decide⟩

end Chroma420
