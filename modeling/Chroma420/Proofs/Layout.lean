import Mathlib.Algebra.Group.Nat.Defs
import Chroma420.Image
import Chroma420.Frame
import Chroma420.Converter

/-!
# Checks over the unbounded integers

The checks of the library compute lengths in words and refuse a product that does
not fit one.  For the sizes and strides that can occur nothing is ever lost: a
stride and a number of rows are 32-bit numbers, and a row of chroma pairs has at
most 2 ^ 32 samples.  Each check is therefore equal to a check that knows no
words (`Plane.check_shape`, `requireDestination_eq`), and the only product that can
be too large for its word is the number of elements of a colour frame.

What a check accepts is then a fact about plain numbers: enough samples to a row
and exactly as many rows as the picture has (`Plane.LaidOut`).  A check looks at the
shape of a plane only, its stride and its length, and never at its samples
(`Plane.SameLayout`).
-/

namespace Chroma420

/-! ### Sequences of checks -/

theorem check_bind_eq_ok {α : Type} {first : Except Rejection Unit}
    {rest : Unit → Except Rejection α} {a : α} :
    (first >>= rest) = .ok a ↔ first = .ok () ∧ rest () = .ok a := by
  cases first with
  | error cause => simp [bind, Except.bind]
  | ok u => simp [bind, Except.bind]

theorem check_bind_eq_error {α : Type} {first : Except Rejection Unit}
    {rest : Unit → Except Rejection α} {cause : Rejection} :
    (first >>= rest) = .error cause ↔
      first = .error cause ∨ (first = .ok () ∧ rest () = .error cause) := by
  cases first with
  | error other => simp [bind, Except.bind]
  | ok u => simp [bind, Except.bind]

/-! ### Products -/

theorem mul_lt_word {a b : Nat} (ha : a ≤ 2 ^ 32) (hb : b < 2 ^ 32) : a * b < 2 ^ 64 :=
  calc
    a * b ≤ 2 ^ 32 * (2 ^ 32 - 1) := Nat.mul_le_mul ha (by omega)
    _ < 2 ^ 64 := by decide

theorem toNat_mul_of_fits {a b : UInt64} (h : a.toNat * b.toNat < 2 ^ 64) :
    (a * b).toNat = a.toNat * b.toNat := by
  rw [UInt64.toNat_mul, Nat.mod_eq_of_lt h]

theorem requireFits_eq_ok {a b : UInt64} (h : a.toNat * b.toNat < 2 ^ 64) :
    requireFits a b = .ok () := by
  rw [requireFits, require_eq_ok]
  exact h

/-! ### Planes -/

/-- The causes that lie in a picture itself: it is empty, or a plane has too
    short rows or the wrong length. -/
def Rejection.IsLayout : Rejection → Prop
  | zeroSize | planeSize _ _ | planeMinimum _ _ => True
  | destinationSize _ | destinationMinimum _ | sizeOverflow | dimensions _ | missingGrey => False

theorem PlaneShape.check_eq_error {shape : PlaneShape} {kind : PlaneKind} {rowLength rows : Nat}
    {cause : Rejection} (h : shape.check kind rowLength rows = .error cause) : cause.IsLayout := by
  rw [check, require_bind_eq_error, require_eq_error] at h
  rcases h with ⟨_, rfl⟩ | ⟨_, _, rfl⟩
  · exact trivial
  · exact trivial

namespace Plane

variable {α : Type}

structure LaidOut (plane : Plane α) (rowLength rows : Nat) : Prop where
  row_fits : rowLength ≤ plane.stride.toNat
  size_eq : plane.samples.size = plane.stride.toNat * rows

theorem LaidOut.row_inside {plane : Plane α} {rowLength rows y : Nat}
    (h : plane.LaidOut rowLength rows) (hy : y < rows) :
    y * plane.stride.toNat + rowLength ≤ plane.samples.size := by
  have hrow := h.row_fits
  calc
    y * plane.stride.toNat + rowLength
      ≤ y * plane.stride.toNat + plane.stride.toNat := by omega
    _ = (y + 1) * plane.stride.toNat := (Nat.succ_mul _ _).symm
    _ ≤ rows * plane.stride.toNat := Nat.mul_le_mul_right _ hy
    _ = plane.samples.size := by rw [h.size_eq, Nat.mul_comm]

/-- An index has one column and one row. -/
theorem column_row_of_index {stride x y : Nat} (hx : x < stride) :
    (y * stride + x) % stride = x ∧ (y * stride + x) / stride = y := by
  constructor
  · rw [Nat.mul_add_mod_self_right, Nat.mod_eq_of_lt hx]
  · rw [Nat.add_comm, Nat.add_mul_div_right _ _ (by omega), Nat.div_eq_of_lt hx, Nat.zero_add]

section Tabulate

variable {stride : UInt32} {rows : Nat} {sample : Nat → Nat → α}

theorem tabulate_laidOut {rowLength : Nat} (h : rowLength ≤ stride.toNat) :
    (tabulate stride rows sample).LaidOut rowLength rows :=
  ⟨h, Array.size_ofFn⟩

theorem getElem?_tabulate {x y : Nat} (hx : x < stride.toNat) (hy : y < rows) :
    (tabulate stride rows sample).samples[y * stride.toNat + x]? = some (sample x y) := by
  have hlaid : (tabulate stride rows sample).LaidOut stride.toNat rows :=
    tabulate_laidOut (Nat.le_refl _)
  have hinside : y * stride.toNat + stride.toNat ≤ _ := hlaid.row_inside hy
  obtain ⟨hcolumn, hrow⟩ := @column_row_of_index stride.toNat x y hx
  rw [Array.getElem?_eq_getElem (by omega)]
  simp only [tabulate, Array.getElem_ofFn, hcolumn, hrow]

end Tabulate

/-- A row of the chroma grid with one or two components to a place fits its
    word, also for the widest frame. -/
theorem toNat_chromaRow (size : Size) {components : UInt64} (h : components.toNat ≤ 2) :
    (size.chroma.width.toUInt64 * components).toNat =
      size.chroma.width.toNat * components.toNat ∧
    size.chroma.width.toNat * components.toNat ≤ 2 ^ 32 := by
  have hwidth := size.width.toNat_lt
  have hhalf : size.chroma.width.toNat ≤ 2 ^ 31 := by
    rw [Size.toNat_chroma_width]; omega
  have hrow : size.chroma.width.toNat * components.toNat ≤ 2 ^ 31 * 2 :=
    Nat.mul_le_mul hhalf h
  refine ⟨?_, hrow⟩
  rw [toNat_mul_of_fits, UInt32.toNat_toUInt64]
  rw [UInt32.toNat_toUInt64]
  omega

/-- A check of a plane looks at its shape, and computes over plain numbers. -/
theorem check_shape (plane : Plane α) (kind : PlaneKind) {rowLength rows : UInt64}
    (hrow : rowLength.toNat ≤ 2 ^ 32) (hrows : rows.toNat < 2 ^ 32) :
    plane.check kind rowLength rows = plane.shape.check kind rowLength.toNat rows.toNat := by
  have hstride : plane.stride.toUInt64.toNat = plane.stride.toNat := UInt32.toNat_toUInt64 _
  have hwhole : plane.stride.toUInt64.toNat * rows.toNat < 2 ^ 64 := by
    rw [hstride]
    exact mul_lt_word (Nat.le_of_lt plane.stride.toNat_lt) hrows
  have hneeded : rowLength.toNat * rows.toNat < 2 ^ 64 := mul_lt_word hrow hrows
  simp only [check, requireFits_eq_ok hwhole, requireFits_eq_ok hneeded,
    toNat_mul_of_fits hwhole, toNat_mul_of_fits hneeded, UInt64.le_iff_toNat_le, hstride]
  rfl

theorem checkLuma_shape (plane : Plane α) (size : Size) :
    plane.checkLuma size = plane.shape.checkLuma size := by
  have hwidth : size.width.toUInt64.toNat = size.width.toNat := UInt32.toNat_toUInt64 _
  have hheight : size.height.toUInt64.toNat = size.height.toNat := UInt32.toNat_toUInt64 _
  have hcolumns := size.width.toNat_lt
  have hrows := size.height.toNat_lt
  rw [checkLuma, check_shape plane .luma (by omega) (by omega), hwidth, hheight]
  rfl

theorem checkChroma_shape (plane : Plane α) (size : Size) {components : UInt64}
    (h : components.toNat ≤ 2) :
    plane.checkChroma size components = plane.shape.checkChroma size components.toNat := by
  obtain ⟨hexact, hrow⟩ := toNat_chromaRow size h
  have hheight : size.chroma.height.toUInt64.toNat = size.chroma.height.toNat :=
    UInt32.toNat_toUInt64 _
  have hrows := size.chroma.height.toNat_lt
  rw [checkChroma, check_shape plane .chroma (by omega) (by omega), hexact, hheight]
  rfl

theorem shape_check_eq_ok {plane : Plane α} {kind : PlaneKind} {rowLength rows : Nat} :
    plane.shape.check kind rowLength rows = .ok () ↔ plane.LaidOut rowLength rows := by
  rw [PlaneShape.check, require_bind_eq_ok, require_eq_ok]
  constructor
  · rintro ⟨hfits, hsize⟩
    exact ⟨hfits, hsize.symm⟩
  · intro h
    exact ⟨h.row_fits, h.size_eq.symm⟩

theorem checkLuma_eq_ok {plane : Plane α} {size : Size} :
    plane.checkLuma size = .ok () ↔
      0 < size.width.toNat ∧ 0 < size.height.toNat ∧
        plane.LaidOut size.width.toNat size.height.toNat := by
  rw [checkLuma_shape, PlaneShape.checkLuma, require_bind_eq_ok, Size.isEmpty_eq_false,
    shape_check_eq_ok, and_assoc]

theorem checkChroma_eq_ok {plane : Plane α} {size : Size} {components : UInt64}
    (h : components.toNat ≤ 2) :
    plane.checkChroma size components = .ok () ↔
      plane.LaidOut (size.chroma.width.toNat * components.toNat) size.chroma.height.toNat := by
  rw [checkChroma_shape plane size h, PlaneShape.checkChroma, shape_check_eq_ok]

/-- A plane is refused for its layout only: its lengths never overflow. -/
theorem checkLuma_eq_error {plane : Plane α} {size : Size} {cause : Rejection}
    (h : plane.checkLuma size = .error cause) : cause.IsLayout := by
  rw [checkLuma_shape, PlaneShape.checkLuma, require_bind_eq_error] at h
  rcases h with ⟨_, rfl⟩ | ⟨_, hcheck⟩
  · exact trivial
  · exact PlaneShape.check_eq_error hcheck

theorem checkChroma_eq_error {plane : Plane α} {size : Size} {components : UInt64}
    {cause : Rejection} (h : components.toNat ≤ 2)
    (hcheck : plane.checkChroma size components = .error cause) : cause.IsLayout := by
  rw [checkChroma_shape plane size h, PlaneShape.checkChroma] at hcheck
  exact PlaneShape.check_eq_error hcheck

/-- Two planes have rows of one stride, and one number of samples. -/
structure SameLayout (first second : Plane α) : Prop where
  stride_eq : second.stride = first.stride
  length_eq : second.samples.size = first.samples.size

/-- A check of a plane does not look at its samples. -/
theorem SameLayout.check_eq {first second : Plane α} (h : first.SameLayout second)
    (kind : PlaneKind) (rowLength rows : UInt64) :
    second.check kind rowLength rows = first.check kind rowLength rows := by
  simp only [check, h.stride_eq, h.length_eq]

theorem SameLayout.checkLuma_eq {first second : Plane α} (h : first.SameLayout second)
    (size : Size) : second.checkLuma size = first.checkLuma size := by
  simp only [checkLuma, h.check_eq]

theorem SameLayout.checkChroma_eq {first second : Plane α} (h : first.SameLayout second)
    (size : Size) (components : UInt64) :
    second.checkChroma size components = first.checkChroma size components := by
  simp only [checkChroma, h.check_eq]

end Plane

/-! ### Pictures -/

theorem GreyImage.check_eq_ok {image : GreyImage} :
    image.check = .ok () ↔
      0 < image.size.width.toNat ∧ 0 < image.size.height.toNat ∧
        image.plane.LaidOut image.size.width.toNat image.size.height.toNat :=
  Plane.checkLuma_eq_ok

theorem PlanarImage.check_eq_ok {image : PlanarImage} :
    image.check = .ok () ↔
      0 < image.size.width.toNat ∧ 0 < image.size.height.toNat ∧
        image.luma.LaidOut image.size.width.toNat image.size.height.toNat ∧
        image.u.LaidOut image.size.chroma.width.toNat image.size.chroma.height.toNat ∧
        image.v.LaidOut image.size.chroma.width.toNat image.size.chroma.height.toNat := by
  have hone : (1 : UInt64).toNat ≤ 2 := by decide
  rw [check, check_bind_eq_ok, check_bind_eq_ok, Plane.checkLuma_eq_ok,
    Plane.checkChroma_eq_ok hone, Plane.checkChroma_eq_ok hone]
  simp only [UInt64.toNat_one, Nat.mul_one, and_assoc]

theorem SemiPlanarImage.check_eq_ok {image : SemiPlanarImage} :
    image.check = .ok () ↔
      0 < image.size.width.toNat ∧ 0 < image.size.height.toNat ∧
        image.luma.LaidOut image.size.width.toNat image.size.height.toNat ∧
        image.chroma.LaidOut (image.size.chroma.width.toNat * 2)
          image.size.chroma.height.toNat := by
  have htwo : (2 : UInt64).toNat ≤ 2 := by decide
  rw [check, check_bind_eq_ok, Plane.checkLuma_eq_ok, Plane.checkChroma_eq_ok htwo]
  simp only [UInt64.reduceToNat, and_assoc]

theorem Image.check_eq_error {image : Image} {cause : Rejection}
    (h : image.check = .error cause) : cause.IsLayout := by
  cases image with
  | planar image =>
    rw [check, PlanarImage.check, check_bind_eq_error, check_bind_eq_error] at h
    rcases h with hluma | ⟨_, hu | ⟨_, hv⟩⟩
    · exact Plane.checkLuma_eq_error hluma
    · exact Plane.checkChroma_eq_error (by decide) hu
    · exact Plane.checkChroma_eq_error (by decide) hv
  | semiPlanar image =>
    rw [check, SemiPlanarImage.check, check_bind_eq_error] at h
    rcases h with hluma | ⟨_, hchroma⟩
    · exact Plane.checkLuma_eq_error hluma
    · exact Plane.checkChroma_eq_error (by decide) hchroma

theorem requireGrey_eq_ok {size : Size} {grey : GreyImage} :
    requireGrey size grey = .ok () ↔ grey.check = .ok () ∧ size = grey.size := by
  rw [requireGrey, check_bind_eq_ok, requireSize, require_eq_ok]

/-! ### Destinations -/

theorem words_fit (length : UInt32) (size : Size) :
    length.toUInt64.toNat * size.height.toUInt64.toNat < 2 ^ 64 := by
  rw [UInt32.toNat_toUInt64, UInt32.toNat_toUInt64]
  exact mul_lt_word (Nat.le_of_lt length.toNat_lt) size.height.toNat_lt

theorem area_mul_four (size : Size) :
    size.area.toNat * (4 : UInt64).toNat = 4 * size.width.toNat * size.height.toNat := by
  rw [Size.toNat_area, Nat.mul_comm, ← Nat.mul_assoc]
  rfl

theorem requireColourFits_eq (size : Size) :
    requireColourFits size =
      require (4 * size.width.toNat * size.height.toNat < 2 ^ 64) .sizeOverflow := by
  rw [requireColourFits, requireFits_eq_ok (words_fit size.width size)]
  change requireFits size.area 4 = _
  rw [requireFits, area_mul_four]
  rfl

theorem toNat_rows (length : UInt32) (size : Size) :
    (length.toUInt64 * size.height.toUInt64).toNat = length.toNat * size.height.toNat := by
  rw [toNat_mul_of_fits (words_fit length size), UInt32.toNat_toUInt64, UInt32.toNat_toUInt64]

theorem toNat_mul_four (n : UInt32) : (n.toUInt64 * 4).toNat = 4 * n.toNat := by
  have hn := n.toNat_lt
  rw [UInt64.toNat_mul, UInt32.toNat_toUInt64]
  change n.toNat * 4 % 2 ^ 64 = _
  omega

theorem toNat_area_mul_four {size : Size}
    (h : 4 * size.width.toNat * size.height.toNat < 2 ^ 64) :
    (size.area * 4).toNat = 4 * size.width.toNat * size.height.toNat := by
  rw [toNat_mul_of_fits, area_mul_four]
  rw [area_mul_four]
  exact h

theorem requireDestination_eq (size : Size) (stride : UInt32) (length : Nat) :
    requireDestination size stride length = (do
      require (4 * size.width.toNat * size.height.toNat < 2 ^ 64) .sizeOverflow
      require (length = stride.toNat * size.height.toNat)
        (.destinationSize ⟨stride.toNat * size.height.toNat, length⟩)
      require (4 * size.width.toNat ≤ stride.toNat)
        (.destinationMinimum
          ⟨4 * size.width.toNat * size.height.toNat, stride.toNat * size.height.toNat⟩)) := by
  by_cases hfits : 4 * size.width.toNat * size.height.toNat < 2 ^ 64
  · simp only [requireDestination, requireColourFits_eq, requireFits_eq_ok (words_fit stride size),
      toNat_rows, toNat_area_mul_four hfits, UInt64.le_iff_toNat_le, toNat_mul_four,
      UInt32.toNat_toUInt64]
    rfl
  · -- the payload of the last requirement is never looked at
    simp only [requireDestination, requireColourFits_eq, require, if_neg hfits]
    rfl

theorem requireDestination_eq_ok {size : Size} {stride : UInt32} {length : Nat} :
    requireDestination size stride length = .ok () ↔
      4 * size.width.toNat * size.height.toNat < 2 ^ 64 ∧
        length = stride.toNat * size.height.toNat ∧ 4 * size.width.toNat ≤ stride.toNat := by
  rw [requireDestination_eq, require_bind_eq_ok, require_bind_eq_ok, require_eq_ok]

end Chroma420
