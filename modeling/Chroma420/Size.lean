/-!
# Sizes and coordinates of a 4:2:0 frame

A frame is a grid of luma samples, `width` columns by `height` rows.  Its chroma
has half the resolution in both directions: every pair of chroma samples belongs
to a block of two by two luma samples.  A frame of odd width or height still
needs chroma for its last column or row, so the chroma grid rounds up
(`Size.chroma`), while the coordinate of a block rounds down (`Point.chroma`).

Widths, heights and coordinates are 32-bit words.  Counts of samples are 64-bit
words, which hold every product of two of them.
-/

namespace Chroma420

/-! ### Sizes -/

/-- The visible width and height of a picture, in samples. -/
structure Size where
  width : UInt32
  height : UInt32
deriving DecidableEq, Ord, Repr

def halfUp (n : UInt32) : UInt32 := n / 2 + n % 2

theorem toNat_halfUp (n : UInt32) : (halfUp n).toNat = (n.toNat + 1) / 2 := by
  have := n.toNat_lt
  simp only [halfUp, UInt32.toNat_add, UInt32.toNat_div, UInt32.toNat_mod, UInt32.reduceToNat]
  omega

namespace Size

def isEmpty (s : Size) : Bool := s.width == 0 || s.height == 0

def area (s : Size) : UInt64 := s.width.toUInt64 * s.height.toUInt64

/-- The chroma grid of a frame of this size: half of both sides, rounded up. -/
def chroma (s : Size) : Size := ⟨halfUp s.width, halfUp s.height⟩

/-- The size as texts show it, `1280x721`. -/
def text (s : Size) : String := s!"{s.width.toNat}x{s.height.toNat}"

theorem isEmpty_eq_false {s : Size} :
    s.isEmpty = false ↔ 0 < s.width.toNat ∧ 0 < s.height.toNat := by
  simp [isEmpty, ← UInt32.toNat_inj, Nat.pos_iff_ne_zero]

theorem toNat_area (s : Size) : s.area.toNat = s.width.toNat * s.height.toNat := by
  have hw := s.width.toNat_lt
  have hh := s.height.toNat_lt
  have : s.width.toNat * s.height.toNat ≤ (2 ^ 32 - 1) * (2 ^ 32 - 1) :=
    Nat.mul_le_mul (by omega) (by omega)
  simp only [area, UInt64.toNat_mul, UInt32.toNat_toUInt64]
  exact Nat.mod_eq_of_lt (by omega)

theorem toNat_chroma_width (s : Size) : s.chroma.width.toNat = (s.width.toNat + 1) / 2 :=
  toNat_halfUp s.width

theorem toNat_chroma_height (s : Size) : s.chroma.height.toNat = (s.height.toNat + 1) / 2 :=
  toNat_halfUp s.height

end Size

/-! ### Coordinates -/

/-- The coordinate of a luma sample: column `x` of row `y`. -/
structure Point where
  x : UInt32
  y : UInt32
deriving DecidableEq, Repr

namespace Point

/-- The place of the chroma samples that belong to a luma coordinate, in the
    chroma grid. -/
def chroma (p : Point) : Point := ⟨p.x >>> 1, p.y >>> 1⟩

def Inside (p : Point) (s : Size) : Prop := p.x < s.width ∧ p.y < s.height

instance (p : Point) (s : Size) : Decidable (p.Inside s) :=
  inferInstanceAs (Decidable (_ ∧ _))

theorem toNat_chroma_x (p : Point) : p.chroma.x.toNat = p.x.toNat / 2 := by
  simp [chroma, Nat.shiftRight_eq_div_pow]

theorem toNat_chroma_y (p : Point) : p.chroma.y.toNat = p.y.toNat / 2 := by
  simp [chroma, Nat.shiftRight_eq_div_pow]

/-- The block of a visible sample lies in the chroma grid. -/
theorem Inside.chroma {p : Point} {s : Size} (h : p.Inside s) : p.chroma.Inside s.chroma := by
  obtain ⟨hx, hy⟩ := h
  rw [UInt32.lt_iff_toNat_lt] at hx hy
  constructor <;> rw [UInt32.lt_iff_toNat_lt]
  · rw [toNat_chroma_x, Size.toNat_chroma_width]; omega
  · rw [toNat_chroma_y, Size.toNat_chroma_height]; omega

end Point

/-- The visible coordinates of a picture, row by row from the top and from left
    to right in each row. -/
def Size.points (s : Size) : List Point :=
  (List.range s.height.toNat).flatMap fun y =>
    (List.range s.width.toNat).map fun x => ⟨x.toUInt32, y.toUInt32⟩

theorem Size.mem_points {s : Size} {p : Point} : p ∈ s.points ↔ p.Inside s := by
  have hw := s.width.toNat_lt
  have hh := s.height.toNat_lt
  simp only [points, List.mem_flatMap, List.mem_range, List.mem_map, Point.Inside,
    UInt32.lt_iff_toNat_lt]
  constructor
  · rintro ⟨y, hy, x, hx, rfl⟩
    simp only [Nat.toUInt32, UInt32.toNat_ofNat', Nat.mod_eq_of_lt (Nat.lt_trans hx hw),
      Nat.mod_eq_of_lt (Nat.lt_trans hy hh)]
    exact ⟨hx, hy⟩
  · rintro ⟨hx, hy⟩
    exact ⟨p.y.toNat, hy, p.x.toNat, hx, by simp [Nat.toUInt32]⟩

end Chroma420
