import Chroma420.Demo
import Chroma420.Proofs.Allocation

/-!
# Drawing the test frame

The test frame is given by functions: a ramp of luma and two sweeps of chroma, tabulated into
planes.  A program draws it in another way.  It makes a fresh picture, goes through the rows of
each plane in cells, and computes the samples of a cell in words (`TestFrame.draw?`).  Three things
can go wrong on the way: a plane cannot be divided into rows of no samples, a product or a sum may
not fit its word, and a quotient may be one by zero.

Drawing is right in general.  Cells that divide the rows without a rest leave no sample as it was,
so what is drawn is what the samples of the cells tabulate (`Plane.draw?_eq_tabulate`).  For the
test frame the two ways agree on all sizes, also on those that have no test frame
(`TestFrame.draw?_eq_image?`).

The values are parts of a whole on a scale.  A column is less than the width, and twice the column
of a block is too, also in the last column of an odd frame; so a quotient stays below the end of
its scale (`TestFrame.scaled_lt`), and the narrowing to a byte loses nothing.
-/

namespace Chroma420

/-! ### Drawing into a plane -/

namespace Plane

variable {β : Type}

/-- The cells of a plane by column and row: row by row from the top, and from left to right in each
    row. -/
def cells (columns rows : Nat) : List (Nat × Nat) :=
  (List.range rows).flatMap fun y => (List.range columns).map fun x => (x, y)

/-- Overwrites one cell, unless its content cannot be computed. -/
def drawCell? (stride breadth : Nat) (content? : Nat × Nat → Option (List β)) (samples : Array β)
    (cell : Nat × Nat) : Option (Array β) := do
  let new ← content? cell
  some (Chroma420.overwrite samples (cell.2 * stride + breadth * cell.1) new)

/-- Overwrites a plane cell by cell, with as many cells to a row as the stride has room for and as
    many rows as there are samples for.  A plane cannot be divided into rows of no samples. -/
def draw? (plane : Plane β) (breadth : Nat) (content? : Nat × Nat → Option (List β)) :
    Option (Plane β) := do
  let stride := plane.stride.toNat
  if stride = 0 then none
  else
    let samples ← (cells (stride / breadth) (plane.samples.size / stride)).foldlM
      (drawCell? stride breadth content?) plane.samples
    some { plane with samples }

theorem mem_cells {columns rows : Nat} {cell : Nat × Nat} :
    cell ∈ cells columns rows ↔ cell.1 < columns ∧ cell.2 < rows := by
  obtain ⟨x, y⟩ := cell
  simp only [cells, List.mem_flatMap, List.mem_range, List.mem_map, Prod.mk.injEq]
  constructor
  · rintro ⟨_, hy, _, hx, rfl, rfl⟩
    exact ⟨hx, hy⟩
  · rintro ⟨hx, hy⟩
    exact ⟨y, hy, x, hx, rfl, rfl⟩

/-- The samples of a function that belong to a cell. -/
def cellSamples (breadth : Nat) (sample : Nat → Nat → β) (cell : Nat × Nat) : List β :=
  (List.range breadth).map fun k => sample (breadth * cell.1 + k) cell.2

section Cells

variable {stride breadth columns rows : Nat} {content? : Nat × Nat → Option (List β)}
  {sample : Nat → Nat → β} {before : Array β}

theorem cell_row (hrow : breadth * columns ≤ stride) {cell : Nat × Nat}
    (hcell : cell ∈ cells columns rows) : breadth * cell.1 + breadth ≤ stride := by
  have hcolumn : breadth * (cell.1 + 1) ≤ breadth * columns :=
    Nat.mul_le_mul_left _ (mem_cells.1 hcell).1
  rw [Nat.mul_succ] at hcolumn
  omega

theorem cell_inside (hrow : breadth * columns ≤ stride) (hsize : rows * stride ≤ before.size)
    {cell : Nat × Nat} (hcell : cell ∈ cells columns rows) :
    cell.2 * stride + breadth * cell.1 + breadth ≤ before.size := by
  have hcolumn := cell_row hrow hcell
  have hrows : (cell.2 + 1) * stride ≤ rows * stride :=
    Nat.mul_le_mul_right _ (mem_cells.1 hcell).2
  rw [Nat.succ_mul] at hrows
  omega

/-- The cells of a grid can be drawn if their contents can be computed, and then all of them are
    filled. -/
theorem drawCells_filled (hrow : breadth * columns ≤ stride) (hsize : rows * stride ≤ before.size)
    (hcontent : ∀ cell ∈ cells columns rows,
      content? cell = some (cellSamples breadth sample cell)) :
    ∃ after, (cells columns rows).foldlM (drawCell? stride breadth content?) before = some after ∧
      Filled breadth (fun cell => cell.2 * stride + breadth * cell.1)
        (cellSamples breadth sample) (· ∈ cells columns rows) before after := by
  apply exists_foldlM_of_step (fun visited => Filled breadth
    (fun cell : Nat × Nat => cell.2 * stride + breadth * cell.1) (cellSamples breadth sample)
    visited before) Filled.none_visited
  intro cell hcell visited mid hvisited hfilled
  have hbreadth : (cellSamples breadth sample cell).length = breadth := by
    rw [cellSamples, List.length_map, List.length_range]
  have hroom : cell.2 * stride + breadth * cell.1 + breadth ≤ mid.size := by
    rw [hfilled.size_eq]
    exact cell_inside hrow hsize hcell
  refine ⟨_, by rw [drawCell?, hcontent cell hcell]; rfl, hfilled.write cell hbreadth hroom ?_⟩
  intro other hother hne
  exact cells_apart (cell_row hrow (hvisited other hother)) (cell_row hrow hcell)
    fun hsame => hne (Prod.ext hsame.1 hsame.2)

end Cells

/-- Cells that divide the rows without a rest, filled with the samples of a function, make the
    plane that the function tabulates. -/
theorem draw?_eq_tabulate {plane : Plane β} {breadth columns rows : Nat}
    {content? : Nat × Nat → Option (List β)} {sample : Nat → Nat → β}
    (hstride : plane.stride.toNat = breadth * columns) (hpositive : 0 < plane.stride.toNat)
    (hsize : plane.samples.size = plane.stride.toNat * rows)
    (hcontent : ∀ cell ∈ cells columns rows,
      content? cell = some (cellSamples breadth sample cell)) :
    plane.draw? breadth content? = some (tabulate plane.stride rows sample) := by
  have hbreadth : 0 < breadth := Nat.pos_of_mul_pos_right (hstride ▸ hpositive)
  have hcolumns : plane.stride.toNat / breadth = columns := by
    rw [hstride, Nat.mul_div_cancel_left _ hbreadth]
  have hrows : plane.samples.size / plane.stride.toNat = rows := by
    rw [hsize, Nat.mul_div_cancel_left _ hpositive]
  obtain ⟨after, hafter, hfilled⟩ := drawCells_filled (Nat.le_of_eq hstride.symm)
    (Nat.le_of_eq ((Nat.mul_comm _ _).trans hsize.symm)) hcontent
  have hsame : after = (tabulate plane.stride rows sample).samples := by
    apply Array.ext_getElem?
    intro i
    by_cases hi : i < plane.samples.size
    · -- the row of the index, its column, the cell of the column and the place in the cell
      have hrow : i / plane.stride.toNat < rows := Nat.div_lt_of_lt_mul (hsize ▸ hi)
      have hcolumn : i % plane.stride.toNat < plane.stride.toNat := Nat.mod_lt i hpositive
      have hcell : i % plane.stride.toNat / breadth < columns :=
        Nat.div_lt_of_lt_mul (hstride ▸ hcolumn)
      have hk : i % plane.stride.toNat % breadth < breadth := Nat.mod_lt _ hbreadth
      have hinside := hfilled.inside (i % plane.stride.toNat / breadth, i / plane.stride.toNat)
        (mem_cells.2 ⟨hcell, hrow⟩) _ hk
      have htabulated := @getElem?_tabulate _ plane.stride rows sample _ _ hcolumn hrow
      rw [Nat.add_assoc, Nat.div_add_mod, Nat.div_add_mod'] at hinside
      rw [Nat.div_add_mod'] at htabulated
      rw [hinside, htabulated, cellSamples, List.getElem?_map, List.getElem?_range hk,
        Option.map_some, Nat.div_add_mod]
    · have htabulated : (tabulate plane.stride rows sample).samples.size = plane.samples.size := by
        rw [hsize]
        exact Array.size_ofFn
      rw [Array.getElem?_eq_none (by rw [hfilled.size_eq]; omega),
        Array.getElem?_eq_none (by omega)]
  simp only [draw?, if_neg (Nat.ne_of_gt hpositive), hcolumns, hrows, hafter, hsame]
  rfl

end Plane

/-! ### Drawing a test frame -/

/-- The product of two counts, if it is a word. -/
def product? (a b : Nat) : Option Nat := if a * b < UInt64.size then some (a * b) else none

def sum? (a b : Nat) : Option Nat := if a + b < UInt64.size then some (a + b) else none

def quotient? (a b : Nat) : Option Nat := if b = 0 then none else some (a / b)

theorem product?_eq {a b : Nat} (h : a * b < 2 ^ 64) : product? a b = some (a * b) := if_pos h

theorem sum?_eq {a b : Nat} (h : a + b < 2 ^ 64) : sum? a b = some (a + b) := if_pos h

theorem quotient?_eq {a b : Nat} (h : 0 < b) : quotient? a b = some (a / b) :=
  if_neg (Nat.ne_of_gt h)

namespace TestFrame

variable {size : Size}

/-- A sample of luma, computed in words. -/
def luma? (size : Size) (x y : Nat) : Option UInt8 := do
  let ramp ← quotient? (← product? x 219) size.width.toNat
  let value ← sum? (← sum? 16 ramp) (y % 2)
  some value.toUInt8

def downSweep? (size : Size) (y : Nat) : Option UInt8 := do
  let value ← quotient? (← product? y 255) size.chroma.height.toNat
  some value.toUInt8

def acrossSweep? (size : Size) (x : Nat) : Option UInt8 := do
  let value ← quotient? (← product? (← product? x 2) 255) size.width.toNat
  some value.toUInt8

/-- The test frame, drawn sample by sample and pair by pair into a fresh picture. -/
def draw? (size : Size) : Option SemiPlanarImage := do
  let fresh := SemiPlanarImage.blank size .vu
  let luma ← fresh.luma.draw? 1 fun (x, y) => do
    some [← luma? size x y]
  let chroma ← fresh.chroma.draw? 2 fun (x, y) => do
    some [← downSweep? size y, ← acrossSweep? size x]
  some { fresh with luma, chroma }

theorem luma?_eq {x y : Nat} (hx : x < size.width.toNat) :
    luma? size x y = some (luma size x y) := by
  have hwidth := size.width.toNat_lt
  have hramp : x * 219 / size.width.toNat ≤ x * 219 := Nat.div_le_self _ _
  rw [luma?, product?_eq (by omega)]
  simp only [Option.bind_eq_bind, Option.bind_some]
  rw [quotient?_eq (by omega), Option.bind_some, sum?_eq (by omega), Option.bind_some,
    sum?_eq (by omega), Option.bind_some, luma]

theorem downSweep?_eq {y : Nat} (hy : y < size.chroma.height.toNat) :
    downSweep? size y = some (downSweep size y) := by
  have hheight := size.chroma.height.toNat_lt
  rw [downSweep?, product?_eq (by omega)]
  simp only [Option.bind_eq_bind, Option.bind_some]
  rw [quotient?_eq (by omega), Option.bind_some, downSweep]

theorem acrossSweep?_eq {x : Nat} (hx : 2 * x < size.width.toNat) :
    acrossSweep? size x = some (acrossSweep size x) := by
  have hwidth := size.width.toNat_lt
  rw [acrossSweep?, product?_eq (by omega)]
  simp only [Option.bind_eq_bind, Option.bind_some]
  rw [product?_eq (by omega), Option.bind_some, quotient?_eq (by omega), Option.bind_some,
    acrossSweep]

theorem chroma_first (size : Size) (x y : Nat) : chroma size (2 * x) y = downSweep size y := by
  rw [chroma, if_pos (by omega)]

theorem chroma_second (size : Size) (x y : Nat) :
    chroma size (2 * x + 1) y = acrossSweep size x := by
  have hhalf : (2 * x + 1) / 2 = x := by omega
  rw [chroma, if_neg (by omega), hhalf]

/-- Every luma sample is a cell of its own. -/
theorem draw?_luma (hwidth : 0 < size.width.toNat) :
    (SemiPlanarImage.blank size .vu).luma.draw? 1
        (fun cell => do some [← luma? size cell.1 cell.2]) =
      some (Plane.tabulate size.width size.height.toNat (luma size)) := by
  apply Plane.draw?_eq_tabulate (Nat.one_mul _).symm hwidth
  · change (Array.replicate _ _).size = size.width.toNat * size.height.toNat
    rw [Array.size_replicate, Size.toNat_area]
  · intro cell hcell
    have hx : cell.1 < size.width.toNat := (Plane.mem_cells.1 hcell).1
    rw [luma?_eq hx]
    simp [Plane.cellSamples, List.range_succ]

/-- Every pair of chroma samples is a cell. -/
theorem draw?_chroma (hwidth : 0 < size.width.toNat) (hnarrow : size.width.toNat ≠ 2 ^ 32 - 1) :
    (SemiPlanarImage.blank size .vu).chroma.draw? 2
        (fun cell => do some [← downSweep? size cell.2, ← acrossSweep? size cell.1]) =
      some (Plane.tabulate (SemiPlanarImage.pairRow size).toUInt32 size.chroma.height.toNat
        (chroma size)) := by
  have hstride := SemiPlanarImage.toNat_pairStride hnarrow
  apply Plane.draw?_eq_tabulate hstride
  · change 0 < (SemiPlanarImage.pairRow size).toUInt32.toNat
    omega
  · change (Array.replicate _ _).size = (SemiPlanarImage.pairRow size).toUInt32.toNat * _
    rw [Array.size_replicate, SemiPlanarImage.toNat_pairCount, hstride, Size.toNat_chroma_height]
  · intro cell hcell
    obtain ⟨hcolumn, hrow⟩ := Plane.mem_cells.1 hcell
    rw [downSweep?_eq hrow, acrossSweep?_eq (by omega)]
    simp [Plane.cellSamples, List.range_succ, chroma_first, chroma_second]

/-- Drawing and tabulating agree on every size.  Neither gives a frame if the rows of pairs have
    no stride, and in a frame with pairs nothing can go wrong. -/
theorem draw?_eq_image? (size : Size) : draw? size = image? size := by
  by_cases hstride : (SemiPlanarImage.pairRow size).toUInt32 = 0
  · have hchroma : ∀ content?, (SemiPlanarImage.blank size .vu).chroma.draw? 2 content? = none := by
      intro content?
      rw [Plane.draw?, if_pos]
      change (SemiPlanarImage.pairRow size).toUInt32.toNat = 0
      rw [hstride]
      rfl
    simp only [draw?, image?, hchroma, hstride]
    simp
  · have hne : (SemiPlanarImage.pairRow size).toUInt32.toNat ≠ 0 := fun h =>
      hstride (UInt32.toNat_inj.1 h)
    have hnarrow : size.width.toNat ≠ 2 ^ 32 - 1 := fun h =>
      hstride (SemiPlanarImage.pairStride_of_widest h)
    have hwidth : 0 < size.width.toNat := by
      rw [SemiPlanarImage.toNat_pairStride hnarrow] at hne
      omega
    rw [draw?, image?]
    simp only [draw?_luma hwidth, draw?_chroma hwidth hnarrow, if_neg hstride]
    rfl

/-! ### The samples of a test frame -/

/-- A part of a whole, on a scale, does not reach the end of the scale. -/
theorem scaled_lt {part whole scale : Nat} (hpart : part < whole) (hscale : 0 < scale) :
    part * scale / whole < scale :=
  Nat.div_lt_of_lt_mul (Nat.mul_lt_mul_of_pos_right hpart hscale)

theorem toNat_toUInt8 {n : Nat} (h : n < 256) : n.toUInt8.toNat = n := by
  rw [Nat.toUInt8, UInt8.toNat_ofNat', Nat.mod_eq_of_lt h]

theorem toNat_luma {x y : Nat} (hx : x < size.width.toNat) :
    (luma size x y).toNat = 16 + 219 * x / size.width.toNat + y % 2 ∧
      16 ≤ (luma size x y).toNat ∧ (luma size x y).toNat ≤ 235 := by
  have hramp := @scaled_lt x size.width.toNat 219 hx (by decide)
  rw [luma, toNat_toUInt8 (by omega), Nat.mul_comm 219, Nat.add_assoc]
  exact ⟨rfl, Nat.le_add_right _ _, by omega⟩

theorem luma_rises {x x' : Nat} (y : Nat) (hle : x ≤ x') (hx' : x' < size.width.toNat) :
    luma size x y ≤ luma size x' y := by
  have hramp : 219 * x / size.width.toNat ≤ 219 * x' / size.width.toNat :=
    Nat.div_le_div_right (Nat.mul_le_mul_left _ hle)
  obtain ⟨hluma, _⟩ := @toNat_luma size x y (Nat.lt_of_le_of_lt hle hx')
  obtain ⟨hluma', _⟩ := @toNat_luma size x' y hx'
  rw [UInt8.le_iff_toNat_le]
  omega

theorem toNat_downSweep {y : Nat} (hy : y < (size.height.toNat + 1) / 2) :
    (downSweep size y).toNat = 255 * y / ((size.height.toNat + 1) / 2) ∧
      (downSweep size y).toNat ≤ 254 := by
  have hheight := size.toNat_chroma_height
  have hsweep := @scaled_lt y _ 255 hy (by decide)
  rw [downSweep, hheight, toNat_toUInt8 (by omega), Nat.mul_comm 255]
  exact ⟨rfl, Nat.le_of_lt_succ hsweep⟩

theorem downSweep_rises {y y' : Nat} (hle : y ≤ y') (hy' : y' < (size.height.toNat + 1) / 2) :
    downSweep size y ≤ downSweep size y' := by
  rw [UInt8.le_iff_toNat_le, (toNat_downSweep (Nat.lt_of_le_of_lt hle hy')).1,
    (toNat_downSweep hy').1]
  exact Nat.div_le_div_right (Nat.mul_le_mul_left _ hle)

theorem toNat_acrossSweep {x : Nat} (hx : 2 * x < size.width.toNat) :
    (acrossSweep size x).toNat = 510 * x / size.width.toNat ∧
      (acrossSweep size x).toNat ≤ 254 := by
  have hscale : x * 2 * 255 = 510 * x := by omega
  have hsweep := @scaled_lt (x * 2) size.width.toNat 255 (by omega) (by decide)
  rw [acrossSweep, toNat_toUInt8 (by omega)]
  exact ⟨by rw [hscale], Nat.le_of_lt_succ hsweep⟩

theorem acrossSweep_rises {x x' : Nat} (hle : x ≤ x') (hx' : 2 * x' < size.width.toNat) :
    acrossSweep size x ≤ acrossSweep size x' := by
  rw [UInt8.le_iff_toNat_le, (@toNat_acrossSweep size x (by omega)).1,
    (toNat_acrossSweep hx').1]
  exact Nat.div_le_div_right (Nat.mul_le_mul_left _ hle)

end TestFrame

namespace SemiPlanarImage

/-- The luma sample at a column of a row. -/
def lumaAt? (image : SemiPlanarImage) (x y : Nat) : Option UInt8 :=
  image.luma.samples[y * image.luma.stride.toNat + x]?

/-- The chroma samples of a pair at a column of a row, as they follow each other. -/
def pairAt? (image : SemiPlanarImage) (x y : Nat) : Option (UInt8 × UInt8) := do
  let first ← image.chroma.samples[y * image.chroma.stride.toNat + 2 * x]?
  let second ← image.chroma.samples[y * image.chroma.stride.toNat + 2 * x + 1]?
  some (first, second)

/-- A picture has the samples of a test frame and no others: they have the values that the ramp of
    luma and the two sweeps of chroma have over the unbounded integers, and they rise with them. -/
structure IsTestFrame (image : SemiPlanarImage) (size : Size) : Prop where
  luma_tight : image.luma.stride = size.width ∧
    image.luma.samples.size = size.width.toNat * size.height.toNat
  luma : ∀ x y, x < size.width.toNat → y < size.height.toNat →
    ∃ luma, image.lumaAt? x y = some luma ∧
      luma.toNat = 16 + 219 * x / size.width.toNat + y % 2 ∧
      16 ≤ luma.toNat ∧ luma.toNat ≤ 235
  luma_rises : ∀ x x' y luma luma', x ≤ x' → x' < size.width.toNat →
    y < size.height.toNat → image.lumaAt? x y = some luma →
    image.lumaAt? x' y = some luma' → luma ≤ luma'
  pairs_tight : image.chroma.stride.toNat = 2 * ((size.width.toNat + 1) / 2) ∧
    image.chroma.samples.size =
      2 * ((size.width.toNat + 1) / 2) * ((size.height.toNat + 1) / 2)
  pair : ∀ cx cy, cx < (size.width.toNat + 1) / 2 → cy < (size.height.toNat + 1) / 2 →
    ∃ first second, image.pairAt? cx cy = some (first, second) ∧
      first.toNat = 255 * cy / ((size.height.toNat + 1) / 2) ∧ first.toNat ≤ 254 ∧
      second.toNat = 510 * cx / size.width.toNat ∧ second.toNat ≤ 254
  first_rises : ∀ cx cy cy' pair pair', cy ≤ cy' → cx < (size.width.toNat + 1) / 2 →
    cy' < (size.height.toNat + 1) / 2 → image.pairAt? cx cy = some pair →
    image.pairAt? cx cy' = some pair' → pair.1 ≤ pair'.1
  second_rises : ∀ cx cx' cy pair pair', cx ≤ cx' → cx' < (size.width.toNat + 1) / 2 →
    cy < (size.height.toNat + 1) / 2 → image.pairAt? cx cy = some pair →
    image.pairAt? cx' cy = some pair' → pair.2 ≤ pair'.2
  /-- The first sample of a pair is read as V and the second as U. -/
  sample : ∀ p : Point, p.Inside size →
    ∃ luma v u, image.lumaAt? p.x.toNat p.y.toNat = some luma ∧
      image.pairAt? (p.x.toNat / 2) (p.y.toNat / 2) = some (v, u) ∧
      image.source.sample? p = some ⟨luma, u, v⟩

end SemiPlanarImage

namespace TestFrame

/-- The test frame of a size that has one. -/
def image (size : Size) : SemiPlanarImage where
  size
  luma := Plane.tabulate size.width size.height.toNat (luma size)
  chroma := Plane.tabulate (SemiPlanarImage.pairRow size).toUInt32 size.chroma.height.toNat
    (chroma size)
  order := .vu

theorem image?_eq (hwidth : 0 < size.width.toNat) (hnarrow : size.width.toNat ≠ 2 ^ 32 - 1) :
    image? size = some (image size) := by
  have hstride : (SemiPlanarImage.pairRow size).toUInt32 ≠ 0 := by
    rw [Ne, ← UInt32.toNat_inj, SemiPlanarImage.toNat_pairStride hnarrow]
    change ¬ 2 * ((size.width.toNat + 1) / 2) = 0
    omega
  exact if_neg hstride

theorem lumaAt?_image {x y : Nat} (hx : x < size.width.toNat) (hy : y < size.height.toNat) :
    (image size).lumaAt? x y = some (luma size x y) :=
  Plane.getElem?_tabulate hx hy

theorem pair_image (hnarrow : size.width.toNat ≠ 2 ^ 32 - 1) {x y : Nat}
    (hx : x < (size.width.toNat + 1) / 2) (hy : y < (size.height.toNat + 1) / 2) :
    (image size).chroma.samples[y * (image size).chroma.stride.toNat + 2 * x]? =
        some (downSweep size y) ∧
      (image size).chroma.samples[y * (image size).chroma.stride.toNat + 2 * x + 1]? =
        some (acrossSweep size x) := by
  have hstride := SemiPlanarImage.toNat_pairStride hnarrow
  have hrow : y < size.chroma.height.toNat := by
    rw [Size.toNat_chroma_height]
    exact hy
  constructor
  · rw [← chroma_first size x y]
    exact Plane.getElem?_tabulate (by omega) hrow
  · rw [← chroma_second size x y, Nat.add_assoc]
    exact Plane.getElem?_tabulate (by omega) hrow

theorem pairAt?_image (hnarrow : size.width.toNat ≠ 2 ^ 32 - 1) {x y : Nat}
    (hx : x < (size.width.toNat + 1) / 2) (hy : y < (size.height.toNat + 1) / 2) :
    (image size).pairAt? x y = some (downSweep size y, acrossSweep size x) := by
  obtain ⟨hfirst, hsecond⟩ := pair_image hnarrow hx hy
  rw [SemiPlanarImage.pairAt?, hfirst, hsecond]
  rfl

theorem check_image (hwidth : 0 < size.width.toNat) (hnarrow : size.width.toNat ≠ 2 ^ 32 - 1)
    (hheight : 0 < size.height.toNat) : (image size).check = .ok () := by
  have hstride := SemiPlanarImage.toNat_pairStride hnarrow
  rw [SemiPlanarImage.check_eq_ok]
  refine ⟨hwidth, hheight, Plane.tabulate_laidOut (Nat.le_refl _), Plane.tabulate_laidOut ?_⟩
  rw [hstride, Nat.mul_comm]
  exact Nat.mul_le_mul_left _ (Nat.le_of_eq size.toNat_chroma_width)

/-- Reading a visible sample of the picture finds the pair of its block. -/
theorem sample?_image (hwidth : 0 < size.width.toNat) (hnarrow : size.width.toNat ≠ 2 ^ 32 - 1)
    (hheight : 0 < size.height.toNat) {p : Point} (hp : p.Inside size) :
    (image size).source.sample? p = some {
      luma := luma size p.x.toNat p.y.toNat
      u := acrossSweep size (p.x.toNat / 2)
      v := downSweep size (p.y.toNat / 2) } := by
  have hcheck := check_image hwidth hnarrow hheight
  have hx := UInt32.lt_iff_toNat_lt.1 hp.1
  have hy := UInt32.lt_iff_toNat_lt.1 hp.2
  obtain ⟨hfirst, hsecond⟩ := @pair_image size hnarrow (p.x.toNat / 2) (p.y.toNat / 2)
    (by omega) (by omega)
  rw [Source.sample?_eq_some]
  constructor
  · calc
      (image size).source.luma? p = (image size).lumaAt? p.x.toNat p.y.toNat :=
        @Image.luma?_eq (.semiPlanar (image size)) hcheck p hp
      _ = some (luma size p.x.toNat p.y.toNat) := lumaAt?_image hx hy
  · -- V comes first in the pairs of this order
    have hu : (image size).order.uPosition = 1 := rfl
    have hv : (image size).order.vPosition = 0 := rfl
    rw [SemiPlanarImage.chroma?_eq hcheck hp.chroma, Point.toNat_chroma_x, Point.toNat_chroma_y,
      hu, hv]
    simp only [Nat.add_zero, hfirst, hsecond]
    rfl

theorem isTestFrame (hwidth : 0 < size.width.toNat) (hnarrow : size.width.toNat ≠ 2 ^ 32 - 1)
    (hheight : 0 < size.height.toNat) : (image size).IsTestFrame size where
  luma_tight := ⟨rfl, Array.size_ofFn⟩
  luma x y hx hy := ⟨_, lumaAt?_image hx hy, toNat_luma hx⟩
  luma_rises x x' y luma luma' hle hx' hy hluma hluma' := by
    rw [lumaAt?_image (Nat.lt_of_le_of_lt hle hx') hy] at hluma
    rw [lumaAt?_image hx' hy] at hluma'
    cases hluma
    cases hluma'
    exact luma_rises y hle hx'
  pairs_tight := by
    have hstride := SemiPlanarImage.toNat_pairStride hnarrow
    have hsize : (image size).chroma.samples.size =
        (SemiPlanarImage.pairRow size).toUInt32.toNat * size.chroma.height.toNat := Array.size_ofFn
    rw [hstride, Size.toNat_chroma_height] at hsize
    exact ⟨hstride, hsize⟩
  pair cx cy hcx hcy := by
    obtain ⟨hfirst, hlimit⟩ := toNat_downSweep hcy
    exact ⟨_, _, pairAt?_image hnarrow hcx hcy, hfirst, hlimit, toNat_acrossSweep (by omega)⟩
  first_rises cx cy cy' pair pair' hle hcx hcy' hpair hpair' := by
    rw [pairAt?_image hnarrow hcx (Nat.lt_of_le_of_lt hle hcy')] at hpair
    rw [pairAt?_image hnarrow hcx hcy'] at hpair'
    cases hpair
    cases hpair'
    exact downSweep_rises hle hcy'
  second_rises cx cx' cy pair pair' hle hcx' hcy hpair hpair' := by
    rw [pairAt?_image hnarrow (Nat.lt_of_le_of_lt hle hcx') hcy] at hpair
    rw [pairAt?_image hnarrow hcx' hcy] at hpair'
    cases hpair
    cases hpair'
    exact acrossSweep_rises hle (by omega)
  sample p hp := by
    have hx := UInt32.lt_iff_toNat_lt.1 hp.1
    have hy := UInt32.lt_iff_toNat_lt.1 hp.2
    exact ⟨_, _, _, lumaAt?_image hx hy, pairAt?_image hnarrow (by omega) (by omega),
      sample?_image hwidth hnarrow hheight hp⟩

end TestFrame

/-- Every test frame but the widest can be drawn: no step overflows or divides by zero.  The picture
    is valid and has the samples of a test frame. -/
theorem test_frames_are_drawn_exactly (size : Size) (hwidth : 0 < size.width.toNat)
    (hnarrow : size.width.toNat ≠ 2 ^ 32 - 1) (hheight : 0 < size.height.toNat) :
    ∃ image, TestFrame.draw? size = some image ∧ TestFrame.image? size = some image ∧
      image.size = size ∧ image.order = .vu ∧ image.check = .ok () ∧ image.IsTestFrame size := by
  have himage := TestFrame.image?_eq hwidth hnarrow
  refine ⟨TestFrame.image size, ?_, himage, rfl, rfl,
    TestFrame.check_image hwidth hnarrow hheight, TestFrame.isTestFrame hwidth hnarrow hheight⟩
  rw [TestFrame.draw?_eq_image?, himage]

theorem narrow_frame_is_drawn_exactly :
    ∃ image, TestFrame.draw? ⟨1, 3⟩ = some image ∧ image.check = .ok () ∧
      image.luma.samples = #[16, 17, 16] ∧ image.chroma.samples = #[0, 0, 127, 0] ∧
      image.IsTestFrame ⟨1, 3⟩ := by
  obtain ⟨image, hdraw, himage, _, _, hcheck, hexact⟩ :=
    test_frames_are_drawn_exactly ⟨1, 3⟩ (by decide) (by decide) (by decide)
  cases himage
  exact ⟨_, hdraw, hcheck, by decide, by decide, hexact⟩

end Chroma420
