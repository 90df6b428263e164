import Mathlib.Data.List.Induction
import Chroma420.Outputs

/-!
# Cells

A conversion fills its outputs in cells of one breadth: the four elements of a
pixel, the one sample of its grey, the samples of a whole row of luma.  Where a
cell lies follows from what it belongs to, and so does what is written into it.

`Filled` is the state of a buffer in the middle of a conversion, in terms of the
cells that have been visited so far and of nothing else: neither their order nor
the number of visits counts.  One more write keeps it (`Filled.write`), because
the cells of a frame do not overlap (`Point.colourIndex_apart`,
`GreyImage.index_apart`), and it leaves no element open (`Filled.unique`): two
buffers can differ only where the content of a cell does
(`Filled.differ_in_cell`).  What one write keeps, a run of writes keeps
(`exists_foldlM_of_step`).
-/

namespace Chroma420

section Filled

variable {ι β : Type} {breadth : Nat} {place : ι → Nat} {content content' : ι → List β}
  {visited : ι → Prop} {before before' mid after after' : Array β}

/-- The visited cells hold their content, and every element outside of them is as
    it was before. -/
structure Filled (breadth : Nat) (place : ι → Nat) (content : ι → List β) (visited : ι → Prop)
    (before after : Array β) : Prop where
  size_eq : after.size = before.size
  inside : ∀ cell, visited cell → ∀ k, k < breadth →
    after[place cell + k]? = (content cell)[k]?
  outside : ∀ i, (∀ cell, visited cell → i < place cell ∨ place cell + breadth ≤ i) →
    after[i]? = before[i]?

theorem Filled.none_visited : Filled breadth place content (fun _ => False) before before := by
  refine ⟨rfl, ?_, ?_⟩
  · intro cell hvisited
    exact hvisited.elim
  · intro i _
    rfl

theorem getElem?_overwrite_of_room {new : List β} {start i : Nat}
    (hroom : start + new.length ≤ mid.size) :
    (overwrite mid start new)[i]? =
      if start ≤ i ∧ i < start + new.length then new[i - start]? else mid[i]? := by
  by_cases hi : i < mid.size
  · exact getElem?_overwrite mid start new i hi
  · have hout : ¬ (start ≤ i ∧ i < start + new.length) := by omega
    rw [if_neg hout, Array.getElem?_eq_none (by rw [size_overwrite]; omega),
      Array.getElem?_eq_none (by omega)]

theorem Filled.write (h : Filled breadth place content visited before mid) (cell : ι)
    (hbreadth : (content cell).length = breadth) (hroom : place cell + breadth ≤ mid.size)
    (hapart : ∀ other, visited other → other ≠ cell →
      place other + breadth ≤ place cell ∨ place cell + breadth ≤ place other) :
    Filled breadth place content (fun other => visited other ∨ other = cell) before
      (overwrite mid (place cell) (content cell)) := by
  have hget := fun i => getElem?_overwrite_of_room (i := i)
    (show place cell + (content cell).length ≤ mid.size by rw [hbreadth]; exact hroom)
  rw [hbreadth] at hget
  refine ⟨by rw [size_overwrite, h.size_eq], ?_, ?_⟩
  · intro other hother k hk
    by_cases hsame : other = cell
    · subst hsame
      rw [hget, if_pos (by omega), Nat.add_sub_cancel_left]
    · have hvisited : visited other := hother.resolve_right hsame
      have := hapart other hvisited hsame
      rw [hget, if_neg (by omega)]
      exact h.inside other hvisited k hk
  · intro i hi
    have hcell := hi cell (Or.inr rfl)
    rw [hget, if_neg (by omega)]
    exact h.outside i fun other hvisited => hi other (Or.inl hvisited)

/-- Two buffers that are filled in the same cells, and that began alike outside of them,
    differ only in cells whose content differs. -/
theorem Filled.differ_in_cell (h : Filled breadth place content visited before after)
    (hother : Filled breadth place content' visited before' after')
    (hbefore : ∀ i, (∀ cell, visited cell → i < place cell ∨ place cell + breadth ≤ i) →
      before[i]? = before'[i]?)
    {i : Nat} (hne : after[i]? ≠ after'[i]?) :
    ∃ cell, visited cell ∧ (place cell ≤ i ∧ i < place cell + breadth) ∧
      content cell ≠ content' cell := by
  by_cases hcell : ∃ cell, visited cell ∧ place cell ≤ i ∧ i < place cell + breadth
  · obtain ⟨cell, hvisited, hlow, hhigh⟩ := hcell
    refine ⟨cell, hvisited, ⟨hlow, hhigh⟩, ?_⟩
    intro hsame
    apply hne
    have hplace : place cell + (i - place cell) = i := by omega
    have hinside := h.inside cell hvisited (i - place cell) (by omega)
    have hinside' := hother.inside cell hvisited (i - place cell) (by omega)
    rw [hplace] at hinside hinside'
    rw [hinside, hinside', hsame]
  · exfalso
    apply hne
    have hout : ∀ cell, visited cell → i < place cell ∨ place cell + breadth ≤ i := by
      intro cell hvisited
      have : ¬ (place cell ≤ i ∧ i < place cell + breadth) := fun hi => hcell ⟨cell, hvisited, hi⟩
      omega
    rw [h.outside i hout, hother.outside i hout, hbefore i hout]

/-- The content of the visited cells and what lies outside of them determine the whole
    buffer. -/
theorem Filled.unique (h : Filled breadth place content visited before after)
    (hother : Filled breadth place content' visited before' after')
    (hbefore : ∀ i, (∀ cell, visited cell → i < place cell ∨ place cell + breadth ≤ i) →
      before[i]? = before'[i]?)
    (hcontent : ∀ cell, visited cell → content cell = content' cell) : after = after' := by
  apply Array.ext_getElem?
  intro i
  apply Classical.byContradiction
  intro hne
  obtain ⟨cell, hvisited, _, hdiffer⟩ := h.differ_in_cell hother hbefore hne
  exact hdiffer (hcontent cell hvisited)

end Filled

/-- What is kept by every step, which adds one item to those that have been visited, holds
    after a run with all of its items visited. -/
theorem exists_foldlM_of_step {ι β : Type} {step : β → ι → Option β} {before : β}
    (holds : (ι → Prop) → β → Prop) (hnone : holds (fun _ => False) before) (items : List ι)
    (hstep : ∀ item ∈ items, ∀ visited mid, (∀ other, visited other → other ∈ items) →
      holds visited mid → ∃ after, step mid item = some after ∧
        holds (fun other => visited other ∨ other = item) after) :
    ∃ after, items.foldlM step before = some after ∧ holds (· ∈ items) after := by
  induction items using List.reverseRecOn with
  | nil =>
    refine ⟨before, rfl, ?_⟩
    simpa only [List.not_mem_nil] using hnone
  | append_singleton items item ih =>
    obtain ⟨mid, hmid, hholds⟩ := ih fun other hother visited mid hvisited =>
      hstep other (List.mem_append_left _ hother) visited mid
        fun q hq => List.mem_append_left _ (hvisited q hq)
    obtain ⟨after, hafter, hnext⟩ := hstep item (List.mem_append_right _ (List.mem_singleton.2 rfl))
      (· ∈ items) mid (fun q hq => List.mem_append_left _ hq) hholds
    refine ⟨after, ?_, ?_⟩
    · rw [List.foldlM_append, hmid]
      change List.foldlM _ mid [item] = some after
      rw [List.foldlM_cons, hafter]
      rfl
    · simpa only [List.mem_append, List.mem_singleton] using hnext

/-! ### The cells of a frame -/

/-- Cells of one breadth at different places of rows that are long enough for
    them do not overlap. -/
theorem cells_apart {stride breadth x y x' y' : Nat} (hx : breadth * x + breadth ≤ stride)
    (hx' : breadth * x' + breadth ≤ stride) (hne : ¬ (x = x' ∧ y = y')) :
    y * stride + breadth * x + breadth ≤ y' * stride + breadth * x' ∨
      y' * stride + breadth * x' + breadth ≤ y * stride + breadth * x := by
  rcases Nat.lt_trichotomy y y' with hlt | rfl | hgt
  · left
    have hrows : (y + 1) * stride ≤ y' * stride := Nat.mul_le_mul_right _ hlt
    rw [Nat.succ_mul] at hrows
    omega
  · rcases Nat.lt_trichotomy x x' with hlt | rfl | hgt
    · left
      have hcells : breadth * (x + 1) ≤ breadth * x' := Nat.mul_le_mul_left _ hlt
      rw [Nat.mul_succ] at hcells
      omega
    · exact absurd ⟨rfl, rfl⟩ hne
    · right
      have hcells : breadth * (x' + 1) ≤ breadth * x := Nat.mul_le_mul_left _ hgt
      rw [Nat.mul_succ] at hcells
      omega
  · right
    have hrows : (y' + 1) * stride ≤ y * stride := Nat.mul_le_mul_right _ hgt
    rw [Nat.succ_mul] at hrows
    omega

theorem Size.exists_point {size : Size} {x y : Nat} (hx : x < size.width.toNat)
    (hy : y < size.height.toNat) :
    ∃ p : Point, p.Inside size ∧ p.x.toNat = x ∧ p.y.toNat = y := by
  have hwidth := size.width.toNat_lt
  have hheight := size.height.toNat_lt
  have hcolumn : x.toUInt32.toNat = x := by
    rw [Nat.toUInt32, UInt32.toNat_ofNat', Nat.mod_eq_of_lt (by omega)]
  have hrow : y.toUInt32.toNat = y := by
    rw [Nat.toUInt32, UInt32.toNat_ofNat', Nat.mod_eq_of_lt (by omega)]
  refine ⟨⟨x.toUInt32, y.toUInt32⟩, ⟨?_, ?_⟩, hcolumn, hrow⟩
  · rw [UInt32.lt_iff_toNat_lt, hcolumn]
    exact hx
  · rw [UInt32.lt_iff_toNat_lt, hrow]
    exact hy

theorem Point.toNat_ne {p q : Point} (hne : p ≠ q) :
    ¬ (p.x.toNat = q.x.toNat ∧ p.y.toNat = q.y.toNat) := by
  rintro ⟨hx, hy⟩
  apply hne
  cases p
  cases q
  rw [UInt32.toNat_inj] at hx hy
  rw [Point.mk.injEq]
  exact ⟨hx, hy⟩

theorem Point.colourIndex_apart {p q : Point} {stride : UInt32}
    (hp : 4 * p.x.toNat + 4 ≤ stride.toNat) (hq : 4 * q.x.toNat + 4 ≤ stride.toNat)
    (hne : p ≠ q) :
    p.colourIndex stride + 4 ≤ q.colourIndex stride ∨
      q.colourIndex stride + 4 ≤ p.colourIndex stride :=
  cells_apart hp hq (Point.toNat_ne hne)

/-- In tight rows every element belongs to the cell of a coordinate. -/
theorem Size.exists_cell_of_tight {size : Size} {breadth stride : Nat} (hbreadth : 0 < breadth)
    (hstride : stride = breadth * size.width.toNat) {i : Nat}
    (hi : i < stride * size.height.toNat) :
    ∃ p : Point, p.Inside size ∧ p.y.toNat * stride + breadth * p.x.toNat ≤ i ∧
      i < p.y.toNat * stride + breadth * p.x.toNat + breadth := by
  have hrow : i / stride < size.height.toNat := Nat.div_lt_of_lt_mul hi
  have hrest : i % stride < stride := Nat.mod_lt i (Nat.pos_of_lt_mul_right hi)
  rw [hstride] at hrest
  have hcolumn : i % stride / breadth < size.width.toNat := by
    rw [hstride]
    exact Nat.div_lt_of_lt_mul hrest
  obtain ⟨p, hp, hx, hy⟩ := size.exists_point hcolumn hrow
  refine ⟨p, hp, ?_⟩
  have hsplit : i / stride * stride + i % stride = i := Nat.div_add_mod' _ _
  have hstart : breadth * (i % stride / breadth) ≤ i % stride := Nat.mul_div_le _ _
  have hend : i % stride < breadth * (i % stride / breadth) + breadth :=
    Nat.lt_mul_div_succ _ hbreadth
  rw [hx, hy]
  omega

/-- There is nothing between the cells of tight rows: what is outside of all cells lies behind the
    last row. -/
theorem Size.behind_of_tight {size : Size} {breadth stride : Nat} (hbreadth : 0 < breadth)
    (hstride : stride = breadth * size.width.toNat) {i : Nat}
    (hi : ∀ p : Point, p.Inside size → i < p.y.toNat * stride + breadth * p.x.toNat ∨
      p.y.toNat * stride + breadth * p.x.toNat + breadth ≤ i) :
    stride * size.height.toNat ≤ i := by
  apply Nat.le_of_not_lt
  intro hlt
  obtain ⟨p, hp, hlow, hhigh⟩ := size.exists_cell_of_tight hbreadth hstride hlt
  have hcell := hi p hp
  omega

/-- Tight rows are filled once the cells of their frame are. -/
theorem Filled.of_tight {β : Type} {breadth stride : Nat} {place : Point → Nat}
    {content : Point → List β} {size : Size} {before after : Array β} (hbreadth : 0 < breadth)
    (hstride : stride = breadth * size.width.toNat)
    (hplace : ∀ p, place p = p.y.toNat * stride + breadth * p.x.toNat)
    (hbefore : before.size = stride * size.height.toNat)
    (hafter : after.size = stride * size.height.toNat)
    (hinside : ∀ p : Point, p.Inside size → ∀ k, k < breadth →
      after[place p + k]? = (content p)[k]?) :
    Filled breadth place content (fun p => p.Inside size) before after := by
  refine ⟨hafter.trans hbefore.symm, hinside, ?_⟩
  intro i hi
  simp only [hplace] at hi
  have hbehind := Size.behind_of_tight hbreadth hstride hi
  rw [Array.getElem?_eq_none (by omega), Array.getElem?_eq_none (by omega)]

theorem GreyImage.index_apart {image : GreyImage} {p q : Point}
    (hp : p.x.toNat < image.plane.stride.toNat) (hq : q.x.toNat < image.plane.stride.toNat)
    (hne : p ≠ q) :
    image.index p + 1 ≤ image.index q ∨ image.index q + 1 ≤ image.index p := by
  have := @cells_apart image.plane.stride.toNat 1 p.x.toNat p.y.toNat q.x.toNat q.y.toNat
    (by omega) (by omega) (Point.toNat_ne hne)
  simp only [Nat.one_mul] at this
  exact this

end Chroma420
