import Chroma420.Proofs.Comparison

/-!
# Parts of a buffer

A run of elements can be taken out of a buffer, written as a buffer of its own, and put
back in its place.  What has been written into the part is then written into the whole, at
places that lie further behind by the start of the part: one write (`overwrite_putBack`), or
all the cells of a conversion (`Filled.putBack`).

A buffer may be filled in several such steps.  Two of them are one filling of the cells of
both, whether or not they have cells in common (`Filled.trans`), because a cell is filled
with the same content every time and different cells do not overlap.  The same holds of
grey pictures and of whole outputs (`GreyImage.FilledBy.trans`, `Painted.trans`).
-/

namespace Chroma420

/-! ### Elements of a part -/

section Elements

variable {β : Type} {whole part : Array β} {start stop : Nat}

theorem size_part (hstop : stop ≤ whole.size) :
    (whole.extract start stop).size = stop - start := by
  rw [Array.size_extract, Nat.min_eq_left hstop]

theorem getElem?_part {i : Nat} (hstop : stop ≤ whole.size) (hi : i < stop - start) :
    (whole.extract start stop)[i]? = whole[start + i]? := by
  rw [Array.getElem?_extract, Nat.min_eq_left hstop, if_pos hi]

/-- Once a part has been put back, its elements are those of the part, and all others are
    as they were. -/
theorem getElem?_putBack (hsize : part.size = stop - start) (horder : start ≤ stop)
    (hstop : stop ≤ whole.size) (i : Nat) :
    (overwrite whole start part.toList)[i]? =
      if start ≤ i ∧ i < stop then part[i - start]? else whole[i]? := by
  have hend : start + part.toList.length = stop := by
    rw [Array.length_toList, hsize]
    omega
  rw [getElem?_overwrite_of_room (by omega), hend, Array.getElem?_toList]

/-- Elements that are overwritten in a part, and put back with it, are overwritten in the whole,
    further behind by the start of the part. -/
theorem overwrite_putBack {offset : Nat} {new : List β} (horder : start ≤ stop)
    (hstop : stop ≤ whole.size) (hroom : offset + new.length ≤ stop - start) :
    overwrite whole start (overwrite (whole.extract start stop) offset new).toList =
      overwrite whole (start + offset) new := by
  have hpart : (whole.extract start stop).size = stop - start := size_part hstop
  apply Array.ext_getElem?
  intro i
  rw [getElem?_putBack (by rw [size_overwrite, hpart]) horder hstop,
    getElem?_overwrite_of_room (by omega), getElem?_overwrite_of_room (by omega)]
  by_cases hinside : start ≤ i ∧ i < stop
  · have hindex : start + (i - start) = i := by omega
    have hnew : i - start - offset = i - (start + offset) := by omega
    rw [if_pos hinside, getElem?_part hstop (by omega), hindex, hnew]
    exact if_congr (by omega) rfl rfl
  · rw [if_neg hinside, if_neg (by omega)]

end Elements

/-! ### Cells of a part -/

section Cells

variable {ι κ β : Type} {breadth start stop : Nat} {place : ι → Nat} {content : ι → List β}
  {visited visited' : ι → Prop} {before mid after whole part : Array β}

theorem Filled.putBack {place' : κ → Nat} {content' : κ → List β}
    (h : Filled breadth place content visited (whole.extract start stop) part)
    (horder : start ≤ stop) (hstop : stop ≤ whole.size)
    (hroom : ∀ cell, visited cell → place cell + breadth ≤ stop - start) (embed : ι → κ)
    (hplace : ∀ cell, visited cell → place' (embed cell) = start + place cell)
    (hcontent : ∀ cell, visited cell → content' (embed cell) = content cell) :
    Filled breadth place' content' (fun other => ∃ cell, visited cell ∧ embed cell = other) whole
      (overwrite whole start part.toList) := by
  have hsize : part.size = stop - start := by rw [h.size_eq, size_part hstop]
  refine ⟨size_overwrite _ _ _, ?_, ?_⟩
  · rintro _ ⟨cell, hvisited, rfl⟩ k hk
    have hend := hroom cell hvisited
    rw [getElem?_putBack hsize horder hstop, hplace cell hvisited, if_pos (by omega),
      hcontent cell hvisited, Nat.add_assoc, Nat.add_sub_cancel_left]
    exact h.inside cell hvisited k hk
  · intro i hi
    rw [getElem?_putBack hsize horder hstop]
    split
    · have hpart : part[i - start]? = (whole.extract start stop)[i - start]? := by
        apply h.outside
        intro cell hvisited
        have := hi (embed cell) ⟨cell, hvisited, rfl⟩
        rw [hplace cell hvisited] at this
        omega
      have hindex : start + (i - start) = i := by omega
      rw [hpart, getElem?_part hstop (by omega), hindex]
    · rfl

theorem Filled.trans (h : Filled breadth place content visited before mid)
    (hnext : Filled breadth place content visited' mid after)
    (hapart : ∀ cell other, visited cell → visited' other → cell ≠ other →
      place cell + breadth ≤ place other ∨ place other + breadth ≤ place cell) :
    Filled breadth place content (fun cell => visited cell ∨ visited' cell) before after := by
  refine ⟨by rw [hnext.size_eq, h.size_eq], ?_, ?_⟩
  · intro cell hcell k hk
    by_cases hagain : visited' cell
    · exact hnext.inside cell hagain k hk
    · have hvisited := hcell.resolve_right hagain
      rw [hnext.outside, h.inside cell hvisited k hk]
      intro other hother
      have hne : cell ≠ other := by
        rintro rfl
        exact hagain hother
      have := hapart cell other hvisited hother hne
      omega
  · intro i hi
    rw [hnext.outside i fun cell hcell => hi cell (.inr hcell),
      h.outside i fun cell hcell => hi cell (.inl hcell)]

end Cells

/-! ### Outputs -/

section Outputs

variable {size : Size} {visited visited' : Point → Prop}

theorem GreyImage.FilledBy.trans {content : Point → List UInt8} {before mid after : GreyImage}
    (h : FilledBy content visited before mid) (hnext : FilledBy content visited' mid after)
    (hroom : before.plane.LaidOut size.width.toNat size.height.toNat)
    (hvisited : ∀ p, visited p → p.Inside size) (hvisited' : ∀ p, visited' p → p.Inside size) :
    FilledBy content (fun p => visited p ∨ visited' p) before after := by
  have hindex : mid.index = before.index := by
    funext p
    rw [index, index, h.stride_eq]
  have hsamples := hnext.samples
  rw [hindex] at hsamples
  refine ⟨by rw [hnext.size_eq, h.size_eq], by rw [hnext.stride_eq, h.stride_eq], ?_⟩
  apply h.samples.trans hsamples
  intro p q hp hq hne
  exact index_apart (room hroom (hvisited p hp)).1 (room hroom (hvisited' q hq)).1 hne

variable {α : Type} [ColourDomain α] {order : ChannelOrder} {source : Source} {stride : UInt32}
  {before mid after : Outputs α}

theorem Painted.trans (h : Painted order source stride visited before mid)
    (hnext : Painted order source stride visited' mid after) (hroom : before.HasRoom size stride)
    (hvisited : ∀ p, visited p → p.Inside size) (hvisited' : ∀ p, visited' p → p.Inside size) :
    Painted order source stride (fun p => visited p ∨ visited' p) before after := by
  constructor
  · apply h.colour.trans hnext.colour
    intro p q hp hq hne
    exact Point.colourIndex_apart (hroom.pixel (hvisited p hp)).1 (hroom.pixel (hvisited' q hq)).1
      hne
  · apply optionRel_trans _ h.grey hnext.grey
    intro image himage one two hone htwo
    exact hone.trans htwo (hroom.grey image himage) hvisited hvisited'

end Outputs

end Chroma420
