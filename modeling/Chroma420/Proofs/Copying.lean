import Chroma420.Proofs.Painting

/-!
# Copying luma

A copy of luma visits rows, not coordinates.  After any number of rows the copied
ones hold the luma of their row in their visible part (`RowsCopied`); once all
rows of the frame have been copied, every visible sample of the grey picture is
the luma of its coordinate and all others are as before (`RowsCopied.filledBy`).
-/

namespace Chroma420

def Source.lumaRowCell (source : Source) (y : UInt32) : List UInt8 :=
  match source.lumaRow? y with
  | some row => row.toArray.toList
  | none => []

def Source.lumaCell (source : Source) (point : Point) : List UInt8 :=
  match source.luma? point with
  | some luma => [luma]
  | none => []

/-- A source has rows of luma that are as wide as its frame, down to its height. -/
def Source.HasLuma (source : Source) : Prop :=
  ∀ y : UInt32, y < source.size.height →
    ∃ row, source.lumaRow? y = some row ∧ row.length = source.size.width.toNat

/-- A grey picture once the visited rows of luma have been copied into it. -/
structure RowsCopied (source : Source) (visited : UInt32 → Prop) (before after : GreyImage) :
    Prop where
  size_eq : after.size = before.size
  stride_eq : after.plane.stride = before.plane.stride
  samples : Filled source.size.width.toNat (fun y => before.index ⟨0, y⟩) source.lumaRowCell
    visited before.plane.samples after.plane.samples

variable {source : Source} {visited : UInt32 → Prop} {before mid after : GreyImage}

theorem RowsCopied.none_visited : RowsCopied source (fun _ => False) before before :=
  ⟨rfl, rfl, Filled.none_visited⟩

theorem GreyImage.index_row (image : GreyImage) (y : UInt32) :
    image.index ⟨0, y⟩ = y.toNat * image.plane.stride.toNat := rfl

/-! ### Rows -/

theorem GreyImage.putRow?_eq_some (image : GreyImage) {y : UInt32} {row : List UInt8}
    (hrow : row.length ≤ image.plane.stride.toNat)
    (hroom : image.index ⟨0, y⟩ + row.length ≤ image.plane.samples.size) :
    image.putRow? y row =
      some { image with plane := image.plane.overwrite (image.index ⟨0, y⟩) row } := by
  rw [putRow?]
  exact if_pos ⟨hrow, hroom⟩

theorem RowsCopied.step {y : UInt32} {row : Span UInt8} (h : RowsCopied source visited before mid)
    (hroom : before.plane.LaidOut source.size.width.toNat source.size.height.toNat)
    (hy : y < source.size.height) (hrow : source.lumaRow? y = some row)
    (hlength : row.length = source.size.width.toNat) :
    ∃ after, copyRow? source mid y = some after ∧
      RowsCopied source (fun other => visited other ∨ other = y) before after := by
  have hcell : source.lumaRowCell y = row.toArray.toList := by
    rw [Source.lumaRowCell, hrow]
  have hcellLength : row.toArray.toList.length = source.size.width.toNat := by
    rw [Array.length_toList, Span.size_toArray, hlength]
  have hindex : mid.index ⟨0, y⟩ = before.index ⟨0, y⟩ := by
    rw [GreyImage.index_row, GreyImage.index_row, h.stride_eq]
  have hinside := hroom.row_inside (UInt32.lt_iff_toNat_lt.1 hy)
  refine ⟨{ mid with plane := mid.plane.overwrite (mid.index ⟨0, y⟩) row.toArray.toList },
    ?_, h.size_eq, h.stride_eq, ?_⟩
  · have hfits : row.toArray.toList.length ≤ mid.plane.stride.toNat := by
      rw [hcellLength, h.stride_eq]
      exact hroom.row_fits
    have hroomLeft : mid.index ⟨0, y⟩ + row.toArray.toList.length ≤ mid.plane.samples.size := by
      rw [hcellLength, hindex, h.samples.size_eq]
      exact hinside
    have hput := mid.putRow?_eq_some hfits hroomLeft
    simp only [copyRow?, hrow, Option.bind_eq_bind, Option.bind_some, if_pos hlength, hput]
  · change Filled _ _ _ _ _ (overwrite mid.plane.samples (mid.index ⟨0, y⟩) row.toArray.toList)
    rw [hindex, ← hcell]
    apply h.samples.write y
    · rw [hcell, hcellLength]
    · rw [h.samples.size_eq]
      exact hinside
    · intro other _ hne
      rw [GreyImage.index_row, GreyImage.index_row]
      have hfits := hroom.row_fits
      have happart := @cells_apart before.plane.stride.toNat source.size.width.toNat
        0 other.toNat 0 y.toNat (by omega) (by omega)
        (fun hsame => hne (UInt32.toNat_inj.1 hsame.2))
      simpa only [Nat.mul_zero, Nat.add_zero] using happart

theorem copyRows_copied
    (hroom : before.plane.LaidOut source.size.width.toNat source.size.height.toNat)
    (hluma : source.HasLuma) (rows : List UInt32)
    (hinside : ∀ y ∈ rows, y < source.size.height) :
    ∃ after, rows.foldlM (copyRow? source) before = some after ∧
      RowsCopied source (· ∈ rows) before after := by
  apply exists_foldlM_of_step (fun visited => RowsCopied source visited before)
    RowsCopied.none_visited rows
  intro y hy visited mid _ hcopied
  obtain ⟨row, hrow, hlength⟩ := hluma y (hinside y hy)
  exact hcopied.step hroom (hinside y hy) hrow hlength

/-! ### Coordinates -/

theorem Source.lumaRowCell_getElem? (source : Source) (p : Point) (hluma : source.HasLuma)
    (hp : p.Inside source.size) :
    (source.lumaRowCell p.y)[p.x.toNat]? = (source.lumaCell p)[0]? := by
  obtain ⟨row, hrow, hlength⟩ := hluma p.y hp.2
  rw [lumaRowCell, lumaCell, luma?, hrow]
  change row.toArray.toList[p.x.toNat]? = _
  rw [Array.getElem?_toList, Span.getElem?_toArray]
  change _ = (match row.get? p.x.toNat with | some luma => [luma] | none => [])[0]?
  rcases row.get? p.x.toNat with _ | luma
  · rfl
  · rfl

/-- Copied rows are copied samples. -/
theorem RowsCopied.filledBy (h : RowsCopied source (· < source.size.height) before after)
    (hluma : source.HasLuma) :
    GreyImage.FilledBy source.lumaCell (fun p => p.Inside source.size) before after := by
  refine ⟨h.size_eq, h.stride_eq, h.samples.size_eq, ?_, ?_⟩
  · intro p hp k hk
    have hx := UInt32.lt_iff_toNat_lt.1 hp.1
    have hk : k = 0 := by omega
    subst hk
    rw [← source.lumaRowCell_getElem? p hluma hp]
    exact h.samples.inside p.y hp.2 p.x.toNat hx
  · intro i hi
    apply h.samples.outside
    intro y hy
    by_contra hrow
    -- an element of a visible row lies in the cell of one of its coordinates
    rw [GreyImage.index_row] at hrow
    obtain ⟨p, hp, hcolumn, hline⟩ :=
      @Size.exists_point source.size (i - y.toNat * before.plane.stride.toNat) y.toNat (by omega)
        (UInt32.lt_iff_toNat_lt.1 hy)
    have hcell := hi p hp
    rw [GreyImage.index, hcolumn, hline] at hcell
    omega

/-! ### Whole frames -/

theorem Size.mem_rows {size : Size} {y : UInt32} :
    y ∈ (List.range size.height.toNat).map Nat.toUInt32 ↔ y < size.height := by
  have hheight := size.height.toNat_lt
  rw [List.mem_map, UInt32.lt_iff_toNat_lt]
  constructor
  · rintro ⟨n, hn, rfl⟩
    rw [List.mem_range] at hn
    rw [Nat.toUInt32, UInt32.toNat_ofNat', Nat.mod_eq_of_lt (by omega)]
    exact hn
  · intro hy
    exact ⟨y.toNat, List.mem_range.2 hy, UInt32.ofNat_toNat⟩

theorem checkCopy_eq_ok :
    checkCopy source before = .ok () ↔
      source.check = .ok () ∧ requireGrey source.size before = .ok () := by
  rw [checkCopy, check_bind_eq_ok]

theorem Image.checkCopy_eq_ok {image : Image} :
    checkCopy image.source before = .ok () ↔
      image.check = .ok () ∧ requireGrey image.size before = .ok () := by
  rw [Chroma420.checkCopy_eq_ok, image.check_source, image.size_source]

theorem laidOut_of_checkCopy (h : checkCopy source before = .ok ()) :
    before.plane.LaidOut source.size.width.toNat source.size.height.toNat := by
  obtain ⟨_, hgrey⟩ := checkCopy_eq_ok.1 h
  obtain ⟨hlayout, hsame⟩ := requireGrey_eq_ok.1 hgrey
  obtain ⟨_, _, hlaid⟩ := GreyImage.check_eq_ok.1 hlayout
  rw [hsame]
  exact hlaid

theorem copyLuma_filledBy (hcheck : checkCopy source before = .ok ()) (hluma : source.HasLuma) :
    ∃ after, copyLuma source before = .completed after ∧
      GreyImage.FilledBy source.lumaCell (fun p => p.Inside source.size) before after := by
  obtain ⟨after, hafter, hcopied⟩ := copyRows_copied (laidOut_of_checkCopy hcheck) hluma
    ((List.range source.size.height.toNat).map Nat.toUInt32) (fun y hy => Size.mem_rows.1 hy)
  refine ⟨after, ?_, ?_⟩
  · rw [copyLuma, Ending.ofWrites_eq_completed]
    exact ⟨hcheck, hafter⟩
  · simp only [Size.mem_rows] at hcopied
    exact hcopied.filledBy hluma

end Chroma420
