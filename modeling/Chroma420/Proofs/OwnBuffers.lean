import Chroma420.Proofs.Decision
import Chroma420.Proofs.FreshPlanes

/-!
# The buffers of a converter

Three guards stand before a converter, on words of different widths: its size has samples, its
colour elements fit a count, and a row of pixels fits a stride.  The last one decides.  A frame
whose rows fit has at most 2 ^ 30 - 1 columns, and then all of its counts fit, however many rows
it has (`Converter.exists_ofSize`).

A converter announces the lengths of the buffers that it needs and can make them itself
(`Converter.blankOutputs`).  These buffers pass every check that is made of outputs, so a
conversion into them depends on the frame alone: it completes if the frame has the size of the
converter and passes its own check.
-/

namespace Chroma420

namespace Converter

/-! ### Sizes -/

section Sizes

variable {size : Size} {options : Options}

theorem exists_ofSize :
    (∃ converter, ofSize size options = .ok converter) ↔
      size.isEmpty = false ∧ 4 * size.width.toNat < UInt32.size := by
  constructor
  · rintro ⟨converter, h⟩
    obtain ⟨rfl, _⟩ := ofSize_eq_ok.1 h
    exact ⟨converter.nonempty, converter.row_fits⟩
  · rintro ⟨nonempty, row_fits⟩
    exact ⟨⟨size, options, nonempty, row_fits⟩, ofSize_eq_ok.2 ⟨rfl, rfl⟩⟩

theorem ofSize_of_empty (h : ¬ size.isEmpty = false) :
    ofSize size options = .error .zeroSize := by
  unfold ofSize
  exact dif_neg h

/-- Rows that are too long are refused for an overflow, be it that of the row or, with many of
    them, that of the frame. -/
theorem ofSize_of_wide (hnonempty : size.isEmpty = false)
    (hwide : ¬ 4 * size.width.toNat < UInt32.size) :
    ofSize size options = .error .sizeOverflow := by
  unfold ofSize
  rw [dif_pos hnonempty, requireColourFits_eq, check_bind_eq_error]
  by_cases hfits : 4 * size.width.toNat * size.height.toNat < 2 ^ 64
  · exact .inr ⟨require_eq_ok.2 hfits, dif_neg hwide⟩
  · exact .inl (require_eq_error.2 ⟨hfits, rfl⟩)

theorem ofSize_eq_error {cause : Rejection} :
    ofSize size options = .error cause ↔
      (¬ size.isEmpty = false ∧ cause = .zeroSize) ∨
        (size.isEmpty = false ∧ ¬ 4 * size.width.toNat < UInt32.size ∧ cause = .sizeOverflow) := by
  by_cases hnonempty : size.isEmpty = false
  · by_cases hrow : 4 * size.width.toNat < UInt32.size
    · have hexists : ∃ converter, ofSize size options = .ok converter :=
        exists_ofSize.2 ⟨hnonempty, hrow⟩
      obtain ⟨converter, hconverter⟩ := hexists
      simp [hconverter, hnonempty, hrow]
    · simp [ofSize_of_wide hnonempty hrow, hnonempty, hrow, eq_comm]
  · simp [ofSize_of_empty hnonempty, hnonempty, eq_comm]

end Sizes

/-! ### Counts -/

/-- The counts that a converter announces are those of its rows over the unbounded integers, and
    they are the lengths of the buffers that it makes. -/
structure Announces (converter : Converter) (α : Type) [ColourDomain α] : Prop where
  stride : converter.stride.toNat = 4 * converter.size.width.toNat
  area : converter.size.area.toNat = converter.size.width.toNat * converter.size.height.toNat
  colour : converter.colourLength.toNat = converter.stride.toNat * converter.size.height.toNat
  colour_eq : (converter.blankColour : Array α).size = converter.colourLength.toNat
  grey : converter.greyLength.toNat = if converter.options.grey = .disabled then 0
    else converter.size.width.toNat * converter.size.height.toNat
  grey_eq : ∀ grey ∈ converter.blankGrey?, grey.plane.samples.size = converter.greyLength.toNat
  grey_zero : converter.greyLength = 0 ↔ converter.blankGrey? = none

section Counts

variable {converter : Converter}

theorem grey_of_disabled (h : converter.options.grey = .disabled) :
    converter.greyLength = 0 ∧ converter.blankGrey? = none := by
  unfold greyLength blankGrey?
  simp [h]

theorem grey_of_enabled (h : converter.options.grey ≠ .disabled) :
    converter.greyLength = converter.size.area ∧
      converter.blankGrey? = some (GreyImage.blank converter.size) := by
  unfold greyLength blankGrey?
  rcases hmode : converter.options.grey with _ | _ | _
  · exact absurd hmode h
  · exact ⟨rfl, rfl⟩
  · exact ⟨rfl, rfl⟩

theorem toNat_greyLength (converter : Converter) :
    converter.greyLength.toNat = if converter.options.grey = .disabled then 0
      else converter.size.width.toNat * converter.size.height.toNat := by
  by_cases hmode : converter.options.grey = .disabled
  · simp [hmode, (grey_of_disabled hmode).1]
  · simp [hmode, (grey_of_enabled hmode).1, Size.toNat_area]

theorem size_blankGrey {grey : GreyImage} (h : grey ∈ converter.blankGrey?) :
    grey.plane.samples.size = converter.greyLength.toNat := by
  by_cases hmode : converter.options.grey = .disabled
  · rw [(grey_of_disabled hmode).2] at h
    cases h
  · obtain ⟨hlength, hgrey⟩ := grey_of_enabled hmode
    rw [hgrey] at h
    cases h
    rw [hlength]
    exact Array.size_replicate

theorem greyLength_eq_zero : converter.greyLength = 0 ↔ converter.blankGrey? = none := by
  by_cases hmode : converter.options.grey = .disabled
  · obtain ⟨hlength, hgrey⟩ := grey_of_disabled hmode
    simp [hlength, hgrey]
  · obtain ⟨hlength, hgrey⟩ := grey_of_enabled hmode
    obtain ⟨hwidth, hheight⟩ := Size.isEmpty_eq_false.1 converter.nonempty
    have harea := converter.size.toNat_area
    have hnonzero : converter.size.area ≠ 0 := by
      intro hzero
      rw [hzero] at harea
      exact absurd harea (Nat.ne_of_lt (Nat.mul_pos hwidth hheight))
    simp [hlength, hgrey, hnonzero]

theorem announces (converter : Converter) (α : Type) [ColourDomain α] :
    converter.Announces α where
  stride := converter.toNat_stride
  area := converter.size.toNat_area
  colour := by rw [converter.toNat_colourLength, converter.toNat_stride]
  colour_eq := Array.size_replicate
  grey := converter.toNat_greyLength
  grey_eq := fun _ => size_blankGrey
  grey_zero := greyLength_eq_zero

end Counts

/-! ### Conversions -/

section Conversions

variable {α : Type} [ColourDomain α]

/-- The outputs that a converter makes for itself. -/
def blankOutputs (converter : Converter) : Outputs α :=
  ⟨converter.blankColour, converter.blankGrey?⟩

theorem check_blankGrey (converter : Converter) :
    (GreyImage.blank converter.size).check = .ok () :=
  (GreyImage.tight_blank converter.size).check_eq_ok.2 converter.nonempty

theorem sizeCause?_eq_none {converter : Converter} {size : Size} :
    converter.sizeCause? size = none ↔ converter.size = size := by
  unfold sizeCause?
  split <;> simp_all

theorem greyCauses_blank {converter : Converter} (h : converter.options.grey ≠ .disabled) :
    (converter.greyCauses converter.blankGrey?).findSome? id = none := by
  have hsize : converter.sizeCause? (GreyImage.blank converter.size).size = none :=
    sizeCause?_eq_none.2 rfl
  simp [(grey_of_enabled h).2, greyCauses, converter.check_blankGrey, hsize, cause?]

/-- The buffers of a converter are never the cause of a rejection. -/
theorem firstCause?_blank {converter : Converter} {image : Image} :
    converter.firstCause? image (converter.blankOutputs : Outputs α).colour.size
        (converter.blankOutputs : Outputs α).grey = none ↔
      image.size = converter.size ∧ image.check = .ok () := by
  have hlength : converter.lengthCause? (converter.blankOutputs : Outputs α).colour.size = none :=
    if_pos (converter.announces α).colour_eq
  have hgrey : (if converter.options.grey = .disabled then []
      else converter.greyCauses converter.blankGrey?).findSome? id = none := by
    by_cases hmode : converter.options.grey = .disabled
    · simp [hmode]
    · simp [hmode, greyCauses_blank hmode]
  change (converter.causes image _ converter.blankGrey?).findSome? id = none ↔ _
  simp only [causes, findSome?_id_cons, List.findSome?_append, List.findSome?_nil, hgrey, hlength,
    Option.or_eq_none_iff, sizeCause?_eq_none, cause?_eq_none, and_true, true_and]
  rw [eq_comm]

theorem convert_blank (converter : Converter) (image : Image) :
    ((∃ after, (converter.convert image.source (converter.blankOutputs : Outputs α)).ending =
        .completed after) ↔ image.size = converter.size ∧ image.check = .ok ()) ∧
      (¬ (image.size = converter.size ∧ image.check = .ok ()) →
        ∃ cause, (converter.convert image.source (converter.blankOutputs : Outputs α)).ending =
          .rejected cause converter.blankOutputs) := by
  rw [← @firstCause?_blank α]
  rcases hfirst : converter.firstCause? image _ (converter.blankOutputs : Outputs α).grey
    with _ | cause
  · obtain ⟨after, hafter, _⟩ := convert_of_no_cause hfirst
    exact ⟨⟨fun _ => rfl, fun _ => ⟨after, hafter⟩⟩, fun h => absurd rfl h⟩
  · have hrejected := convert_of_cause hfirst
    refine ⟨?_, fun _ => ⟨cause, hrejected⟩⟩
    simp [hrejected]

end Conversions

end Converter

/-- A converter can be had for every size that has samples and at most 2 ^ 30 - 1 columns; a size
    without samples and a row that is too long each have a cause of their own.  The counts of a
    converter are exact.  With the buffers that it makes, a conversion of a picture completes
    exactly if the picture has its size and passes the check of its layout, in every grey mode and
    colour domain; otherwise the buffers are as before. -/
theorem converters_fit_their_buffers (size : Size) (options : Options) (α : Type)
    [ColourDomain α] :
    (Converter.ofSize size options = .error .zeroSize ↔ size.width = 0 ∨ size.height = 0) ∧
    ((∃ converter, Converter.ofSize size options = .ok converter) ↔
      ¬ (size.width = 0 ∨ size.height = 0) ∧ size.width.toNat ≤ 2 ^ 30 - 1) ∧
    (Converter.ofSize size options = .error .sizeOverflow ↔
      ¬ (size.width = 0 ∨ size.height = 0) ∧ ¬ size.width.toNat ≤ 2 ^ 30 - 1) ∧
    ∀ converter, Converter.ofSize size options = .ok converter →
      (converter.size = size ∧ converter.options = options) ∧ converter.Announces α ∧
      ∀ image : Image,
        ((∃ after, (converter.convert image.source (converter.blankOutputs : Outputs α)).ending =
          .completed after) ↔ image.size = size ∧ image.check = .ok ()) ∧
        (¬ (image.size = size ∧ image.check = .ok ()) →
          ∃ cause, (converter.convert image.source (converter.blankOutputs : Outputs α)).ending =
            .rejected cause converter.blankOutputs) := by
  have hempty : size.isEmpty = false ↔ ¬ (size.width = 0 ∨ size.height = 0) := by
    simp [Size.isEmpty]
  have hrow : 4 * size.width.toNat < UInt32.size ↔ size.width.toNat ≤ 2 ^ 30 - 1 := by
    unfold UInt32.size
    omega
  rw [← hrow, ← hempty]
  refine ⟨?_, Converter.exists_ofSize, ?_, ?_⟩
  · simp [Converter.ofSize_eq_error, hempty, or_iff_not_and_not]
  · simp [Converter.ofSize_eq_error]
  · intro converter hconverter
    obtain ⟨rfl, rfl⟩ := Converter.ofSize_eq_ok.1 hconverter
    exact ⟨⟨rfl, rfl⟩, converter.announces α, converter.convert_blank⟩

theorem widest_converter_and_odd_picture_fit :
    (∃ converter, Converter.ofSize ⟨1073741823, 4294967295⟩ separateConverter.options =
        .ok converter) ∧
      Converter.ofSize ⟨1073741824, 1⟩ separateConverter.options = .error .sizeOverflow ∧
      (separateConverter.Announces Float32) ∧
      ∃ after, (separateConverter.convert oddPicture.source
        (separateConverter.blankOutputs : Outputs Float32)).ending = .completed after := by
  obtain ⟨_, hwidest, _⟩ :=
    converters_fit_their_buffers ⟨1073741823, 4294967295⟩ separateConverter.options UInt8
  obtain ⟨_, _, hwider, _⟩ :=
    converters_fit_their_buffers ⟨1073741824, 1⟩ separateConverter.options UInt8
  obtain ⟨_, _, _, hodd⟩ := converters_fit_their_buffers ⟨3, 3⟩ separateConverter.options Float32
  obtain ⟨_, hcounts, hconvert⟩ := hodd separateConverter (Converter.ofSize_eq_ok.2 ⟨rfl, rfl⟩)
  refine ⟨hwidest.2 (by decide), hwider.2 (by decide), hcounts, ?_⟩
  exact (hconvert oddPicture).1.2 ⟨rfl, rfl⟩

end Chroma420
