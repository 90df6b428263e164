import Chroma420.Colour.FixedPoint
import Chroma420.Proofs.Copying

/-!
# Rejected frames change nothing

A conversion that checks before it writes leaves its outputs alone when it
rejects a frame.  A converter in separate mode makes two such conversions, and
the second one checks when the first has already written.  What makes it atomic
all the same is that by then every check of the second conversion is known to
pass: the grey picture has been checked when the frame was accepted, and the
frame itself when its colour rows were painted (`copyLuma_not_rejected`).

Nothing here depends on the samples that a source has, nor on whether its verdict
on itself is right.
-/

namespace Chroma420

/-! ### Endings that keep what they reject -/

namespace Ending

variable {β γ : Type}

theorem map_eq_completed {ending : Ending β} {f : β → γ} {after : γ} :
    ending.map f = .completed after ↔ ∃ mid, ending = .completed mid ∧ f mid = after := by
  rcases ending with mid | ⟨cause, mid⟩ | _
  · simp [map]
  · simp [map]
  · simp [map]

theorem map_eq_rejected {ending : Ending β} {f : β → γ} {cause : Rejection} {after : γ} :
    ending.map f = .rejected cause after ↔
      ∃ mid, ending = .rejected cause mid ∧ f mid = after := by
  rcases ending with mid | ⟨other, mid⟩ | _
  · simp [map]
  · simp [map]
  · simp [map]

/-- If the conversion of `before` is rejected, `before` is what comes back. -/
def KeepsRejected (ending : Ending β) (before : β) : Prop :=
  ∀ cause after, ending = .rejected cause after → after = before

theorem keepsRejected_ofWrites (verdict : Except Rejection Unit) (before : β)
    (write? : β → Option β) : (ofWrites verdict before write?).KeepsRejected before := by
  intro cause after h
  exact (ofWrites_eq_rejected.1 h).2

theorem KeepsRejected.map {ending : Ending β} {before : β} (h : ending.KeepsRejected before)
    (f : β → γ) : (ending.map f).KeepsRejected (f before) := by
  intro cause after hrejected
  obtain ⟨mid, hmid, rfl⟩ := map_eq_rejected.1 hrejected
  rw [h cause mid hmid]

theorem KeepsRejected.andThen {first : Ending β} {next : β → Ending β} {before : β}
    (h : first.KeepsRejected before)
    (hnext : ∀ mid, first = .completed mid → ∀ cause after, next mid ≠ .rejected cause after) :
    (first.andThen next).KeepsRejected before := by
  intro cause after hrejected
  rcases first with mid | ⟨other, mid⟩ | _
  · exact absurd hrejected (hnext mid rfl cause after)
  · cases hrejected
    exact h cause after rfl
  · cases hrejected

end Ending

/-! ### Passes of a converter -/

section Passes

variable {α : Type} [ColourDomain α] {source : Source}

theorem paint_keepsRejected (order : ChannelOrder) (source : Source) (stride : UInt32)
    (before : Outputs α) : (paint order source stride before).KeepsRejected before :=
  Ending.keepsRejected_ofWrites _ _ _

theorem copyLuma_keepsRejected (source : Source) (before : GreyImage) :
    (copyLuma source before).KeepsRejected before :=
  Ending.keepsRejected_ofWrites _ _ _

/-- A frame is accepted if it has the size of the converter and, unless grey is
    disabled, there is a grey picture that is well laid out and of this size. -/
theorem Converter.accept_eq_ok {converter : Converter} {grey : Option GreyImage} :
    converter.accept source grey = .ok () ↔ converter.size = source.size ∧
      (converter.options.grey = .disabled ∨
        ∃ image, grey = some image ∧ requireGrey converter.size image = .ok ()) := by
  rw [accept.eq_def, check_bind_eq_ok, requireSize, require_eq_ok]
  refine and_congr_right fun _ => ?_
  rcases converter.options.grey with _ | _ | _ <;> rcases grey with _ | image <;> simp

theorem Converter.grey_of_accept {converter : Converter} {grey : Option GreyImage}
    (haccept : converter.accept source grey = .ok ())
    (henabled : converter.options.grey ≠ .disabled) :
    ∃ image, grey = some image ∧ requireGrey converter.size image = .ok () := by
  obtain ⟨_, hdisabled | hrequired⟩ := accept_eq_ok.1 haccept
  · exact absurd hdisabled henabled
  · exact hrequired

theorem Converter.paintColour_completed {converter : Converter} {before mid : Outputs α}
    (h : converter.paintColour source before = .completed mid) :
    source.check = .ok () ∧ mid.grey = before.grey := by
  obtain ⟨colour, grey⟩ := before
  rw [paintColour, Ending.map_eq_completed] at h
  obtain ⟨written, hpaint, rfl⟩ := h
  rw [paint, Ending.ofWrites_eq_completed] at hpaint
  exact ⟨(checkPaint_eq_ok.1 hpaint.1).1, rfl⟩

/-- Once a frame has been accepted with a grey picture and its colour rows have been
    painted, copying its luma passes every check. -/
theorem Converter.copyLuma_not_rejected {converter : Converter} {before mid : Outputs α}
    (henabled : converter.options.grey ≠ .disabled)
    (haccept : converter.accept source before.grey = .ok ())
    (hpaint : converter.paintColour source before = .completed mid) :
    ∃ image, before.grey = some image ∧ mid.grey = some image ∧
      ∀ cause after, copyLuma source image ≠ .rejected cause after := by
  have hsize := (accept_eq_ok.1 haccept).1
  obtain ⟨image, hgrey, hrequired⟩ := grey_of_accept haccept henabled
  obtain ⟨hcheck, hsame⟩ := paintColour_completed hpaint
  refine ⟨image, hgrey, by rw [hsame, hgrey], ?_⟩
  intro cause after hrejected
  have hchecks : checkCopy source image = .ok () := by
    rw [checkCopy_eq_ok, ← hsize]
    exact ⟨hcheck, hrequired⟩
  rw [copyLuma, Ending.ofWrites_eq_rejected, hchecks] at hrejected
  cases hrejected.1

theorem Converter.paintColour_keepsRejected (converter : Converter) (source : Source)
    (before : Outputs α) : (converter.paintColour source before).KeepsRejected before := by
  obtain ⟨colour, grey⟩ := before
  exact (paint_keepsRejected _ source _ ⟨colour, none⟩).map _

theorem Converter.passes_keepsRejected {converter : Converter} {before : Outputs α}
    (haccept : converter.accept source before.grey = .ok ()) :
    (converter.passes source before).KeepsRejected before := by
  rcases hmode : converter.options.grey with _ | _ | _
  · simp only [passes, hmode]
    exact converter.paintColour_keepsRejected source before
  · simp only [passes, hmode]
    exact paint_keepsRejected _ source _ before
  · simp only [passes, hmode]
    apply (converter.paintColour_keepsRejected source before).andThen
    intro mid hmid cause after hrejected
    have henabled : converter.options.grey ≠ .disabled := by
      rw [hmode]
      decide
    obtain ⟨image, _, hgrey, hcopies⟩ := copyLuma_not_rejected henabled haccept hmid
    obtain ⟨colour, grey⟩ := mid
    cases hgrey
    rw [copyGrey, Ending.map_eq_rejected] at hrejected
    obtain ⟨written, hcopy, _⟩ := hrejected
    exact hcopies cause written hcopy

theorem Converter.convert_keepsRejected (converter : Converter) (source : Source)
    (before : Outputs α) : (converter.convert source before).ending.KeepsRejected before := by
  rcases haccept : converter.accept source before.grey with cause | _
  · rw [ending_of_refused haccept]
    rintro other after ⟨⟩
    rfl
  · rw [ending_of_accepted haccept]
    exact passes_keepsRejected haccept

end Passes

/-! ### Atomicity -/

/-- A converter of small frames that copies luma in a pass of its own. -/
def separateConverter : Converter where
  size := ⟨3, 3⟩
  options := { order := .bgra, grey := .separate }
  nonempty := rfl
  row_fits := by decide

/-- Whatever the source and the outputs: where a conversion rejects the frame, the
    outputs that come back are those that went in.  In separate mode the copy of
    luma does not reject a frame whose colour rows have been painted. -/
theorem rejected_frames_change_nothing (source : Source) (α : Type) [ColourDomain α] :
    (∀ (order : ChannelOrder) (stride : UInt32) (before after : Outputs α) (cause : Rejection),
      paint order source stride before = .rejected cause after → after = before) ∧
    (∀ (before after : GreyImage) (cause : Rejection),
      copyLuma source before = .rejected cause after → after = before) ∧
    (∀ (converter : Converter) (before after : Outputs α) (cause : Rejection),
      (converter.convert source before).ending = .rejected cause after → after = before) ∧
    ∀ (converter : Converter) (before mid : Outputs α),
      converter.options.grey = .separate → converter.accept source before.grey = .ok () →
      converter.paintColour source before = .completed mid →
      ∃ image, before.grey = some image ∧ mid.grey = some image ∧
        ∀ cause after, copyLuma source image ≠ .rejected cause after := by
  refine ⟨?_, ?_, ?_, ?_⟩
  · intro order stride before after cause h
    exact paint_keepsRejected order source stride before cause after h
  · intro before after cause h
    exact copyLuma_keepsRejected source before cause after h
  · intro converter before after cause h
    exact converter.convert_keepsRejected source before cause after h
  · intro converter before mid hmode haccept hpaint
    have henabled : converter.options.grey ≠ .disabled := by
      rw [hmode]
      decide
    exact Converter.copyLuma_not_rejected henabled haccept hpaint

theorem short_colour_changes_nothing :
    ∃ after, (separateConverter.convert (SemiPlanarImage.blank ⟨3, 3⟩ .vu).source
        (⟨#[1, 2, 3], some (GreyImage.blank ⟨3, 3⟩)⟩ : Outputs UInt8)).ending =
          .rejected (.destinationSize ⟨36, 3⟩) after ∧
      after = ⟨#[1, 2, 3], some (GreyImage.blank ⟨3, 3⟩)⟩ := by
  obtain ⟨_, _, hconvert, _⟩ :=
    rejected_frames_change_nothing (SemiPlanarImage.blank ⟨3, 3⟩ .vu).source UInt8
  exact ⟨_, rfl, hconvert separateConverter _ _ _ rfl⟩

end Chroma420
