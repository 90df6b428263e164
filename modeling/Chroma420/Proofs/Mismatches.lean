import Chroma420.Proofs.Faults

/-!
# Mismatches

A rejection carries what a check expected and what it received, and the two have to bear out its
cause: what is called too little is less than what was expected, and what is said not to match
differs (`Rejection.IsShown`).

This does not go without saying where a row is too short.  Rows are compared by their lengths, but
what is reported are the lengths of whole planes or buffers, and for a frame without rows these are
both zero.  It is the order of the checks that helps.  A picture without rows is refused as empty
before any of its rows is measured, and a converter takes frames of its own size only, which has
rows.

A mismatch also says what would be right.  A plane that is refused for its length passes the same
check once it has the length that was expected (`PlaneShape.check_of_expected`).
-/

namespace Chroma420

/-! ### Causes with numbers -/

/-- The numbers of a rejection show its cause. -/
def Rejection.IsShown : Rejection → Prop
  | destinationMinimum lengths | planeMinimum _ lengths => lengths.received < lengths.expected
  | destinationSize lengths | planeSize _ lengths => lengths.received ≠ lengths.expected
  | dimensions sizes => sizes.received ≠ sizes.expected
  | sizeOverflow | zeroSize | missingGrey => True

/-- Whatever the cause is for which a check refuses, it is shown. -/
def ShowsCause (verdict : Except Rejection Unit) : Prop :=
  ∀ cause, verdict = .error cause → cause.IsShown

theorem showsCause_ok : ShowsCause (.ok ()) := by
  intro cause h
  cases h

theorem showsCause_error {cause : Rejection} (h : cause.IsShown) : ShowsCause (.error cause) := by
  rintro other ⟨⟩
  exact h

theorem showsCause_require {condition : Prop} [Decidable condition] {cause : Rejection}
    (h : ¬ condition → cause.IsShown) : ShowsCause (require condition cause) := by
  intro other hother
  obtain ⟨hviolated, rfl⟩ := require_eq_error.1 hother
  exact h hviolated

theorem ShowsCause.andThen {first rest : Except Rejection Unit} (h : ShowsCause first)
    (hrest : first = .ok () → ShowsCause rest) : ShowsCause (first >>= fun _ => rest) := by
  intro cause hcause
  rcases check_bind_eq_error.1 hcause with hfirst | ⟨hpassed, hlater⟩
  · exact h cause hfirst
  · exact hrest hpassed cause hlater

/-! ### Planes and pictures -/

theorem PlaneShape.check_showsCause (shape : PlaneShape) (kind : PlaneKind) (rowLength : Nat)
    {rows : Nat} (hsome : 0 < rows) : ShowsCause (shape.check kind rowLength rows) := by
  apply (showsCause_require ?_).andThen
  · intro _
    exact showsCause_require Ne.symm
  · intro hshort
    -- the rows are compared, but the lengths are reported, with the number of rows as a factor
    exact Nat.mul_lt_mul_of_pos_right (Nat.lt_of_not_le hshort) hsome

namespace Plane

variable {α : Type}

theorem checkLuma_showsCause (plane : Plane α) (size : Size) :
    ShowsCause (plane.checkLuma size) := by
  rw [checkLuma_shape]
  apply (showsCause_require ?_).andThen
  · intro hnonempty
    apply plane.shape.check_showsCause
    exact (Size.isEmpty_eq_false.1 (require_eq_ok.1 hnonempty)).2
  · intro _
    exact trivial

theorem checkChroma_showsCause (plane : Plane α) {size : Size} {components : UInt64}
    (h : components.toNat ≤ 2) (hsome : 0 < size.height.toNat) :
    ShowsCause (plane.checkChroma size components) := by
  rw [checkChroma_shape plane size h]
  apply plane.shape.check_showsCause
  rw [Size.toNat_chroma_height]
  omega

end Plane

theorem PlanarImage.check_showsCause (image : PlanarImage) : ShowsCause image.check := by
  apply (image.luma.checkLuma_showsCause image.size).andThen
  intro hluma
  obtain ⟨_, hsome, _⟩ := Plane.checkLuma_eq_ok.1 hluma
  apply (image.u.checkChroma_showsCause (by decide) hsome).andThen
  intro _
  exact image.v.checkChroma_showsCause (by decide) hsome

theorem SemiPlanarImage.check_showsCause (image : SemiPlanarImage) : ShowsCause image.check := by
  apply (image.luma.checkLuma_showsCause image.size).andThen
  intro hluma
  obtain ⟨_, hsome, _⟩ := Plane.checkLuma_eq_ok.1 hluma
  exact image.chroma.checkChroma_showsCause (by decide) hsome

theorem Image.check_showsCause (image : Image) : ShowsCause image.source.check := by
  cases image with
  | planar image => exact image.check_showsCause
  | semiPlanar image => exact image.check_showsCause

/-! ### Outputs -/

theorem requireSize_showsCause (expected received : Size) :
    ShowsCause (requireSize expected received) :=
  showsCause_require Ne.symm

theorem requireGrey_showsCause (size : Size) (grey : GreyImage) :
    ShowsCause (requireGrey size grey) := by
  apply (grey.plane.checkLuma_showsCause grey.size).andThen
  intro _
  exact requireSize_showsCause size grey.size

theorem requireDestination_showsCause {size : Size} (stride : UInt32) (length : Nat)
    (hsome : 0 < size.height.toNat) : ShowsCause (requireDestination size stride length) := by
  have hstride : ¬ 4 * size.width.toNat ≤ stride.toNat →
      stride.toNat * size.height.toNat < 4 * size.width.toNat * size.height.toNat := by
    intro hshort
    exact Nat.mul_lt_mul_of_pos_right (Nat.lt_of_not_le hshort) hsome
  rw [requireDestination_eq]
  apply (showsCause_require ?_).andThen
  · intro _
    apply (showsCause_require id).andThen
    intro _
    exact showsCause_require hstride
  · intro _
    exact trivial

/-! ### Endings -/

/-- Whatever the cause is for which a conversion is rejected, it is shown. -/
def Ending.ShowsCause {β : Type} (ending : Ending β) : Prop :=
  ∀ cause after, ending = .rejected cause after → cause.IsShown

namespace Ending

variable {β γ : Type}

theorem showsCause_ofWrites {verdict : Except Rejection Unit} {before : β}
    {write? : β → Option β} (h : Chroma420.ShowsCause verdict) :
    (ofWrites verdict before write?).ShowsCause := by
  intro cause after hrejected
  exact h cause (ofWrites_eq_rejected.1 hrejected).1

theorem ShowsCause.map {ending : Ending β} (h : ending.ShowsCause) (f : β → γ) :
    (ending.map f).ShowsCause := by
  intro cause after hrejected
  obtain ⟨mid, hmid, _⟩ := map_eq_rejected.1 hrejected
  exact h cause mid hmid

theorem ShowsCause.andThen {first : Ending β} {next : β → Ending β} (h : first.ShowsCause)
    (hnext : ∀ mid, (next mid).ShowsCause) : (first.andThen next).ShowsCause := by
  intro cause after hrejected
  rcases first with mid | ⟨other, mid⟩ | _
  · exact hnext mid cause after hrejected
  · cases hrejected
    exact h cause after rfl
  · cases hrejected

end Ending

/-! ### Frames -/

section Frames

variable {α : Type} [ColourDomain α] {source : Source}

theorem paint_showsCause (hsource : ShowsCause source.check)
    (hsome : source.check = .ok () → 0 < source.size.height.toNat) (order : ChannelOrder)
    (stride : UInt32) (before : Outputs α) : (paint order source stride before).ShowsCause := by
  apply Ending.showsCause_ofWrites
  apply hsource.andThen
  intro hcheck
  apply (requireDestination_showsCause stride before.colour.size (hsome hcheck)).andThen
  intro _
  rcases before.grey with _ | grey
  · exact showsCause_ok
  · exact requireGrey_showsCause source.size grey

theorem copyLuma_showsCause (hsource : ShowsCause source.check) (before : GreyImage) :
    (copyLuma source before).ShowsCause := by
  apply Ending.showsCause_ofWrites
  apply hsource.andThen
  intro _
  exact requireGrey_showsCause source.size before

theorem Image.rows_of_check {image : Image} (h : image.source.check = .ok ()) :
    0 < image.source.size.height.toNat := by
  rw [image.check_source] at h
  rw [image.size_source]
  cases image with
  | planar image => exact (PlanarImage.check_eq_ok.1 h).2.1
  | semiPlanar image => exact (SemiPlanarImage.check_eq_ok.1 h).2.1

end Frames

/-! ### Converters -/

namespace Converter

theorem accept_showsCause (converter : Converter) (source : Source) (grey : Option GreyImage) :
    ShowsCause (converter.accept source grey) := by
  rw [accept.eq_def]
  apply (requireSize_showsCause converter.size source.size).andThen
  intro _
  rcases converter.options.grey with _ | _ | _
  · exact showsCause_ok
  all_goals
    rcases grey with _ | image
    · exact showsCause_error trivial
    · exact requireGrey_showsCause converter.size image

section Passes

variable {α : Type} [ColourDomain α] {converter : Converter} {source : Source}

theorem paintColour_showsCause (hsource : ShowsCause source.check)
    (hsome : 0 < source.size.height.toNat) (before : Outputs α) :
    (converter.paintColour source before).ShowsCause := by
  obtain ⟨colour, grey⟩ := before
  exact (paint_showsCause hsource (fun _ => hsome) _ _ _).map _

omit [ColourDomain α] in
theorem copyGrey_showsCause (hsource : ShowsCause source.check) (before : Outputs α) :
    (copyGrey source before).ShowsCause := by
  obtain ⟨colour, _ | grey⟩ := before
  · rintro cause after ⟨⟩
  · exact (copyLuma_showsCause hsource grey).map _

theorem passes_showsCause (hsource : ShowsCause source.check)
    (hsome : 0 < source.size.height.toNat) (before : Outputs α) :
    (converter.passes source before).ShowsCause := by
  rw [passes]
  rcases converter.options.grey with _ | _ | _
  · exact paintColour_showsCause hsource hsome before
  · exact paint_showsCause hsource (fun _ => hsome) _ _ before
  · exact (paintColour_showsCause hsource hsome before).andThen (copyGrey_showsCause hsource)

/-- A converter adds no cause that is not shown: a frame that it has accepted has its size, and
    hence rows. -/
theorem convert_showsCause (converter : Converter) (hsource : ShowsCause source.check)
    (before : Outputs α) : (converter.convert source before).ending.ShowsCause := by
  rcases haccept : converter.accept source before.grey with cause | _
  · rw [ending_of_refused haccept]
    rintro other after ⟨⟩
    exact converter.accept_showsCause source before.grey cause haccept
  · rw [ending_of_accepted haccept]
    apply passes_showsCause hsource
    rw [← (accept_eq_ok.1 haccept).1]
    exact (Size.isEmpty_eq_false.1 converter.nonempty).2

end Passes

end Converter

/-! ### What would be right -/

/-- The length that a check expects of a plane is one that it accepts. -/
theorem PlaneShape.check_of_expected {shape : PlaneShape} {kind kind' : PlaneKind}
    {rowLength rows : Nat} {lengths : Mismatch Nat}
    (h : shape.check kind rowLength rows = .error (.planeSize kind' lengths)) :
    (⟨shape.stride, lengths.expected⟩ : PlaneShape).check kind rowLength rows = .ok () := by
  rw [check, require_bind_eq_error, require_eq_error] at h
  rw [check, require_bind_eq_ok, require_eq_ok]
  rcases h with ⟨_, hcause⟩ | ⟨hfits, _, hcause⟩
  · cases hcause
  · cases hcause
    exact ⟨hfits, rfl⟩

namespace Plane

variable {α : Type} {plane other : Plane α} {lengths : Mismatch Nat}

theorem checkLuma_of_expected {kind : PlaneKind} {size : Size}
    (h : plane.checkLuma size = .error (.planeSize kind lengths))
    (hstride : other.stride = plane.stride) (hlength : other.samples.size = lengths.expected) :
    other.checkLuma size = .ok () := by
  rw [checkLuma_shape, PlaneShape.checkLuma, require_bind_eq_error] at h
  rw [checkLuma_shape, PlaneShape.checkLuma, require_bind_eq_ok, shape, hstride, hlength]
  rcases h with ⟨_, hcause⟩ | ⟨hnonempty, hcheck⟩
  · cases hcause
  · exact ⟨hnonempty, PlaneShape.check_of_expected hcheck⟩

theorem checkChroma_of_expected {kind : PlaneKind} {size : Size} {components : UInt64}
    (hcomponents : components.toNat ≤ 2)
    (h : plane.checkChroma size components = .error (.planeSize kind lengths))
    (hstride : other.stride = plane.stride) (hlength : other.samples.size = lengths.expected) :
    other.checkChroma size components = .ok () := by
  rw [checkChroma_shape plane size hcomponents] at h
  rw [checkChroma_shape other size hcomponents, shape, hstride, hlength]
  exact PlaneShape.check_of_expected h

end Plane

/-- The numbers of a rejection are never contradictory, be it of a frame conversion of a picture or
    of a converter, which may also be given a source that never refuses itself.  A plane that is
    refused for its length passes the same check with the length that was expected. -/
theorem rejections_show_their_causes (α : Type) [ColourDomain α] :
    (∀ (image : Image) (order : ChannelOrder) (stride : UInt32) (before after : Outputs α)
      (cause : Rejection),
      paint order image.source stride before = .rejected cause after → cause.IsShown) ∧
    (∀ (image : Image) (before after : GreyImage) (cause : Rejection),
      copyLuma image.source before = .rejected cause after → cause.IsShown) ∧
    (∀ (converter : Converter) (source : Source),
      (∃ image : Image, source = image.source) ∨ source.check = .ok () →
      ∀ (before after : Outputs α) (cause : Rejection),
        (converter.convert source before).ending = .rejected cause after → cause.IsShown) ∧
    (∀ (β : Type) (plane other : Plane β) (size : Size) (kind : PlaneKind) (lengths : Mismatch Nat),
      plane.checkLuma size = .error (.planeSize kind lengths) →
      other.stride = plane.stride → other.samples.size = lengths.expected →
      other.checkLuma size = .ok ()) ∧
    ∀ (β : Type) (plane other : Plane β) (size : Size) (components : UInt64) (kind : PlaneKind)
      (lengths : Mismatch Nat), components = 1 ∨ components = 2 →
      plane.checkChroma size components = .error (.planeSize kind lengths) →
      other.stride = plane.stride → other.samples.size = lengths.expected →
      other.checkChroma size components = .ok () := by
  refine ⟨?_, ?_, ?_, ?_, ?_⟩
  · intro image order stride before after cause hrejected
    exact paint_showsCause image.check_showsCause Image.rows_of_check order stride before
      cause after hrejected
  · intro image before after cause hrejected
    exact copyLuma_showsCause image.check_showsCause before cause after hrejected
  · intro converter source hsource before after cause hrejected
    refine converter.convert_showsCause ?_ before cause after hrejected
    rcases hsource with ⟨image, rfl⟩ | hcheck
    · exact image.check_showsCause
    · rw [hcheck]
      exact showsCause_ok
  · intro β plane other size kind lengths hcheck hstride hlength
    exact Plane.checkLuma_of_expected hcheck hstride hlength
  · intro β plane other size components kind lengths hcomponents hcheck hstride hlength
    refine Plane.checkChroma_of_expected ?_ hcheck hstride hlength
    rcases hcomponents with rfl | rfl
    · decide
    · decide

/-- A pair of chroma rows that is one sample short. -/
def shortPairs : Plane UInt8 := ⟨#[60, 90, 120, 150, 180, 210, 240], 4⟩

theorem short_buffers_show_their_lengths :
    (paint .rgba oddPicture.source 11 (⟨Array.replicate 33 7, none⟩ : Outputs UInt8) =
        .rejected (.destinationMinimum ⟨36, 33⟩) ⟨Array.replicate 33 7, none⟩ ∧
      (Rejection.destinationMinimum ⟨36, 33⟩).IsShown) ∧
    (copyLuma oddPicture.source ⟨⟨3, 3⟩, Plane.blank 2 6 0⟩ =
        .rejected (.planeMinimum .luma ⟨9, 6⟩) ⟨⟨3, 3⟩, Plane.blank 2 6 0⟩ ∧
      (Rejection.planeMinimum .luma ⟨9, 6⟩).IsShown) ∧
    ((separateConverter.convert shortPicture.source.trusted
        (⟨#[1, 2, 3], some (GreyImage.blank ⟨3, 3⟩)⟩ : Outputs UInt8)).ending =
          .rejected (.destinationSize ⟨36, 3⟩) ⟨#[1, 2, 3], some (GreyImage.blank ⟨3, 3⟩)⟩ ∧
      (Rejection.destinationSize ⟨36, 3⟩).IsShown) ∧
    (GreyImage.blank ⟨3, 3⟩).plane.checkLuma ⟨3, 4⟩ = .error (.planeSize .luma ⟨12, 9⟩) ∧
    (Plane.blank 3 12 (0 : UInt8)).checkLuma ⟨3, 4⟩ = .ok () ∧
    shortPairs.checkChroma ⟨3, 3⟩ 2 = .error (.planeSize .chroma ⟨8, 7⟩) ∧
    (Plane.blank 4 8 (0 : UInt8)).checkChroma ⟨3, 3⟩ 2 = .ok () := by
  obtain ⟨hpaint, hcopy, hconvert, hluma, hchroma⟩ := rejections_show_their_causes UInt8
  refine ⟨⟨rfl, ?_⟩, ⟨rfl, ?_⟩, ⟨rfl, ?_⟩, rfl, ?_, rfl, ?_⟩
  · exact hpaint oddPicture .rgba 11 ⟨Array.replicate 33 7, none⟩ _ _ rfl
  · exact hcopy oddPicture ⟨⟨3, 3⟩, Plane.blank 2 6 0⟩ _ _ rfl
  · exact hconvert separateConverter shortPicture.source.trusted (.inr rfl)
      ⟨#[1, 2, 3], some (GreyImage.blank ⟨3, 3⟩)⟩ _ _ rfl
  · exact hluma UInt8 (GreyImage.blank ⟨3, 3⟩).plane _ ⟨3, 4⟩ .luma ⟨12, 9⟩ rfl rfl rfl
  · exact hchroma UInt8 shortPairs _ ⟨3, 3⟩ 2 .chroma ⟨8, 7⟩ (.inr rfl) rfl rfl rfl

end Chroma420
