import Chroma420.Proofs.Atomicity
import Chroma420.Proofs.Safety

/-!
# How a converter decides

Whether a converter converts a frame, and for which cause it refuses one, can be
told without converting anything.  The causes that can apply are listed in order
(`Converter.causes`), and the first one that does apply is the cause for which the
frame is rejected; if none applies, the conversion completes with what the frame
conversions of its grey mode produce (`convert_decision`).

The checks of the frame conversions are repeated behind those of the converter,
partly in another order, and there are more of them than the list has entries.
The others never refuse a frame that has come so far: the counts of a converter
always fit and its stride always is that of its rows
(`Converter.requireDestination_eq`), and a grey picture that has been accepted is
accepted again.
-/

namespace Chroma420

/-! ### Causes -/

def cause? : Except Rejection Unit → Option Rejection
  | .error cause => some cause
  | .ok () => none

theorem cause?_eq_none {verdict : Except Rejection Unit} :
    cause? verdict = none ↔ verdict = .ok () := by
  rcases verdict with cause | _
  · simp [cause?]
  · simp [cause?]

theorem cause?_eq_some {verdict : Except Rejection Unit} {cause : Rejection} :
    cause? verdict = some cause ↔ verdict = .error cause := by
  rcases verdict with other | _
  · simp [cause?]
  · simp [cause?]

theorem cause?_require (condition : Prop) [Decidable condition] (cause : Rejection) :
    cause? (require condition cause) = if condition then none else some cause := by
  rw [require]
  split
  · rfl
  · rfl

theorem cause?_bind (first : Except Rejection Unit) (rest : Unit → Except Rejection Unit) :
    cause? (first >>= rest) = (cause? first).or (cause? (rest ())) := by
  rcases first with cause | _
  · rfl
  · rfl

theorem findSome?_id_cons (cause : Option Rejection) (rest : List (Option Rejection)) :
    (cause :: rest).findSome? id = cause.or (rest.findSome? id) := by
  rcases cause with _ | cause
  · rfl
  · rfl

namespace Converter

def sizeCause? (converter : Converter) (size : Size) : Option Rejection :=
  if converter.size = size then none else some (.dimensions ⟨converter.size, size⟩)

def lengthCause? (converter : Converter) (length : Nat) : Option Rejection :=
  if length = converter.colourLength.toNat then none
  else some (.destinationSize ⟨converter.colourLength.toNat, length⟩)

def greyCauses (converter : Converter) : Option GreyImage → List (Option Rejection)
  | none => [some .missingGrey]
  | some grey => [cause? grey.check, converter.sizeCause? grey.size]

/-- The causes that can apply to a frame, in the order in which they decide.  An entry
    that does not apply is `none`. -/
def causes (converter : Converter) (image : Image) (length : Nat) (grey : Option GreyImage) :
    List (Option Rejection) :=
  converter.sizeCause? image.size ::
    ((if converter.options.grey = .disabled then [] else converter.greyCauses grey) ++
      [cause? image.check, converter.lengthCause? length])

def firstCause? (converter : Converter) (image : Image) (length : Nat)
    (grey : Option GreyImage) : Option Rejection :=
  (converter.causes image length grey).findSome? id

/-! ### Checks of a converter -/

theorem colour_fits (converter : Converter) :
    4 * converter.size.width.toNat * converter.size.height.toNat < 2 ^ 64 :=
  mul_lt_word (Nat.le_of_lt converter.row_fits) converter.size.height.toNat_lt

/-- Converters are what `ofSize` builds: it gives every one of them, and only for its
    own size and options. -/
theorem ofSize_eq_ok {size : Size} {options : Options} {converter : Converter} :
    ofSize size options = .ok converter ↔
      converter.size = size ∧ converter.options = options := by
  constructor
  · intro h
    rw [ofSize] at h
    split at h
    · rw [check_bind_eq_ok] at h
      obtain ⟨_, h⟩ := h
      split at h
      · cases h
        exact ⟨rfl, rfl⟩
      · cases h
    · cases h
  · rintro ⟨rfl, rfl⟩
    have hfits : requireColourFits converter.size = .ok () := by
      rw [requireColourFits_eq, require_eq_ok]
      exact converter.colour_fits
    rw [ofSize, dif_pos converter.nonempty, check_bind_eq_ok]
    exact ⟨hfits, dif_pos converter.row_fits⟩

theorem cause?_requireSize (converter : Converter) (size : Size) :
    cause? (requireSize converter.size size) = converter.sizeCause? size :=
  cause?_require _ _

theorem cause?_requireGrey (converter : Converter) (grey : GreyImage) :
    cause? (requireGrey converter.size grey) =
      (converter.greyCauses (some grey)).findSome? id := by
  rw [requireGrey, cause?_bind, cause?_requireSize, greyCauses, findSome?_id_cons,
    findSome?_id_cons, List.findSome?_nil, Option.or_none]

theorem cause?_accept (converter : Converter) (source : Source) (grey : Option GreyImage) :
    cause? (converter.accept source grey) = (converter.sizeCause? source.size).or
      ((if converter.options.grey = .disabled then [] else converter.greyCauses grey).findSome?
        id) := by
  rw [accept.eq_def, cause?_bind, cause?_requireSize]
  congr 1
  rcases converter.options.grey with _ | _ | _
  · rfl
  all_goals
    rcases grey with _ | image
    · rfl
    · exact converter.cause?_requireGrey image

/-- The checks that come before anything is written are those of the list. -/
theorem firstCause?_eq (converter : Converter) (image : Image) (length : Nat)
    (grey : Option GreyImage) :
    converter.firstCause? image length grey = (cause? (converter.accept image.source grey)).or
      ((cause? image.check).or (converter.lengthCause? length)) := by
  rw [cause?_accept, image.size_source, firstCause?, causes, findSome?_id_cons,
    List.findSome?_append, findSome?_id_cons, findSome?_id_cons, List.findSome?_nil,
    Option.or_none, Option.or_assoc]

/-- The checks of a destination come down to its length: its counts fit, and its rows
    are those of the frame. -/
theorem requireDestination_eq (converter : Converter) (length : Nat) :
    requireDestination converter.size converter.stride length =
      require (length = converter.colourLength.toNat)
        (.destinationSize ⟨converter.colourLength.toNat, length⟩) := by
  rw [Chroma420.requireDestination_eq, converter.toNat_stride, converter.toNat_colourLength]
  simp only [require, converter.colour_fits, Nat.le_refl, if_true]
  rcases Decidable.em (length = 4 * converter.size.width.toNat * converter.size.height.toNat)
    with h | h
  · rw [if_pos h]
    rfl
  · rw [if_neg h]
    rfl

end Converter

/-! ### Painting and copying an accepted frame -/

section Accepted

variable {α : Type} [ColourDomain α] {converter : Converter} {image : Image} {cause : Rejection}

theorem paint_of_cause {source : Source} {stride : UInt32} {before : Outputs α}
    (order : ChannelOrder) (h : cause? (checkPaint source stride before) = some cause) :
    paint order source stride before = .rejected cause before := by
  rw [paint, Ending.ofWrites_eq_rejected]
  exact ⟨cause?_eq_some.1 h, rfl⟩

theorem Image.paint_of_no_cause {stride : UInt32} {before : Outputs α} (order : ChannelOrder)
    (h : cause? (checkPaint image.source stride before) = none) :
    ∃ after, paint order image.source stride before = .completed after := by
  obtain ⟨after, hafter, _⟩ := image.paint_painted order (cause?_eq_none.1 h)
  exact ⟨after, hafter⟩

namespace Converter

omit [ColourDomain α] in
theorem cause?_checkPaint (hsize : converter.size = image.size) {before : Outputs α}
    (hgrey : ∀ grey ∈ before.grey, requireGrey converter.size grey = .ok ()) :
    cause? (checkPaint image.source converter.stride before) =
      (cause? image.check).or (converter.lengthCause? before.colour.size) := by
  obtain ⟨colour, grey⟩ := before
  rw [checkPaint, cause?_bind, cause?_bind, image.check_source, image.size_source, ← hsize,
    converter.requireDestination_eq, cause?_require]
  rcases grey with _ | grey
  · simp only [cause?, Option.or_none, lengthCause?]
  · simp only [hgrey grey rfl, cause?, Option.or_none, lengthCause?]

omit [ColourDomain α] in
theorem cause?_checkPaint_colour (hsize : converter.size = image.size) (colour : Array α) :
    cause? (checkPaint image.source converter.stride (⟨colour, none⟩ : Outputs α)) =
      (cause? image.check).or (converter.lengthCause? colour.size) := by
  apply cause?_checkPaint hsize
  rintro grey ⟨⟩

omit [ColourDomain α] in
theorem cause?_checkPaint_accepted {before : Outputs α}
    (haccept : converter.accept image.source before.grey = .ok ())
    (henabled : converter.options.grey ≠ .disabled) :
    cause? (checkPaint image.source converter.stride before) =
      (cause? image.check).or (converter.lengthCause? before.colour.size) := by
  have hsize := (accept_eq_ok.1 haccept).1
  rw [image.size_source] at hsize
  apply cause?_checkPaint hsize
  intro grey hmem
  obtain ⟨accepted, haccepted, hrequired⟩ := grey_of_accept haccept henabled
  rw [haccepted] at hmem
  cases hmem
  exact hrequired

theorem paintColour_of_cause (hsize : converter.size = image.size) {before : Outputs α}
    (h : (cause? image.check).or (converter.lengthCause? before.colour.size) = some cause) :
    converter.paintColour image.source before = .rejected cause before := by
  obtain ⟨colour, grey⟩ := before
  rw [← cause?_checkPaint_colour hsize] at h
  rw [paintColour, paint_of_cause _ h]
  rfl

theorem paintColour_of_no_cause (hsize : converter.size = image.size) {before : Outputs α}
    (h : (cause? image.check).or (converter.lengthCause? before.colour.size) = none) :
    ∃ painted, paint converter.options.order image.source converter.stride
        (⟨before.colour, none⟩ : Outputs α) = .completed painted ∧
      converter.paintColour image.source before = .completed ⟨painted.colour, before.grey⟩ := by
  obtain ⟨colour, grey⟩ := before
  rw [← cause?_checkPaint_colour hsize] at h
  obtain ⟨painted, hpainted⟩ := Image.paint_of_no_cause converter.options.order h
  refine ⟨painted, hpainted, ?_⟩
  rw [paintColour, hpainted]
  rfl

/-- What the frame conversions of a grey mode make of the outputs. -/
def Produces (converter : Converter) (source : Source) (before after : Outputs α) : Prop :=
  match converter.options.grey with
  | .disabled => ∃ painted,
      paint converter.options.order source converter.stride
        (⟨before.colour, none⟩ : Outputs α) = .completed painted ∧
      after = ⟨painted.colour, before.grey⟩
  | .fused => before.grey.isSome ∧
      paint converter.options.order source converter.stride before = .completed after
  | .separate => ∃ painted grey copied,
      paint converter.options.order source converter.stride
        (⟨before.colour, none⟩ : Outputs α) = .completed painted ∧
      before.grey = some grey ∧ copyLuma source grey = .completed copied ∧
      after = ⟨painted.colour, some copied⟩

theorem passes_of_cause {before : Outputs α}
    (haccept : converter.accept image.source before.grey = .ok ())
    (h : (cause? image.check).or (converter.lengthCause? before.colour.size) = some cause) :
    converter.passes image.source before = .rejected cause before := by
  have hsize := (accept_eq_ok.1 haccept).1
  rw [image.size_source] at hsize
  rcases hmode : converter.options.grey with _ | _ | _
  · simp only [passes, hmode]
    exact paintColour_of_cause hsize h
  · simp only [passes, hmode]
    apply paint_of_cause
    rw [cause?_checkPaint_accepted haccept (by rw [hmode]; decide), h]
  · simp only [passes, hmode, paintColour_of_cause hsize h]
    rfl

theorem passes_of_no_cause {before : Outputs α}
    (haccept : converter.accept image.source before.grey = .ok ())
    (h : (cause? image.check).or (converter.lengthCause? before.colour.size) = none) :
    ∃ after, converter.passes image.source before = .completed after ∧
      converter.Produces image.source before after := by
  have hsize := (accept_eq_ok.1 haccept).1
  rw [image.size_source] at hsize
  obtain ⟨painted, hpainted, hcolour⟩ := paintColour_of_no_cause hsize h
  rcases hmode : converter.options.grey with _ | _ | _
  · simp only [passes, Produces, hmode]
    exact ⟨_, hcolour, painted, hpainted, rfl⟩
  · have henabled : converter.options.grey ≠ .disabled := by rw [hmode]; decide
    obtain ⟨grey, hgrey, _⟩ := grey_of_accept haccept henabled
    rw [← cause?_checkPaint_accepted haccept henabled] at h
    obtain ⟨after, hafter⟩ := Image.paint_of_no_cause converter.options.order h
    simp only [passes, Produces, hmode, hgrey]
    exact ⟨after, hafter, rfl, hafter⟩
  · have henabled : converter.options.grey ≠ .disabled := by rw [hmode]; decide
    obtain ⟨grey, hgrey, hrequired⟩ := grey_of_accept haccept henabled
    have hchecks : checkCopy image.source grey = .ok () := by
      rw [Image.checkCopy_eq_ok, ← hsize]
      exact ⟨cause?_eq_none.1 (Option.or_eq_none_iff.1 h).1, hrequired⟩
    obtain ⟨copied, hcopied, _⟩ := image.copyLuma_filledBy hchecks
    simp only [passes, Produces, hmode, hcolour, Ending.andThen, hgrey, copyGrey, hcopied]
    exact ⟨_, rfl, painted, grey, copied, hpainted, rfl, hcopied, rfl⟩

end Converter

end Accepted

/-! ### Causes that cannot apply -/

/-- The causes of a converter are those that a caller can see in what was handed
    over: never a count that does not fit, and never a stride. -/
def Rejection.IsVisible : Rejection → Prop
  | sizeOverflow | destinationMinimum _ => False
  | destinationSize _ | zeroSize | planeSize _ _ | planeMinimum _ _ | dimensions _ |
    missingGrey => True

theorem Rejection.IsLayout.isVisible {cause : Rejection} (h : cause.IsLayout) :
    cause.IsVisible := by
  cases cause <;> first | exact h.elim | exact trivial

namespace Converter

theorem sizeCause?_isVisible {converter : Converter} {size : Size} {cause : Rejection}
    (h : converter.sizeCause? size = some cause) : cause.IsVisible := by
  rw [sizeCause?] at h
  split at h
  · cases h
  · cases h
    exact trivial

theorem lengthCause?_isVisible {converter : Converter} {length : Nat} {cause : Rejection}
    (h : converter.lengthCause? length = some cause) : cause.IsVisible := by
  rw [lengthCause?] at h
  split at h
  · cases h
  · cases h
    exact trivial

theorem greyCauses_isVisible {converter : Converter} {grey : Option GreyImage}
    {cause : Rejection} (h : some cause ∈ converter.greyCauses grey) : cause.IsVisible := by
  rcases grey with _ | grey
  · rw [greyCauses, List.mem_singleton] at h
    cases h
    exact trivial
  · rw [greyCauses, List.mem_cons, List.mem_singleton] at h
    rcases h with hcheck | hsize
    · have hlayout := Plane.checkLuma_eq_error (cause?_eq_some.1 hcheck.symm)
      exact hlayout.isVisible
    · exact sizeCause?_isVisible hsize.symm

theorem causes_isVisible {converter : Converter} {image : Image} {length : Nat}
    {grey : Option GreyImage} {cause : Rejection}
    (h : some cause ∈ converter.causes image length grey) : cause.IsVisible := by
  rw [causes, List.mem_cons, List.mem_append, List.mem_cons, List.mem_singleton] at h
  rcases h with hsize | hgrey | hcheck | hlength
  · exact sizeCause?_isVisible hsize.symm
  · split at hgrey
    · cases hgrey
    · exact greyCauses_isVisible hgrey
  · exact (Image.check_eq_error (cause?_eq_some.1 hcheck.symm)).isVisible
  · exact lengthCause?_isVisible hlength.symm

theorem firstCause?_isVisible {converter : Converter} {image : Image} {length : Nat}
    {grey : Option GreyImage} {cause : Rejection}
    (h : converter.firstCause? image length grey = some cause) : cause.IsVisible := by
  obtain ⟨entry, hmem, hentry⟩ := List.exists_of_findSome?_eq_some h
  rw [id] at hentry
  rw [hentry] at hmem
  exact causes_isVisible hmem

end Converter

/-! ### The decision -/

section Decision

variable {α : Type} [ColourDomain α]

namespace Converter

theorem convert_of_cause {converter : Converter} {image : Image} {before : Outputs α}
    {cause : Rejection}
    (h : converter.firstCause? image before.colour.size before.grey = some cause) :
    (converter.convert image.source before).ending = .rejected cause before := by
  rw [firstCause?_eq] at h
  rcases haccept : converter.accept image.source before.grey with other | _
  · rw [haccept] at h
    cases h
    exact ending_of_refused haccept
  · rw [haccept] at h
    rw [ending_of_accepted haccept]
    exact passes_of_cause haccept h

theorem convert_of_no_cause {converter : Converter} {image : Image} {before : Outputs α}
    (h : converter.firstCause? image before.colour.size before.grey = none) :
    ∃ after, (converter.convert image.source before).ending = .completed after ∧
      converter.Produces image.source before after := by
  rw [firstCause?_eq, Option.or_eq_none_iff] at h
  obtain ⟨haccept, hrest⟩ := h
  rw [cause?_eq_none] at haccept
  rw [ending_of_accepted haccept]
  exact passes_of_no_cause haccept hrest

/-- A converter that writes no grey does with a grey picture what it does without,
    and hands it back. -/
theorem convert_disabled {converter : Converter} (source : Source)
    (hmode : converter.options.grey = .disabled) (colour : Array α) (grey : Option GreyImage) :
    (converter.convert source ⟨colour, grey⟩).ending =
      (converter.convert source ⟨colour, none⟩).ending.map
        fun after => ⟨after.colour, grey⟩ := by
  change converter.run source ⟨colour, grey⟩ = (converter.run source ⟨colour, none⟩).map _
  simp only [run, accept, passes, hmode]
  rcases requireSize converter.size source.size with cause | _
  · rfl
  · change converter.paintColour source ⟨colour, grey⟩ =
      (converter.paintColour source ⟨colour, none⟩).map _
    rw [paintColour, paintColour]
    rcases paint converter.options.order source converter.stride
      (⟨colour, none⟩ : Outputs α) with written | ⟨cause, written⟩ | _
    · rfl
    · rfl
    · rfl

end Converter

/-- The complete decision procedure of a converter.  The first cause that applies is
    the one for which the frame is rejected, and if there is none the conversion
    completes with what the frame conversions of the grey mode produce at a stride
    of tight rows.  A rejection is never for a count that does not fit or for a
    stride, and a converter that writes no grey takes no notice of a grey picture. -/
theorem convert_decision (converter : Converter) (image : Image) (before : Outputs α) :
    (∀ cause, converter.firstCause? image before.colour.size before.grey = some cause →
      (converter.convert image.source before).ending = .rejected cause before) ∧
    (converter.firstCause? image before.colour.size before.grey = none →
      ∃ after, (converter.convert image.source before).ending = .completed after ∧
        converter.Produces image.source before after) ∧
    (converter.stride.toNat = 4 * converter.size.width.toNat ∧
      converter.colourLength.toNat =
        4 * converter.size.width.toNat * converter.size.height.toNat) ∧
    (∀ cause after, (converter.convert image.source before).ending = .rejected cause after →
      cause ≠ .sizeOverflow ∧ ∀ lengths, cause ≠ .destinationMinimum lengths) ∧
    (converter.options.grey = .disabled → ∀ grey : Option GreyImage,
      (converter.convert image.source ⟨before.colour, grey⟩).ending =
        (converter.convert image.source ⟨before.colour, none⟩).ending.map
          fun after => ⟨after.colour, grey⟩) := by
  refine ⟨fun cause => Converter.convert_of_cause, Converter.convert_of_no_cause,
    ⟨converter.toNat_stride, converter.toNat_colourLength⟩, ?_, ?_⟩
  · intro cause after hrejected
    rcases hfirst : converter.firstCause? image before.colour.size before.grey with _ | first
    · obtain ⟨written, hwritten, _⟩ := Converter.convert_of_no_cause hfirst
      rw [hwritten] at hrejected
      cases hrejected
    · rw [Converter.convert_of_cause hfirst] at hrejected
      cases hrejected
      have hvisible := Converter.firstCause?_isVisible hfirst
      constructor
      · rintro rfl
        exact hvisible
      · rintro lengths rfl
        exact hvisible
  · intro hmode grey
    exact Converter.convert_disabled image.source hmode before.colour grey

theorem separate_decision :
    (separateConverter.convert oddPicture.source (⟨#[], none⟩ : Outputs UInt8)).ending =
        .rejected .missingGrey ⟨#[], none⟩ ∧
      ∃ after, (separateConverter.convert oddPicture.source
          (⟨Array.replicate 36 7, some (GreyImage.blank ⟨3, 3⟩)⟩ : Outputs UInt8)).ending =
            .completed after ∧
        separateConverter.Produces oddPicture.source
          ⟨Array.replicate 36 7, some (GreyImage.blank ⟨3, 3⟩)⟩ after := by
  refine ⟨?_, ?_⟩
  · exact (convert_decision separateConverter oddPicture _).1 _ rfl
  · exact (convert_decision separateConverter oddPicture _).2.1 rfl

end Decision

end Chroma420
