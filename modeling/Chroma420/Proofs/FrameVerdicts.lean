import Chroma420.Proofs.Faults
import Chroma420.Proofs.Verdicts

/-!
# Verdicts on frames

Several things can be wrong with a frame at once, and a caller is told one of them.  Which one
follows from a list of conditions in the order in which they decide: first those of the source on
itself, then those of the colour rows (`destinationConditions`), and last those of the grey picture
(`GreyImage.conditionsFor`).  A frame conversion is rejected for the cause of the first condition
that does not hold, and it goes on if all of them do (`Ending.Settled`).

A source that a caller has built may refuse itself for any cause, or never.  Its verdict enters the
list as it is (`Source.conditions`).  The verdict of a picture has conditions of its own
(`Image.conditions`), so there the whole list is about plain numbers.

Within colour rows the length comes before the stride, and within planes the stride before the
length.  The numbers that go with a cause are computed in words, but they are the exact ones: a
product is computed only behind the condition that it fits.
-/

namespace Chroma420

/-! ### Endings -/

/-- A conversion of `before` is rejected for the first condition that does not hold, with `before`
    as it was.  Unless it faults, it completes if all conditions hold. -/
structure Ending.Settled {β : Type} (ending : Ending β) (before : β)
    (conditions : List Condition) : Prop where
  rejects : ∀ cause after, ending = .rejected cause after ↔
    FirstViolated conditions cause ∧ after = before
  completes : ending ≠ .fault →
    ((∃ after, ending = .completed after) ↔ ∀ condition ∈ conditions, condition.holds)

theorem Ending.settled_ofWrites {β : Type} {verdict : Except Rejection Unit} {before : β}
    {write? : β → Option β} {conditions : List Condition} (h : Decides conditions verdict) :
    (ofWrites verdict before write?).Settled before conditions := by
  constructor
  · intro cause after
    rw [ofWrites_eq_rejected, h.refuses]
  · intro hreturns
    rw [← h.passes]
    constructor
    · rintro ⟨after, hafter⟩
      exact (ofWrites_eq_completed.1 hafter).1
    · intro hverdict
      rcases hwrite : write? before with _ | after
      · exact absurd (ofWrites_eq_fault.2 ⟨hverdict, hwrite⟩) hreturns
      · exact ⟨after, ofWrites_eq_completed.2 ⟨hverdict, hwrite⟩⟩

/-! ### Sources -/

/-- The verdict of a source on itself, as conditions: none if it passes, and otherwise one that
    does not hold. -/
def Source.conditions (source : Source) : List Condition :=
  match source.check with
  | .ok () => []
  | .error cause => [⟨False, cause⟩]

def Image.conditions : Image → List Condition
  | planar image => image.conditions
  | semiPlanar image => image.conditions

theorem decides_nil : Decides [] (.ok ()) := by
  constructor
  · simp
  · simp [firstViolated_nil]

theorem Source.decides_check (source : Source) : Decides source.conditions source.check := by
  rw [conditions.eq_def]
  rcases source.check with cause | _
  · constructor
    · simp
    · simp [firstViolated_cons, firstViolated_nil]
  · exact decides_nil

theorem Image.decides_check (image : Image) : Decides image.conditions image.source.check := by
  cases image with
  | planar image => exact image.decides_check
  | semiPlanar image => exact image.decides_check

/-! ### Outputs -/

/-- The colour elements of the frame can be counted, there are as many as its rows take, and a row
    is long enough. -/
def destinationConditions (size : Size) (stride : UInt32) (length : Nat) : List Condition :=
  let needed := 4 * size.width.toNat * size.height.toNat
  let rows := stride.toNat * size.height.toNat
  [⟨needed < 2 ^ 64, .sizeOverflow⟩,
    ⟨length = rows, .destinationSize ⟨rows, length⟩⟩,
    ⟨4 * size.width.toNat ≤ stride.toNat, .destinationMinimum ⟨needed, rows⟩⟩]

/-- The conditions on a grey picture that goes with a frame of this size. -/
def GreyImage.conditionsFor (grey : GreyImage) (size : Size) : List Condition :=
  grey.conditions ++ [⟨size = grey.size, .dimensions ⟨size, grey.size⟩⟩]

def Outputs.conditions {α : Type} (outputs : Outputs α) (size : Size) (stride : UInt32) :
    List Condition :=
  destinationConditions size stride outputs.colour.size ++
    match outputs.grey with
    | none => []
    | some grey => grey.conditionsFor size

theorem decides_requireDestination (size : Size) (stride : UInt32) (length : Nat) :
    Decides (destinationConditions size stride length) (requireDestination size stride length) := by
  rw [requireDestination_eq]
  exact (decides_require ⟨_, _⟩ Iff.rfl).andThen
    ((decides_require ⟨_, _⟩ Iff.rfl).andThen (decides_require ⟨_, _⟩ Iff.rfl))

theorem decides_requireGrey (size : Size) (grey : GreyImage) :
    Decides (grey.conditionsFor size) (requireGrey size grey) :=
  grey.decides_check.andThen (decides_require ⟨_, _⟩ Iff.rfl)

/-! ### Frames -/

section Frames

variable {source : Source} {conditions : List Condition}

theorem decides_checkPaint {α : Type} (h : Decides conditions source.check) (stride : UInt32)
    (outputs : Outputs α) :
    Decides (conditions ++ outputs.conditions source.size stride)
      (checkPaint source stride outputs) := by
  have hdestination := decides_requireDestination source.size stride outputs.colour.size
  obtain ⟨colour, _ | grey⟩ := outputs
  · exact h.andThen (hdestination.andThen decides_nil)
  · exact h.andThen (hdestination.andThen (decides_requireGrey source.size grey))

theorem decides_checkCopy (h : Decides conditions source.check) (grey : GreyImage) :
    Decides (conditions ++ grey.conditionsFor source.size) (checkCopy source grey) :=
  h.andThen (decides_requireGrey source.size grey)

theorem paint_settled {α : Type} [ColourDomain α] (h : Decides conditions source.check)
    (order : ChannelOrder) (stride : UInt32) (before : Outputs α) :
    (paint order source stride before).Settled before
      (conditions ++ before.conditions source.size stride) :=
  Ending.settled_ofWrites (decides_checkPaint h stride before)

theorem copyLuma_settled (h : Decides conditions source.check) (before : GreyImage) :
    (copyLuma source before).Settled before (conditions ++ before.conditionsFor source.size) :=
  Ending.settled_ofWrites (decides_checkCopy h before)

end Frames

theorem Ending.Returns.ne_fault {β : Type} {ending : Ending β} (h : ending.Returns) :
    ending ≠ .fault := by
  obtain ⟨after, rfl | ⟨cause, rfl⟩⟩ := h
  · rintro ⟨⟩
  · rintro ⟨⟩

/-- The complete decision of the frame conversions.  The first condition that does not hold gives
    the cause, in the order source, colour rows, grey picture; if all hold, a conversion that does
    not fault completes.  This goes for every source with any verdict on itself.  For a picture the
    conditions of its own layout take the place of the verdict, and it never faults. -/
theorem frames_are_settled_in_order (α : Type) [ColourDomain α] :
    (∀ (source : Source) (order : ChannelOrder) (stride : UInt32) (before : Outputs α),
      (paint order source stride before).Settled before
        (source.conditions ++ before.conditions source.size stride)) ∧
    (∀ (source : Source) (before : GreyImage),
      (copyLuma source before).Settled before
        (source.conditions ++ before.conditionsFor source.size)) ∧
    (∀ (image : Image) (order : ChannelOrder) (stride : UInt32) (before : Outputs α),
      paint order image.source stride before ≠ .fault ∧
        (paint order image.source stride before).Settled before
          (image.conditions ++ before.conditions image.size stride)) ∧
    ∀ (image : Image) (before : GreyImage),
      copyLuma image.source before ≠ .fault ∧
        (copyLuma image.source before).Settled before
          (image.conditions ++ before.conditionsFor image.size) := by
  refine ⟨?_, ?_, ?_, ?_⟩
  · intro source
    exact paint_settled source.decides_check
  · intro source
    exact copyLuma_settled source.decides_check
  · intro image order stride before
    refine ⟨(image.paint_returns order stride before).ne_fault, ?_⟩
    rw [← image.size_source]
    exact paint_settled image.decides_check order stride before
  · intro image before
    refine ⟨(image.copyLuma_returns before).ne_fault, ?_⟩
    rw [← image.size_source]
    exact copyLuma_settled image.decides_check before

/-- Colour elements that do not make up three rows of any stride, and a grey picture that is too
    small. -/
def misfits : Outputs UInt8 := ⟨Array.replicate 35 7, some (GreyImage.blank ⟨2, 2⟩)⟩

/-- The length, the stride and the size of the grey picture are all wrong, and the length decides,
    unless the source refuses itself. -/
theorem misfits_are_refused_for_their_length :
    paint .rgba oddPicture.source 11 misfits = .rejected (.destinationSize ⟨33, 35⟩) misfits ∧
      paint .rgba { oddPicture.source with check := .error .zeroSize } 11 misfits =
        .rejected .zeroSize misfits ∧
      ∃ after, copyLuma oddPicture.source (GreyImage.blank ⟨3, 3⟩) = .completed after := by
  obtain ⟨hsources, _, himages, hcopies⟩ := frames_are_settled_in_order UInt8
  refine ⟨?_, ?_, ?_⟩
  · apply ((himages oddPicture .rgba 11 misfits).2.rejects _ _).2
    refine ⟨firstViolated_append.2 (.inr ⟨oddPicture.decides_check.passes.1 rfl, ?_⟩), rfl⟩
    exact .later (by decide) (.here (by decide))
  · apply ((hsources _ .rgba 11 misfits).rejects _ _).2
    exact ⟨.here id, rfl⟩
  · obtain ⟨hreturns, hsettled⟩ := hcopies oddPicture (GreyImage.blank ⟨3, 3⟩)
    apply (hsettled.completes hreturns).2
    rw [List.forall_mem_append]
    exact ⟨oddPicture.decides_check.passes.1 rfl, (decides_requireGrey _ _).passes.1 rfl⟩

end Chroma420
