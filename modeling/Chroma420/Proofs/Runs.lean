import Chroma420.Proofs.Completion
import Chroma420.Proofs.Decision

/-!
# Runs of calls

A caller keeps one colour buffer and one grey picture and has frame after frame
converted into them, by converters of one size that may differ in all their options,
with the grey picture handed over or withheld.  Some frames are converted and some
are rejected.

What the buffers hold in the end was put there by single calls.  A call that completes
writes every colour element, because the rows of a converter are tight; a call that
writes grey writes every visible sample of the grey picture and nothing else of it;
and a rejected call writes nothing.  So the colour is that of the last call that has
completed and the grey that of the last one that has completed and writes grey, each
as if it had been the only call (`last_completed_call_wins`).

The step lemma is `Call.carryOut_alike`: whatever happened before, the buffers that a
call finds are laid out as the first ones were, with the same padding, and more than
that does not influence it.
-/

namespace Chroma420

/-! ### Calls -/

/-- The buffers that the calls of a run share. -/
structure Buffers (α : Type) where
  colour : Array α
  grey : GreyImage

/-- A call of a converter for frames of a given size. -/
structure Call (size : Size) where
  options : Options
  converter : Converter
  built : Converter.ofSize size options = .ok converter
  image : Image
  /-- Whether the grey picture is handed to the converter. -/
  lendsGrey : Bool

section Calls

variable {size : Size} {α : Type}

/-- The buffers of a caller once a converter has given back what it was handed. -/
def Buffers.giveBack (buffers : Buffers α) (written : Outputs α) : Buffers α :=
  ⟨written.colour, written.grey.getD buffers.grey⟩

/-- Two sets of buffers are laid out alike and have the same padding around their grey. -/
structure Buffers.SameShape (size : Size) (first second : Buffers α) : Prop where
  length_eq : second.colour.size = first.colour.size
  grey : first.grey.SameOutside (fun p => p.Inside size) second.grey

theorem Buffers.SameShape.refl (size : Size) (buffers : Buffers α) :
    buffers.SameShape size buffers :=
  ⟨rfl, .refl _ buffers.grey⟩

namespace Call

theorem size_eq (call : Call size) : call.converter.size = size :=
  (Converter.ofSize_eq_ok.1 call.built).1

theorem options_eq (call : Call size) : call.converter.options = call.options :=
  (Converter.ofSize_eq_ok.1 call.built).2

def lent (call : Call size) (buffers : Buffers α) : Outputs α :=
  ⟨buffers.colour, if call.lendsGrey then some buffers.grey else none⟩

theorem giveBack_lent (call : Call size) (buffers : Buffers α) :
    buffers.giveBack (call.lent buffers) = buffers := by
  rcases hlends : call.lendsGrey with _ | _
  · simp [Buffers.giveBack, lent, hlends]
  · simp [Buffers.giveBack, lent, hlends]

def carryOut [ColourDomain α] (call : Call size) (buffers : Buffers α) : Ending (Buffers α) :=
  (call.converter.convert call.image.source (call.lent buffers)).ending.map
    (Buffers.giveBack buffers)

end Call

/-! ### Sessions -/

/-- A run of calls so far: the calls with their outcomes, the latest first, and the buffers
    as they are now. -/
structure Session (size : Size) (α : Type) where
  past : List (Call size × Outcome)
  buffers : Buffers α

namespace Session

def calls (session : Session size α) : List (Call size) := (session.past.map Prod.fst).reverse

/-- The last call that completed. -/
def lastCompleted? (session : Session size α) : Option (Call size) :=
  (session.past.find? fun entry => entry.2 = .completed).map Prod.fst

/-- The last call that completed and writes grey. -/
def lastGrey? (session : Session size α) : Option (Call size) :=
  (session.past.find? fun entry => entry.2 = .completed ∧ entry.1.options.grey ≠ .disabled).map
    Prod.fst

theorem lastGrey?_completed (call : Call size) (past : List (Call size × Outcome))
    (buffers : Buffers α) :
    (⟨(call, .completed) :: past, buffers⟩ : Session size α).lastGrey? =
      if call.options.grey = .disabled then
        (⟨past, buffers⟩ : Session size α).lastGrey?
      else some call := by
  by_cases hmode : call.options.grey = .disabled
  · simp [lastGrey?, hmode]
  · simp [lastGrey?, hmode]

def step [ColourDomain α] (session : Session size α) (call : Call size) :
    Option (Session size α) :=
  match call.carryOut session.buffers with
  | .completed after => some ⟨(call, .completed) :: session.past, after⟩
  | .rejected cause after => some ⟨(call, .rejected cause) :: session.past, after⟩
  | .fault => none

/-- Carries out calls one after the other on the same buffers. -/
def play [ColourDomain α] (calls : List (Call size)) (buffers : Buffers α) :
    Option (Session size α) :=
  calls.foldlM step ⟨[], buffers⟩

end Session

/-- A part of the buffers is what one call alone makes of the initial buffers, or if there is
    no such call, it is as it was initially. -/
def LeftBy [ColourDomain α] {γ : Type} (call? : Option (Call size)) (part : Buffers α → γ)
    (before after : Buffers α) : Prop :=
  match call? with
  | none => part after = part before
  | some call => ∃ alone, call.carryOut before = .completed alone ∧ part after = part alone

theorem LeftBy.congr [ColourDomain α] {γ : Type} {call? : Option (Call size)}
    {part : Buffers α → γ} {before mid after : Buffers α} (h : LeftBy call? part before mid)
    (hpart : part after = part mid) : LeftBy call? part before after := by
  rcases call? with _ | call
  · exact hpart.trans h
  · obtain ⟨alone, halone, hmid⟩ := h
    exact ⟨alone, halone, hpart.trans hmid⟩

end Calls

/-! ### What a completed conversion writes -/

section Produced

variable {α : Type} [ColourDomain α] {converter : Converter} {source : Source}
  {before before' after after' : Outputs α}

namespace Converter

/-- Every grey mode paints the frame, with or without its grey. -/
theorem Produces.exists_paint (h : converter.Produces source before after) :
    ∃ grey painted,
      paint converter.options.order source converter.stride ⟨before.colour, grey⟩ =
        .completed painted ∧
      painted.colour = after.colour := by
  rcases hmode : converter.options.grey with _ | _ | _
  · simp only [Produces, hmode] at h
    obtain ⟨painted, hpaint, rfl⟩ := h
    exact ⟨none, painted, hpaint, rfl⟩
  · simp only [Produces, hmode] at h
    exact ⟨before.grey, after, h.2, rfl⟩
  · simp only [Produces, hmode] at h
    obtain ⟨painted, _, _, hpaint, _, _, rfl⟩ := h
    exact ⟨none, painted, hpaint, rfl⟩

/-- Nothing of the old colours is left. -/
theorem Produces.colour_eq (h : converter.Produces source before after)
    (hother : converter.Produces source before' after') (hsize : converter.size = source.size)
    (hlength : before'.colour.size = before.colour.size) : after.colour = after'.colour := by
  obtain ⟨grey, painted, hpaint, hcolour⟩ := h.exists_paint
  obtain ⟨grey', painted', hpaint', hcolour'⟩ := hother.exists_paint
  obtain ⟨hcheck, _, hpainted⟩ := paint_eq_completed.1 hpaint
  obtain ⟨_, _, hpainted'⟩ := paint_eq_completed.1 hpaint'
  have hlaid := (hasRoom_of_checkPaint hcheck).colour
  rw [← hcolour, ← hcolour']
  refine hpainted.colour.unique hpainted'.colour ?_ fun _ _ => rfl
  intro i hi
  -- the rows are tight, so there is nothing between their pixels
  have hstride : converter.stride.toNat = 4 * source.size.width.toNat := by
    rw [toNat_stride, hsize]
  have hbehind : before.colour.size ≤ i := by
    rw [show before.colour.size = _ from hlaid.size_eq]
    exact Size.behind_of_tight (by decide) hstride hi
  rw [Array.getElem?_eq_none hbehind, Array.getElem?_eq_none (by rw [hlength]; exact hbehind)]

/-- What the visible samples of the grey picture are filled with. -/
def greyContent (α : Type) [ColourDomain α] (converter : Converter) (source : Source) :
    Point → List UInt8 :=
  match converter.options.grey with
  | .fused => source.greyCell α converter.options.order
  | .disabled | .separate => source.lumaCell

theorem Produces.grey_kept (h : converter.Produces source before after)
    (hmode : converter.options.grey = .disabled) : after.grey = before.grey := by
  simp only [Produces, hmode] at h
  obtain ⟨_, _, rfl⟩ := h
  rfl

theorem Produces.grey_filled (h : converter.Produces source before after)
    (henabled : converter.options.grey ≠ .disabled) :
    ∃ image written, before.grey = some image ∧ after.grey = some written ∧
      GreyImage.FilledBy (converter.greyContent α source) (fun p => p.Inside source.size)
        image written := by
  rcases hmode : converter.options.grey with _ | _ | _
  · exact absurd hmode henabled
  · simp only [Produces, hmode] at h
    obtain ⟨hsome, hpaint⟩ := h
    obtain ⟨image, himage⟩ := Option.isSome_iff_exists.1 hsome
    have hgrey := (paint_eq_completed.1 hpaint).2.2.grey
    rw [himage] at hgrey
    obtain ⟨written, hwritten, hfilled⟩ := exists_of_optionRel_some hgrey
    refine ⟨image, written, himage, hwritten, ?_⟩
    simp only [greyContent, hmode]
    exact hfilled
  · simp only [Produces, hmode] at h
    obtain ⟨painted, image, copied, _, himage, hcopy, rfl⟩ := h
    refine ⟨image, copied, himage, rfl, ?_⟩
    simp only [greyContent, hmode]
    exact (copyLuma_eq_completed.1 hcopy).2.2

end Converter

end Produced

/-! ### One call -/

section Step

variable {size : Size} {α : Type} [ColourDomain α] {before mid : Buffers α}

omit [ColourDomain α] in
theorem Converter.size_of_no_cause {converter : Converter} {image : Image} {length : Nat}
    {grey : Option GreyImage} (h : converter.firstCause? image length grey = none) :
    converter.size = image.source.size := by
  rw [firstCause?_eq, Option.or_eq_none_iff, cause?_eq_none] at h
  exact (accept_eq_ok.1 h.1).1

omit [ColourDomain α] in
/-- Whether a call is rejected, and why, depends on the shape of the buffers only. -/
theorem Call.firstCause?_eq (call : Call size) (h : before.SameShape size mid) :
    call.converter.firstCause? call.image (call.lent mid).colour.size (call.lent mid).grey =
      call.converter.firstCause? call.image (call.lent before).colour.size
        (call.lent before).grey := by
  rcases hlends : call.lendsGrey with _ | _
  · simp [lent, hlends, h.length_eq]
  · simp [lent, hlends, h.length_eq, Converter.firstCause?, Converter.causes,
      Converter.greyCauses, h.grey.check_eq, h.grey.size_eq]

namespace Call

variable {call : Call size} {written : Outputs α}

theorem colour_length
    (h : call.converter.Produces call.image.source (call.lent before) written) :
    (before.giveBack written).colour.size = before.colour.size := by
  obtain ⟨grey, painted, hpaint, hcolour⟩ := h.exists_paint
  have hpainted := (paint_eq_completed.1 hpaint).2.2
  change written.colour.size = _
  rw [← hcolour]
  exact hpainted.colour.size_eq

theorem grey_kept (h : call.converter.Produces call.image.source (call.lent before) written)
    (hmode : call.options.grey = .disabled) :
    (before.giveBack written).grey = before.grey := by
  rw [← call.options_eq] at hmode
  have hgrey := h.grey_kept hmode
  calc
    (before.giveBack written).grey = (before.giveBack (call.lent before)).grey := by
      simp only [Buffers.giveBack, hgrey]
    _ = before.grey := by rw [giveBack_lent]

theorem grey_filled (h : call.converter.Produces call.image.source (call.lent before) written)
    (hsize : call.converter.size = call.image.source.size)
    (hmode : call.options.grey ≠ .disabled) :
    GreyImage.FilledBy (call.converter.greyContent α call.image.source) (fun p => p.Inside size)
      before.grey (before.giveBack written).grey := by
  rw [← call.options_eq] at hmode
  obtain ⟨image, grey, himage, hgrey, hfilled⟩ := h.grey_filled hmode
  rw [← hsize, call.size_eq] at hfilled
  simp only [Buffers.giveBack, hgrey, Option.getD_some]
  rcases hlends : call.lendsGrey with _ | _
  · simp [lent, hlends] at himage
  · simp only [lent, hlends, if_true, Option.some.injEq] at himage
    rw [himage]
    exact hfilled

/-- What a call makes of the buffers that it finds, compared with what it makes of the
    initial ones. -/
structure Overwrites (call : Call size) (before mid alone after : Buffers α) : Prop where
  colour_eq : after.colour = alone.colour
  grey_eq : after.grey = if call.options.grey = .disabled then mid.grey else alone.grey
  shape : before.SameShape size after
  alike : alone.SameShape size after

theorem overwrites_of_produces (h : before.SameShape size mid)
    (hsize : call.converter.size = call.image.source.size) {written' : Outputs α}
    (hfirst : call.converter.Produces call.image.source (call.lent before) written)
    (hsecond : call.converter.Produces call.image.source (call.lent mid) written') :
    call.Overwrites before mid (before.giveBack written) (mid.giveBack written') := by
  have hcolour : (mid.giveBack written').colour = (before.giveBack written).colour :=
    (hfirst.colour_eq hsecond hsize h.length_eq).symm
  have hlength := colour_length hsecond
  rw [h.length_eq] at hlength
  by_cases hmode : call.options.grey = .disabled
  · have hkept := grey_kept hfirst hmode
    have hkept' := grey_kept hsecond hmode
    refine ⟨hcolour, ?_, ⟨hlength, ?_⟩, ⟨congrArg Array.size hcolour, ?_⟩⟩
    · rw [if_pos hmode, hkept']
    · rw [hkept']
      exact h.grey
    · rw [hkept, hkept']
      exact h.grey
  · have hfilled := grey_filled hfirst hsize hmode
    have hfilled' := grey_filled hsecond hsize hmode
    have hgrey : (mid.giveBack written').grey = (before.giveBack written).grey :=
      (hfilled.unique hfilled' h.grey fun _ _ => rfl).symm
    refine ⟨hcolour, ?_, ⟨hlength, ?_⟩, ⟨congrArg Array.size hcolour, ?_⟩⟩
    · rw [if_neg hmode, hgrey]
    · rw [hgrey]
      exact hfilled.sameOutside
    · rw [hgrey]
      exact .refl _ _

/-- A call does on the buffers that it finds what it does on the initial ones: it is rejected
    on both for the same cause, or it completes on both and overwrites what was there. -/
theorem carryOut_alike (call : Call size) (h : before.SameShape size mid) :
    (∃ cause, call.carryOut before = .rejected cause before ∧
        call.carryOut mid = .rejected cause mid) ∨
      ∃ alone after, call.carryOut before = .completed alone ∧
        call.carryOut mid = .completed after ∧ call.Overwrites before mid alone after := by
  have hsame := call.firstCause?_eq h
  rcases hcause : call.converter.firstCause? call.image (call.lent before).colour.size
    (call.lent before).grey with _ | cause
  · right
    rw [hcause] at hsame
    obtain ⟨written, hwritten, hproduces⟩ := Converter.convert_of_no_cause hcause
    obtain ⟨written', hwritten', hproduces'⟩ := Converter.convert_of_no_cause hsame
    refine ⟨before.giveBack written, mid.giveBack written', ?_, ?_, ?_⟩
    · rw [carryOut, hwritten]
      rfl
    · rw [carryOut, hwritten']
      rfl
    · exact overwrites_of_produces h (Converter.size_of_no_cause hcause) hproduces hproduces'
  · left
    rw [hcause] at hsame
    refine ⟨cause, ?_, ?_⟩
    · rw [carryOut, Converter.convert_of_cause hcause, Ending.map, giveBack_lent]
    · rw [carryOut, Converter.convert_of_cause hsame, Ending.map, giveBack_lent]

end Call

/-! ### Runs -/

namespace Session

/-- What is true of a run that began on the buffers `before`. -/
structure Follows (before : Buffers α) (session : Session size α) : Prop where
  shape : before.SameShape size session.buffers
  colour : LeftBy session.lastCompleted? Buffers.colour before session.buffers
  grey : LeftBy session.lastGrey? Buffers.grey before session.buffers

theorem Follows.start (before : Buffers α) : (⟨[], before⟩ : Session size α).Follows before :=
  ⟨.refl size before, rfl, rfl⟩

theorem Follows.step {session : Session size α} (h : session.Follows before) (call : Call size) :
    ∃ next, session.step call = some next ∧ next.Follows before ∧
      next.calls = session.calls ++ [call] := by
  rcases call.carryOut_alike h.shape with ⟨cause, _, hrejected⟩ |
    ⟨alone, after, halone, hafter, hoverwrites⟩
  · refine ⟨⟨(call, .rejected cause) :: session.past, session.buffers⟩, ?_, ⟨h.shape, ?_, ?_⟩, ?_⟩
    · rw [Session.step, hrejected]
    · exact h.colour
    · exact h.grey
    · simp [calls]
  · refine ⟨⟨(call, .completed) :: session.past, after⟩, ?_, ⟨hoverwrites.shape, ?_, ?_⟩, ?_⟩
    · rw [Session.step, hafter]
    · exact ⟨alone, halone, hoverwrites.colour_eq⟩
    · have hgrey := hoverwrites.grey_eq
      rw [lastGrey?_completed]
      by_cases hmode : call.options.grey = .disabled
      · rw [if_pos hmode] at hgrey ⊢
        exact h.grey.congr hgrey
      · rw [if_neg hmode] at hgrey ⊢
        exact ⟨alone, halone, hgrey⟩
    · simp [calls]

theorem Follows.run {session : Session size α} (h : session.Follows before)
    (remaining : List (Call size)) :
    ∃ last, remaining.foldlM Session.step session = some last ∧ last.Follows before ∧
      last.calls = session.calls ++ remaining := by
  induction remaining generalizing session with
  | nil => exact ⟨session, rfl, h, by rw [List.append_nil]⟩
  | cons call rest ih =>
    obtain ⟨next, hstep, hnext, hcalls⟩ := h.step call
    obtain ⟨last, hrest, hlast, hall⟩ := ih hnext
    refine ⟨last, ?_, hlast, ?_⟩
    · rw [List.foldlM_cons, hstep]
      exact hrest
    · rw [hall, hcalls, List.append_assoc, List.singleton_append]

/-- Two runs of the same calls on different buffers: all outcomes are the same, and so are the
    colours as soon as one call has completed. -/
structure Parallel (first second : Session size α) : Prop where
  past_eq : second.past = first.past
  shape : first.buffers.SameShape size second.buffers
  colour : first.lastCompleted?.isSome → second.buffers.colour = first.buffers.colour

theorem Parallel.step {first second : Session size α} (h : first.Parallel second)
    (call : Call size) :
    ∃ next next', first.step call = some next ∧ second.step call = some next' ∧
      next.Parallel next' := by
  rcases call.carryOut_alike h.shape with ⟨cause, hfirst, hsecond⟩ |
    ⟨alone, after, halone, hafter, hoverwrites⟩
  · refine ⟨⟨(call, .rejected cause) :: first.past, first.buffers⟩,
      ⟨(call, .rejected cause) :: second.past, second.buffers⟩, ?_, ?_, ?_, h.shape, h.colour⟩
    · rw [Session.step, hfirst]
    · rw [Session.step, hsecond]
    · rw [h.past_eq]
  · refine ⟨⟨(call, .completed) :: first.past, alone⟩,
      ⟨(call, .completed) :: second.past, after⟩, ?_, ?_, ?_, hoverwrites.alike, ?_⟩
    · rw [Session.step, halone]
    · rw [Session.step, hafter]
    · rw [h.past_eq]
    · intro _
      exact hoverwrites.colour_eq

theorem Parallel.run {first second : Session size α} (h : first.Parallel second)
    (remaining : List (Call size)) :
    ∃ last last', remaining.foldlM Session.step first = some last ∧
      remaining.foldlM Session.step second = some last' ∧ last.Parallel last' := by
  induction remaining generalizing first second with
  | nil => exact ⟨first, second, rfl, rfl, h⟩
  | cons call rest ih =>
    obtain ⟨next, next', hstep, hstep', hnext⟩ := h.step call
    obtain ⟨last, last', hrest, hrest', hlast⟩ := ih hnext
    refine ⟨last, last', ?_, ?_, hlast⟩
    · rw [List.foldlM_cons, hstep]
      exact hrest
    · rw [List.foldlM_cons, hstep']
      exact hrest'

end Session

end Step

/-- A call for pictures of three by three samples. -/
def smallCall (options : Options) (image : Image) (lendsGrey : Bool) : Call ⟨3, 3⟩ where
  options := options
  converter := { separateConverter with options }
  built := Converter.ofSize_eq_ok.2 ⟨rfl, rfl⟩
  image := image
  lendsGrey := lendsGrey

/-- Three calls, of which the second has no grey picture and is rejected. -/
def smallCalls : List (Call ⟨3, 3⟩) := [
  smallCall { order := .rgba, grey := .fused } oddPicture true,
  smallCall { order := .rgba, grey := .separate } oddPicture false,
  smallCall { order := .bgra, grey := .disabled } oddPicture true]

/-- Every run of calls comes to its end, whatever the pictures.  Its colour is what the last
    call that completed makes of the initial buffers, and its grey what the last one that
    completed and writes grey makes of them, padding included; if there is no such call
    they are as they were.  Other initial colours change no outcome, and nothing of them is
    left once a call has completed. -/
theorem last_completed_call_wins (α : Type) [ColourDomain α] {size : Size}
    (calls : List (Call size)) (before : Buffers α) :
    ∃ session : Session size α, Session.play calls before = some session ∧
      session.calls = calls ∧
      LeftBy session.lastCompleted? Buffers.colour before session.buffers ∧
      LeftBy session.lastGrey? Buffers.grey before session.buffers ∧
      before.grey.SameOutside (fun p => p.Inside size) session.buffers.grey ∧
      ∀ colour : Array α, colour.size = before.colour.size →
        ∃ other : Session size α, Session.play calls ⟨colour, before.grey⟩ = some other ∧
          other.past = session.past ∧
          (session.lastCompleted?.isSome → other.buffers.colour = session.buffers.colour) := by
  obtain ⟨session, hplay, hfollows, hcalls⟩ := (Session.Follows.start before).run calls
  refine ⟨session, hplay, hcalls, hfollows.colour, hfollows.grey, hfollows.shape.grey, ?_⟩
  intro colour hlength
  have hstart : (⟨[], before⟩ : Session size α).Parallel ⟨[], ⟨colour, before.grey⟩⟩ := by
    refine ⟨rfl, ⟨hlength, .refl _ before.grey⟩, ?_⟩
    intro hsome
    cases hsome
  obtain ⟨last, other, hlast, hother, hparallel⟩ := hstart.run calls
  rw [show calls.foldlM Session.step _ = _ from hplay] at hlast
  cases hlast
  exact ⟨other, hother, hparallel.past_eq, hparallel.colour⟩

theorem third_call_leaves_its_colours :
    ∃ session : Session ⟨3, 3⟩ UInt8,
      Session.play smallCalls ⟨Array.replicate 36 7, ⟨⟨3, 3⟩, Plane.blank 5 15 9⟩⟩ =
        some session ∧
      session.past.map Prod.snd = [.completed, .rejected .missingGrey, .completed] ∧
      session.lastCompleted?.map Call.options = some { order := .bgra, grey := .disabled } ∧
      session.lastGrey?.map Call.options = some { order := .rgba, grey := .fused } ∧
      ∃ other : Session ⟨3, 3⟩ UInt8,
        Session.play smallCalls ⟨Array.replicate 36 200, ⟨⟨3, 3⟩, Plane.blank 5 15 9⟩⟩ =
          some other ∧
        other.buffers.colour = session.buffers.colour := by
  obtain ⟨session, hplay, _, _, _, _, hother⟩ := last_completed_call_wins UInt8 smallCalls
    ⟨Array.replicate 36 7, ⟨⟨3, 3⟩, Plane.blank 5 15 9⟩⟩
  obtain ⟨other, hplayOther, _, hcolour⟩ := hother (Array.replicate 36 200) rfl
  have hseen : (Session.play smallCalls
      (⟨Array.replicate 36 7, ⟨⟨3, 3⟩, Plane.blank 5 15 9⟩⟩ : Buffers UInt8)).map
        (fun session => (session.past.map Prod.snd, session.lastCompleted?.map Call.options,
          session.lastGrey?.map Call.options)) =
      some ([.completed, .rejected .missingGrey, .completed],
        some { order := .bgra, grey := .disabled },
        some { order := .rgba, grey := .fused }) := by
    decide +kernel
  rw [hplay] at hseen
  simp only [Option.map_some, Option.some.injEq, Prod.mk.injEq] at hseen
  obtain ⟨houtcomes, hlast, hgrey⟩ := hseen
  refine ⟨session, hplay, houtcomes, hlast, hgrey, other, hplayOther, hcolour ?_⟩
  rcases hcompleted : session.lastCompleted? with _ | call
  · rw [hcompleted] at hlast
    cases hlast
  · rfl

end Chroma420
