import Chroma420.Proofs.Copying

/-!
# Comparing two conversions

Two conversions of the same outputs are compared in two steps.  How they end is compared
by `Ending.Alike`.  What they leave when both complete is compared element by element:
two buffers can differ only where the cells of some coordinate have been filled
differently, and `Outputs.SameOutside` names the coordinates for which this may be so.

If there are no such coordinates, the outputs are the same.  Painting and copying
therefore leave no choice: the samples of a frame determine what they write
(`Painted.unique`, `GreyImage.FilledBy.unique`).
-/

namespace Chroma420

/-! ### Endings -/

/-- Two conversions of the same outputs end alike: both fault, or both reject the frame for
    one cause and leave the same outputs, or both complete with outputs that are related. -/
inductive Ending.Alike {β : Type} (related : β → β → Prop) : Ending β → Ending β → Prop where
  | completed {first second : β} (h : related first second) :
      Alike related (completed first) (completed second)
  | rejected (cause : Rejection) (outputs : β) :
      Alike related (rejected cause outputs) (rejected cause outputs)
  | fault : Alike related fault fault

namespace Ending.Alike

variable {β : Type} {related other : β → β → Prop} {first second : Ending β}

theorem mono (h : Alike related first second)
    (himp : ∀ one two, related one two → other one two) : Alike other first second := by
  cases h with
  | completed hrelated => exact .completed (himp _ _ hrelated)
  | rejected cause outputs => exact .rejected cause outputs
  | fault => exact .fault

theorem eq (h : Alike (· = ·) first second) : first = second := by
  cases h with
  | completed hsame => rw [hsame]
  | rejected cause outputs => rfl
  | fault => rfl

theorem map {γ : Type} {mapped : γ → γ → Prop} {f : β → γ} (h : Alike related first second)
    (hmapped : ∀ one two, related one two → mapped (f one) (f two)) :
    Alike mapped (first.map f) (second.map f) := by
  cases h with
  | completed hrelated => exact .completed (hmapped _ _ hrelated)
  | rejected cause outputs => exact .rejected cause (f outputs)
  | fault => exact .fault

theorem andThen {next : β → Ending β} (h : Alike related first second)
    (hnext : ∀ one two, first = .completed one → second = .completed two → related one two →
      Alike other (next one) (next two)) :
    Alike other (first.andThen next) (second.andThen next) := by
  cases h with
  | completed hrelated => exact hnext _ _ rfl rfl hrelated
  | rejected cause outputs => exact .rejected cause outputs
  | fault => exact .fault

end Ending.Alike

/-! ### Optional outputs -/

theorem exists_of_optionRel_some {β γ : Type} {related : β → γ → Prop} {before : β}
    {after : Option γ} (h : Option.Rel related (some before) after) :
    ∃ written, after = some written ∧ related before written := by
  cases h with
  | some hrelated => exact ⟨_, rfl, hrelated⟩

theorem eq_of_optionRel {β : Type} {related : β → β → Prop} {first second : Option β}
    (heq : ∀ one two, related one two → one = two) (h : Option.Rel related first second) :
    first = second := by
  cases h with
  | none => rfl
  | some hrelated => rw [heq _ _ hrelated]

/-- Two optional results of one optional input, compared through it. -/
theorem optionRel_compare {β γ : Type} {related related' : β → γ → Prop}
    {compared : γ → γ → Prop} {before : Option β} {after after' : Option γ}
    (hcompare : ∀ b c c', related b c → related' b c' → compared c c')
    (h : Option.Rel related before after) (hother : Option.Rel related' before after') :
    Option.Rel compared after after' := by
  cases h with
  | none =>
    cases hother with
    | none => exact .none
  | some hfirst =>
    cases hother with
    | some hsecond => exact .some (hcompare _ _ _ hfirst hsecond)

/-- Two optional results of two optional inputs, if both inputs are there or neither is. -/
theorem optionRel_both {β β' γ γ' : Type} {related : β → γ → Prop} {related' : β' → γ' → Prop}
    {compared : γ → γ' → Prop} {before : Option β} {before' : Option β'} {after : Option γ}
    {after' : Option γ'} (hboth : before.isSome = before'.isSome)
    (hcompare : ∀ b b' c c', related b c → related' b' c' → compared c c')
    (h : Option.Rel related before after) (hother : Option.Rel related' before' after') :
    Option.Rel compared after after' := by
  cases h with
  | none =>
    cases hother with
    | none => exact .none
    | some _ => cases hboth
  | some hfirst =>
    cases hother with
    | none => cases hboth
    | some hsecond => exact .some (hcompare _ _ _ _ hfirst hsecond)

theorem optionRel_trans {β γ δ : Type} {related : β → γ → Prop} {related' : γ → δ → Prop}
    {composed : β → δ → Prop} {before : Option β} {mid : Option γ} {after : Option δ}
    (hcompose : ∀ b ∈ before, ∀ c d, related b c → related' c d → composed b d)
    (h : Option.Rel related before mid) (hnext : Option.Rel related' mid after) :
    Option.Rel composed before after := by
  cases h with
  | none =>
    cases hnext with
    | none => exact .none
  | some hfirst =>
    cases hnext with
    | some hsecond => exact .some (hcompose _ rfl _ _ hfirst hsecond)

/-! ### Grey pictures -/

namespace GreyImage

/-- Two grey pictures are laid out alike, and they agree in all samples but those of some
    coordinates. -/
structure SameOutside (points : Point → Prop) (first second : GreyImage) : Prop where
  size_eq : second.size = first.size
  layout : first.plane.SameLayout second.plane
  elsewhere : ∀ i, (∀ p : Point, points p → i ≠ first.index p) →
    second.plane.samples[i]? = first.plane.samples[i]?

variable {points visited : Point → Prop} {first second : GreyImage}

theorem SameOutside.refl (points : Point → Prop) (image : GreyImage) :
    SameOutside points image image :=
  ⟨rfl, ⟨rfl, rfl⟩, fun _ _ => rfl⟩

theorem SameOutside.index_eq (h : SameOutside points first second) (p : Point) :
    second.index p = first.index p := by
  simp only [index, h.layout.stride_eq]

theorem SameOutside.check_eq (h : SameOutside points first second) :
    second.check = first.check := by
  simp only [check, h.size_eq, h.layout.checkLuma_eq]

theorem SameOutside.eq (h : SameOutside points first second) (hnone : ∀ p, ¬ points p) :
    first = second := by
  have hsamples : first.plane.samples = second.plane.samples := by
    apply Array.ext_getElem?
    intro i
    refine (h.elsewhere i ?_).symm
    intro p hp
    exact absurd hp (hnone p)
  have hsize := h.size_eq
  have hstride := h.layout.stride_eq
  obtain ⟨size, samples, stride⟩ := first
  obtain ⟨size', samples', stride'⟩ := second
  cases hsamples
  cases hsize
  cases hstride
  rfl

theorem FilledBy.sameOutside {content : Point → List UInt8} {before after : GreyImage}
    (h : FilledBy content visited before after) : SameOutside visited before after := by
  refine ⟨h.size_eq, ⟨h.stride_eq, h.samples.size_eq⟩, ?_⟩
  intro i hi
  apply h.samples.outside
  intro p hp
  have := hi p hp
  omega

/-- Two grey pictures that were filled in the same samples, and that began alike outside of
    them, differ only in samples with different content. -/
theorem FilledBy.compare {content content' : Point → List UInt8}
    {before before' after after' : GreyImage} (h : FilledBy content visited before after)
    (hother : FilledBy content' visited before' after')
    (hbefore : SameOutside visited before before')
    (hcontent : ∀ p, visited p → content p ≠ content' p → points p) :
    SameOutside points after after' := by
  have hindex : before'.index = before.index := funext hbefore.index_eq
  have hlayout := hbefore.layout
  refine ⟨?_, ⟨?_, ?_⟩, ?_⟩
  · rw [hother.size_eq, hbefore.size_eq, h.size_eq]
  · rw [hother.stride_eq, hlayout.stride_eq, h.stride_eq]
  · rw [hother.samples.size_eq, hlayout.length_eq, h.samples.size_eq]
  · intro i hi
    by_contra hne
    have hfilled := hother.samples
    rw [hindex] at hfilled
    obtain ⟨p, hp, hcell, hdiffer⟩ := h.samples.differ_in_cell hfilled (by
      intro j hj
      refine (hbefore.elsewhere j ?_).symm
      intro q hq
      have := hj q hq
      omega) (Ne.symm hne)
    apply hi p (hcontent p hp hdiffer)
    rw [h.sameOutside.index_eq]
    omega

/-- What the samples of some coordinates are filled with determines a grey picture, up to all
    other samples. -/
theorem FilledBy.unique {content content' : Point → List UInt8}
    {before before' after after' : GreyImage} (h : FilledBy content visited before after)
    (hother : FilledBy content' visited before' after')
    (hbefore : SameOutside visited before before')
    (hcontent : ∀ p, visited p → content p = content' p) : after = after' := by
  have hcompare : SameOutside (fun _ => False) after after' :=
    h.compare hother hbefore fun p hp hdiffer => hdiffer (hcontent p hp)
  exact hcompare.eq fun _ => id

end GreyImage

/-! ### Outputs -/

section Outputs

variable {α : Type}

/-- Two outputs are laid out alike, and they agree in all elements but those of the pixels and
    the greys of some coordinates. -/
structure Outputs.SameOutside (stride : UInt32) (pixels greys : Point → Prop)
    (first second : Outputs α) : Prop where
  length_eq : second.colour.size = first.colour.size
  elsewhere : ∀ i, (∀ p : Point, pixels p →
      i < p.colourIndex stride ∨ p.colourIndex stride + 4 ≤ i) →
    second.colour[i]? = first.colour[i]?
  grey : Option.Rel (GreyImage.SameOutside greys) first.grey second.grey

theorem Outputs.SameOutside.eq {stride : UInt32} {pixels greys : Point → Prop}
    {first second : Outputs α} (h : first.SameOutside stride pixels greys second)
    (hpixels : ∀ p, ¬ pixels p) (hgreys : ∀ p, ¬ greys p) : first = second := by
  have hcolour : first.colour = second.colour := by
    apply Array.ext_getElem?
    intro i
    refine (h.elsewhere i ?_).symm
    intro p hp
    exact absurd hp (hpixels p)
  have hgrey : first.grey = second.grey := eq_of_optionRel (fun _ _ h => h.eq hgreys) h.grey
  obtain ⟨colour, grey⟩ := first
  cases hcolour
  cases hgrey
  rfl

variable [ColourDomain α] {order : ChannelOrder} {source other : Source} {stride : UInt32}
  {visited pixels greys : Point → Prop} {before after after' : Outputs α}

/-- Two paintings of the same coordinates differ only where the two sources do. -/
theorem Painted.compare (h : Painted order source stride visited before after)
    (hother : Painted order other stride visited before after')
    (hpixels : ∀ p, visited p →
      (source.pixelCell order p : List α) ≠ other.pixelCell order p → pixels p)
    (hgreys : ∀ p, visited p →
      source.greyCell α order p ≠ other.greyCell α order p → greys p) :
    after.SameOutside stride pixels greys after' := by
  refine ⟨?_, ?_, ?_⟩
  · rw [hother.colour.size_eq, h.colour.size_eq]
  · intro i hi
    by_contra hne
    obtain ⟨p, hp, hcell, hdiffer⟩ :=
      h.colour.differ_in_cell hother.colour (fun _ _ => rfl) (Ne.symm hne)
    have := hi p (hpixels p hp hdiffer)
    omega
  · apply optionRel_compare _ h.grey hother.grey
    intro image one two hone htwo
    exact hone.compare htwo (.refl _ image) hgreys

/-- The samples of the visited coordinates determine the outputs. -/
theorem Painted.unique (h : Painted order source stride visited before after)
    (hother : Painted order other stride visited before after')
    (hsame : ∀ p, visited p → other.sample? p = source.sample? p) : after = after' := by
  have hconvert : ∀ p, visited p →
      (other.convert? order p : Option (Converted α)) = source.convert? order p := by
    intro p hp
    rw [Source.convert?, Source.convert?, hsame p hp]
  have hcompare : after.SameOutside stride (fun _ => False) (fun _ => False) after' := by
    apply h.compare hother
    · intro p hp hdiffer
      apply hdiffer
      simp only [Source.pixelCell, Source.pixel?, hconvert p hp]
    · intro p hp hdiffer
      apply hdiffer
      simp only [Source.greyCell, hconvert p hp]
  exact hcompare.eq (fun _ => id) fun _ => id

end Outputs

end Chroma420
