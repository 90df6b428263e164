import Chroma420.Proofs.Comparison

/-!
# What completes a conversion

The checks of a conversion judge layouts.  Whether the samples of a frame are there
to be read is another question, and for a source that a caller has built nothing
answers it in advance.  A conversion whose checks pass completes exactly if all that
it reads is there, and otherwise it faults (`paint_eq_completed`, `paint_eq_fault`,
`copyLuma_eq_completed`, `copyLuma_eq_fault`).
-/

namespace Chroma420

/-- A step that is part of a run to the end has itself come to an end. -/
theorem exists_step_of_foldlM {ι β : Type} {step : β → ι → Option β} {items : List ι}
    {before after : β} (h : items.foldlM step before = some after) :
    ∀ item ∈ items, ∃ mid next, step mid item = some next := by
  induction items generalizing before with
  | nil =>
    intro item hitem
    cases hitem
  | cons first rest ih =>
    rw [List.foldlM_cons] at h
    obtain ⟨mid, hmid, hrest⟩ := Option.bind_eq_some_iff.1 h
    intro item hitem
    rcases List.mem_cons.1 hitem with rfl | hitem
    · exact ⟨before, mid, hmid⟩
    · exact ih hrest item hitem

theorem Ending.ofWrites_eq_fault_of_completes {β : Type} {verdict : Except Rejection Unit}
    {before : β} {write? : β → Option β} {condition : Prop}
    (h : verdict = .ok () →
      ((∃ after, ofWrites verdict before write? = .completed after) ↔ condition)) :
    ofWrites verdict before write? = .fault ↔ verdict = .ok () ∧ ¬ condition := by
  rw [ofWrites_eq_fault]
  refine and_congr_right ?_
  intro hverdict
  simp only [← h hverdict, ofWrites_eq_completed, hverdict, true_and]
  rcases write? before with _ | written
  · simp
  · simp

/-! ### Painting -/

/-- Everything that painting reads of a frame is there. -/
def Source.Readable (source : Source) : Prop :=
  ∀ p : Point, p.Inside source.size → ∃ sample, source.sample? p = some sample

section Painting

variable {α : Type} [ColourDomain α] {order : ChannelOrder} {source : Source} {stride : UInt32}
  {before after : Outputs α}

theorem Source.convert?_of_sample {sample : Yuv} {p : Point}
    (h : source.sample? p = some sample) :
    source.convert? order p = some (sample.convert order : Converted α) := by
  rw [convert?, h]
  rfl

theorem Source.Readable.exists_convert (h : source.Readable) (order : ChannelOrder) {p : Point}
    (hp : p.Inside source.size) :
    ∃ converted : Converted α, source.convert? order p = some converted := by
  obtain ⟨sample, hsample⟩ := h p hp
  exact ⟨_, convert?_of_sample hsample⟩

/-- Where the grey of a domain is luma as it is, painting and copying write the same grey. -/
theorem Source.greyCell_of_raw_luma
    (hraw : ∀ (luma : UInt8) (colour : Rgb α), ColourDomain.grey luma colour = luma)
    {sample : Yuv} {p : Point} (h : source.sample? p = some sample) :
    source.greyCell α order p = source.lumaCell p := by
  have hgrey : (sample.convert order : Converted α).grey = sample.luma := hraw _ _
  rw [greyCell, convert?_of_sample h, lumaCell, (sample?_eq_some.1 h).1]
  simp only [hgrey]

theorem Source.exists_sample_of_convert {converted : Converted α} {p : Point}
    (h : source.convert? order p = some converted) : ∃ sample, source.sample? p = some sample := by
  obtain ⟨sample, hsample, _⟩ := Option.map_eq_some_iff.1 h
  exact ⟨sample, hsample⟩

theorem paint_of_readable (order : ChannelOrder)
    (hcheck : checkPaint source stride before = .ok ()) (hstride : stride ≠ 0)
    (hreadable : source.Readable) :
    ∃ after, paint order source stride before = .completed after ∧
      Painted order source stride (fun p => p.Inside source.size) before after := by
  apply paint_painted hcheck hstride
  intro p hp
  exact hreadable.exists_convert order hp

theorem paint_of_error (order : ChannelOrder) {cause : Rejection}
    (h : checkPaint source stride before = .error cause) :
    paint order source stride before = .rejected cause before :=
  Ending.ofWrites_eq_rejected.2 ⟨h, rfl⟩

theorem readable_of_paint (h : paint order source stride before = .completed after) :
    checkPaint source stride before = .ok () ∧ stride ≠ 0 ∧ source.Readable := by
  obtain ⟨hcheck, hwrites⟩ := Ending.ofWrites_eq_completed.1 h
  by_cases hstride : stride = 0
  · rw [if_pos hstride] at hwrites
    cases hwrites
  · rw [if_neg hstride] at hwrites
    refine ⟨hcheck, hstride, ?_⟩
    intro p hp
    obtain ⟨mid, next, hstep⟩ := exists_step_of_foldlM hwrites p (Size.mem_points.2 hp)
    obtain ⟨converted, hconverted, _⟩ := Option.bind_eq_some_iff.1 hstep
    exact Source.exists_sample_of_convert hconverted

/-- Painting completes if its checks pass and the frame can be read, and then every visible
    coordinate has been painted. -/
theorem paint_eq_completed :
    paint order source stride before = .completed after ↔
      checkPaint source stride before = .ok () ∧ (stride ≠ 0 ∧ source.Readable) ∧
        Painted order source stride (fun p => p.Inside source.size) before after := by
  constructor
  · intro h
    obtain ⟨hcheck, hstride, hreadable⟩ := readable_of_paint h
    obtain ⟨painted, hpaint, hpainted⟩ := paint_of_readable order hcheck hstride hreadable
    rw [hpaint] at h
    cases h
    exact ⟨hcheck, ⟨hstride, hreadable⟩, hpainted⟩
  · rintro ⟨hcheck, ⟨hstride, hreadable⟩, hafter⟩
    obtain ⟨painted, hpaint, hpainted⟩ := paint_of_readable order hcheck hstride hreadable
    rw [hpaint, hpainted.unique hafter fun _ _ => rfl]

theorem paint_eq_fault :
    paint order source stride before = .fault ↔
      checkPaint source stride before = .ok () ∧ ¬ (stride ≠ 0 ∧ source.Readable) := by
  apply Ending.ofWrites_eq_fault_of_completes
  intro hcheck
  constructor
  · rintro ⟨after, hafter⟩
    exact (readable_of_paint hafter).2
  · rintro ⟨hstride, hreadable⟩
    obtain ⟨after, hafter, _⟩ := paint_of_readable order hcheck hstride hreadable
    exact ⟨after, hafter⟩

/-- Two paintings of the same outputs under one verdict end alike if they read equally much and
    what they leave is related. -/
theorem paint_alike_of_painted {other : Source} {order' : ChannelOrder}
    {related : Outputs α → Outputs α → Prop}
    (hchecks : checkPaint other stride before = checkPaint source stride before)
    (hreadable : other.Readable ↔ source.Readable)
    (hrelated : source.Readable → ∀ after after',
      Painted order source stride (fun p => p.Inside source.size) before after →
      Painted order' other stride (fun p => p.Inside other.size) before after' →
      related after after') :
    (paint order source stride before).Alike related (paint order' other stride before) := by
  rcases hverdict : checkPaint source stride before with cause | _
  · rw [hverdict] at hchecks
    rw [paint_of_error order hverdict, paint_of_error order' hchecks]
    exact .rejected cause before
  · rw [hverdict] at hchecks
    by_cases hread : stride ≠ 0 ∧ source.Readable
    · obtain ⟨after, hpaint, hpainted⟩ := paint_of_readable order hverdict hread.1 hread.2
      obtain ⟨after', hpaint', hpainted'⟩ :=
        paint_of_readable order' hchecks hread.1 (hreadable.2 hread.2)
      rw [hpaint, hpaint']
      exact .completed (hrelated hread.2 after after' hpainted hpainted')
    · have hread' : ¬ (stride ≠ 0 ∧ other.Readable) := by
        rw [hreadable]
        exact hread
      rw [paint_eq_fault.2 ⟨hverdict, hread⟩, paint_eq_fault.2 ⟨hchecks, hread'⟩]
      exact .fault

end Painting

/-! ### Copying luma -/

section Copying

variable {source : Source} {before after : GreyImage}

theorem copyLuma_of_error {cause : Rejection} (h : checkCopy source before = .error cause) :
    copyLuma source before = .rejected cause before :=
  Ending.ofWrites_eq_rejected.2 ⟨h, rfl⟩

theorem hasLuma_of_copyLuma (h : copyLuma source before = .completed after) :
    checkCopy source before = .ok () ∧ source.HasLuma := by
  obtain ⟨hcheck, hwrites⟩ := Ending.ofWrites_eq_completed.1 h
  refine ⟨hcheck, ?_⟩
  intro y hy
  obtain ⟨mid, next, hstep⟩ := exists_step_of_foldlM hwrites y (Size.mem_rows.2 hy)
  obtain ⟨row, hrow, hput⟩ := Option.bind_eq_some_iff.1 hstep
  refine ⟨row, hrow, ?_⟩
  by_contra hlength
  rw [if_neg hlength] at hput
  cases hput

/-- Copying luma completes if its checks pass and every visible row of luma is there and as
    wide as the frame, and then every visible sample is the luma of its coordinate. -/
theorem copyLuma_eq_completed :
    copyLuma source before = .completed after ↔
      checkCopy source before = .ok () ∧ source.HasLuma ∧
        GreyImage.FilledBy source.lumaCell (fun p => p.Inside source.size) before after := by
  constructor
  · intro h
    obtain ⟨hcheck, hluma⟩ := hasLuma_of_copyLuma h
    obtain ⟨copied, hcopy, hfilled⟩ := copyLuma_filledBy hcheck hluma
    rw [hcopy] at h
    cases h
    exact ⟨hcheck, hluma, hfilled⟩
  · rintro ⟨hcheck, hluma, hafter⟩
    obtain ⟨copied, hcopy, hfilled⟩ := copyLuma_filledBy hcheck hluma
    rw [hcopy, hfilled.unique hafter (.refl _ before) fun _ _ => rfl]

theorem copyLuma_eq_fault :
    copyLuma source before = .fault ↔ checkCopy source before = .ok () ∧ ¬ source.HasLuma := by
  apply Ending.ofWrites_eq_fault_of_completes
  intro hcheck
  constructor
  · rintro ⟨after, hafter⟩
    exact (hasLuma_of_copyLuma hafter).2
  · intro hluma
    obtain ⟨after, hafter, _⟩ := copyLuma_filledBy hcheck hluma
    exact ⟨after, hafter⟩

end Copying

end Chroma420
