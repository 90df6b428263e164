import Chroma420.Proofs.Agreement
import Chroma420.Proofs.Decision
import Chroma420.Proofs.Difference

/-!
# The two orders of channels

RGBA and BGRA are one conversion.  The order of channels decides where the red and the blue
of a pixel go and nothing else: not whether a frame is accepted, not what is read of it, and
not the grey, which is computed before the channels are laid out.

So the two conversions of a frame end alike, whatever the frame, the stride and the outputs,
and what they leave is the same with red and blue exchanged in every visible pixel
(`Outputs.Exchanged`, `paint_exchanged`).  The same holds of two converters that differ in
their order only, in each grey mode: the passes of a mode are paintings and copies of luma,
and a copy of luma does not see the colours that were painted before it
(`Converter.passes_exchanged`).
-/

namespace Chroma420

variable {α : Type} [ColourDomain α] {source : Source} {stride : UInt32} {size : Size}
  {before rgba bgra : Outputs α}

/-! ### Exchanged outputs -/

/-- The outputs of a conversion to RGBA, and of the same conversion to BGRA. -/
structure Outputs.Exchanged (size : Size) (stride : UInt32) (rgba bgra : Outputs α) : Prop where
  length_eq : bgra.colour.size = rgba.colour.size
  pixel : ∀ p : Point, p.Inside size → ∃ red green blue : α,
    let start := p.y.toNat * stride.toNat + 4 * p.x.toNat
    (rgba.colour[start]? = some red ∧ rgba.colour[start + 1]? = some green ∧
      rgba.colour[start + 2]? = some blue ∧ rgba.colour[start + 3]? = some ColourDomain.full) ∧
    bgra.colour[start]? = some blue ∧ bgra.colour[start + 1]? = some green ∧
      bgra.colour[start + 2]? = some red ∧ bgra.colour[start + 3]? = some ColourDomain.full
  padding : ∀ i, (∀ p : Point, p.Inside size →
      i < p.y.toNat * stride.toNat + 4 * p.x.toNat ∨
        p.y.toNat * stride.toNat + 4 * p.x.toNat + 4 ≤ i) →
    bgra.colour[i]? = rgba.colour[i]?
  grey_eq : bgra.grey = rgba.grey

/-- Exchanged outputs stay so with any grey in the place of theirs. -/
theorem Outputs.Exchanged.withGrey (h : rgba.Exchanged size stride bgra)
    (grey : Option GreyImage) :
    ({ rgba with grey := grey } : Outputs α).Exchanged size stride { bgra with grey := grey } :=
  ⟨h.length_eq, h.pixel, h.padding, rfl⟩

/-! ### Painting -/

theorem Source.greyCell_order (order order' : ChannelOrder) (p : Point) :
    source.greyCell α order p = source.greyCell α order' p := by
  rw [greyCell, greyCell, convert?, convert?]
  rcases source.sample? p with _ | sample
  · rfl
  · simp only [Option.map_some, sample.grey_convert order order']

theorem Painted.exchanged (hreadable : source.Readable)
    (hrgba : Painted .rgba source stride (fun p => p.Inside source.size) before rgba)
    (hbgra : Painted .bgra source stride (fun p => p.Inside source.size) before bgra) :
    rgba.Exchanged source.size stride bgra := by
  have hagrees : FrameAgrees .rgba source stride _ before rgba :=
    hrgba.agrees (fun _ => rfl) hreadable
  have hagrees' : FrameAgrees .bgra source stride _ before bgra :=
    hbgra.agrees (fun _ => rfl) hreadable
  refine ⟨?_, ?_, ?_, ?_⟩
  · rw [hagrees'.length_eq, hagrees.length_eq]
  · intro p hp
    obtain ⟨sample, hsample, _, _, hpixel⟩ := hagrees.pixel p hp
    obtain ⟨sample', hsample', _, _, hpixel'⟩ := hagrees'.pixel p hp
    rw [hsample] at hsample'
    cases hsample'
    simp only [sample.pixel_bgra] at hpixel'
    let pixel : Pixel α := sample.pixel .rgba
    refine ⟨pixel[0], pixel[1], pixel[2], ⟨?_, ?_, ?_, ?_⟩, ?_, ?_, ?_, ?_⟩
    · exact hpixel 0 (by omega)
    · exact hpixel 1 (by omega)
    · exact hpixel 2 (by omega)
    · exact hpixel 3 (by omega)
    · exact hpixel' 0 (by omega)
    · exact hpixel' 1 (by omega)
    · exact hpixel' 2 (by omega)
    · exact hpixel' 3 (by omega)
  · intro i hi
    rw [hagrees'.padding i hi, hagrees.padding i hi]
  · apply eq_of_optionRel (fun _ _ h => h)
    apply optionRel_compare _ hbgra.grey hrgba.grey
    intro image one two hone htwo
    exact hone.unique htwo (.refl _ image) fun p _ => Source.greyCell_order .bgra .rgba p

/-- Every frame is painted alike in both orders, with red and blue exchanged. -/
theorem paint_exchanged (source : Source) (stride : UInt32) (before : Outputs α) :
    (paint .rgba source stride before).Alike (Outputs.Exchanged source.size stride)
      (paint .bgra source stride before) := by
  apply paint_alike_of_painted rfl Iff.rfl
  intro hreadable after after' hrgba hbgra
  exact hrgba.exchanged hreadable hbgra

/-! ### Converters -/

namespace Converter

/-- The same converter with another order of channels. -/
def withOrder (converter : Converter) (order : ChannelOrder) : Converter :=
  { converter with options := { converter.options with order := order } }

theorem ofSize_withOrder (converter : Converter) (order : ChannelOrder) :
    ofSize converter.size { converter.options with order := order } =
      .ok (converter.withOrder order) :=
  ofSize_eq_ok.2 ⟨rfl, rfl⟩

/-- Whether a frame is accepted does not depend on the order of channels. -/
theorem accept_withOrder (converter : Converter) (order : ChannelOrder) (source : Source)
    (grey : Option GreyImage) :
    (converter.withOrder order).accept source grey = converter.accept source grey := rfl

variable {converter : Converter}

theorem paintColour_exchanged (converter : Converter) (source : Source) (before : Outputs α) :
    ((converter.withOrder .rgba).paintColour source before).Alike
      (Outputs.Exchanged source.size converter.stride)
      ((converter.withOrder .bgra).paintColour source before) := by
  obtain ⟨colour, grey⟩ := before
  apply (paint_exchanged source converter.stride ⟨colour, none⟩).map
  intro rgba bgra hexchanged
  exact hexchanged.withGrey grey

/-- A copy of luma that is not rejected leaves exchanged colours as they are. -/
theorem copyGrey_exchanged (h : rgba.Exchanged size stride bgra)
    (hcopies : ∀ image ∈ rgba.grey, ∀ cause after, copyLuma source image ≠ .rejected cause after) :
    (copyGrey source rgba).Alike (Outputs.Exchanged size stride) (copyGrey source bgra) := by
  have hgrey := h.grey_eq
  obtain ⟨colour, grey⟩ := rgba
  obtain ⟨colour', grey'⟩ := bgra
  cases hgrey
  rcases grey with _ | image
  · exact .completed h
  · rcases hcopy : copyLuma source image with copied | ⟨cause, kept⟩ | _
    · simp only [copyGrey, hcopy, Ending.map]
      exact .completed (h.withGrey (some copied))
    · exact absurd hcopy (hcopies image rfl cause kept)
    · simp only [copyGrey, hcopy, Ending.map]
      exact .fault

theorem passes_exchanged (haccept : converter.accept source before.grey = .ok ()) :
    ((converter.withOrder .rgba).passes source before).Alike
      (Outputs.Exchanged source.size converter.stride)
      ((converter.withOrder .bgra).passes source before) := by
  have hcolours := converter.paintColour_exchanged source before
  rcases hmode : converter.options.grey with _ | _ | _
  · simp only [passes, withOrder, hmode]
    exact hcolours
  · simp only [passes, withOrder, hmode]
    exact paint_exchanged source converter.stride before
  · have henabled : converter.options.grey ≠ .disabled := by
      rw [hmode]
      decide
    simp only [passes, withOrder, hmode]
    apply hcolours.andThen
    intro rgba bgra hrgba _ hexchanged
    obtain ⟨image, _, hgrey, hcopies⟩ :=
      @copyLuma_not_rejected _ _ _ (converter.withOrder .rgba) _ _ henabled haccept hrgba
    apply copyGrey_exchanged hexchanged
    intro other hother
    rw [Option.mem_def, hgrey] at hother
    cases hother
    exact hcopies

theorem run_exchanged (converter : Converter) (source : Source) (before : Outputs α) :
    ((converter.withOrder .rgba).run source before).Alike
      (Outputs.Exchanged converter.size converter.stride)
      ((converter.withOrder .bgra).run source before) := by
  rw [run, run, accept_withOrder, accept_withOrder]
  rcases haccept : converter.accept source before.grey with cause | _
  · exact .rejected cause before
  · rw [(accept_eq_ok.1 haccept).1]
    exact passes_exchanged haccept

end Converter

/-- A conversion to RGBA and the same conversion to BGRA end alike: with the same cause and the
    outputs as they were, with a fault, or with outputs that differ in red and blue being
    exchanged.  This holds of every frame, valid or not, in every stride and whatever the outputs
    are, and of converters that differ in their order only, in every grey mode. -/
theorem channel_orders_exchange_red_and_blue :
    (∀ {α : Type} [ColourDomain α] (source : Source) (stride : UInt32) (before : Outputs α),
      (paint .rgba source stride before).Alike (Outputs.Exchanged source.size stride)
        (paint .bgra source stride before)) ∧
    ∀ converter : Converter,
      (∀ order, Converter.ofSize converter.size { converter.options with order := order } =
        .ok (converter.withOrder order)) ∧
      ∀ {α : Type} [ColourDomain α] (source : Source) (before : Outputs α),
        ((converter.withOrder .rgba).convert source before).ending.Alike
          (Outputs.Exchanged converter.size converter.stride)
          ((converter.withOrder .bgra).convert source before).ending :=
  ⟨paint_exchanged, fun converter => ⟨converter.ofSize_withOrder, converter.run_exchanged⟩⟩

theorem odd_picture_in_both_orders :
    ((separateConverter.withOrder .rgba).convert oddPicture.source
        (⟨Array.replicate 36 7, some (GreyImage.blank ⟨3, 3⟩)⟩ : Outputs UInt8)).ending.outcome =
          .completed ∧
      ((separateConverter.withOrder .rgba).convert oddPicture.source
        (⟨Array.replicate 36 7, some (GreyImage.blank ⟨3, 3⟩)⟩ : Outputs UInt8)).ending.Alike
          (Outputs.Exchanged ⟨3, 3⟩ 12)
          ((separateConverter.withOrder .bgra).convert oddPicture.source
            ⟨Array.replicate 36 7, some (GreyImage.blank ⟨3, 3⟩)⟩).ending := by
  obtain ⟨_, hconverters⟩ := channel_orders_exchange_red_and_blue
  obtain ⟨_, hexchanged⟩ := hconverters separateConverter
  refine ⟨?_, hexchanged oddPicture.source _⟩
  decide +kernel

end Chroma420
