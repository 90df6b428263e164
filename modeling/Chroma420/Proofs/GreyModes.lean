import Chroma420.Proofs.Completion
import Chroma420.Proofs.Decision

/-!
# The two ways to grey

A converter fills a grey picture in one of two ways.  In fused mode it writes the grey
of a pixel together with the pixel; in separate mode it paints the colour first and
copies the luma of the frame in a second pass, with checks of its own.  To a caller the
two are alike: they reject the same frames for the same causes, they fault on the same
frames, and they paint the same colours, which are also those of a converter that writes
no grey (`fused_and_separate_agree`).

What they write as grey depends on the colour domain.  The grey of a float pixel is its
luma sample, so there the modes make no difference at all.  The grey of a byte pixel is
the luminance of its channels in fused mode and its luma sample in separate mode.

None of this needs a picture.  A source that a caller has built may have any verdict on
itself and may lack any sample, but its rows of luma have to be as wide as its frame
(`Source.KeepsWidth`).  Painting takes single samples out of a row, where a longer row
would do as well, and copying takes the whole row, so a longer row parts the two modes
(`long_row_parts_the_modes`).
-/

namespace Chroma420

/-! ### Rows of luma -/

/-- Where a source has a row of luma, the row is as wide as the frame.  This is asked of every
    source, and nothing checks it. -/
def Source.KeepsWidth (source : Source) : Prop :=
  ∀ (y : UInt32) (row : Span UInt8), y < source.size.height → source.lumaRow? y = some row →
    row.length = source.size.width.toNat

theorem Image.keepsWidth (image : Image) : image.source.KeepsWidth := by
  intro y row _ hrow
  rw [image.lumaRow?_source] at hrow
  rw [image.size_source]
  exact Plane.length_of_row? hrow

theorem Source.KeepsWidth.hasLuma {source : Source} (h : source.KeepsWidth)
    (hreadable : source.Readable) (hwidth : 0 < source.size.width.toNat) : source.HasLuma := by
  intro y hy
  have hp : (⟨0, y⟩ : Point).Inside source.size := ⟨UInt32.lt_iff_toNat_lt.2 hwidth, hy⟩
  obtain ⟨sample, hsample⟩ := hreadable ⟨0, y⟩ hp
  obtain ⟨hluma, _⟩ := Source.sample?_eq_some.1 hsample
  obtain ⟨row, hrow, _⟩ := Option.bind_eq_some_iff.1 hluma
  exact ⟨row, hrow, h y row hy hrow⟩

/-! ### Grey modes -/

namespace Converter

/-- The same converter with another grey mode. -/
def withGrey (converter : Converter) (mode : GreyMode) : Converter :=
  { converter with options := { converter.options with grey := mode } }

theorem ofSize_withGrey (converter : Converter) (mode : GreyMode) :
    ofSize converter.size { converter.options with grey := mode } =
      .ok (converter.withGrey mode) :=
  ofSize_eq_ok.2 ⟨rfl, rfl⟩

theorem accept_enabled (converter : Converter) (source : Source) (grey : Option GreyImage) :
    (converter.withGrey .separate).accept source grey =
      (converter.withGrey .fused).accept source grey := rfl

theorem accept_disabled {converter : Converter} {source : Source} {grey : Option GreyImage}
    (h : (converter.withGrey .fused).accept source grey = .ok ()) :
    (converter.withGrey .disabled).accept source grey = .ok () :=
  accept_eq_ok.2 ⟨(accept_eq_ok.1 h).1, .inl rfl⟩

end Converter

section Modes

variable {α : Type} [ColourDomain α] {converter : Converter} {source : Source}

/-- How outputs that were written in fused mode and in separate mode belong together. -/
structure TwoWays (converter : Converter) (source : Source) (before written copied : Outputs α) :
    Prop where
  size_eq : converter.size = source.size
  readable : source.Readable
  painted : Painted converter.options.order source converter.stride
    (fun p => p.Inside source.size) before written
  colour_eq : copied.colour = written.colour
  grey : ∃ image luma, before.grey = some image ∧ copied.grey = some luma ∧
    GreyImage.FilledBy source.lumaCell (fun p => p.Inside source.size) image luma
  disabled : (converter.withGrey .disabled).run source before =
    .completed ⟨written.colour, before.grey⟩

omit [ColourDomain α] in
/-- A grey picture that has been accepted adds nothing to the checks of painting. -/
theorem checkPaint_of_grey {stride : UInt32} {colour : Array α} {image : GreyImage}
    (hgrey : requireGrey source.size image = .ok ()) :
    checkPaint source stride (⟨colour, some image⟩ : Outputs α) =
      checkPaint source stride ⟨colour, none⟩ := by
  simp only [checkPaint, hgrey]

/-- The passes of the three modes over an accepted grey picture, spelled out. -/
theorem Converter.passes_withGrey (converter : Converter) (source : Source) (colour : Array α)
    (image : GreyImage) :
    (converter.withGrey .fused).passes source ⟨colour, some image⟩ =
        paint converter.options.order source converter.stride ⟨colour, some image⟩ ∧
      (converter.withGrey .disabled).passes source ⟨colour, some image⟩ =
        (paint converter.options.order source converter.stride ⟨colour, none⟩).map
          (fun written => ⟨written.colour, some image⟩) ∧
      (converter.withGrey .separate).passes source ⟨colour, some image⟩ =
        ((converter.withGrey .disabled).passes source ⟨colour, some image⟩).andThen
          (copyGrey source) :=
  ⟨rfl, rfl, rfl⟩

theorem Converter.twoWays {colour : Array α} {image : GreyImage} {written painted : Outputs α}
    (hrows : source.KeepsWidth)
    (haccept : (converter.withGrey .fused).accept source (some image) = .ok ())
    (hfused : paint converter.options.order source converter.stride ⟨colour, some image⟩ =
      .completed written)
    (hplain : paint converter.options.order source converter.stride ⟨colour, none⟩ =
      .completed painted) :
    ∃ copied, (converter.withGrey .separate).passes source ⟨colour, some image⟩ =
        .completed copied ∧
      TwoWays converter source ⟨colour, some image⟩ written copied := by
  have hsize : converter.size = source.size := (accept_eq_ok.1 haccept).1
  obtain ⟨accepted, haccepted, hrequired⟩ :=
    grey_of_accept haccept (show GreyMode.fused ≠ .disabled by decide)
  cases haccepted
  obtain ⟨_, hdisabled, hseparate⟩ := converter.passes_withGrey source colour image
  obtain ⟨hcheck, ⟨_, hreadable⟩, hwritten⟩ := paint_eq_completed.1 hfused
  obtain ⟨_, _, hpainted⟩ := paint_eq_completed.1 hplain
  have hcolour : painted.colour = written.colour :=
    hpainted.colour.unique hwritten.colour (fun _ _ => rfl) fun _ _ => rfl
  rw [hplain, Ending.map, hcolour] at hdisabled
  have hwidth : 0 < source.size.width.toNat := by
    rw [← hsize]
    exact (Size.isEmpty_eq_false.1 converter.nonempty).1
  have hcopies : checkCopy source image = .ok () := by
    rw [checkCopy_eq_ok, ← hsize]
    exact ⟨(checkPaint_eq_ok.1 hcheck).1, hrequired⟩
  obtain ⟨copied, hcopy, hfilled⟩ :=
    copyLuma_filledBy hcopies (hrows.hasLuma hreadable hwidth)
  refine ⟨⟨written.colour, some copied⟩, ?_, hsize, hreadable, hwritten, rfl, ?_, ?_⟩
  · rw [hseparate, hdisabled, Ending.andThen, copyGrey, hcopy]
    rfl
  · exact ⟨image, copied, rfl, rfl, hfilled⟩
  · rw [run, accept_disabled haccept]
    exact hdisabled

theorem Converter.passes_alike {colour : Array α} {image : GreyImage}
    (hrows : source.KeepsWidth)
    (haccept : (converter.withGrey .fused).accept source (some image) = .ok ()) :
    ((converter.withGrey .fused).passes source ⟨colour, some image⟩).Alike
      (TwoWays converter source ⟨colour, some image⟩)
      ((converter.withGrey .separate).passes source ⟨colour, some image⟩) := by
  obtain ⟨accepted, haccepted, hrequired⟩ :=
    grey_of_accept haccept (show GreyMode.fused ≠ .disabled by decide)
  cases haccepted
  have hgrey : requireGrey source.size image = .ok () := by
    rw [← (accept_eq_ok.1 haccept).1]
    exact hrequired
  have hchecks : checkPaint source converter.stride (⟨colour, some image⟩ : Outputs α) =
      checkPaint source converter.stride ⟨colour, none⟩ := checkPaint_of_grey hgrey
  obtain ⟨hfusedPasses, hdisabled, hseparate⟩ := converter.passes_withGrey source colour image
  rw [hfusedPasses]
  rcases hcheck : checkPaint source converter.stride (⟨colour, none⟩ : Outputs α) with cause | _
  · rw [hcheck] at hchecks
    rw [hseparate, hdisabled, paint_of_error _ hcheck, paint_of_error _ hchecks]
    exact .rejected cause _
  · rw [hcheck] at hchecks
    by_cases hreadable : converter.stride ≠ 0 ∧ source.Readable
    · obtain ⟨written, hfused, _⟩ :=
        paint_of_readable converter.options.order hchecks hreadable.1 hreadable.2
      obtain ⟨painted, hplain, _⟩ :=
        paint_of_readable converter.options.order hcheck hreadable.1 hreadable.2
      obtain ⟨copied, hcopied, htwo⟩ := twoWays hrows haccept hfused hplain
      rw [hfused, hcopied]
      exact .completed htwo
    · have hplain : paint converter.options.order source converter.stride
          (⟨colour, none⟩ : Outputs α) = .fault := paint_eq_fault.2 ⟨hcheck, hreadable⟩
      have hfused : paint converter.options.order source converter.stride
          (⟨colour, some image⟩ : Outputs α) = .fault :=
        paint_eq_fault.2 ⟨hchecks, hreadable⟩
      rw [hseparate, hdisabled, hplain, hfused]
      exact .fault

theorem Converter.run_alike (converter : Converter) (hrows : source.KeepsWidth)
    (before : Outputs α) :
    ((converter.withGrey .fused).run source before).Alike (TwoWays converter source before)
      ((converter.withGrey .separate).run source before) := by
  rw [run, run, accept_enabled]
  rcases haccept : (converter.withGrey .fused).accept source before.grey with cause | _
  · exact .rejected cause before
  · obtain ⟨image, himage, _⟩ := grey_of_accept haccept
      (show GreyMode.fused ≠ .disabled by decide)
    obtain ⟨colour, grey⟩ := before
    cases himage
    exact passes_alike hrows haccept

end Modes

/-! ### Greys of floats -/

theorem TwoWays.eq_of_raw_luma {α : Type} [ColourDomain α] {converter : Converter}
    {source : Source} {before written copied : Outputs α}
    (h : TwoWays converter source before written copied)
    (hraw : ∀ (luma : UInt8) (colour : Rgb α), ColourDomain.grey luma colour = luma) :
    written = copied := by
  obtain ⟨image, luma, himage, hluma, hfilled⟩ := h.grey
  have hgrey := h.painted.grey
  rw [himage] at hgrey
  obtain ⟨raw, hwritten, hpainted⟩ := exists_of_optionRel_some hgrey
  have hsame : raw = luma := by
    refine hpainted.unique hfilled (.refl _ image) ?_
    intro p hp
    obtain ⟨sample, hsample⟩ := h.readable p hp
    exact Source.greyCell_of_raw_luma hraw hsample
  have hcolour := h.colour_eq
  obtain ⟨colour, grey⟩ := written
  obtain ⟨colour', grey'⟩ := copied
  cases hcolour
  cases hwritten
  cases hluma
  rw [hsame]

/-! ### Greys of bytes -/

theorem FrameAgrees.channel {α : Type} [ColourDomain α] {order : ChannelOrder} {source : Source}
    {stride : UInt32} {greyOf : Yuv → UInt8} {before after : Outputs α}
    (h : FrameAgrees order source stride greyOf before after) {p : Point}
    (hp : p.Inside source.size) {sample : Yuv} (hsample : source.sample? p = some sample)
    (component : Component) :
    after.colour[p.y.toNat * stride.toNat + 4 * p.x.toNat + order.offset component]? =
      some ((ColourDomain.rgb sample : Rgb α).channel component) := by
  obtain ⟨read, hread, _, _, hpixel⟩ := h.pixel p hp
  rw [hsample] at hread
  cases hread
  obtain ⟨hoffset, hchannel⟩ := Vector.getElem?_eq_some_iff.1
    (Pixel.ofRgb_offset order (ColourDomain.rgb sample : Rgb α) component)
  rw [hpixel _ hoffset]
  exact congrArg some hchannel

/-- What bytes hold at a visible coordinate: in fused mode the grey is the luminance of the
    three channels that were painted there, and in separate mode it is the luma. -/
structure GreysAt (order : ChannelOrder) (source : Source) (stride : UInt32) (colour : Array UInt8)
    (fused separate : GreyImage) (p : Point) : Prop where
  luminance : ∃ red green blue grey : UInt8,
    let start := p.y.toNat * stride.toNat + 4 * p.x.toNat
    colour[start + order.offset .red]? = some red ∧
      colour[start + order.offset .green]? = some green ∧
      colour[start + order.offset .blue]? = some blue ∧
      fused.plane.samples[p.y.toNat * fused.plane.stride.toNat + p.x.toNat]? = some grey ∧
      grey.toNat = (299 * red.toNat + 587 * green.toNat + 114 * blue.toNat) / 1000
  luma : ∃ luma : UInt8, source.luma? p = some luma ∧
    separate.plane.samples[p.y.toNat * separate.plane.stride.toNat + p.x.toNat]? = some luma

/-- How the outputs of the two modes belong together in bytes. -/
structure ByteModesAgree (converter : Converter) (source : Source)
    (before fused separate : Outputs UInt8) : Prop where
  colour_eq : separate.colour = fused.colour
  disabled : ((converter.withGrey .disabled).convert source before).ending =
    .completed ⟨fused.colour, before.grey⟩
  greys : ∃ luminance luma, fused.grey = some luminance ∧ separate.grey = some luma ∧
    ∀ p : Point, p.Inside converter.size →
      GreysAt converter.options.order source converter.stride fused.colour luminance luma p

theorem TwoWays.bytes {converter : Converter} {source : Source}
    {before written copied : Outputs UInt8}
    (h : TwoWays converter source before written copied) :
    ByteModesAgree converter source before written copied := by
  obtain ⟨image, luma, himage, hluma, hfilled⟩ := h.grey
  have hagrees : FrameAgrees converter.options.order source converter.stride FixedPoint.grey
      before written := h.painted.agrees (fun _ => rfl) h.readable
  have hcopied : GreyAgrees source.size source.luma? image luma := by
    apply hfilled.agrees
    intro p hp
    obtain ⟨sample, hsample⟩ := h.readable p hp
    obtain ⟨hread, _⟩ := Source.sample?_eq_some.1 hsample
    exact ⟨sample.luma, hread, by rw [Source.lumaCell, hread]⟩
  have hgrey := hagrees.grey
  rw [himage] at hgrey
  obtain ⟨luminance, hwritten, hpainted⟩ := exists_of_optionRel_some hgrey
  refine ⟨h.colour_eq, h.disabled, luminance, luma, hwritten, hluma, ?_⟩
  intro p hp
  rw [h.size_eq] at hp
  obtain ⟨sample, hsample⟩ := h.readable p hp
  constructor
  · obtain ⟨grey, hread, hvalue⟩ := hpainted.sample p hp
    rw [hsample] at hread
    cases hread
    rw [← hpainted.stride_eq] at hvalue
    exact ⟨_, _, _, _, hagrees.channel hp hsample .red, hagrees.channel hp hsample .green,
      hagrees.channel hp hsample .blue, hvalue, FixedPoint.toNat_luminance _⟩
  · obtain ⟨value, hread, hvalue⟩ := hcopied.sample p hp
    rw [← hcopied.stride_eq] at hvalue
    exact ⟨value, hread, hvalue⟩

/-- Fused and separate mode end alike on every frame: with the same fault, the same cause or
    the same colours, which are those of a converter without grey.  For floats they leave
    the same grey too; for bytes one leaves the luminance of the colours and the other
    the luma.  This holds for every picture, under its own verdict or a trusting one, and
    for every other source whose rows of luma are as wide as its frame. -/
theorem fused_and_separate_agree :
    (∀ image : Image, image.source.KeepsWidth ∧ image.source.trusted.KeepsWidth) ∧
    ∀ (converter : Converter) (source : Source), source.KeepsWidth →
      (∀ mode, Converter.ofSize converter.size { converter.options with grey := mode } =
        .ok (converter.withGrey mode)) ∧
      (∀ before : Outputs Float32,
        ((converter.withGrey .fused).convert source before).ending =
          ((converter.withGrey .separate).convert source before).ending) ∧
      ∀ before : Outputs UInt8,
        ((converter.withGrey .fused).convert source before).ending.Alike
          (ByteModesAgree converter source before)
          ((converter.withGrey .separate).convert source before).ending := by
  refine ⟨fun image => ⟨image.keepsWidth, image.keepsWidth⟩, ?_⟩
  intro converter source hrows
  refine ⟨converter.ofSize_withGrey, ?_, ?_⟩
  · intro before
    apply Ending.Alike.eq
    apply (converter.run_alike hrows before).mono
    intro written copied htwo
    exact htwo.eq_of_raw_luma fun _ _ => rfl
  · intro before
    apply (converter.run_alike hrows before).mono
    intro written copied htwo
    exact htwo.bytes

theorem trusted_picture_agrees_in_both_modes :
    oddPicture.source.trusted.KeepsWidth ∧
      ((separateConverter.withGrey .fused).convert oddPicture.source.trusted
        (⟨Array.replicate 36 7, some (GreyImage.blank ⟨3, 3⟩)⟩ : Outputs UInt8)).ending.outcome =
          .completed ∧
      ((separateConverter.withGrey .fused).convert oddPicture.source.trusted
        ⟨Array.replicate 36 7, some (GreyImage.blank ⟨3, 3⟩)⟩).ending.Alike
          (ByteModesAgree separateConverter oddPicture.source.trusted
            ⟨Array.replicate 36 7, some (GreyImage.blank ⟨3, 3⟩)⟩)
          ((separateConverter.withGrey .separate).convert oddPicture.source.trusted
            ⟨Array.replicate 36 7, some (GreyImage.blank ⟨3, 3⟩)⟩).ending := by
  obtain ⟨himages, hmodes⟩ := fused_and_separate_agree
  have hrows := (himages oddPicture).2
  obtain ⟨_, _, hbytes⟩ := hmodes separateConverter oddPicture.source.trusted hrows
  refine ⟨hrows, ?_, hbytes _⟩
  decide +kernel

/-- A source of one pixel that never refuses itself.  Its row of luma is longer than its frame. -/
def longRow : Source where
  size := ⟨1, 1⟩
  check := .ok ()
  lumaRow? _ := some ⟨#[16, 235], 0, 2, by decide⟩
  chroma? _ := some (128, 128)

def pixelConverter : Converter where
  size := ⟨1, 1⟩
  options := { order := .rgba, grey := .fused }
  nonempty := rfl
  row_fits := by decide

/-- Without rows of the width of the frame the two modes part, in bytes and in floats: painting
    takes the first sample of the long row, and copying, which takes the row, finds it too long. -/
theorem long_row_parts_the_modes :
    longRow.check = .ok () ∧ ¬ longRow.KeepsWidth ∧
      (((pixelConverter.withGrey .fused).convert longRow
          (⟨Array.replicate 4 7, some (GreyImage.blank ⟨1, 1⟩)⟩ : Outputs UInt8)).ending.outcome =
            .completed ∧
        ((pixelConverter.withGrey .separate).convert longRow
          (⟨Array.replicate 4 7, some (GreyImage.blank ⟨1, 1⟩)⟩ : Outputs UInt8)).ending.outcome =
            .fault) ∧
      ((pixelConverter.withGrey .fused).convert longRow
          (⟨Array.replicate 4 0.5, some (GreyImage.blank ⟨1, 1⟩)⟩ :
            Outputs Float32)).ending.outcome = .completed ∧
        ((pixelConverter.withGrey .separate).convert longRow
          (⟨Array.replicate 4 0.5, some (GreyImage.blank ⟨1, 1⟩)⟩ :
            Outputs Float32)).ending.outcome = .fault := by
  refine ⟨rfl, ?_, ⟨?_, ?_⟩, ?_, ?_⟩
  · intro hrows
    exact absurd (hrows 0 _ (by decide) rfl) (by decide)
  · decide +kernel
  · decide +kernel
  · decide +kernel
  · decide +kernel

end Chroma420
