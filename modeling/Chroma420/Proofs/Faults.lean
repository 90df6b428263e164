import Chroma420.Proofs.GreyModes
import Chroma420.Proofs.Offsets

/-!
# Faults of pictures that nobody has checked

A picture can be handed over as a source that never refuses it (`Source.trusted`).  Its planes may
then be too short or overlap, and its sides and strides may be zero.  What is left are the checks
of the outputs, and they decide alone whether the frame is rejected.

An accepted painting faults for one of two reasons.  A visible sample is missing; or the colour
rows have no elements, which happens only to a frame without columns and without a grey picture.
An accepted copy of luma faults if a visible row of luma is missing, and the chroma of the picture
makes no difference to it at all.

Nothing else can go wrong.  Accepted outputs have exactly as many rows as the frame, and every row
is long enough (`Outputs.Accepted.walkable`).
-/

namespace Chroma420

/-! ### Endings -/

/-- A conversion of `before` is rejected, with `before` as it was, unless its outputs are accepted.
    If they are, it faults where something is missing, and otherwise completes. -/
structure Ending.DecidedBy {β : Type} (ending : Ending β) (before : β) (accepted missing : Prop) :
    Prop where
  rejects : (∃ cause, ending = .rejected cause before) ↔ ¬ accepted
  faults : ending = .fault ↔ accepted ∧ missing
  completes : (∃ after, ending = .completed after) ↔ accepted ∧ ¬ missing

theorem Ending.decidedBy_ofWrites {β : Type} {verdict : Except Rejection Unit} {before : β}
    {write? : β → Option β} {accepted missing : Prop} (hverdict : verdict = .ok () ↔ accepted)
    (hfault : ofWrites verdict before write? = .fault ↔ verdict = .ok () ∧ missing) :
    (ofWrites verdict before write?).DecidedBy before accepted missing := by
  rcases verdict with cause | _
  · have hrefused : ¬ accepted := by simp [← hverdict]
    constructor <;> simp [ofWrites, hrefused]
  · have haccepted : accepted := hverdict.1 rfl
    rcases hwrite : write? before with _ | after
    · have hmissing : missing := by simpa [ofWrites, hwrite] using hfault
      constructor <;> simp [ofWrites, hwrite, haccepted, hmissing]
    · have hmissing : ¬ missing := by simpa [ofWrites, hwrite] using hfault
      constructor <;> simp [ofWrites, hwrite, haccepted, hmissing]

/-! ### Outputs -/

section Outputs

variable {α : Type} {source : Source} {size : Size} {stride : UInt32} {before : Outputs α}

/-- Outputs that pass the checks of a frame of this size. -/
structure Outputs.Accepted (outputs : Outputs α) (size : Size) (stride : UInt32) : Prop where
  colour : requireDestination size stride outputs.colour.size = .ok ()
  grey : ∀ image ∈ outputs.grey, image.check = .ok () ∧ image.size = size

theorem checkPaint_trusted :
    checkPaint source.trusted stride before = .ok () ↔ before.Accepted source.size stride := by
  simp only [checkPaint_eq_ok, requireGrey_eq_ok]
  constructor
  · rintro ⟨_, hcolour, hgrey⟩
    exact ⟨hcolour, fun image hmem => (hgrey image hmem).imp_right Eq.symm⟩
  · rintro ⟨hcolour, hgrey⟩
    exact ⟨rfl, hcolour, fun image hmem => (hgrey image hmem).imp_right Eq.symm⟩

theorem checkCopy_trusted {before : GreyImage} :
    checkCopy source.trusted before = .ok () ↔
      before.check = .ok () ∧ before.size = source.size := by
  rw [checkCopy_eq_ok, requireGrey_eq_ok, @eq_comm _ before.size]
  exact and_iff_right rfl

namespace Outputs.Accepted

/-- Colour rows without elements belong to a frame without columns, and no grey picture has that
    size. -/
theorem of_no_elements (h : before.Accepted size 0) : size.width = 0 ∧ before.grey = none := by
  obtain ⟨_, _, hrow⟩ := requireDestination_eq_ok.1 h.colour
  have hwidth : size.width.toNat = 0 := by
    rw [UInt32.toNat_zero] at hrow
    omega
  refine ⟨UInt32.toNat_inj.1 hwidth, ?_⟩
  rcases hgrey : before.grey with _ | grey
  · rfl
  · obtain ⟨hcheck, hsize⟩ := h.grey grey hgrey
    obtain ⟨hpositive, _⟩ := GreyImage.check_eq_ok.1 hcheck
    rw [hsize] at hpositive
    omega

theorem walkable (h : before.Accepted size stride) (hstride : stride ≠ 0) :
    (Plane.mk before.colour stride).Walkable (4 * size.width.toNat) size.height.toNat ∧
      ∀ grey ∈ before.grey, grey.plane.Walkable size.width.toNat size.height.toNat := by
  obtain ⟨_, hlength, hrow⟩ := requireDestination_eq_ok.1 h.colour
  have hcolour : (Plane.mk before.colour stride).LaidOut (4 * size.width.toNat)
      size.height.toNat := ⟨hrow, hlength⟩
  refine ⟨hcolour.walkable_of_stride hstride, ?_⟩
  intro grey hmem
  obtain ⟨hcheck, hsize⟩ := h.grey grey hmem
  exact GreyImage.walkable hcheck hsize

end Outputs.Accepted

end Outputs

/-! ### What is missing -/

theorem Source.not_readable {source : Source} :
    ¬ source.Readable ↔ ∃ p : Point, p.Inside source.size ∧ source.sample? p = none := by
  simp only [Readable, not_forall, ← Option.isSome_iff_exists, Option.not_isSome_iff_eq_none,
    exists_prop]

/-- Where rows of luma keep the width of the frame, luma is missing only with a whole row. -/
theorem Source.KeepsWidth.not_hasLuma {source : Source} (h : source.KeepsWidth) :
    ¬ source.HasLuma ↔ ∃ y, y < source.size.height ∧ source.lumaRow? y = none := by
  constructor
  · intro hluma
    by_contra hrows
    apply hluma
    intro y hy
    rcases hrow : source.lumaRow? y with _ | row
    · exact absurd ⟨y, hy, hrow⟩ hrows
    · exact ⟨row, rfl, h y row hy hrow⟩
  · rintro ⟨y, hy, hrow⟩ hluma
    obtain ⟨row, hsome, _⟩ := hluma y hy
    rw [hrow] at hsome
    cases hsome

/-! ### Conversions -/

theorem paint_trusted {α : Type} [ColourDomain α] (order : ChannelOrder) (source : Source)
    (stride : UInt32) (before : Outputs α) :
    (paint order source.trusted stride before).DecidedBy before
      (before.Accepted source.size stride)
      (stride = 0 ∨ ∃ p : Point, p.Inside source.size ∧ source.sample? p = none) := by
  apply Ending.decidedBy_ofWrites checkPaint_trusted
  have hmissing : ¬ (stride ≠ 0 ∧ source.trusted.Readable) ↔
      stride = 0 ∨ ∃ p : Point, p.Inside source.size ∧ source.sample? p = none := by
    rw [not_and_or, not_ne_iff, Source.not_readable]
    rfl
  rw [← hmissing]
  exact paint_eq_fault

theorem copyLuma_trusted (image : Image) (before : GreyImage) :
    (copyLuma image.source.trusted before).DecidedBy before
      (before.check = .ok () ∧ before.size = image.size)
      (∃ y, y < image.size.height ∧ image.source.lumaRow? y = none) := by
  have hkeeps : image.source.trusted.KeepsWidth := image.keepsWidth
  have hmissing : ¬ image.source.trusted.HasLuma ↔
      ∃ y, y < image.size.height ∧ image.source.lumaRow? y = none := by
    rw [hkeeps.not_hasLuma, ← image.size_source]
    rfl
  rw [← hmissing, ← image.size_source]
  apply Ending.decidedBy_ofWrites checkCopy_trusted
  exact copyLuma_eq_fault

/-- A copy of luma cannot tell a picture from one with other chroma, or with no chroma at all. -/
theorem copyLuma_of_same_luma {first second : Image} (hsize : second.size = first.size)
    (hluma : second.luma = first.luma) (before : GreyImage) :
    copyLuma second.source.trusted before = copyLuma first.source.trusted before := by
  have hrows : second.source.lumaRow? = first.source.lumaRow? := by
    rw [second.lumaRow?_source, first.lumaRow?_source, hsize, hluma]
  have hsource : second.source.size = first.source.size := by
    rw [second.size_source, first.size_source, hsize]
  unfold copyLuma checkCopy copyRow? Source.trusted
  simp only [hrows, hsource]

/-- How conversions of a picture end that nobody has checked.  Whether they are rejected depends on
    their outputs only.  Accepted paintings fault exactly if a visible sample is missing or the
    colour rows have no elements, and accepted copies of luma exactly if a visible row of luma is
    missing.  The rows of accepted outputs are those of the frame. -/
theorem faults_of_trusted_pictures (image : Image) (α : Type) [ColourDomain α] :
    (∀ (order : ChannelOrder) (stride : UInt32) (before : Outputs α),
      (paint order image.source.trusted stride before).DecidedBy before
        (before.Accepted image.size stride)
        (stride = 0 ∨ ∃ p : Point, p.Inside image.size ∧ image.source.sample? p = none)) ∧
    (∀ (stride : UInt32) (before : Outputs α), before.Accepted image.size stride →
      (stride = 0 → image.size.width = 0 ∧ before.grey = none) ∧
      (stride ≠ 0 →
        (Plane.mk before.colour stride).Walkable (4 * image.size.width.toNat)
            image.size.height.toNat ∧
          ∀ grey ∈ before.grey, grey.plane.Walkable image.size.width.toNat
            image.size.height.toNat)) ∧
    (∀ before : GreyImage,
      (copyLuma image.source.trusted before).DecidedBy before
        (before.check = .ok () ∧ before.size = image.size)
        (∃ y, y < image.size.height ∧ image.source.lumaRow? y = none)) ∧
    (∀ before : GreyImage, before.check = .ok () → before.size = image.size →
      before.plane.Walkable image.size.width.toNat image.size.height.toNat) ∧
    ∀ other : Image, other.size = image.size → other.luma = image.luma →
      ∀ before : GreyImage,
        copyLuma other.source.trusted before = copyLuma image.source.trusted before := by
  refine ⟨?_, ?_, copyLuma_trusted image, ?_, ?_⟩
  · intro order stride before
    rw [← image.size_source]
    exact paint_trusted order image.source stride before
  · intro stride before haccepted
    refine ⟨?_, haccepted.walkable⟩
    rintro rfl
    exact haccepted.of_no_elements
  · intro before hcheck hsize
    exact GreyImage.walkable hcheck hsize
  · intro other hsize hluma before
    exact copyLuma_of_same_luma hsize hluma before

/-- Three columns and three rows.  The rows of luma overlap, and V ends before its last sample. -/
def shortPicture : Image :=
  .planar {
    size := ⟨3, 3⟩
    luma := ⟨#[20, 60, 100, 140, 180, 220, 240], 2⟩
    u := ⟨#[60, 90, 120, 150], 2⟩
    v := ⟨#[200, 170, 140], 2⟩ }

/-- No columns, three rows and nothing in them. -/
def noColumns : Image :=
  .planar { size := ⟨0, 3⟩, luma := ⟨#[], 0⟩, u := ⟨#[], 0⟩, v := ⟨#[], 0⟩ }

/-- For the missing sample of chroma the picture cannot be painted, yet its luma is copied. -/
theorem short_picture_faults :
    paint .bgra shortPicture.source.trusted 12
        (⟨Array.replicate 36 7, some (GreyImage.blank ⟨3, 3⟩)⟩ : Outputs UInt8) = .fault ∧
      (∃ after, copyLuma shortPicture.source.trusted (GreyImage.blank ⟨3, 3⟩) =
        .completed after) ∧
      paint .rgba noColumns.source.trusted 0 (⟨#[], none⟩ : Outputs UInt8) = .fault ∧
      noColumns.size.width = 0 ∧
      ∃ after, paint .rgba noColumns.source.trusted 5
        (⟨Array.replicate 15 7, none⟩ : Outputs UInt8) = .completed after := by
  obtain ⟨hshort, _, hluma, _⟩ := faults_of_trusted_pictures shortPicture UInt8
  obtain ⟨hempty, hrows, _⟩ := faults_of_trusted_pictures noColumns UInt8
  have hgrey : (⟨#[], none⟩ : Outputs UInt8).Accepted noColumns.size 0 :=
    ⟨rfl, by rintro grey ⟨⟩⟩
  refine ⟨?_, ?_, ?_, ((hrows 0 _ hgrey).1 rfl).1, ?_⟩
  · apply (hshort .bgra 12 _).faults.2
    refine ⟨⟨rfl, ?_⟩, .inr ⟨⟨2, 2⟩, by decide, rfl⟩⟩
    rintro grey ⟨⟩
    exact ⟨rfl, rfl⟩
  · apply (hluma _).completes.2
    refine ⟨⟨rfl, rfl⟩, ?_⟩
    rintro ⟨y, hy, hrow⟩
    have hinside : shortPicture.luma.offset 3 y.toNat ≤ 7 := by
      have : y.toNat < 3 := UInt32.lt_iff_toNat_lt.1 hy
      change y.toNat * 2 + 3 ≤ 7
      omega
    have hsome := (shortPicture.lumaRow?_exact y).isSome_iff.2 hinside
    rw [hrow] at hsome
    cases hsome
  · exact (hempty .rgba 0 _).faults.2 ⟨hgrey, .inl rfl⟩
  · apply (hempty .rgba 5 _).completes.2
    refine ⟨⟨rfl, by rintro grey ⟨⟩⟩, ?_⟩
    rintro (hstride | ⟨p, hp, _⟩)
    · exact absurd hstride (by decide)
    · exact absurd (UInt32.lt_iff_toNat_lt.1 hp.1) (by simp [noColumns, Image.size])

end Chroma420
