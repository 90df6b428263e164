import Chroma420.Proofs.Accuracy

/-!
# Monotonicity of the colours of bytes

If one sample of a triple grows and the other two stay, every channel of the colour goes one way:
up, down or nowhere.  The sums of the transform are linear, and the ways are the signs of its
coefficients (`SampleKind.trend`).  The floor and the limits that come after the sums keep the order
of two values but may make them equal, so all comparisons are weak (`Trend.Holds.toByte`).  The
weights of the luminance are positive, so it rises with the channels (`luminance_mono`).

Two frames that compare like this at every visible coordinate are painted into outputs that compare
like this at every visible pixel (`FrameFollows`).  Luma moves no channel down, and with luma whole
buffers compare, padding and grey included: no element of the first is above that of the second
(`Outputs.AtMost`).
-/

namespace Chroma420

/-! ### Trends -/

/-- The three samples of a luma coordinate. -/
inductive SampleKind where
  | luma
  | u
  | v
deriving DecidableEq, Repr

/-- The second triple is the first with one sample raised, or left as it is. -/
def Yuv.RisesIn : SampleKind → Yuv → Yuv → Prop
  | .luma, first, second =>
    first.luma ≤ second.luma ∧ first.u = second.u ∧ first.v = second.v
  | .u, first, second =>
    first.u ≤ second.u ∧ first.luma = second.luma ∧ first.v = second.v
  | .v, first, second =>
    first.v ≤ second.v ∧ first.luma = second.luma ∧ first.u = second.u

instance (kind : SampleKind) (first second : Yuv) : Decidable (Yuv.RisesIn kind first second) :=
  match kind with
  | .luma => inferInstanceAs (Decidable (_ ∧ _ ∧ _))
  | .u => inferInstanceAs (Decidable (_ ∧ _ ∧ _))
  | .v => inferInstanceAs (Decidable (_ ∧ _ ∧ _))

/-- The way from one value to another. -/
inductive Trend where
  | rises
  | falls
  | stays
deriving DecidableEq, Repr

def Trend.Holds {β : Type} [LE β] : Trend → β → β → Prop
  | rises, first, second => first ≤ second
  | falls, first, second => second ≤ first
  | stays, first, second => first = second

/-- The way of each channel of a colour if one of its samples is raised. -/
def SampleKind.trend : SampleKind → Component → Trend
  | _, .alpha => .stays
  | .luma, _ => .rises
  | .u, .red => .stays
  | .u, .green => .falls
  | .u, .blue => .rises
  | .v, .red => .rises
  | .v, .green => .falls
  | .v, .blue => .stays

/-! ### Single triples -/

namespace FixedPoint

theorem toByte_mono {first second : Int32} (h : first.toInt ≤ second.toInt) :
    toByte first ≤ toByte second := by
  have hfirst := toInt_toByte first
  have hsecond := toInt_toByte second
  have hfloor : first.toInt / 256 ≤ second.toInt / 256 := Int.ediv_le_ediv (by decide) h
  rw [UInt8.le_iff_toNat_le]
  omega

theorem luminance_mono {first second : Rgb UInt8} (hred : first.red ≤ second.red)
    (hgreen : first.green ≤ second.green) (hblue : first.blue ≤ second.blue) :
    luminance first ≤ luminance second := by
  rw [UInt8.le_iff_toNat_le] at hred hgreen hblue ⊢
  rw [toNat_luminance, toNat_luminance]
  exact Nat.div_le_div_right (by omega)

end FixedPoint

theorem Trend.Holds.toByte {trend : Trend} {first second : Int32}
    (h : trend.Holds first.toInt second.toInt) : trend.Holds (FixedPoint.toByte first)
      (FixedPoint.toByte second) := by
  cases trend with
  | rises => exact FixedPoint.toByte_mono h
  | falls => exact FixedPoint.toByte_mono h
  | stays => exact congrArg FixedPoint.toByte (Int32.toInt_inj.1 h)

namespace FixedPoint

variable {kind : SampleKind} {first second : Yuv}

/-- The sums of a colour go the way of the coefficient with which the raised sample enters them. -/
theorem sums_trend (h : Yuv.RisesIn kind first second) :
    (kind.trend .red).Holds (redSum first).toInt (redSum second).toInt ∧
      (kind.trend .green).Holds (greenSum first).toInt (greenSum second).toInt ∧
      (kind.trend .blue).Holds (blueSum first).toInt (blueSum second).toInt := by
  cases kind with
  | luma =>
    obtain ⟨hluma, hu, hv⟩ := h
    rw [UInt8.le_iff_toNat_le] at hluma
    simp only [SampleKind.trend, Trend.Holds, toInt_redSum, toInt_greenSum, toInt_blueSum, hu, hv]
    omega
  | u =>
    obtain ⟨hu, hluma, hv⟩ := h
    rw [UInt8.le_iff_toNat_le] at hu
    simp only [SampleKind.trend, Trend.Holds, toInt_redSum, toInt_greenSum, toInt_blueSum, hluma,
      hv, true_and]
    omega
  | v =>
    obtain ⟨hv, hluma, hu⟩ := h
    rw [UInt8.le_iff_toNat_le] at hv
    simp only [SampleKind.trend, Trend.Holds, toInt_redSum, toInt_greenSum, toInt_blueSum, hluma,
      hu, and_true]
    omega

theorem channel_trend (h : Yuv.RisesIn kind first second) (component : Component) :
    (kind.trend component).Holds ((rgb first).channel component)
      ((rgb second).channel component) := by
  obtain ⟨hred, hgreen, hblue⟩ := sums_trend h
  cases component with
  | red =>
    simp only [Rgb.channel, rgb]
    exact hred.toByte
  | green =>
    simp only [Rgb.channel, rgb]
    exact hgreen.toByte
  | blue =>
    simp only [Rgb.channel, rgb]
    exact hblue.toByte
  | alpha =>
    have hstays : kind.trend .alpha = .stays := by
      cases kind <;> rfl
    simp only [hstays, Trend.Holds, Rgb.channel]

theorem grey_mono (h : Yuv.RisesIn .luma first second) : grey first ≤ grey second := by
  have hred := channel_trend h .red
  have hgreen := channel_trend h .green
  have hblue := channel_trend h .blue
  simp only [SampleKind.trend, Trend.Holds, Rgb.channel] at hred hgreen hblue
  exact luminance_mono hred hgreen hblue

end FixedPoint

theorem SampleKind.le_of_luma_trend {component : Component} {first second : UInt8}
    (h : (SampleKind.luma.trend component).Holds first second) : first ≤ second := by
  cases component with
  | red => exact h
  | green => exact h
  | blue => exact h
  | alpha => exact UInt8.le_of_eq h

/-! ### Frames -/

/-- At every visible coordinate the second frame has the samples of the first, with one of them
    raised. -/
def Source.RisesIn (kind : SampleKind) (first second : Source) : Prop :=
  ∀ p : Point, p.Inside first.size → ∀ sample sample', first.sample? p = some sample →
    second.sample? p = some sample' → Yuv.RisesIn kind sample sample'

/-- Every channel of every visible pixel goes its way from the first buffer to the second. -/
def FrameFollows (kind : SampleKind) (order : ChannelOrder) (size : Size) (stride : UInt32)
    (first second : Array UInt8) : Prop :=
  ∀ p : Point, p.Inside size → ∀ component, ∃ one two : UInt8,
    first[p.y.toNat * stride.toNat + 4 * p.x.toNat + order.offset component]? = some one ∧
      second[p.y.toNat * stride.toNat + 4 * p.x.toNat + order.offset component]? = some two ∧
      (kind.trend component).Holds one two

/-- Two buffers of one length, no element of the first above that of the second. -/
structure BytesAtMost (first second : Array UInt8) : Prop where
  length_eq : second.size = first.size
  element : ∀ (i : Nat) (one two : UInt8), first[i]? = some one → second[i]? = some two → one ≤ two

structure Outputs.AtMost (first second : Outputs UInt8) : Prop where
  colour : BytesAtMost first.colour second.colour
  grey : Option.Rel (fun one two => BytesAtMost one.plane.samples two.plane.samples)
    first.grey second.grey

section Frames

variable {kind : SampleKind} {order : ChannelOrder} {first second : Source} {stride : UInt32}
  {before after after' : Outputs UInt8}

theorem ChannelOrder.offset_components (order : ChannelOrder) (place : Fin 4) :
    order.offset order.components[place] = place := by
  revert place
  cases order <;> decide

theorem FrameAgrees.follows (h : FrameAgrees order first stride FixedPoint.grey before after)
    (hother : FrameAgrees order second stride FixedPoint.grey before after')
    (hsize : first.size = second.size) (hrises : Source.RisesIn kind first second) :
    FrameFollows kind order first.size stride after.colour after'.colour := by
  intro p hp component
  obtain ⟨sample, hsample, _⟩ := h.pixel p hp
  obtain ⟨sample', hsample', _⟩ := hother.pixel p (hsize ▸ hp)
  exact ⟨_, _, h.channel hp hsample component, hother.channel (hsize ▸ hp) hsample' component,
    FixedPoint.channel_trend (hrises p hp sample sample' hsample hsample') component⟩

theorem FrameAgrees.colour_atMost
    (h : FrameAgrees order first stride FixedPoint.grey before after)
    (hother : FrameAgrees order second stride FixedPoint.grey before after')
    (hsize : first.size = second.size) (hrises : Source.RisesIn .luma first second) :
    BytesAtMost after.colour after'.colour := by
  refine ⟨by rw [hother.length_eq, h.length_eq], ?_⟩
  intro i one two hone htwo
  by_cases hcell : ∃ p : Point, p.Inside first.size ∧
    p.y.toNat * stride.toNat + 4 * p.x.toNat ≤ i ∧
      i < p.y.toNat * stride.toNat + 4 * p.x.toNat + 4
  · obtain ⟨p, hp, hlow, hhigh⟩ := hcell
    have hplace : i - (p.y.toNat * stride.toNat + 4 * p.x.toNat) < 4 := by omega
    obtain ⟨one', two', hone', htwo', htrend⟩ :=
      h.follows hother hsize hrises p hp order.components[(⟨_, hplace⟩ : Fin 4)]
    rw [order.offset_components, Nat.add_sub_cancel' hlow] at hone' htwo'
    rw [hone'] at hone
    rw [htwo'] at htwo
    cases hone
    cases htwo
    exact SampleKind.le_of_luma_trend htrend
  · -- padding holds in both what it held before
    have hout : ∀ p : Point, p.Inside first.size →
        i < p.y.toNat * stride.toNat + 4 * p.x.toNat ∨
          p.y.toNat * stride.toNat + 4 * p.x.toNat + 4 ≤ i := by
      intro p hp
      by_contra hinside
      exact hcell ⟨p, hp, by omega, by omega⟩
    rw [h.padding i hout] at hone
    rw [hother.padding i (hsize ▸ hout), hone] at htwo
    cases htwo
    exact UInt8.le_refl one

theorem GreyAgrees.atMost {size : Size} {grey grey' : Point → Option UInt8}
    {image one two : GreyImage} (h : GreyAgrees size grey image one)
    (hother : GreyAgrees size grey' image two)
    (hle : ∀ p : Point, p.Inside size → ∀ value value', grey p = some value →
      grey' p = some value' → value ≤ value') :
    BytesAtMost one.plane.samples two.plane.samples := by
  refine ⟨by rw [hother.length_eq, h.length_eq], ?_⟩
  intro i value value' hvalue hvalue'
  by_cases hcell : ∃ p : Point, p.Inside size ∧
    i = p.y.toNat * image.plane.stride.toNat + p.x.toNat
  · obtain ⟨p, hp, rfl⟩ := hcell
    obtain ⟨read, hread, hplace⟩ := h.sample p hp
    obtain ⟨read', hread', hplace'⟩ := hother.sample p hp
    rw [hplace] at hvalue
    rw [hplace'] at hvalue'
    cases hvalue
    cases hvalue'
    exact hle p hp _ _ hread hread'
  · have hout : ∀ p : Point, p.Inside size →
        i ≠ p.y.toNat * image.plane.stride.toNat + p.x.toNat :=
      fun p hp heq => hcell ⟨p, hp, heq⟩
    rw [h.padding i hout] at hvalue
    rw [hother.padding i hout, hvalue] at hvalue'
    cases hvalue'
    exact UInt8.le_refl value

theorem FrameAgrees.atMost (h : FrameAgrees order first stride FixedPoint.grey before after)
    (hother : FrameAgrees order second stride FixedPoint.grey before after')
    (hsize : first.size = second.size) (hrises : Source.RisesIn .luma first second) :
    after.AtMost after' := by
  refine ⟨h.colour_atMost hother hsize hrises, ?_⟩
  have hgrey := hother.grey
  rw [← hsize] at hgrey
  apply optionRel_compare _ h.grey hgrey
  intro image one two hone htwo
  apply hone.atMost htwo
  intro p hp value value' hvalue hvalue'
  obtain ⟨sample, hsample, rfl⟩ := Option.map_eq_some_iff.1 hvalue
  obtain ⟨sample', hsample', rfl⟩ := Option.map_eq_some_iff.1 hvalue'
  exact FixedPoint.grey_mono (hrises p hp sample sample' hsample hsample')

/-- What painting two frames into the same outputs leaves, if one sample of the second is raised. -/
theorem paint_follows (hsize : first.size = second.size) (hrises : first.RisesIn kind second)
    (h : paint order first stride before = .completed after)
    (hother : paint order second stride before = .completed after') :
    FrameFollows kind order first.size stride after.colour after'.colour ∧
      (kind = .luma → after.AtMost after') := by
  have hagrees : FrameAgrees order first stride FixedPoint.grey before after :=
    frameAgrees_of_completed h fun _ => rfl
  have hagrees' : FrameAgrees order second stride FixedPoint.grey before after' :=
    frameAgrees_of_completed hother fun _ => rfl
  refine ⟨hagrees.follows hagrees' hsize hrises, ?_⟩
  rintro rfl
  exact hagrees.atMost hagrees' hsize hrises

end Frames

/-- If one sample of a frame is raised at some coordinates and nothing else changes, every channel
    of every pixel goes one way: luma raises red, green and blue, U raises blue and lowers green,
    and V raises red and lowers green.  With luma, no element of the outputs and of their grey
    falls.  This holds of all frames of one size that are painted into the same outputs, whatever
    their layouts, and frames that are well laid out are painted if only the outputs are
    accepted. -/
theorem bytes_follow_their_samples (kind : SampleKind) :
    (∀ (first second : Source) (order : ChannelOrder) (stride : UInt32)
      (before after after' : Outputs UInt8), first.size = second.size →
      first.RisesIn kind second → paint order first stride before = .completed after →
      paint order second stride before = .completed after' →
      FrameFollows kind order first.size stride after.colour after'.colour ∧
        (kind = .luma → after.AtMost after')) ∧
    ∀ (first second : Image) (order : ChannelOrder) (stride : UInt32) (before : Outputs UInt8),
      first.check = .ok () → second.check = .ok () → first.size = second.size →
      first.source.RisesIn kind second.source →
      requireDestination first.size stride before.colour.size = .ok () →
      (∀ grey ∈ before.grey, grey.check = .ok () ∧ grey.size = first.size) →
      ∃ after after', paint order first.source stride before = .completed after ∧
        paint order second.source stride before = .completed after' ∧
        FrameFollows kind order first.size stride after.colour after'.colour ∧
        (kind = .luma → after.AtMost after') := by
  refine ⟨fun _ _ _ _ _ _ _ => paint_follows, ?_⟩
  intro first second order stride before hfirst hsecond hsize hrises hdestination hgrey
  obtain ⟨after, hafter, _⟩ := Image.paint_agrees hfirst order (fun _ => rfl) hdestination hgrey
  rw [hsize] at hdestination hgrey
  obtain ⟨after', hafter', _⟩ := Image.paint_agrees hsecond order (fun _ => rfl) hdestination hgrey
  refine ⟨after, after', hafter, hafter', ?_⟩
  rw [← first.size_source]
  apply paint_follows _ hrises hafter hafter'
  rw [first.size_source, second.size_source, hsize]

/-- The odd picture with its chroma in two planes, and with more luma in every row below the
    first. -/
def brightPicture : Image :=
  .planar {
    size := ⟨3, 3⟩
    luma := Plane.tabulate 3 3 fun x y => UInt8.ofNat (50 * y + 15 * x + 20)
    u := Plane.tabulate 2 2 fun x y => UInt8.ofNat (90 * y + 60 * x + 90)
    v := Plane.tabulate 4 2 fun x y => UInt8.ofNat (90 * y + 60 * x + 60) }

theorem bright_picture_is_nowhere_darker :
    ∃ after after', paint .bgra oddPicture.source 13
        ⟨Array.replicate 39 7, some ⟨⟨3, 3⟩, Plane.blank 5 15 9⟩⟩ = .completed after ∧
      paint .bgra brightPicture.source 13
        ⟨Array.replicate 39 7, some ⟨⟨3, 3⟩, Plane.blank 5 15 9⟩⟩ = .completed after' ∧
      FrameFollows .luma .bgra ⟨3, 3⟩ 13 after.colour after'.colour ∧ after.AtMost after' := by
  obtain ⟨hpainted, hvalid⟩ := bytes_follow_their_samples .luma
  have hsamples : ∀ p ∈ (⟨3, 3⟩ : Size).points, ∀ sample ∈ oddPicture.source.sample? p,
      ∀ sample' ∈ brightPicture.source.sample? p, Yuv.RisesIn .luma sample sample' := by
    decide +kernel
  have hrises : oddPicture.source.RisesIn .luma brightPicture.source := by
    intro p hp sample sample' hsample hsample'
    exact hsamples p (Size.mem_points.2 hp) sample hsample sample' hsample'
  obtain ⟨after, after', hafter, hafter', _⟩ := hvalid oddPicture brightPicture .bgra 13
    ⟨Array.replicate 39 7, some ⟨⟨3, 3⟩, Plane.blank 5 15 9⟩⟩ rfl rfl rfl hrises rfl
    (by rintro grey ⟨⟩; exact ⟨rfl, rfl⟩)
  obtain ⟨hfollows, hatMost⟩ := hpainted oddPicture.source brightPicture.source .bgra 13 _ after
    after' rfl hrises hafter hafter'
  exact ⟨after, after', hafter, hafter', hfollows, hatMost rfl⟩

end Chroma420
