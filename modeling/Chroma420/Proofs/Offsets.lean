import Chroma420.Proofs.Reading

/-!
# Offsets of pictures that nobody has checked

A source can be read before its check, and then nothing is known of its planes: their strides may
be shorter than a row or zero, and the coordinates may be any words.  What is read is decided by
offsets that wrap.  Where a row starts, and where a pair starts, is exact all the same: the largest
offset of a pair is 2 ^ 64 - 1, which still fits its word.  Only the end of a pair can wrap.  It
then lies before the start of the pair, and a run that ends before it starts is refused
(`Plane.span?_of_wrapped`).

So every reading succeeds exactly where it would over the unbounded integers, and it gives the
samples that lie there (`readings_are_exact`).  A coordinate outside of a plane is never mistaken
for one inside.
-/

namespace Chroma420

/-! ### Readings -/

/-- A reading succeeds exactly under a condition, and what it gives then is as described. -/
structure ReadsWhen {β : Type} (condition : Prop) (content : β → Prop) (reading : Option β) :
    Prop where
  isSome_iff : reading.isSome ↔ condition
  content : ∀ value ∈ reading, content value

theorem ReadsWhen.eq_none {β : Type} {condition : Prop} {content : β → Prop} {reading : Option β}
    (h : ReadsWhen condition content reading) (hnot : ¬ condition) : reading = none := by
  rw [← h.isSome_iff] at hnot
  simpa using hnot

theorem ReadsWhen.congr {β : Type} {condition other : Prop} {content : β → Prop}
    {reading : Option β} (h : ReadsWhen condition content reading) (hsame : condition ↔ other) :
    ReadsWhen other content reading :=
  ⟨h.isSome_iff.trans hsame, h.content⟩

/-- Two elements are read together where both are there. -/
theorem readsWhen_both {β : Type} {first second : Array β} {i j : Nat} :
    ReadsWhen (i < first.size ∧ j < second.size)
      (fun both => first[i]? = some both.1 ∧ second[j]? = some both.2)
      (do
        let one ← first[i]?
        let two ← second[j]?
        some (one, two)) := by
  constructor
  · by_cases hi : i < first.size
    · by_cases hj : j < second.size
      · simp [hi, hj]
      · simp [hi, hj]
    · simp [hi]
  · rintro ⟨one, two⟩ hread
    obtain ⟨a, ha, hread⟩ := Option.bind_eq_some_iff.1 hread
    obtain ⟨b, hb, hread⟩ := Option.bind_eq_some_iff.1 hread
    cases hread
    exact ⟨ha, hb⟩

/-! ### Runs of samples -/

namespace Plane

variable {α : Type} {plane : Plane α}

/-- Where column `x` of row `y` of a plane is, over the unbounded integers. -/
def offset (plane : Plane α) (x y : Nat) : Nat := y * plane.stride.toNat + x

/-- A run whose end has wrapped comes to an end before it starts. -/
theorem span?_of_wrapped {start length : UInt64} (h : 2 ^ 64 ≤ start.toNat + length.toNat) :
    plane.span? start (start + length) = none := by
  have hstart := start.toNat_lt
  have hlength := length.toNat_lt
  have hstop : (start + length).toNat = start.toNat + length.toNat - 2 ^ 64 := by
    rw [UInt64.toNat_add]
    omega
  unfold span?
  rw [dif_neg]
  rw [UInt64.le_iff_toNat_le]
  omega

theorem span?_of_fits {start length : UInt64} (h : start.toNat + length.toNat < 2 ^ 64) :
    plane.span? start (start + length) =
      if inside : start.toNat + length.toNat ≤ plane.samples.size then
        some ⟨plane.samples, start.toNat, length.toNat, inside⟩
      else none := by
  have hstop : (start + length).toNat = start.toNat + length.toNat := by
    rw [UInt64.toNat_add, Nat.mod_eq_of_lt h]
  by_cases inside : start.toNat + length.toNat ≤ plane.samples.size
  · rw [dif_pos inside]
    exact span?_eq_some rfl hstop inside
  · unfold span?
    rw [dif_neg inside, dif_neg]
    rw [UInt64.le_iff_toNat_le]
    omega

theorem row?_eq (plane : Plane α) (width y : UInt32) :
    plane.row? width y =
      if inside : plane.offset width.toNat y.toNat ≤ plane.samples.size then
        some ⟨plane.samples, plane.offset 0 y.toNat, width.toNat, inside⟩
      else none := by
  have hstart := plane.toNat_rowStart y
  have hwidth : width.toUInt64.toNat = width.toNat := UInt32.toNat_toUInt64 width
  have hstop := (plane.rowStart y + width.toUInt64).toNat_lt
  rw [plane.toNat_rowStart_add y (by have := width.toNat_lt; omega), hwidth] at hstop
  unfold row?
  rw [span?_of_fits (by omega)]
  simp only [hstart, hwidth]
  rfl

/-- The start of a pair is exact for every coordinate. -/
theorem toNat_pairStart (plane : Plane α) (x y : UInt32) :
    (plane.rowStart y + x.toUInt64 * 2).toNat = plane.offset (2 * x.toNat) y.toNat := by
  have hx := x.toNat_lt
  rw [toNat_rowStart_add, toNat_pairOffset]
  · rfl
  · rw [toNat_pairOffset]
    omega

theorem pair?_eq (hsize : plane.samples.size < 2 ^ 64) (x y : UInt32) :
    plane.pair? x y =
      if inside : plane.offset (2 * x.toNat) y.toNat + 2 ≤ plane.samples.size then
        some ⟨plane.samples, plane.offset (2 * x.toNat) y.toNat, 2, inside⟩
      else none := by
  have hstart := plane.toNat_pairStart x y
  have htwo : (2 : UInt64).toNat = 2 := rfl
  unfold pair?
  by_cases hfits : plane.offset (2 * x.toNat) y.toNat + 2 < 2 ^ 64
  · rw [span?_of_fits (by omega)]
    simp only [hstart, htwo]
  · rw [span?_of_wrapped (by omega), dif_neg (by omega)]

end Plane

/-! ### Luma -/

namespace Image

variable (image : Image)

theorem lumaRow?_exact (y : UInt32) :
    ReadsWhen (image.luma.offset image.size.width.toNat y.toNat ≤ image.luma.samples.size)
      (fun row => row.toArray = image.luma.samples.extract (image.luma.offset 0 y.toNat)
        (image.luma.offset image.size.width.toNat y.toNat))
      (image.source.lumaRow? y) := by
  rw [image.lumaRow?_source, Plane.row?_eq]
  constructor
  · split <;> simp_all
  · intro row hrow
    split at hrow
    · cases hrow
      rfl
    · cases hrow

/-- A luma sample is read where its row is and where the row has its column. -/
theorem luma?_eq_some {point : Point} {luma : UInt8} :
    image.source.luma? point = some luma ↔
      ((image.source.lumaRow? point.y).isSome ∧ point.x.toNat < image.size.width.toNat) ∧
        image.luma.samples[image.luma.offset point.x.toNat point.y.toNat]? = some luma := by
  unfold Source.luma?
  rw [image.lumaRow?_source, Plane.row?_eq]
  have hcolumn : image.luma.offset 0 point.y.toNat + point.x.toNat =
      image.luma.offset point.x.toNat point.y.toNat := by simp [Plane.offset]
  by_cases hrow : image.luma.offset image.size.width.toNat point.y.toNat ≤
      image.luma.samples.size
  · by_cases hx : point.x.toNat < image.size.width.toNat
    · simp [hrow, hx, Span.get?, hcolumn]
    · simp [hrow, hx, Span.get?]
  · simp [hrow]

end Image

/-! ### Chroma -/

theorem PlanarImage.chroma?_exact (image : PlanarImage) (point : Point) :
    ReadsWhen
      (image.u.offset point.x.toNat point.y.toNat < image.u.samples.size ∧
        image.v.offset point.x.toNat point.y.toNat < image.v.samples.size)
      (fun chroma =>
        image.u.samples[image.u.offset point.x.toNat point.y.toNat]? = some chroma.1 ∧
          image.v.samples[image.v.offset point.x.toNat point.y.toNat]? = some chroma.2)
      (image.source.chroma? point) := by
  rw [image.chroma?_eq]
  exact readsWhen_both

/-- A pair is read where the plane has both of its samples, each in the place that the order
    gives it. -/
theorem SemiPlanarImage.chroma?_exact {image : SemiPlanarImage}
    (hsize : image.chroma.samples.size < 2 ^ 64) (point : Point) :
    ReadsWhen
      (image.chroma.offset (2 * point.x.toNat) point.y.toNat + 2 ≤ image.chroma.samples.size)
      (fun chroma =>
        image.chroma.samples[image.chroma.offset (2 * point.x.toNat) point.y.toNat +
            image.order.uPosition]? = some chroma.1 ∧
          image.chroma.samples[image.chroma.offset (2 * point.x.toNat) point.y.toNat +
            image.order.vPosition]? = some chroma.2)
      (image.source.chroma? point) := by
  have hpositions := image.order.uPosition_add_vPosition
  have hu : image.order.uPosition < 2 := by omega
  have hv : image.order.vPosition < 2 := by omega
  simp only [source, Plane.pair?_eq hsize]
  by_cases inside : image.chroma.offset (2 * point.x.toNat) point.y.toNat + 2 ≤
      image.chroma.samples.size
  · simp only [dif_pos inside, Option.bind_eq_bind, Option.bind_some, Span.get?, if_pos hu,
      if_pos hv]
    apply readsWhen_both.congr
    omega
  · constructor
    · simp [inside]
    · simp [inside]

/-! ### Samples -/

theorem Image.sample?_exact (image : Image) (point : Point) :
    ReadsWhen
      ((image.source.lumaRow? point.y).isSome ∧ point.x.toNat < image.size.width.toNat ∧
        (image.source.chroma? point.chroma).isSome)
      (fun sample =>
        image.luma.samples[image.luma.offset point.x.toNat point.y.toNat]? = some sample.luma ∧
          image.source.chroma? point.chroma = some (sample.u, sample.v))
      (image.source.sample? point) := by
  constructor
  · rw [Option.isSome_iff_exists]
    constructor
    · rintro ⟨sample, hsample⟩
      obtain ⟨hluma, hchroma⟩ := Source.sample?_eq_some.1 hsample
      obtain ⟨⟨hrow, hx⟩, _⟩ := image.luma?_eq_some.1 hluma
      exact ⟨hrow, hx, by simp [hchroma]⟩
    · rintro ⟨hrow, hx, hchroma⟩
      obtain ⟨⟨u, v⟩, hchroma⟩ := Option.isSome_iff_exists.1 hchroma
      have hinside := (image.lumaRow?_exact point.y).isSome_iff.1 hrow
      have hcolumn : image.luma.offset point.x.toNat point.y.toNat < image.luma.samples.size := by
        unfold Plane.offset at hinside ⊢
        omega
      have hluma := image.luma?_eq_some.2 ⟨⟨hrow, hx⟩, Array.getElem?_eq_getElem hcolumn⟩
      exact ⟨⟨_, u, v⟩, Source.sample?_eq_some.2 ⟨hluma, hchroma⟩⟩
  · intro sample hsample
    obtain ⟨hluma, hchroma⟩ := Source.sample?_eq_some.1 hsample
    exact ⟨(image.luma?_eq_some.1 hluma).2, hchroma⟩

/-- Whatever the strides of a picture and the lengths of its planes, and whatever the coordinate:
    a row of luma, the chroma of a block and a sample are read where they lie in their planes over
    the unbounded integers, and nowhere else.  What is read is what lies there.  Only for pairs
    does the length of the plane matter: it has to be the length of something that a word can
    address. -/
theorem readings_are_exact :
    (∀ (image : Image) (y : UInt32),
      ReadsWhen (image.luma.offset image.size.width.toNat y.toNat ≤ image.luma.samples.size)
        (fun row => row.toArray = image.luma.samples.extract (image.luma.offset 0 y.toNat)
          (image.luma.offset image.size.width.toNat y.toNat))
        (image.source.lumaRow? y)) ∧
    (∀ (image : PlanarImage) (point : Point),
      ReadsWhen
        (image.u.offset point.x.toNat point.y.toNat < image.u.samples.size ∧
          image.v.offset point.x.toNat point.y.toNat < image.v.samples.size)
        (fun chroma =>
          image.u.samples[image.u.offset point.x.toNat point.y.toNat]? = some chroma.1 ∧
            image.v.samples[image.v.offset point.x.toNat point.y.toNat]? = some chroma.2)
        (image.source.chroma? point)) ∧
    (∀ (image : SemiPlanarImage) (point : Point), image.chroma.samples.size < 2 ^ 64 →
      ReadsWhen
        (image.chroma.offset (2 * point.x.toNat) point.y.toNat + 2 ≤ image.chroma.samples.size)
        (fun chroma =>
          image.chroma.samples[image.chroma.offset (2 * point.x.toNat) point.y.toNat +
              image.order.uPosition]? = some chroma.1 ∧
            image.chroma.samples[image.chroma.offset (2 * point.x.toNat) point.y.toNat +
              image.order.vPosition]? = some chroma.2)
        (image.source.chroma? point)) ∧
    ∀ (image : Image) (point : Point),
      ReadsWhen
        ((image.source.lumaRow? point.y).isSome ∧ point.x.toNat < image.size.width.toNat ∧
          (image.source.chroma? point.chroma).isSome)
        (fun sample =>
          image.luma.samples[image.luma.offset point.x.toNat point.y.toNat]? = some sample.luma ∧
            image.source.chroma? point.chroma = some (sample.u, sample.v))
        (image.source.sample? point) := by
  refine ⟨Image.lumaRow?_exact, PlanarImage.chroma?_exact, ?_, Image.sample?_exact⟩
  intro image point hsize
  exact SemiPlanarImage.chroma?_exact hsize point

/-- Four samples of chroma, in rows that are claimed to be as long as a word can say. -/
def wideRows : SemiPlanarImage where
  size := ⟨3, 3⟩
  luma := Plane.tabulate 3 3 fun x y => UInt8.ofNat (40 * y + 15 * x + 20)
  chroma := ⟨#[60, 90, 120, 150], 4294967295⟩
  order := .vu

/-- The last pair that a coordinate can name starts at 2 ^ 64 - 1 and ends, in words, at 1.  It
    is not read, though the plane has samples there. -/
theorem wrapped_pair_is_not_read :
    wideRows.source.chroma? ⟨4294967295, 4294967295⟩ = none ∧
      ∃ chroma, wideRows.source.chroma? ⟨1, 0⟩ = some chroma ∧
        wideRows.chroma.samples[3]? = some chroma.1 := by
  obtain ⟨_, _, hpairs, _⟩ := readings_are_exact
  have hsize : wideRows.chroma.samples.size < 2 ^ 64 := by decide
  have hfar := hpairs wideRows ⟨4294967295, 4294967295⟩ hsize
  have hnear := hpairs wideRows ⟨1, 0⟩ hsize
  refine ⟨hfar.eq_none (by decide), ?_⟩
  obtain ⟨chroma, hchroma⟩ := Option.isSome_iff_exists.1 (hnear.isSome_iff.2 (by decide))
  exact ⟨chroma, hchroma, (hnear.content chroma hchroma).1⟩

end Chroma420
