import Chroma420.Plane
import Chroma420.Colour.FixedPoint
import Chroma420.Colour.UnitRange

/-!
# Sources

A source is what a frame is read through: a size, a verdict on its own layout,
rows of luma and chroma samples at coordinates of the chroma grid.  Both picture
layouts of the library give one, and callers may build their own, whose verdict
and samples may be anything at all.  Reading is partial: a source answers `none`
where it has no sample.

Luma and chroma are addressed differently, and the link between the two is
always the same: the chroma of a luma coordinate is that of its block
(`Point.chroma`).

What is read at a coordinate is converted in one order of channels and one
colour domain (`Source.convert?`).  The conversions that callers use have names
of their own, one for each order and domain, with the grey of the pixel or
without it.
-/

namespace Chroma420

/-- A frame that can be read. -/
structure Source where
  size : Size
  /-- The verdict of the source on its own layout. -/
  check : Except Rejection Unit
  /-- A row of luma.  It is meant to be as wide as the frame; nothing checks that. -/
  lumaRow? : UInt32 → Option (Span UInt8)
  /-- U and V at a coordinate of the chroma grid. -/
  chroma? : Point → Option (UInt8 × UInt8)

namespace Source

/-- The same frame with a verdict that never refuses it. -/
def trusted (source : Source) : Source := { source with check := .ok () }

/-- The luma sample at a coordinate.  Chroma is not read. -/
def luma? (source : Source) (point : Point) : Option UInt8 := do
  let row ← source.lumaRow? point.y
  row.get? point.x.toNat

def sample? (source : Source) (point : Point) : Option Yuv := do
  let luma ← source.luma? point
  let (u, v) ← source.chroma? point.chroma
  some ⟨luma, u, v⟩

def convert? {α : Type} [ColourDomain α] (source : Source) (order : ChannelOrder)
    (point : Point) : Option (Converted α) :=
  (source.sample? point).map (Yuv.convert order)

def pixel? {α : Type} [ColourDomain α] (source : Source) (order : ChannelOrder)
    (point : Point) : Option (Pixel α) :=
  (source.convert? order point).map Converted.pixel

theorem sample?_eq_some {source : Source} {point : Point} {sample : Yuv} :
    source.sample? point = some sample ↔
      source.luma? point = some sample.luma ∧
        source.chroma? point.chroma = some (sample.u, sample.v) := by
  cases sample
  simp only [sample?, Option.bind_eq_bind, Option.bind_eq_some_iff, Prod.exists, Option.some.injEq,
    Yuv.mk.injEq]
  constructor
  · rintro ⟨_, hluma, _, _, hchroma, rfl, rfl, rfl⟩; exact ⟨hluma, hchroma⟩
  · rintro ⟨hluma, hchroma⟩; exact ⟨_, hluma, _, _, hchroma, rfl, rfl, rfl⟩

/-! ### Pixels by name

The grey that goes with a pixel is its luminance in bytes and the luma of its
coordinate in floats.  Luma alone is `luma?`. -/

section Pixels

variable (source : Source) (point : Point)

def rgbaPixel? : Option (Pixel UInt8) := source.pixel? .rgba point

def bgraPixel? : Option (Pixel UInt8) := source.pixel? .bgra point

def rgbaFloatPixel? : Option (Pixel Float32) := source.pixel? .rgba point

def bgraFloatPixel? : Option (Pixel Float32) := source.pixel? .bgra point

def rgbaPixelWithGrey? : Option (Converted UInt8) := source.convert? .rgba point

def bgraPixelWithGrey? : Option (Converted UInt8) := source.convert? .bgra point

def rgbaFloatPixelWithGrey? : Option (Converted Float32) := source.convert? .rgba point

def bgraFloatPixelWithGrey? : Option (Converted Float32) := source.convert? .bgra point

end Pixels

end Source

end Chroma420
