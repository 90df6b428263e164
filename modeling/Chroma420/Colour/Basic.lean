import Chroma420.Order

/-!
# Samples, colours and pixels

A luma coordinate of a frame has three samples (`Yuv`).  A colour domain is a
numeric type for channels together with a conversion of such a triple into red,
green and blue, and the grey that goes with the result.  The library has two of
them: bytes (`Chroma420.Colour.FixedPoint`) and single-precision floats from 0
to 1 (`Chroma420.Colour.UnitRange`).

A conversion always yields red, green and blue by name.  Only afterwards are the
channels laid out in the order of the destination (`Pixel.ofRgb`), so neither
the colours nor the grey depend on that order.
-/

namespace Chroma420

/-- The samples of one luma coordinate: its luma and the chroma of its block. -/
structure Yuv where
  luma : UInt8
  u : UInt8
  v : UInt8
deriving DecidableEq, Repr

structure Rgb (α : Type) where
  red : α
  green : α
  blue : α
deriving DecidableEq, Repr

/-- A converted pixel: four channels in the order of its destination. -/
abbrev Pixel (α : Type) := Vector α 4

/-- A numeric type in which colours are computed. -/
class ColourDomain (α : Type) where
  /-- The alpha of an opaque pixel. -/
  full : α
  /-- The content of a fresh buffer. -/
  blank : α
  /-- The colour of a triple, each channel inside the range of the domain. -/
  rgb : Yuv → Rgb α
  /-- The grey of a converted sample, from its luma and its colour. -/
  grey : UInt8 → Rgb α → UInt8

section Domain

variable {α : Type} [ColourDomain α]

def Rgb.channel (colour : Rgb α) : Component → α
  | .red => colour.red
  | .green => colour.green
  | .blue => colour.blue
  | .alpha => ColourDomain.full

def Pixel.ofRgb (order : ChannelOrder) (colour : Rgb α) : Pixel α :=
  match order with
  | .rgba => #v[colour.red, colour.green, colour.blue, ColourDomain.full]
  | .bgra => #v[colour.blue, colour.green, colour.red, ColourDomain.full]

theorem Pixel.ofRgb_offset (order : ChannelOrder) (colour : Rgb α) (component : Component) :
    (Pixel.ofRgb order colour)[order.offset component]? = some (colour.channel component) := by
  cases order <;> cases component <;> rfl

end Domain

/-! ### Conversion of one triple -/

/-- A converted triple: the pixel and the grey that belongs to it. -/
structure Converted (α : Type) where
  pixel : Pixel α
  grey : UInt8

namespace Yuv

variable {α : Type} [ColourDomain α]

def convert (order : ChannelOrder) (sample : Yuv) : Converted α :=
  let colour : Rgb α := ColourDomain.rgb sample
  ⟨Pixel.ofRgb order colour, ColourDomain.grey sample.luma colour⟩

def pixel (order : ChannelOrder) (sample : Yuv) : Pixel α := (sample.convert order).pixel

theorem grey_convert (order other : ChannelOrder) (sample : Yuv) :
    (sample.convert order : Converted α).grey = (sample.convert other : Converted α).grey := rfl

/-- The pixel in BGRA is the pixel in RGBA with its first and its third channel exchanged. -/
theorem pixel_bgra (sample : Yuv) :
    (sample.pixel .bgra : Pixel α) =
      #v[(sample.pixel .rgba : Pixel α)[2], (sample.pixel .rgba : Pixel α)[1],
        (sample.pixel .rgba : Pixel α)[0], (sample.pixel .rgba : Pixel α)[3]] := rfl

end Yuv

end Chroma420
