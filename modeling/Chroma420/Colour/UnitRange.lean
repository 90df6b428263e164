import Chroma420.Colour.Basic

/-!
# Colours of floats from 0 to 1

The Rec.601 transform in single precision.  Luma is scaled to the unit range;
chroma keeps its offset from 128, and the coefficients carry the scale instead.
Each channel is a sum from left to right, every operation rounded to the nearest
single, and then limited to the unit range.

The grey that goes with a float pixel is its luma sample as it is.
-/

namespace Chroma420.UnitRange

/-- One step of a byte in the unit range. -/
def scale : Float32 := 1 / 255

/-- How much red grows with a step of V. -/
def redPerV : Float32 := 1.603 * scale

def greenPerU : Float32 := -0.392 * scale

def greenPerV : Float32 := -0.815 * scale

def bluePerU : Float32 := 2.02 * scale

def clamp (value : Float32) : Float32 :=
  if value < 0 then 0 else if value > 1 then 1 else value

def rgb (sample : Yuv) : Rgb Float32 :=
  let luma := sample.luma.toFloat32 / 255
  let u := sample.u.toFloat32 - 128
  let v := sample.v.toFloat32 - 128
  ⟨clamp (luma + v * redPerV), clamp (luma + u * greenPerU + v * greenPerV),
    clamp (luma + u * bluePerU)⟩

instance : ColourDomain Float32 where
  full := 1
  blank := 0
  rgb := rgb
  grey luma _ := luma

def pixel (order : ChannelOrder) (sample : Yuv) : Pixel Float32 := sample.pixel order

/-- A channel as a byte: the nearest of 256 steps, a half going away from zero. -/
def toByte (channel : Float32) : UInt8 := (clamp channel * 255).round.toUInt8

end Chroma420.UnitRange
