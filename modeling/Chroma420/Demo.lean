import Chroma420.Converter
import Chroma420.Image
import Chroma420.Picture

/-!
# The demonstration

The test frame is a synthetic frame of any size, by which a conversion can be
judged with the eye.  Its luma climbs from left to right through the limited
range, one step higher in every second row.  One chroma sample grows from top to
bottom and the other from left to right, so that together they sweep the whole
chroma plane.

The demonstration converts one test frame twice with one converter, first to
bytes and then to floats.  Both conversions write into the same grey picture,
which is kept after each: the luminance of the bytes, and then the luma that
goes with floats.  With the two colour results this makes four pictures.
-/

namespace Chroma420

/-! ### The test frame -/

namespace TestFrame

def luma (size : Size) (x y : Nat) : UInt8 :=
  (16 + x * 219 / size.width.toNat + y % 2).toUInt8

/-- The chroma sample that grows from top to bottom, in row `y` of the chroma
    grid. -/
def downSweep (size : Size) (y : Nat) : UInt8 :=
  (y * 255 / size.chroma.height.toNat).toUInt8

/-- The chroma sample that grows from left to right, in column `x` of the chroma
    grid. -/
def acrossSweep (size : Size) (x : Nat) : UInt8 :=
  (x * 2 * 255 / size.width.toNat).toUInt8

def chroma (size : Size) (column y : Nat) : UInt8 :=
  if column % 2 = 0 then downSweep size y else acrossSweep size (column / 2)

/-- The test frame of a size.  There is none if its rows of pairs have no
    elements. -/
def image? (size : Size) : Option SemiPlanarImage :=
  let stride := (SemiPlanarImage.pairRow size).toUInt32
  if stride = 0 then none
  else some {
    size
    luma := Plane.tabulate size.width size.height.toNat (luma size)
    chroma := Plane.tabulate stride size.chroma.height.toNat (chroma size)
    order := .vu }

end TestFrame

/-! ### The demonstration of a size -/

namespace Demo

/-- What a demonstration leaves: pictures under their file names, in the order
    in which they are made, and its log. -/
structure Run where
  pictures : List (String × Picture)
  log : List Record
deriving DecidableEq, Repr

def size : Size := ⟨1280, 721⟩

def options : Options := { order := .rgba, grey := .fused }

def run? (size : Size) : Option Run := do
  let frame ← TestFrame.image? size
  let converter ← (Converter.ofSize size options).toOption
  let bytes : Report (Outputs UInt8) :=
    converter.convert frame.source ⟨converter.blankColour, converter.blankGrey?⟩
  let .completed ⟨rgba, some luminance⟩ := bytes.ending | none
  let floats : Report (Outputs Float32) :=
    converter.convert frame.source ⟨converter.blankColour, some luminance⟩
  let .completed ⟨rgbaFloat, some luma⟩ := floats.ending | none
  some {
    pictures := [
      ("converted_luminance.png", Picture.ofGrey luminance),
      ("converted_rgba.png", Picture.ofBytes size rgba),
      ("converted_luma.png", Picture.ofGrey luma),
      ("converted_rgba_f32.png", Picture.ofFloats size rgbaFloat)]
    log := bytes.events.map Event.record
      ++ [⟨.info, "NV21 -> RGBA with luminance", []⟩]
      ++ floats.events.map Event.record
      ++ [⟨.info, "NV21 -> RGBA f32 with raw luma", []⟩] }

end Demo

end Chroma420
