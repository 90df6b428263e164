import Chroma420.Source
import Chroma420.Outputs

/-!
# Conversion of frames

Two conversions of a whole frame.  `paint` writes the converted pixel of every
visible coordinate into colour rows, and its grey beside it if the outputs have
a grey picture.  `copyLuma` writes the luma rows of the frame into a grey
picture and never reads chroma.

Both check first and write afterwards, so a frame that is rejected leaves its
outputs as they were.  The checks go over the source, then the colour buffer,
then the grey picture.

Painting has one order of channels, one colour domain, and a grey picture or
none.  The paintings that callers use have names of their own, one for each
choice of the three.
-/

namespace Chroma420

/-! ### Checks -/

def requireColourFits (size : Size) : Except Rejection Unit := do
  requireFits size.width.toUInt64 size.height.toUInt64
  requireFits size.area 4

/-- Requires a colour buffer to hold exactly the rows of a frame, each long
    enough for the pixels of a row. -/
def requireDestination (size : Size) (stride : UInt32) (length : Nat) :
    Except Rejection Unit := do
  let rows := size.height.toUInt64
  let elements := stride.toUInt64 * rows
  requireColourFits size
  requireFits stride.toUInt64 rows
  require (length = elements.toNat) (.destinationSize ⟨elements.toNat, length⟩)
  require (size.width.toUInt64 * 4 ≤ stride.toUInt64)
    (.destinationMinimum ⟨(size.area * 4).toNat, elements.toNat⟩)

def requireGrey (size : Size) (grey : GreyImage) : Except Rejection Unit := do
  grey.check
  requireSize size grey.size

/-! ### Painting -/

section Painting

variable {α : Type} [ColourDomain α]

def paintPoint? (order : ChannelOrder) (source : Source) (stride : UInt32)
    (outputs : Outputs α) (point : Point) : Option (Outputs α) := do
  let converted ← source.convert? order point
  outputs.put? stride point converted

def paintPoints? (order : ChannelOrder) (source : Source) (stride : UInt32)
    (points : List Point) (outputs : Outputs α) : Option (Outputs α) :=
  points.foldlM (paintPoint? order source stride) outputs

def checkPaint (source : Source) (stride : UInt32) (outputs : Outputs α) :
    Except Rejection Unit := do
  source.check
  requireDestination source.size stride outputs.colour.size
  match outputs.grey with
  | none => .ok ()
  | some grey => requireGrey source.size grey

/-- Paints a frame into colour rows of a stride, and its grey into the grey
    picture if there is one.  Rows without any elements cannot be walked, not
    even when there are none of them. -/
def paint (order : ChannelOrder) (source : Source) (stride : UInt32) (outputs : Outputs α) :
    Ending (Outputs α) :=
  .ofWrites (checkPaint source stride outputs) outputs fun outputs =>
    if stride = 0 then none
    else paintPoints? order source stride source.size.points outputs

end Painting

/-! ### Paintings by name

A conversion to grey alone is `copyLuma`. -/

section ByName

variable (source : Source) (stride : UInt32)

def paintRgba (colour : Array UInt8) : Ending (Outputs UInt8) :=
  paint .rgba source stride ⟨colour, none⟩

def paintBgra (colour : Array UInt8) : Ending (Outputs UInt8) :=
  paint .bgra source stride ⟨colour, none⟩

def paintRgbaFloats (colour : Array Float32) : Ending (Outputs Float32) :=
  paint .rgba source stride ⟨colour, none⟩

def paintBgraFloats (colour : Array Float32) : Ending (Outputs Float32) :=
  paint .bgra source stride ⟨colour, none⟩

def paintRgbaWithGrey (colour : Array UInt8) (grey : GreyImage) : Ending (Outputs UInt8) :=
  paint .rgba source stride ⟨colour, some grey⟩

def paintBgraWithGrey (colour : Array UInt8) (grey : GreyImage) : Ending (Outputs UInt8) :=
  paint .bgra source stride ⟨colour, some grey⟩

def paintRgbaFloatsWithGrey (colour : Array Float32) (grey : GreyImage) :
    Ending (Outputs Float32) :=
  paint .rgba source stride ⟨colour, some grey⟩

def paintBgraFloatsWithGrey (colour : Array Float32) (grey : GreyImage) :
    Ending (Outputs Float32) :=
  paint .bgra source stride ⟨colour, some grey⟩

end ByName

/-! ### Copying luma -/

/-- Writes one luma row of a frame.  The row has to be as wide as the frame. -/
def copyRow? (source : Source) (grey : GreyImage) (y : UInt32) : Option GreyImage := do
  let row ← source.lumaRow? y
  if row.length = source.size.width.toNat then grey.putRow? y row.toArray.toList else none

def checkCopy (source : Source) (grey : GreyImage) : Except Rejection Unit := do
  source.check
  requireGrey source.size grey

def copyLuma (source : Source) (grey : GreyImage) : Ending GreyImage :=
  .ofWrites (checkCopy source grey) grey fun grey =>
    ((List.range source.size.height.toNat).map Nat.toUInt32).foldlM (copyRow? source) grey

end Chroma420
