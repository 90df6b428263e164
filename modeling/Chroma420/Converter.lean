import Chroma420.Frame

/-!
# Converters

A converter turns frames of one size into tightly packed colour rows, and
depending on its grey mode also into a grey picture.  It can be built for a size
only if the size has samples and a row of pixels fits a stride; both facts are
part of the type, and with them every count that the converter announces is
exact.

A converter is asked for pixels in one channel order, and it treats grey in one
of three ways.  Two of them fill a grey picture; they differ in where its samples
come from and in the number of passes over the frame.

A frame is accepted or not (`Converter.accept`), and if it is, the frame
conversions of the grey mode are carried out (`Converter.run`).  What callers
use is `Converter.convert`, which also reports: that it begins, that it leaves a
grey picture alone, that the frame has been rejected.  An event is data; the
record that a log shows for it, with its level, its message and its fields as
texts, is made from it by `Event.record`.
-/

namespace Chroma420

/-! ### Options -/

inductive GreyMode where
  /-- No grey is written. -/
  | disabled
  /-- The grey of each pixel is written together with the pixel. -/
  | fused
  /-- The luma of the frame is copied after the pixels have been written. -/
  | separate
deriving DecidableEq, Repr

def GreyMode.name : GreyMode → String
  | disabled => "Disabled"
  | fused => "Fused"
  | separate => "Separate"

structure Options where
  order : ChannelOrder := .rgba
  grey : GreyMode := .disabled
deriving DecidableEq, Repr

/-! ### Events -/

inductive Level where
  | trace
  | debug
  | info
deriving DecidableEq, Repr

def Level.name : Level → String
  | trace => "TRACE"
  | debug => "DEBUG"
  | info => "INFO"

structure Record where
  level : Level
  message : String
  fields : List (String × String) := []
deriving DecidableEq, Repr

inductive Event where
  | started (size : Size) (options : Options)
  /-- There is a grey picture, but the converter does not write grey. -/
  | greyIgnored
  | rejected (cause : Rejection)
deriving DecidableEq, Repr

/-- The entry that a log shows for an event. -/
def Event.record : Event → Record
  | started size options => {
      level := .trace
      message := "Converting YUV 4:2:0 frame"
      fields := [("width", toString size.width.toNat), ("height", toString size.height.toNat),
        ("color_format", options.order.name), ("grey", options.grey.name)] }
  | greyIgnored => {
      level := .trace
      message := "Grey output provided while grey is disabled, leaving it untouched" }
  | rejected cause => {
      level := .debug
      message := "YUV frame rejected"
      fields := [("error", cause.message)] }

/-! ### Converters -/

/-- A conversion of frames of one size under fixed options. -/
structure Converter where
  size : Size
  options : Options
  nonempty : size.isEmpty = false
  /-- The elements of a row of pixels fit a stride. -/
  row_fits : 4 * size.width.toNat < UInt32.size
deriving DecidableEq

/-- A conversion as its caller sees it: how it ended and what was reported. -/
structure Report (β : Type) where
  ending : Ending β
  events : List Event
deriving DecidableEq

namespace Converter

/-- The converter for a size, or why there is none. -/
def ofSize (size : Size) (options : Options) : Except Rejection Converter :=
  if nonempty : size.isEmpty = false then do
    requireColourFits size
    if row_fits : 4 * size.width.toNat < UInt32.size then
      .ok { size, options, nonempty, row_fits }
    else .error .sizeOverflow
  else .error .zeroSize

/-! ### Sizes and buffers -/

def stride (converter : Converter) : UInt32 := converter.size.width * 4

def colourLength (converter : Converter) : UInt64 := converter.size.area * 4

def greyLength (converter : Converter) : UInt64 :=
  match converter.options.grey with
  | .disabled => 0
  | .fused | .separate => converter.size.area

def blankColour {α : Type} [ColourDomain α] (converter : Converter) : Array α :=
  Array.replicate converter.colourLength.toNat ColourDomain.blank

def blankGrey? (converter : Converter) : Option GreyImage :=
  match converter.options.grey with
  | .disabled => none
  | .fused | .separate => some (GreyImage.blank converter.size)

/-! ### Conversion -/

section Conversion

variable {α : Type} [ColourDomain α]

/-- Requires the frame, and the grey picture if grey is enabled, to be of the
    size of the converter.  The grey picture is checked here because a separate
    copy of luma comes only after the colour rows have been written. -/
def accept (converter : Converter) (source : Source) (grey : Option GreyImage) :
    Except Rejection Unit := do
  requireSize converter.size source.size
  match converter.options.grey with
  | .disabled => .ok ()
  | .fused | .separate =>
    match grey with
    | none => .error .missingGrey
    | some image => requireGrey converter.size image

def paintColour (converter : Converter) (source : Source) (outputs : Outputs α) :
    Ending (Outputs α) :=
  let ⟨colour, grey⟩ := outputs
  (paint converter.options.order source converter.stride ⟨colour, none⟩).map
    fun written => { written with grey := grey }

/-- Copies the luma of a frame into the grey picture, if there is one, and leaves
    the colour rows alone. -/
def copyGrey (source : Source) (outputs : Outputs α) : Ending (Outputs α) :=
  match outputs with
  | ⟨colour, some image⟩ => (copyLuma source image).map fun written => ⟨colour, some written⟩
  | ⟨colour, none⟩ => .completed ⟨colour, none⟩

/-- The frame conversions that a grey mode stands for. -/
def passes (converter : Converter) (source : Source) (outputs : Outputs α) :
    Ending (Outputs α) :=
  match converter.options.grey with
  | .disabled => converter.paintColour source outputs
  | .fused => paint converter.options.order source converter.stride outputs
  | .separate => (converter.paintColour source outputs).andThen (copyGrey source)

def run (converter : Converter) (source : Source) (outputs : Outputs α) : Ending (Outputs α) :=
  match converter.accept source outputs.grey with
  | .error cause => .rejected cause outputs
  | .ok () => converter.passes source outputs

/-! ### Reports -/

def openingEvents (converter : Converter) (source : Source) (grey : Option GreyImage) :
    List Event :=
  let ignored := converter.options.grey = .disabled ∧ grey.isSome ∧ source.size = converter.size
  .started converter.size converter.options :: if ignored then [.greyIgnored] else []

def closingEvents : Outcome → List Event
  | .rejected cause => [.rejected cause]
  | .completed | .fault => []

def convert (converter : Converter) (source : Source) (outputs : Outputs α) :
    Report (Outputs α) :=
  let opening := converter.openingEvents source outputs.grey
  let ending := converter.run source outputs
  ⟨ending, opening ++ closingEvents ending.outcome⟩

variable {converter : Converter} {source : Source} {outputs : Outputs α}

theorem ending_of_refused {cause : Rejection}
    (h : converter.accept source outputs.grey = .error cause) :
    (converter.convert source outputs).ending = .rejected cause outputs := by
  change converter.run source outputs = _
  rw [run, h]

theorem ending_of_accepted (h : converter.accept source outputs.grey = .ok ()) :
    (converter.convert source outputs).ending = converter.passes source outputs := by
  change converter.run source outputs = _
  rw [run, h]

end Conversion

/-! ### The counts are exact -/

theorem toNat_stride (converter : Converter) :
    converter.stride.toNat = 4 * converter.size.width.toNat := by
  have hrow : 4 * converter.size.width.toNat < 2 ^ 32 := converter.row_fits
  simp only [stride, UInt32.toNat_mul, UInt32.reduceToNat]
  omega

theorem toNat_colourLength (converter : Converter) :
    converter.colourLength.toNat =
      4 * converter.size.width.toNat * converter.size.height.toNat := by
  have hrow : 4 * converter.size.width.toNat < 2 ^ 32 := converter.row_fits
  have hrows := converter.size.height.toNat_lt
  have : 4 * converter.size.width.toNat * converter.size.height.toNat ≤
      (2 ^ 32 - 1) * (2 ^ 32 - 1) := Nat.mul_le_mul (by omega) (by omega)
  rw [Nat.mul_assoc] at this ⊢
  simp only [colourLength, UInt64.toNat_mul, Size.toNat_area, UInt64.reduceToNat]
  omega

end Converter

end Chroma420
