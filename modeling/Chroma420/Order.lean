/-!
# Orders of interleaved samples

Two places of a frame store several components side by side: the chroma plane of
a semi-planar picture holds pairs, and a converted row holds pixels of four
channels.  Each comes in two orders, which other programs number 0 and 1.
-/

namespace Chroma420

/-! ### Chroma pairs -/

/-- Which chroma sample of an interleaved pair comes first: `uv` is the order of
    NV12, `vu` that of NV21. -/
inductive ChromaOrder where
  | uv
  | vu
deriving DecidableEq, Ord, Repr

namespace ChromaOrder

/-- The order with a given number. -/
def ofCode? (code : UInt8) : Option ChromaOrder :=
  if code = 0 then some uv else if code = 1 then some vu else none

def uPosition : ChromaOrder → Nat
  | uv => 0
  | vu => 1

def vPosition : ChromaOrder → Nat
  | uv => 1
  | vu => 0

/-- A pair holds nothing but U and V. -/
theorem uPosition_add_vPosition (order : ChromaOrder) :
    order.uPosition + order.vPosition = 1 := by
  cases order <;> rfl

end ChromaOrder

/-! ### Colour channels -/

inductive Component where
  | red
  | green
  | blue
  | alpha
deriving DecidableEq, Repr

/-- The order of the channels of a converted pixel; alpha is last in both. -/
inductive ChannelOrder where
  | rgba
  | bgra
deriving DecidableEq, Repr

namespace ChannelOrder

def ofCode? (code : UInt8) : Option ChannelOrder :=
  if code = 0 then some rgba else if code = 1 then some bgra else none

/-- The channels of one pixel as they follow each other in a row. -/
def components : ChannelOrder → Vector Component 4
  | rgba => #v[.red, .green, .blue, .alpha]
  | bgra => #v[.blue, .green, .red, .alpha]

def offset (order : ChannelOrder) (component : Component) : Nat :=
  order.components.toList.idxOf component

def name : ChannelOrder → String
  | rgba => "Rgba"
  | bgra => "Bgra"

end ChannelOrder

end Chroma420
