import Chroma420.Source

/-!
# Pictures

A 4:2:0 picture has its chroma in one of two layouts.  A planar picture has its U
and its V samples in two planes of their own, each with a stride of its own.  A
semi-planar picture has both chroma samples of a block side by side in one plane
of pairs.  Which of the two is first is not written in the plane: the chroma
order is part of the picture and decides how a pair is read.

The shape of a picture is the picture without its samples: its size, and the
stride and the length of each plane.  A check of a picture looks at nothing
else.  A picture that is to be made has a shape before it has any samples.  The
planes of a wide picture hold more samples than a machine has memory for; its
shape, and the verdict on it, are known all the same.
-/

namespace Chroma420

/-! ### Planar pictures -/

structure PlanarImage where
  size : Size
  luma : Plane UInt8
  u : Plane UInt8
  v : Plane UInt8
deriving DecidableEq, Repr

namespace PlanarImage

def check (image : PlanarImage) : Except Rejection Unit := do
  image.luma.checkLuma image.size
  image.u.checkChroma image.size 1
  image.v.checkChroma image.size 1

def source (image : PlanarImage) : Source where
  size := image.size
  check := image.check
  lumaRow? y := image.luma.row? image.size.width y
  chroma? point := do
    let u ← image.u.at? point.x point.y
    let v ← image.v.at? point.x point.y
    some (u, v)

/-- A picture of tight rows in which every sample is zero. -/
def blank (size : Size) : PlanarImage :=
  let chroma := Plane.blank size.chroma.width size.chroma.area 0
  { size, luma := Plane.blank size.width size.area 0, u := chroma, v := chroma }

end PlanarImage

/-! ### Semi-planar pictures -/

structure SemiPlanarImage where
  size : Size
  luma : Plane UInt8
  chroma : Plane UInt8
  order : ChromaOrder
deriving DecidableEq, Repr

namespace SemiPlanarImage

def check (image : SemiPlanarImage) : Except Rejection Unit := do
  image.luma.checkLuma image.size
  image.chroma.checkChroma image.size 2

def source (image : SemiPlanarImage) : Source where
  size := image.size
  check := image.check
  lumaRow? y := image.luma.row? image.size.width y
  chroma? point := do
    let pair ← image.chroma.pair? point.x point.y
    let u ← pair.get? image.order.uPosition
    let v ← pair.get? image.order.vPosition
    some (u, v)

/-- The samples in one row of pairs of a picture of this size. -/
def pairRow (size : Size) : UInt64 := size.chroma.width.toUInt64 * 2

/-- A picture of tight rows in which every sample is zero.  The plane of pairs has
    all the samples of its rows; its stride is the length of a row narrowed to
    the word of a stride. -/
def blank (size : Size) (order : ChromaOrder) : SemiPlanarImage where
  size := size
  luma := Plane.blank size.width size.area 0
  chroma := Plane.blank (pairRow size).toUInt32
    (pairRow size * size.chroma.height.toUInt64) 0
  order := order

end SemiPlanarImage

/-! ### Both layouts -/

/-- A picture in either of the two layouts. -/
inductive Image where
  | planar (image : PlanarImage)
  | semiPlanar (image : SemiPlanarImage)
deriving DecidableEq, Repr

namespace Image

def size : Image → Size
  | planar image => image.size
  | semiPlanar image => image.size

def luma : Image → Plane UInt8
  | planar image => image.luma
  | semiPlanar image => image.luma

def check : Image → Except Rejection Unit
  | planar image => image.check
  | semiPlanar image => image.check

def source : Image → Source
  | planar image => image.source
  | semiPlanar image => image.source

@[simp] theorem size_source (image : Image) : image.source.size = image.size := by
  cases image <;> rfl

@[simp] theorem check_source (image : Image) : image.source.check = image.check := by
  cases image <;> rfl

theorem lumaRow?_source (image : Image) :
    image.source.lumaRow? = image.luma.row? image.size.width := by
  cases image <;> rfl

end Image

/-! ### Shapes -/

/-- A plane without its samples. -/
structure PlaneShape where
  stride : UInt32
  length : Nat
deriving DecidableEq, Repr

/-- A picture without its samples, in either of the two layouts. -/
inductive ImageShape where
  | planar (size : Size) (luma u v : PlaneShape)
  | semiPlanar (size : Size) (luma chroma : PlaneShape) (order : ChromaOrder)
deriving DecidableEq, Repr

def Plane.shape {α : Type} (plane : Plane α) : PlaneShape := ⟨plane.stride, plane.samples.size⟩

def Image.shape : Image → ImageShape
  | planar image => .planar image.size image.luma.shape image.u.shape image.v.shape
  | semiPlanar image => .semiPlanar image.size image.luma.shape image.chroma.shape image.order

/-! ### Checks of shapes -/

namespace PlaneShape

/-- Requires exactly `rows` rows of the stride, each long enough for `rowLength` samples. -/
def check (shape : PlaneShape) (kind : PlaneKind) (rowLength rows : Nat) :
    Except Rejection Unit := do
  require (rowLength ≤ shape.stride.toNat)
    (.planeMinimum kind ⟨rowLength * rows, shape.stride.toNat * rows⟩)
  require (shape.stride.toNat * rows = shape.length)
    (.planeSize kind ⟨shape.stride.toNat * rows, shape.length⟩)

def checkLuma (shape : PlaneShape) (size : Size) : Except Rejection Unit := do
  require (size.isEmpty = false) .zeroSize
  shape.check .luma size.width.toNat size.height.toNat

def checkChroma (shape : PlaneShape) (size : Size) (components : Nat) : Except Rejection Unit :=
  shape.check .chroma (size.chroma.width.toNat * components) size.chroma.height.toNat

end PlaneShape

def ImageShape.check : ImageShape → Except Rejection Unit
  | planar size luma u v => do
    luma.checkLuma size
    u.checkChroma size 1
    v.checkChroma size 1
  | semiPlanar size luma chroma _ => do
    luma.checkLuma size
    chroma.checkChroma size 2

/-! ### Shapes of blank pictures -/

/-- The shape of a plane of tight rows. -/
def Size.tightShape (size : Size) : PlaneShape := ⟨size.width, size.area.toNat⟩

def PlanarImage.blankShape (size : Size) : ImageShape :=
  .planar size size.tightShape size.chroma.tightShape size.chroma.tightShape

def SemiPlanarImage.blankShape (size : Size) (order : ChromaOrder) : ImageShape :=
  .semiPlanar size size.tightShape
    ⟨(pairRow size).toUInt32, (pairRow size * size.chroma.height.toUInt64).toNat⟩ order

end Chroma420
