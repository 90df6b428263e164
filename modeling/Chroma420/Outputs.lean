import Chroma420.Colour.Basic
import Chroma420.Plane

/-!
# Outputs of a conversion

A conversion writes into buffers of its caller: colour elements in rows of a
given stride, four to a pixel, and in some modes a grey picture, which is a luma
plane with a size.  Everything that a conversion does not write keeps its
content, so the buffers are values that go in and come out again.

A conversion ends in one of three ways (`Ending`).  It completes, or it is
rejected for a cause; in both cases the buffers come back.  Or it faults, which
means that it reached for an element that is not there; then nothing comes back.
-/

namespace Chroma420

/-! ### Grey pictures -/

structure GreyImage where
  size : Size
  plane : Plane UInt8
deriving DecidableEq, Repr

namespace GreyImage

def check (image : GreyImage) : Except Rejection Unit := image.plane.checkLuma image.size

/-- A picture of tight rows in which every sample is zero. -/
def blank (size : Size) : GreyImage := ⟨size, Plane.blank size.width size.area 0⟩

def index (image : GreyImage) (point : Point) : Nat :=
  point.y.toNat * image.plane.stride.toNat + point.x.toNat

/-- Overwrites samples of row `y` from its start on, if the row has room for
    them. -/
def putRow? (image : GreyImage) (y : UInt32) (row : List UInt8) : Option GreyImage :=
  let start := image.index ⟨0, y⟩
  if row.length ≤ image.plane.stride.toNat ∧ start + row.length ≤ image.plane.samples.size then
    some { image with plane := image.plane.overwrite start row }
  else none

def put? (image : GreyImage) (point : Point) (grey : UInt8) : Option GreyImage :=
  if point.x < image.plane.stride ∧ image.index point < image.plane.samples.size then
    some { image with plane := image.plane.overwrite (image.index point) [grey] }
  else none

end GreyImage

/-! ### Buffers -/

/-- The colour elements and the grey picture that a conversion writes. -/
structure Outputs (α : Type) where
  colour : Array α
  grey : Option GreyImage
deriving DecidableEq

/-- The place of the first channel of a pixel among the colour elements. -/
def Point.colourIndex (point : Point) (stride : UInt32) : Nat :=
  point.y.toNat * stride.toNat + 4 * point.x.toNat

/-- Overwrites the pixel at a coordinate of colour rows, if its row has room for
    it. -/
def putPixel? {α : Type} (colour : Array α) (stride : UInt32) (point : Point) (pixel : Pixel α) :
    Option (Array α) :=
  let start := point.colourIndex stride
  if 4 * point.x.toNat + 4 ≤ stride.toNat ∧ start + 4 ≤ colour.size then
    some (overwrite colour start pixel.toList)
  else none

def Outputs.put? {α : Type} (outputs : Outputs α) (stride : UInt32) (point : Point)
    (converted : Converted α) : Option (Outputs α) := do
  let ⟨colour, grey⟩ := outputs
  let colour ← putPixel? colour stride point converted.pixel
  match grey with
  | none => some ⟨colour, none⟩
  | some image =>
    let image ← image.put? point converted.grey
    some ⟨colour, some image⟩

/-! ### Endings -/

/-- How a conversion of buffers ends, with the buffers as it leaves them. -/
inductive Ending (β : Type) where
  | completed (outputs : β)
  | rejected (cause : Rejection) (outputs : β)
  | fault
deriving DecidableEq

inductive Outcome where
  | completed
  | rejected (cause : Rejection)
  | fault
deriving DecidableEq

namespace Ending

variable {β γ : Type}

def outcome : Ending β → Outcome
  | completed _ => .completed
  | rejected cause _ => .rejected cause
  | fault => .fault

def outputs? : Ending β → Option β
  | completed outputs => some outputs
  | rejected _ outputs => some outputs
  | fault => none

/-- The same ending with the buffers seen as part of something else. -/
def map (f : β → γ) : Ending β → Ending γ
  | completed outputs => completed (f outputs)
  | rejected cause outputs => rejected cause (f outputs)
  | fault => fault

/-- Goes on with another conversion of the same buffers once this one has
    completed. -/
def andThen (first : Ending β) (next : β → Ending β) : Ending β :=
  match first with
  | completed outputs => next outputs
  | rejected cause outputs => rejected cause outputs
  | fault => fault

/-- The ending of a conversion that first checks and then writes: the buffers
    are written only if the check passes. -/
def ofWrites (verdict : Except Rejection Unit) (outputs : β) (write? : β → Option β) :
    Ending β :=
  match verdict with
  | .error cause => rejected cause outputs
  | .ok () =>
    match write? outputs with
    | some written => completed written
    | none => fault

/-- A conversion that checks before it writes is rejected for the cause that its
    check gives, and then the buffers are as before. -/
theorem ofWrites_eq_rejected {verdict : Except Rejection Unit} {before after : β}
    {write? : β → Option β} {cause : Rejection} :
    ofWrites verdict before write? = rejected cause after ↔
      verdict = .error cause ∧ after = before := by
  unfold ofWrites
  split
  · simp [eq_comm]
  · split <;> simp

theorem ofWrites_eq_completed {verdict : Except Rejection Unit} {before after : β}
    {write? : β → Option β} :
    ofWrites verdict before write? = completed after ↔
      verdict = .ok () ∧ write? before = some after := by
  unfold ofWrites
  split
  · simp
  · split <;> simp [*]

theorem ofWrites_eq_fault {verdict : Except Rejection Unit} {before : β}
    {write? : β → Option β} :
    ofWrites verdict before write? = fault ↔ verdict = .ok () ∧ write? before = none := by
  unfold ofWrites
  split
  · simp
  · split <;> simp [*]

end Ending

end Chroma420
