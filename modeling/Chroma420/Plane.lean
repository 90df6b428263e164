import Chroma420.Rejection

/-!
# Planes of samples

A plane is a sequence of samples laid out in rows.  The stride is the distance
from the start of one row to the start of the next; it is part of what a caller
claims about the sequence and may be anything, zero included.

Offsets into a plane are 64-bit words and wrap.  What is read is therefore
decided in two steps: the offsets are computed as words, and then a run of
samples is taken only if its end does not come before its start and lies inside
the plane (`Plane.span?`).  A run that has been taken is a `Span`, which cannot
reach outside the plane any more.

Writing goes the other way: elements are overwritten from a place on
(`overwrite`), and the length never changes.
-/

namespace Chroma420

/-! ### Spans -/

/-- A run of consecutive samples: `length` of them from `start` on. -/
structure Span (α : Type) where
  samples : Array α
  start : Nat
  length : Nat
  inside : start + length ≤ samples.size

namespace Span

variable {α : Type}

def get? (span : Span α) (i : Nat) : Option α :=
  if i < span.length then span.samples[span.start + i]? else none

def toArray (span : Span α) : Array α :=
  span.samples.extract span.start (span.start + span.length)

theorem size_toArray (span : Span α) : span.toArray.size = span.length := by
  have := span.inside
  simp only [toArray, Array.size_extract]
  omega

theorem getElem?_toArray (span : Span α) (i : Nat) : span.toArray[i]? = span.get? i := by
  have := span.inside
  simp only [toArray, get?, Array.getElem?_extract]
  split <;> split <;> first | rfl | omega

end Span

/-! ### Overwriting -/

/-- Overwrites elements one after the other from `start` on.  What would come to
    lie behind the last element is left out. -/
def overwrite {α : Type} (elements : Array α) (start : Nat) : List α → Array α
  | [] => elements
  | new :: rest => overwrite (elements.setIfInBounds start new) (start + 1) rest

@[simp] theorem size_overwrite {α : Type} (elements : Array α) (start : Nat) (new : List α) :
    (overwrite elements start new).size = elements.size := by
  induction new generalizing elements start with
  | nil => rfl
  | cons first rest ih => simp [overwrite, ih]

/-- After overwriting, the places from `start` on hold the new elements and all
    other places what they held before. -/
theorem getElem?_overwrite {α : Type} (elements : Array α) (start : Nat) (new : List α)
    (i : Nat) (hi : i < elements.size) :
    (overwrite elements start new)[i]? =
      if start ≤ i ∧ i < start + new.length then new[i - start]? else elements[i]? := by
  induction new generalizing elements start with
  | nil => rw [overwrite, List.length_nil, Nat.add_zero, if_neg (by omega)]
  | cons first rest ih =>
    rw [overwrite, ih _ _ (by simpa using hi), Array.getElem?_setIfInBounds]
    by_cases hstart : start = i
    · subst hstart
      simp only [if_true, hi, List.length_cons, Nat.sub_self, List.getElem?_cons_zero]
      split <;> split <;> first | rfl | omega
    · by_cases hlt : start ≤ i
      · have hsub : i - start = i - (start + 1) + 1 := by omega
        simp only [hstart, if_false, List.length_cons, hsub, List.getElem?_cons_succ]
        split <;> split <;> first | rfl | omega
      · simp only [hstart, if_false, List.length_cons]
        split <;> split <;> first | rfl | omega

/-! ### Planes -/

/-- Samples in rows that start every `stride` samples. -/
structure Plane (α : Type) where
  samples : Array α
  stride : UInt32
deriving DecidableEq, Repr

namespace Plane

variable {α : Type}

def rowStart (plane : Plane α) (y : UInt32) : UInt64 := y.toUInt64 * plane.stride.toUInt64

/-- The samples from offset `start` up to, and without, offset `stop`. -/
def span? (plane : Plane α) (start stop : UInt64) : Option (Span α) :=
  if h : start ≤ stop ∧ stop.toNat ≤ plane.samples.size then
    some {
      samples := plane.samples
      start := start.toNat
      length := stop.toNat - start.toNat
      inside := by
        have := UInt64.le_iff_toNat_le.1 h.1
        omega }
  else none

/-- The first `width` samples of row `y`. -/
def row? (plane : Plane α) (width y : UInt32) : Option (Span α) :=
  plane.span? (plane.rowStart y) (plane.rowStart y + width.toUInt64)

def at? (plane : Plane α) (x y : UInt32) : Option α :=
  plane.samples[(plane.rowStart y + x.toUInt64).toNat]?

/-- The two samples of pair `x` in row `y` of a plane of pairs. -/
def pair? (plane : Plane α) (x y : UInt32) : Option (Span α) :=
  let start := plane.rowStart y + x.toUInt64 * 2
  plane.span? start (start + 2)

def overwrite (plane : Plane α) (start : Nat) (samples : List α) : Plane α :=
  { plane with samples := Chroma420.overwrite plane.samples start samples }

/-- A plane of full rows, its sample at column `x` of row `y` given by a
    function. -/
def tabulate (stride : UInt32) (rows : Nat) (sample : Nat → Nat → α) : Plane α where
  samples := Array.ofFn (n := stride.toNat * rows) fun i =>
    sample (i.val % stride.toNat) (i.val / stride.toNat)
  stride := stride

def blank (stride : UInt32) (count : UInt64) (sample : α) : Plane α where
  samples := Array.replicate count.toNat sample
  stride := stride

theorem toNat_rowStart (plane : Plane α) (y : UInt32) :
    (plane.rowStart y).toNat = y.toNat * plane.stride.toNat := by
  have hy := y.toNat_lt
  have hs := plane.stride.toNat_lt
  have : y.toNat * plane.stride.toNat ≤ (2 ^ 32 - 1) * (2 ^ 32 - 1) :=
    Nat.mul_le_mul (by omega) (by omega)
  simp only [rowStart, UInt64.toNat_mul, UInt32.toNat_toUInt64]
  exact Nat.mod_eq_of_lt (by omega)

/-! ### Layout -/

/-- Requires a plane to hold exactly `rows` rows of its stride, each long enough
    for `rowLength` samples. -/
def check (plane : Plane α) (kind : PlaneKind) (rowLength rows : UInt64) :
    Except Rejection Unit := do
  let stride := plane.stride.toUInt64
  requireFits stride rows
  requireFits rowLength rows
  require (rowLength ≤ stride)
    (.planeMinimum kind ⟨(rowLength * rows).toNat, (stride * rows).toNat⟩)
  require ((stride * rows).toNat = plane.samples.size)
    (.planeSize kind ⟨(stride * rows).toNat, plane.samples.size⟩)

def checkLuma (plane : Plane α) (size : Size) : Except Rejection Unit := do
  require (size.isEmpty = false) .zeroSize
  plane.check .luma size.width.toUInt64 size.height.toUInt64

/-- Requires a plane to be laid out as chroma of a picture of this size, with a
    number of components side by side. -/
def checkChroma (plane : Plane α) (size : Size) (components : UInt64) : Except Rejection Unit :=
  plane.check .chroma (size.chroma.width.toUInt64 * components) size.chroma.height.toUInt64

end Plane

end Chroma420
