import Chroma420.Size

/-!
# Why a picture or a buffer is refused

Every check of the library either passes or gives one `Rejection`.  A rejection
is a cause with the numbers that show it: what the check expected and what it
received.  `Rejection.message` is the text for people.

A check is a sequence of requirements, and the first one that does not hold
decides (`require`).  Lengths are computed in 64-bit words; `requireFits` comes
before a product of which it is not yet known that it fits one.
-/

namespace Chroma420

/-- What a check expected and what it received instead. -/
structure Mismatch (α : Type) where
  expected : α
  received : α
deriving DecidableEq, Ord, Repr

/-- The two roles of a plane.  A grey picture is a luma plane of its own. -/
inductive PlaneKind where
  | luma
  | chroma
deriving DecidableEq, Repr

def PlaneKind.name : PlaneKind → String
  | luma => "Luma"
  | chroma => "Chroma"

inductive Rejection where
  /-- The colour buffer does not hold as many elements as its rows need. -/
  | destinationSize (lengths : Mismatch Nat)
  /-- The rows of the colour buffer are shorter than the rows of the frame. -/
  | destinationMinimum (lengths : Mismatch Nat)
  /-- A count of elements does not fit its word. -/
  | sizeOverflow
  /-- The picture has no columns or no rows. -/
  | zeroSize
  /-- A plane does not hold as many samples as its rows need. -/
  | planeSize (kind : PlaneKind) (lengths : Mismatch Nat)
  /-- The rows of a plane are shorter than the rows of the picture. -/
  | planeMinimum (kind : PlaneKind) (lengths : Mismatch Nat)
  /-- Two pictures that have to be of one size are not. -/
  | dimensions (sizes : Mismatch Size)
  /-- A grey picture is to be written and there is none. -/
  | missingGrey
deriving DecidableEq, Repr

def Rejection.message : Rejection → String
  | destinationSize ⟨expected, received⟩ =>
      s!"Destination size mismatch: expected={expected}, received={received}"
  | destinationMinimum ⟨expected, received⟩ =>
      s!"Destination must have size at least {expected} but it is {received}"
  | sizeOverflow => "Image size overflow pointer capabilities"
  | zeroSize => "Zero sized images is not supported"
  | planeSize kind ⟨expected, received⟩ =>
      s!"{kind.name} plane have invalid size, it must be {expected}, but it was {received}"
  | planeMinimum kind ⟨expected, received⟩ =>
      s!"{kind.name} plane have invalid size, it must be at least {expected}, but it was {received}"
  | dimensions ⟨expected, received⟩ =>
      s!"Image dimensions mismatch: expected={expected.text}, received={received.text}"
  | missingGrey => "Grey output is enabled but no grey image was provided"

/-! ### Requirements -/

/-- Passes if the condition holds, and refuses for the given cause otherwise. -/
def require (condition : Prop) [Decidable condition] (cause : Rejection) : Except Rejection Unit :=
  if condition then .ok () else .error cause

def requireFits (a b : UInt64) : Except Rejection Unit :=
  require (a.toNat * b.toNat < UInt64.size) .sizeOverflow

def requireSize (expected received : Size) : Except Rejection Unit :=
  require (expected = received) (.dimensions ⟨expected, received⟩)

section Requirements

variable {condition : Prop} [Decidable condition] {cause : Rejection}

@[simp] theorem require_eq_ok {u : Unit} : require condition cause = .ok u ↔ condition := by
  unfold require; split <;> simp_all

@[simp] theorem require_eq_error {other : Rejection} :
    require condition cause = .error other ↔ ¬ condition ∧ cause = other := by
  unfold require; split <;> simp_all

theorem require_bind_eq_ok {α : Type} {rest : Unit → Except Rejection α} {a : α} :
    (require condition cause >>= rest) = .ok a ↔ condition ∧ rest () = .ok a := by
  unfold require; split <;> simp_all [bind, Except.bind]

theorem require_bind_eq_error {α : Type} {rest : Unit → Except Rejection α} {other : Rejection} :
    (require condition cause >>= rest) = .error other ↔
      (¬ condition ∧ cause = other) ∨ (condition ∧ rest () = .error other) := by
  unfold require; split <;> simp_all [bind, Except.bind]

end Requirements

end Chroma420
