import Chroma420.Proofs.Layout

/-!
# Verdicts on layouts

The check of a picture asks one question after the other, and the first one that has the wrong
answer decides.  What it decides is therefore told by a list of conditions in the order in which
they are asked (`Decides`): a picture passes if all of them hold, and otherwise it is refused for
the cause of the first one that does not (`FirstViolated`).  Lists are put together as checks are
(`Decides.andThen`).

The conditions of a picture are about plain numbers.  A check computes in words, and it refuses a
product that does not fit one; neither is to be seen in its verdict.  The words hold every product
that is compared, and the cause of an overflow is in none of the lists
(`checks_decide_layouts`).
-/

namespace Chroma420

/-! ### Conditions in order -/

/-- What a layout has to satisfy, and the cause for which it is refused otherwise. -/
structure Condition where
  holds : Prop
  cause : Rejection

/-- The first condition of a list that does not hold has this cause. -/
inductive FirstViolated : List Condition → Rejection → Prop where
  | here {condition : Condition} {rest : List Condition} (violated : ¬ condition.holds) :
      FirstViolated (condition :: rest) condition.cause
  | later {condition : Condition} {rest : List Condition} {cause : Rejection}
      (holds : condition.holds) (violated : FirstViolated rest cause) :
      FirstViolated (condition :: rest) cause

/-- A verdict is the one that these conditions lead to. -/
structure Decides (conditions : List Condition) (verdict : Except Rejection Unit) : Prop where
  passes : verdict = .ok () ↔ ∀ condition ∈ conditions, condition.holds
  refuses : ∀ cause, verdict = .error cause ↔ FirstViolated conditions cause

section Conditions

variable {conditions others : List Condition} {condition : Condition} {cause : Rejection}

theorem firstViolated_nil : ¬ FirstViolated [] cause := by
  intro h
  cases h

theorem firstViolated_cons :
    FirstViolated (condition :: conditions) cause ↔
      (¬ condition.holds ∧ condition.cause = cause) ∨
        (condition.holds ∧ FirstViolated conditions cause) := by
  constructor
  · intro h
    cases h with
    | here violated => exact .inl ⟨violated, rfl⟩
    | later holds violated => exact .inr ⟨holds, violated⟩
  · rintro (⟨violated, rfl⟩ | ⟨holds, violated⟩)
    · exact .here violated
    · exact .later holds violated

/-- Conditions that are asked later count only if all earlier ones hold. -/
theorem firstViolated_append :
    FirstViolated (conditions ++ others) cause ↔
      FirstViolated conditions cause ∨
        ((∀ condition ∈ conditions, condition.holds) ∧ FirstViolated others cause) := by
  induction conditions with
  | nil => simp [firstViolated_nil]
  | cons condition rest ih =>
    simp only [List.cons_append, firstViolated_cons, ih, List.forall_mem_cons]
    by_cases holds : condition.holds
    · simp [holds]
    · simp [holds]

/-! ### Verdicts of checks -/

theorem decides_require (condition : Condition) {required : Prop} [Decidable required]
    (h : required ↔ condition.holds) : Decides [condition] (require required condition.cause) := by
  constructor
  · simp [h]
  · simp [firstViolated_cons, firstViolated_nil, h]

theorem Decides.andThen {first rest : Except Rejection Unit} (h : Decides conditions first)
    (hrest : Decides others rest) : Decides (conditions ++ others) (first >>= fun _ => rest) := by
  constructor
  · rw [check_bind_eq_ok, h.passes, hrest.passes, List.forall_mem_append]
  · intro cause
    rw [check_bind_eq_error, h.refuses, h.passes, hrest.refuses, firstViolated_append]

end Conditions

/-! ### Conditions of planes -/

namespace Plane

variable {α : Type}

/-- The rows are long enough, and then: there are exactly as many as there have to be. -/
def conditions (plane : Plane α) (kind : PlaneKind) (rowLength rows : Nat) : List Condition :=
  let stride := plane.stride.toNat
  [⟨rowLength ≤ stride, .planeMinimum kind ⟨rowLength * rows, stride * rows⟩⟩,
    ⟨plane.samples.size = stride * rows, .planeSize kind ⟨stride * rows, plane.samples.size⟩⟩]

def lumaConditions (plane : Plane α) (size : Size) : List Condition :=
  ⟨0 < size.width.toNat ∧ 0 < size.height.toNat, .zeroSize⟩ ::
    plane.conditions .luma size.width.toNat size.height.toNat

/-- The conditions on chroma: half as many rows as luma has, rounded up, of half as many places,
    rounded up, each for a number of components. -/
def chromaConditions (plane : Plane α) (size : Size) (components : Nat) : List Condition :=
  plane.conditions .chroma ((size.width.toNat + 1) / 2 * components)
    ((size.height.toNat + 1) / 2)

theorem forall_conditions {plane : Plane α} {kind : PlaneKind} {rowLength rows : Nat} :
    (∀ condition ∈ plane.conditions kind rowLength rows, condition.holds) ↔
      plane.LaidOut rowLength rows := by
  simp only [conditions, List.forall_mem_cons, List.not_mem_nil, false_implies, implies_true,
    and_true]
  constructor
  · rintro ⟨hrow, hsize⟩
    exact ⟨hrow, hsize⟩
  · intro h
    exact ⟨h.row_fits, h.size_eq⟩

theorem decides_check (plane : Plane α) (kind : PlaneKind) (rowLength rows : Nat) :
    Decides (plane.conditions kind rowLength rows) (plane.shape.check kind rowLength rows) :=
  (decides_require ⟨_, _⟩ Iff.rfl).andThen (decides_require ⟨_, _⟩ eq_comm)

theorem decides_checkLuma (plane : Plane α) (size : Size) :
    Decides (plane.lumaConditions size) (plane.checkLuma size) := by
  rw [checkLuma_shape]
  exact (decides_require ⟨_, .zeroSize⟩ Size.isEmpty_eq_false).andThen (plane.decides_check _ _ _)

theorem decides_checkChroma (plane : Plane α) (size : Size) {components : UInt64} {count : Nat}
    (hcount : components.toNat = count) (hfew : count ≤ 2) :
    Decides (plane.chromaConditions size count) (plane.checkChroma size components) := by
  subst hcount
  rw [checkChroma_shape plane size hfew]
  simp only [chromaConditions, ← toNat_halfUp]
  exact plane.decides_check _ _ _

end Plane

/-! ### Conditions of pictures -/

def PlanarImage.conditions (image : PlanarImage) : List Condition :=
  image.luma.lumaConditions image.size ++
    (image.u.chromaConditions image.size 1 ++ image.v.chromaConditions image.size 1)

def SemiPlanarImage.conditions (image : SemiPlanarImage) : List Condition :=
  image.luma.lumaConditions image.size ++ image.chroma.chromaConditions image.size 2

def GreyImage.conditions (image : GreyImage) : List Condition :=
  image.plane.lumaConditions image.size

theorem PlanarImage.decides_check (image : PlanarImage) :
    Decides image.conditions image.check := by
  have hu : Decides (image.u.chromaConditions image.size 1) (image.u.checkChroma image.size 1) :=
    image.u.decides_checkChroma image.size rfl (by decide)
  have hv : Decides (image.v.chromaConditions image.size 1) (image.v.checkChroma image.size 1) :=
    image.v.decides_checkChroma image.size rfl (by decide)
  exact (image.luma.decides_checkLuma image.size).andThen (hu.andThen hv)

theorem SemiPlanarImage.decides_check (image : SemiPlanarImage) :
    Decides image.conditions image.check := by
  have hpairs : Decides (image.chroma.chromaConditions image.size 2)
      (image.chroma.checkChroma image.size 2) :=
    image.chroma.decides_checkChroma image.size rfl (by decide)
  exact (image.luma.decides_checkLuma image.size).andThen hpairs

theorem GreyImage.decides_check (image : GreyImage) : Decides image.conditions image.check :=
  image.plane.decides_checkLuma image.size

/-! ### What passes -/

theorem Plane.forall_lumaConditions {α : Type} {plane : Plane α} {size : Size} :
    (∀ condition ∈ plane.lumaConditions size, condition.holds) ↔
      (0 < size.width.toNat ∧ 0 < size.height.toNat) ∧
        plane.LaidOut size.width.toNat size.height.toNat := by
  rw [lumaConditions, List.forall_mem_cons, forall_conditions]

theorem PlanarImage.forall_conditions {image : PlanarImage} :
    (∀ condition ∈ image.conditions, condition.holds) ↔
      (0 < image.size.width.toNat ∧ 0 < image.size.height.toNat) ∧
        image.luma.LaidOut image.size.width.toNat image.size.height.toNat ∧
        image.u.LaidOut ((image.size.width.toNat + 1) / 2)
          ((image.size.height.toNat + 1) / 2) ∧
        image.v.LaidOut ((image.size.width.toNat + 1) / 2)
          ((image.size.height.toNat + 1) / 2) := by
  simp only [conditions, List.forall_mem_append, Plane.forall_lumaConditions,
    Plane.chromaConditions, Plane.forall_conditions, Nat.mul_one, and_assoc]

theorem SemiPlanarImage.forall_conditions {image : SemiPlanarImage} :
    (∀ condition ∈ image.conditions, condition.holds) ↔
      (0 < image.size.width.toNat ∧ 0 < image.size.height.toNat) ∧
        image.luma.LaidOut image.size.width.toNat image.size.height.toNat ∧
        image.chroma.LaidOut ((image.size.width.toNat + 1) / 2 * 2)
          ((image.size.height.toNat + 1) / 2) := by
  simp only [conditions, List.forall_mem_append, Plane.forall_lumaConditions,
    Plane.chromaConditions, Plane.forall_conditions, and_assoc]

/-- A check of a picture decides by conditions over plain numbers, in the order in which they are
    listed: first those of luma, and then those of each plane of chroma.  A picture passes if every
    plane has rows that are long enough and exactly as many as it has to have.  No check ever
    fails for a count that does not fit its word. -/
theorem checks_decide_layouts :
    (∀ image : PlanarImage, Decides image.conditions image.check ∧
      (image.check = .ok () ↔
        (0 < image.size.width.toNat ∧ 0 < image.size.height.toNat) ∧
          image.luma.LaidOut image.size.width.toNat image.size.height.toNat ∧
          image.u.LaidOut ((image.size.width.toNat + 1) / 2)
            ((image.size.height.toNat + 1) / 2) ∧
          image.v.LaidOut ((image.size.width.toNat + 1) / 2)
            ((image.size.height.toNat + 1) / 2)) ∧
      image.check ≠ .error .sizeOverflow) ∧
    (∀ image : SemiPlanarImage, Decides image.conditions image.check ∧
      (image.check = .ok () ↔
        (0 < image.size.width.toNat ∧ 0 < image.size.height.toNat) ∧
          image.luma.LaidOut image.size.width.toNat image.size.height.toNat ∧
          image.chroma.LaidOut ((image.size.width.toNat + 1) / 2 * 2)
            ((image.size.height.toNat + 1) / 2)) ∧
      image.check ≠ .error .sizeOverflow) ∧
    ∀ image : GreyImage, Decides image.conditions image.check ∧
      (image.check = .ok () ↔
        (0 < image.size.width.toNat ∧ 0 < image.size.height.toNat) ∧
          image.plane.LaidOut image.size.width.toNat image.size.height.toNat) ∧
      image.check ≠ .error .sizeOverflow := by
  refine ⟨?_, ?_, ?_⟩
  · intro image
    have hdecides := image.decides_check
    refine ⟨hdecides, hdecides.passes.trans PlanarImage.forall_conditions, ?_⟩
    intro hoverflow
    exact @Image.check_eq_error (.planar image) _ hoverflow
  · intro image
    have hdecides := image.decides_check
    refine ⟨hdecides, hdecides.passes.trans SemiPlanarImage.forall_conditions, ?_⟩
    intro hoverflow
    exact @Image.check_eq_error (.semiPlanar image) _ hoverflow
  · intro image
    have hdecides := image.decides_check
    refine ⟨hdecides, hdecides.passes.trans Plane.forall_lumaConditions, ?_⟩
    intro hoverflow
    exact Plane.checkLuma_eq_error hoverflow

-- of five violated conditions, the first one decides
example : PlanarImage.check ⟨⟨3, 3⟩, ⟨#[], 2⟩, ⟨#[], 1⟩, ⟨#[], 0⟩⟩ =
    .error (.planeMinimum .luma ⟨9, 6⟩) := rfl

end Chroma420
