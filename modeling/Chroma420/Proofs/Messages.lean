import Mathlib.Data.List.Basic
import Mathlib.Logic.Function.Defs
import Chroma420.Converter

/-!
# A message identifies its rejection

The message of a rejection is made for people, and it is all that the log keeps of
the rejection.  Nothing is lost by that: two rejections with one message are the
same rejection, numbers included.

Comparing the templates two by two would be one argument for each pair of them, and
some pairs start alike ("it must be" and "it must be at least").  Here a message is
read from the left instead.  A fixed part of a message has no digits and a number
has nothing else, so where one of them ends and the next begins can be seen from the
characters (`append_inj_of_boundary`); the message therefore has one reading as a
text with numbers (`NumberedText.chars_injective`), and from that reading the
rejection can be told (`Rejection.ofText?`).
-/

namespace Chroma420

/-! ### Texts with numbers -/

/-- A text in which fixed parts and numbers take turns, beginning and ending with a fixed part. -/
structure NumberedText where
  opening : String
  /-- Every number with the fixed part that follows it. -/
  rest : List (Nat × String)

namespace NumberedText

/-- The numbers in decimal and the fixed parts, one after the other. -/
def restChars : List (Nat × String) → List Char
  | [] => []
  | (number, part) :: rest => Nat.toDigits 10 number ++ (part.toList ++ restChars rest)

def chars (text : NumberedText) : List Char := text.opening.toList ++ restChars text.rest

def NoDigits (part : String) : Prop := ∀ c ∈ part.toList, c.isDigit = false

/-- No fixed part holds a digit, and no two numbers touch. -/
def Separated : List (Nat × String) → Prop
  | [] => True
  | (_, part) :: rest => NoDigits part ∧ (rest ≠ [] → part ≠ "") ∧ Separated rest

/-- It can be seen where every number of the text begins and ends. -/
structure Readable (text : NumberedText) : Prop where
  opening : NoDigits text.opening
  rest : Separated text.rest

/-- A run of characters of one class ends where a character of another class follows. -/
theorem append_inj_of_boundary {inRun : Char → Bool} {run run' rest rest' : List Char}
    (hrun : ∀ c ∈ run, inRun c = true) (hrun' : ∀ c ∈ run', inRun c = true)
    (hrest : ∀ c ∈ rest.head?, inRun c = false) (hrest' : ∀ c ∈ rest'.head?, inRun c = false)
    (h : run ++ rest = run' ++ rest') : run = run' ∧ rest = rest' := by
  -- Both runs are what `takeWhile` gives for the two equal lists.
  have hstop : ∀ {behind : List Char}, (∀ c ∈ behind.head?, inRun c = false) →
      behind.takeWhile inRun = [] := by
    intro behind hbehind
    cases behind with
    | nil => rfl
    | cons c _ => exact List.takeWhile_cons_of_neg (by simp [hbehind c rfl])
  have hsame : run = run' := by
    calc
      run = (run ++ rest).takeWhile inRun := by
        rw [List.takeWhile_append_of_pos hrun, hstop hrest, List.append_nil]
      _ = (run' ++ rest').takeWhile inRun := by rw [h]
      _ = run' := by
        rw [List.takeWhile_append_of_pos hrun', hstop hrest', List.append_nil]
  subst hsame
  exact ⟨rfl, List.append_cancel_left h⟩

theorem isDigit_of_toDigits {number : Nat} : ∀ c ∈ Nat.toDigits 10 number, c.isDigit = true :=
  fun _ hc => Nat.isDigit_of_mem_toDigits (by decide) (by decide) hc

theorem toDigits_injective : Function.Injective (Nat.toDigits 10) := by
  intro number number' h
  rw [← @Nat.ofDigitChars_ten_toDigits number, h, Nat.ofDigitChars_ten_toDigits]

theorem head?_restChars (rest : List (Nat × String)) :
    ∀ c ∈ (restChars rest).head?, c.isDigit = true := by
  rcases rest with _ | ⟨⟨number, part⟩, rest⟩
  · rintro c ⟨⟩
  · intro c hc
    rw [restChars, List.head?_append_of_ne_nil _ Nat.toDigits_ne_nil] at hc
    exact isDigit_of_toDigits c (List.mem_of_mem_head? hc)

theorem Separated.head?_behind {number : Nat} {part : String} {rest : List (Nat × String)}
    (h : Separated ((number, part) :: rest)) :
    ∀ c ∈ (part.toList ++ restChars rest).head?, c.isDigit = false := by
  obtain ⟨hpart, htouch, _⟩ := h
  intro c hc
  rcases rest with _ | ⟨next, rest⟩
  · rw [restChars, List.append_nil] at hc
    exact hpart c (List.mem_of_mem_head? hc)
  · have hne : part.toList ≠ [] := by
      simpa using htouch (by simp)
    rw [List.head?_append_of_ne_nil _ hne] at hc
    exact hpart c (List.mem_of_mem_head? hc)

/-- A fixed part ends where a number begins. -/
theorem append_inj_of_digits {part part' : String} {rest rest' : List (Nat × String)}
    (h : NoDigits part) (h' : NoDigits part')
    (heq : part.toList ++ restChars rest = part'.toList ++ restChars rest') :
    part = part' ∧ restChars rest = restChars rest' := by
  have hbehind : ∀ behind, ∀ c ∈ (restChars behind).head?, (!c.isDigit) = false := by
    intro behind c hc
    rw [head?_restChars behind c hc]
    rfl
  obtain ⟨hpart, hrest⟩ := @append_inj_of_boundary (fun c => !c.isDigit) _ _ _ _
    (fun c hc => by rw [h c hc]; rfl) (fun c hc => by rw [h' c hc]; rfl) (hbehind rest)
    (hbehind rest') heq
  exact ⟨String.toList_inj.1 hpart, hrest⟩

theorem restChars_injective {rest rest' : List (Nat × String)} (h : Separated rest)
    (h' : Separated rest') (heq : restChars rest = restChars rest') : rest = rest' := by
  induction rest generalizing rest' with
  | nil =>
    rcases rest' with _ | ⟨⟨number', part'⟩, rest'⟩
    · rfl
    · rw [restChars, restChars] at heq
      exact absurd (List.append_eq_nil_iff.1 heq.symm).1 Nat.toDigits_ne_nil
  | cons entry rest ih =>
    obtain ⟨number, part⟩ := entry
    rcases rest' with _ | ⟨⟨number', part'⟩, rest'⟩
    · rw [restChars, restChars] at heq
      exact absurd (List.append_eq_nil_iff.1 heq).1 Nat.toDigits_ne_nil
    · rw [restChars, restChars] at heq
      obtain ⟨hdigits, hbehind⟩ := append_inj_of_boundary isDigit_of_toDigits isDigit_of_toDigits
        h.head?_behind h'.head?_behind heq
      obtain ⟨hpart, _, hrest⟩ := h
      obtain ⟨hpart', _, hrest'⟩ := h'
      obtain ⟨hsame, hrests⟩ := append_inj_of_digits hpart hpart' hbehind
      rw [toDigits_injective hdigits, hsame, ih hrest hrest' hrests]

/-- Texts with separated numbers are read in one way only. -/
theorem chars_injective {text text' : NumberedText} (h : text.Readable) (h' : text'.Readable)
    (heq : text.chars = text'.chars) : text = text' := by
  obtain ⟨opening, rest⟩ := text
  obtain ⟨opening', rest'⟩ := text'
  obtain ⟨hopening, hrest⟩ := append_inj_of_digits h.opening h'.opening heq
  cases hopening
  cases restChars_injective h.rest h'.rest hrest
  rfl

end NumberedText

/-! ### Messages as texts with numbers -/

namespace Rejection

/-- The message, with its numbers still apart from the words around them. -/
def text : Rejection → NumberedText
  | destinationSize ⟨expected, received⟩ =>
    ⟨"Destination size mismatch: expected=", [(expected, ", received="), (received, "")]⟩
  | destinationMinimum ⟨expected, received⟩ =>
    ⟨"Destination must have size at least ", [(expected, " but it is "), (received, "")]⟩
  | sizeOverflow => ⟨"Image size overflow pointer capabilities", []⟩
  | zeroSize => ⟨"Zero sized images is not supported", []⟩
  | planeSize kind ⟨expected, received⟩ =>
    ⟨kind.name ++ " plane have invalid size, it must be ",
      [(expected, ", but it was "), (received, "")]⟩
  | planeMinimum kind ⟨expected, received⟩ =>
    ⟨kind.name ++ " plane have invalid size, it must be at least ",
      [(expected, ", but it was "), (received, "")]⟩
  | dimensions ⟨expected, received⟩ =>
    ⟨"Image dimensions mismatch: expected=",
      [(expected.width.toNat, "x"), (expected.height.toNat, ", received="),
        (received.width.toNat, "x"), (received.height.toNat, "")]⟩
  | missingGrey => ⟨"Grey output is enabled but no grey image was provided", []⟩

theorem toString_string (s : String) : toString s = s := rfl

theorem toList_of_numbers (opening middle : String) (expected received : Nat) :
    s!"{opening}{expected}{middle}{received}".toList =
      (NumberedText.mk opening [(expected, middle), (received, "")]).chars := by
  simp only [NumberedText.chars, NumberedText.restChars, String.toList_append, toString_string,
    Nat.toString_eq_repr, Nat.toList_repr, String.toList_empty, List.append_assoc, List.append_nil]

theorem toList_of_sizes (opening middle : String) (expected received : Size) :
    s!"{opening}{expected.text}{middle}{received.text}".toList =
      (NumberedText.mk opening [(expected.width.toNat, "x"), (expected.height.toNat, middle),
        (received.width.toNat, "x"), (received.height.toNat, "")]).chars := by
  simp only [Size.text, NumberedText.chars, NumberedText.restChars, String.toList_append,
    toString_string, Nat.toString_eq_repr, Nat.toList_repr, String.toList_empty,
    List.append_assoc, List.append_nil]

theorem toList_message (cause : Rejection) : cause.message.toList = cause.text.chars := by
  cases cause with
  | destinationSize lengths => exact toList_of_numbers _ _ _ _
  | destinationMinimum lengths => exact toList_of_numbers _ _ _ _
  | planeSize kind lengths => exact toList_of_numbers (kind.name ++ _) _ _ _
  | planeMinimum kind lengths => exact toList_of_numbers (kind.name ++ _) _ _ _
  | dimensions sizes => exact toList_of_sizes _ _ _ _
  | sizeOverflow | zeroSize | missingGrey => exact (List.append_nil _).symm

theorem readable_text (cause : Rejection) : cause.text.Readable := by
  cases cause with
  | planeSize kind lengths | planeMinimum kind lengths =>
    cases kind <;> constructor <;>
      simp [text, PlaneKind.name, NumberedText.NoDigits, NumberedText.Separated]
  | _ => constructor <;> simp [text, NumberedText.NoDigits, NumberedText.Separated]

/-- The rejection that a text with numbers reports. -/
def ofText? (text : NumberedText) : Option Rejection :=
  match text.opening, text.rest.map Prod.fst with
  | "Destination size mismatch: expected=", [expected, received] =>
    some (destinationSize ⟨expected, received⟩)
  | "Destination must have size at least ", [expected, received] =>
    some (destinationMinimum ⟨expected, received⟩)
  | "Image size overflow pointer capabilities", [] => some sizeOverflow
  | "Zero sized images is not supported", [] => some zeroSize
  | "Luma plane have invalid size, it must be ", [expected, received] =>
    some (planeSize .luma ⟨expected, received⟩)
  | "Luma plane have invalid size, it must be at least ", [expected, received] =>
    some (planeMinimum .luma ⟨expected, received⟩)
  | "Chroma plane have invalid size, it must be ", [expected, received] =>
    some (planeSize .chroma ⟨expected, received⟩)
  | "Chroma plane have invalid size, it must be at least ", [expected, received] =>
    some (planeMinimum .chroma ⟨expected, received⟩)
  | "Image dimensions mismatch: expected=", [width, height, width', height'] =>
    some (dimensions ⟨⟨width.toUInt32, height.toUInt32⟩, ⟨width'.toUInt32, height'.toUInt32⟩⟩)
  | "Grey output is enabled but no grey image was provided", [] => some missingGrey
  | _, _ => none

theorem ofText?_text (cause : Rejection) : ofText? cause.text = some cause := by
  cases cause with
  | planeSize kind lengths | planeMinimum kind lengths => cases kind <;> rfl
  | dimensions sizes => simp [ofText?, text]
  | _ => rfl

theorem message_injective : Function.Injective message := by
  intro cause cause' h
  have hchars : cause.text.chars = cause'.text.chars := by
    rw [← toList_message, ← toList_message, h]
  have htext := NumberedText.chars_injective cause.readable_text cause'.readable_text hchars
  rw [← Option.some_inj, ← ofText?_text, ← ofText?_text, htext]

end Rejection

/-! ### Entries of the log -/

theorem ChannelOrder.name_injective : Function.Injective name := by
  intro order order' h
  cases order <;> cases order' <;> first | rfl | simp [name] at h

theorem GreyMode.name_injective : Function.Injective name := by
  intro mode mode' h
  cases mode <;> cases mode' <;> first | rfl | simp [name] at h

theorem toString_injective : Function.Injective (toString : Nat → String) := by
  intro number number' h
  refine NumberedText.toDigits_injective ?_
  rw [← Nat.toList_repr, ← Nat.toList_repr, ← Nat.toString_eq_repr, ← Nat.toString_eq_repr, h]

/-- Each kind of event has a number of fields of its own, and the fields show all that the event
    carries. -/
theorem Event.record_injective : Function.Injective record := by
  intro event event' h
  have hfields : event.record.fields = event'.record.fields := by rw [h]
  cases event with
  | started size options =>
    cases event' with
    | started size' options' =>
      obtain ⟨width, height⟩ := size
      obtain ⟨width', height'⟩ := size'
      obtain ⟨order, grey⟩ := options
      obtain ⟨order', grey'⟩ := options'
      simp only [record, List.cons.injEq, Prod.mk.injEq, true_and, and_true] at hfields
      obtain ⟨hwidth, hheight, horder, hgrey⟩ := hfields
      rw [UInt32.toNat_inj.1 (toString_injective hwidth),
        UInt32.toNat_inj.1 (toString_injective hheight),
        ChannelOrder.name_injective horder, GreyMode.name_injective hgrey]
    | greyIgnored => simp [record] at hfields
    | rejected cause' => simp [record] at hfields
  | greyIgnored =>
    cases event' with
    | started size' options' => simp [record] at hfields
    | greyIgnored => rfl
    | rejected cause' => simp [record] at hfields
  | rejected cause =>
    cases event' with
    | started size' options' => simp [record] at hfields
    | greyIgnored => simp [record] at hfields
    | rejected cause' =>
      simp only [record, List.cons.injEq, Prod.mk.injEq, true_and, and_true] at hfields
      rw [Rejection.message_injective hfields]

/-- No two rejections have one message.  So the entry of a rejected frame, whose only field is the
    message, is the entry of that event and of no other. -/
theorem messages_identify_rejections :
    Function.Injective Rejection.message ∧
      ∀ cause : Rejection,
        (Event.rejected cause).record = ⟨.debug, "YUV frame rejected", [("error", cause.message)]⟩ ∧
          ∀ event : Event, event.record = (Event.rejected cause).record → event = .rejected cause :=
  ⟨Rejection.message_injective, fun _ => ⟨rfl, fun _ h => Event.record_injective h⟩⟩

/-- Two rejections whose messages begin alike. -/
theorem short_luma_is_told_from_misshapen_luma :
    (Event.rejected (.planeMinimum .luma ⟨12, 9⟩)).record =
        ⟨.debug, "YUV frame rejected",
          [("error", "Luma plane have invalid size, it must be at least 12, but it was 9")]⟩ ∧
      (Rejection.planeSize .luma ⟨12, 9⟩).message ≠
        (Rejection.planeMinimum .luma ⟨12, 9⟩).message := by
  obtain ⟨hinjective, _⟩ := messages_identify_rejections
  refine ⟨by decide, ?_⟩
  intro h
  cases hinjective h

end Chroma420
