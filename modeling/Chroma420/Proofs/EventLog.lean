import Chroma420.Proofs.Decision
import Chroma420.Proofs.Messages

/-!
# The log of a call tells how it ended

A call reports its events all at once, at its end.  Told step by step, each event has a place in
the conversion: the start comes before the first check, the notice of a grey picture that is left
alone comes after the check of the sizes, and a rejection is told at the very end, wherever it came
from (`Converter.narrate`).  Both tellings leave the same log (`Converter.narrate_run`).

So a log has one entry for the start, at most one for a grey picture that is left alone, and one
more if and only if the frame is rejected.  The entries show everything that the events carry, and
of a call that returns the converter and the outcome can be read from them
(`log_tells_converter_and_outcome`).
-/

namespace Chroma420

/-! ### Telling step by step -/

def tell (event : Event) : StateM (List Event) Unit := modify (· ++ [event])

/-- Hands an ending on, and tells of it if it is a rejection. -/
def Ending.tellRejection {β : Type} : Ending β → StateM (List Event) (Ending β)
  | completed outputs => return completed outputs
  | rejected cause outputs => do
    tell (.rejected cause)
    return rejected cause outputs
  | fault => return fault

theorem Ending.tellRejection_run {β : Type} (ending : Ending β) (log : List Event) :
    ending.tellRejection.run log = (ending, log ++ Converter.closingEvents ending.outcome) := by
  cases ending with
  | completed outputs => rw [outcome, Converter.closingEvents, List.append_nil]; rfl
  | rejected cause outputs => rfl
  | fault => rw [outcome, Converter.closingEvents, List.append_nil]; rfl

namespace Converter

/-- The checks of `accept`, with each event told in its place among them. -/
def prepare (converter : Converter) (source : Source) (grey : Option GreyImage) :
    ExceptT Rejection (StateM (List Event)) Unit := do
  tell (.started converter.size converter.options)
  requireSize converter.size source.size
  match converter.options.grey with
  | .disabled => if grey.isSome then tell .greyIgnored
  | .fused | .separate =>
    match grey with
    | none => throw .missingGrey
    | some image => requireGrey converter.size image

theorem prepare_run (converter : Converter) (source : Source) (grey : Option GreyImage)
    (log : List Event) :
    (converter.prepare source grey).run.run log =
      (converter.accept source grey, log ++ converter.openingEvents source grey) := by
  unfold prepare accept openingEvents
  by_cases hsize : source.size = converter.size
  · have hcheck : requireSize converter.size source.size = .ok () := require_eq_ok.2 hsize.symm
    rw [hcheck]
    cases converter.options.grey with
    | disabled =>
      cases grey with
      | none => rfl
      | some image =>
        simp only [hsize, Option.isSome_some, and_true, if_true]
        rw [List.append_cons]
        rfl
    | fused => cases grey <;> rfl
    | separate => cases grey <;> rfl
  · have hcheck : requireSize converter.size source.size =
        .error (.dimensions ⟨converter.size, source.size⟩) :=
      require_eq_error.2 ⟨fun h => hsize h.symm, rfl⟩
    rw [hcheck]
    simp only [hsize, and_false, if_false]
    rfl

section Narration

variable {α : Type} [ColourDomain α]

/-- A call that tells every event when it happens. -/
def narrate (converter : Converter) (source : Source) (outputs : Outputs α) :
    StateM (List Event) (Ending (Outputs α)) := do
  match ← (converter.prepare source outputs.grey).run with
  | .error cause => (Ending.rejected cause outputs).tellRejection
  | .ok () => (converter.passes source outputs).tellRejection

theorem narrate_run (converter : Converter) (source : Source) (before : Outputs α)
    (log : List Event) :
    (converter.narrate source before).run log =
      ((converter.convert source before).ending,
        log ++ (converter.convert source before).events) := by
  have hclosing : (converter.narrate source before).run log =
      (converter.run source before).tellRejection.run
        (log ++ converter.openingEvents source before.grey) := by
    simp only [narrate, run, StateT.run_bind, prepare_run]
    rcases converter.accept source before.grey with cause | _ <;> rfl
  rw [hclosing, Ending.tellRejection_run, List.append_assoc]
  rfl

end Narration

end Converter

/-! ### Reading the log -/

/-- The outcome of a call that has returned, as its last event tells it. -/
def Outcome.ofEvents (events : List Event) : Outcome :=
  match events.getLast? with
  | some (.rejected cause) => .rejected cause
  | _ => .completed

/-- The entries that a log shows for a call. -/
def Report.entries {β : Type} (report : Report β) : List Record := report.events.map Event.record

namespace Converter

variable {α β : Type} [ColourDomain α] [ColourDomain β]

theorem events_convert (converter : Converter) (source : Source) (before : Outputs α) :
    (converter.convert source before).events = converter.openingEvents source before.grey ++
      closingEvents (converter.convert source before).ending.outcome := rfl

theorem ofEvents_convert {converter : Converter} {source : Source} {before : Outputs α}
    (h : (converter.convert source before).ending ≠ .fault) :
    Outcome.ofEvents (converter.convert source before).events =
      (converter.convert source before).ending.outcome := by
  rw [events_convert]
  cases hending : (converter.convert source before).ending with
  | completed after =>
    rw [Ending.outcome, closingEvents, List.append_nil, openingEvents]
    split <;> rfl
  | rejected cause after =>
    rw [Ending.outcome, closingEvents, Outcome.ofEvents, List.getLast?_concat]
  | fault => exact absurd hending h

theorem entries_convert (converter : Converter) (source : Source) (before : Outputs α) :
    (converter.convert source before).entries =
      (Event.started converter.size converter.options).record ::
        ((if converter.options.grey = .disabled ∧ before.grey.isSome ∧
              source.size = converter.size then
            [Event.greyIgnored.record]
          else []) ++
          match (converter.convert source before).ending with
          | .rejected cause _ => [(Event.rejected cause).record]
          | .completed _ | .fault => []) := by
  rw [Report.entries, events_convert, openingEvents, List.cons_append, List.map_cons, List.map_append]
  congr 2
  · split <;> rfl
  · cases (converter.convert source before).ending <;> rfl

/-- Only a rejection is told at the level of debugging. -/
theorem exists_debug_entry {converter : Converter} {source : Source} {before : Outputs α} :
    (∃ entry ∈ (converter.convert source before).entries, entry.level = .debug) ↔
      ∃ cause after, (converter.convert source before).ending = .rejected cause after := by
  rw [entries_convert]
  cases (converter.convert source before).ending <;> split <;> simp [Event.record]

/-- Two calls that return and leave the same entries have ended alike, whether their colours are
    bytes or floats. -/
theorem outcome_of_entries {converter converter' : Converter} {source source' : Source}
    {before : Outputs α} {before' : Outputs β}
    (h : (converter.convert source before).ending ≠ .fault)
    (h' : (converter'.convert source' before').ending ≠ .fault)
    (hentries : (converter.convert source before).entries =
      (converter'.convert source' before').entries) :
    converter = converter' ∧ (converter.convert source before).ending.outcome =
      (converter'.convert source' before').ending.outcome := by
  have hevents : (converter.convert source before).events =
      (converter'.convert source' before').events :=
    List.map_injective_iff.2 Event.record_injective hentries
  constructor
  · obtain ⟨size, options, _, _⟩ := converter
    obtain ⟨size', options', _, _⟩ := converter'
    have hstarted : Event.started size options = .started size' options' :=
      (List.cons.inj hevents).1
    cases hstarted
    rfl
  · rw [← ofEvents_convert h, ← ofEvents_convert h', hevents]

end Converter

/-! ### The log -/

/-- Told step by step, a call leaves one entry for its start, then one if it leaves a grey picture
    alone, and then one if it rejects the frame, with the message of the rejection; a call that
    faults leaves no entry for debugging.  From the entries of calls that return, the converter and
    the outcome can be told, and with it the rejection. -/
theorem log_tells_converter_and_outcome (α β : Type) [ColourDomain α] [ColourDomain β] :
    (∀ (converter : Converter) (source : Source) (before : Outputs α) (log : List Event),
      (converter.narrate source before).run log =
        ((converter.convert source before).ending,
          log ++ (converter.convert source before).events) ∧
      (converter.convert source before).entries =
        ⟨.trace, "Converting YUV 4:2:0 frame",
          [("width", toString converter.size.width.toNat),
            ("height", toString converter.size.height.toNat),
            ("color_format", converter.options.order.name),
            ("grey", converter.options.grey.name)]⟩ ::
          ((if converter.options.grey = .disabled ∧ before.grey.isSome ∧
                source.size = converter.size then
              [⟨.trace, "Grey output provided while grey is disabled, leaving it untouched", []⟩]
            else []) ++
            match (converter.convert source before).ending with
            | .rejected cause _ => [⟨.debug, "YUV frame rejected", [("error", cause.message)]⟩]
            | .completed _ | .fault => []) ∧
      ((∃ entry ∈ (converter.convert source before).entries, entry.level = .debug) ↔
        ∃ cause after, (converter.convert source before).ending = .rejected cause after)) ∧
    ∀ (converter converter' : Converter) (source source' : Source) (before : Outputs α)
      (before' : Outputs β),
      (converter.convert source before).ending ≠ .fault →
      (converter'.convert source' before').ending ≠ .fault →
      (converter.convert source before).entries = (converter'.convert source' before').entries →
      converter = converter' ∧ (converter.convert source before).ending.outcome =
        (converter'.convert source' before').ending.outcome := by
  refine ⟨?_, ?_⟩
  · intro converter source before log
    exact ⟨converter.narrate_run source before log, converter.entries_convert source before,
      Converter.exists_debug_entry⟩
  · intro converter converter' source source' before before' h h' hentries
    exact Converter.outcome_of_entries h h' hentries

theorem short_colours_are_told_alike :
    (separateConverter.convert oddPicture.source
        (⟨#[1, 2, 3], some (GreyImage.blank ⟨3, 3⟩)⟩ : Outputs UInt8)).entries =
      [⟨.trace, "Converting YUV 4:2:0 frame",
          [("width", "3"), ("height", "3"), ("color_format", "Bgra"), ("grey", "Separate")]⟩,
        ⟨.debug, "YUV frame rejected",
          [("error", "Destination size mismatch: expected=36, received=3")]⟩] ∧
    (separateConverter.convert oddPicture.source
        (⟨#[1, 2, 3], some (GreyImage.blank ⟨3, 3⟩)⟩ : Outputs UInt8)).ending.outcome =
      (separateConverter.convert oddPicture.source
        (⟨#[1, 2, 3], some (GreyImage.blank ⟨3, 3⟩)⟩ : Outputs Float32)).ending.outcome := by
  obtain ⟨_, houtcome⟩ := log_tells_converter_and_outcome UInt8 Float32
  refine ⟨by decide, ?_⟩
  obtain ⟨_, hsame⟩ := houtcome separateConverter separateConverter oddPicture.source
    oddPicture.source ⟨#[1, 2, 3], some (GreyImage.blank ⟨3, 3⟩)⟩
    ⟨#[1, 2, 3], some (GreyImage.blank ⟨3, 3⟩)⟩ nofun nofun rfl
  exact hsame

end Chroma420
