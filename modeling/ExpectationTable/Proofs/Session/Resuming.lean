import ExpectationTable.Proofs.Converter.Consumption
import ExpectationTable.Proofs.Session.Transitions

/-!
# Resuming an input

An input whose conversion ended early can be resumed until nothing of it is left. No line is lost
between the calls and none is taken up twice: at any time, the lines taken up so far and those of
what is unread are the lines of the input. In the same way, the errors reported so far and those
that are still to be met are the errors of the input.
-/

namespace ExpectationTable

namespace Source

/-- The lines of a source that are complete: those of all its segments, without what a failure has
cut off. -/
def completeLines (source : Source) : List Bytes :=
  source.segments.flatMap Segment.lines

/-- The texts of the complete lines that are well encoded. -/
def texts (source : Source) : List String :=
  source.completeLines.filterMap Utf8.decode?

theorem filterMap_text?_deliveries (source : Source) :
    source.deliveries.filterMap Delivery.text? = source.texts := by
  rw [deliveries, texts, completeLines]
  induction source.segments with
  | nil => rfl
  | cons segment more ih =>
      have none : segment.last.toList.filterMap Delivery.text? = [] := by
        rcases segment with ⟨bytes, closing⟩
        cases closing with
        | failure failure => rfl
        | endOfInput => cases ended : bytes.endsLine <;> simp [Segment.last, ended, Delivery.text?]
        | exhausted => rfl
      rw [Segment.allDeliveries_cons, List.filterMap_append, ih, Segment.deliveries,
        List.filterMap_append, none, List.append_nil, List.filterMap_map, List.flatMap_cons,
        List.filterMap_append]
      rfl

end Source

/-- The error of the input that a step was answered with, if it was. -/
def StepResult.inputError? : StepResult → Option ConversionError
  | .failed error => error.ofInput?
  | .handled _ | .finished _ => none

namespace Session

/-- Converts an input and then resumes it so many times. -/
def callsFor (source : Source) (resumes : Nat) : List Step :=
  .convert source :: List.replicate resumes .resume

theorem inputError?_step_convert (source : Source) (session : Session) :
    (session.step (.convert source)).1.inputError? =
      (session.converter.convert source).inputError? := by
  rw [step, convert, Conversion.inputError?]
  cases (session.converter.convert source).result <;> rfl

theorem inputError?_step_line (text : String) (session : Session) :
    (session.step (.line text)).1.inputError? = none := by
  have step := session.converter.lineStep text
  rw [step_line]
  cases taken : (session.converter.convertLine text).1 with
  | ok outcome => rfl
  | error error =>
      rw [taken] at step
      exact step.ofInput?_eq_none

/-- The calls after the first go on with what the first has left. -/
theorem transitions_callsFor_succ (source : Source) (resumes : Nat) (session : Session) :
    session.transitions (callsFor source (resumes + 1)) =
      session.transition (.convert source) ::
        (session.step (.convert source)).2.transitions
          (callsFor (session.step (.convert source)).2.unread resumes) := rfl

theorem history_callsFor_succ (source : Source) (resumes : Nat) (session : Session) :
    session.history (callsFor source (resumes + 1)) =
      session.handlings (.convert source) ++
        (session.step (.convert source)).2.history
          (callsFor (session.step (.convert source)).2.unread resumes) := rfl

theorem run_callsFor_succ (source : Source) (resumes : Nat) (session : Session) :
    (session.run (callsFor source (resumes + 1))).2 =
      ((session.step (.convert source)).2.run
        (callsFor (session.step (.convert source)).2.unread resumes)).2 := rfl

/-- The lines that one call takes up are lines of its source, and those of what it leaves are the
others. -/
theorem texts_step_convert (source : Source) (session : Session) :
    (session.handlings (.convert source)).map Handling.line ++
        (session.step (.convert source)).2.unread.texts = source.texts := by
  rcases (session.converter.runs source).exists_consumes with ⟨consumed, consumes⟩
  calc
    _ = consumed.filterMap Delivery.text? ++
          (session.converter.convert source).unread.texts :=
        congrArg (· ++ _) consumes.texts
    _ = (consumed ++ (session.converter.convert source).unread.deliveries).filterMap
          Delivery.text? := by
        rw [List.filterMap_append, Source.filterMap_text?_deliveries]
    _ = source.texts := by
        rw [← consumes.delivered, Source.filterMap_text?_deliveries]

theorem texts_callsFor (source : Source) (resumes : Nat) (session : Session) :
    (session.history (callsFor source resumes)).map Handling.line ++
        (session.run (callsFor source resumes)).2.unread.texts = source.texts := by
  induction resumes generalizing source session with
  | zero =>
      rw [← session.texts_step_convert source]
      simp [callsFor]
  | succ resumes ih =>
      rw [history_callsFor_succ, run_callsFor_succ, List.map_append, List.append_assoc, ih]
      exact session.texts_step_convert source

/-- The error of one call is the first of its source, and those of what it leaves are the others. -/
theorem inputErrors_step_convert (source : Source) (session : Session) :
    (session.step (.convert source)).1.inputError?.toList ++
        Delivery.inputErrors (session.step (.convert source)).2.converter.summary.lines
          (session.step (.convert source)).2.unread.deliveries =
      Delivery.inputErrors session.converter.summary.lines source.deliveries := by
  rcases (session.converter.runs source).exists_consumes with ⟨consumed, consumes⟩
  have counted : (session.step (.convert source)).2.converter.summary.lines =
      session.converter.summary.lines + (consumed.filterMap Delivery.text?).length := by
    rw [← consumes.texts, List.length_map]
    exact consumes.counted
  rw [inputError?_step_convert, consumes.errors, counted, consumes.delivered,
    Delivery.inputErrors_append]
  rfl

theorem inputErrors_callsFor (source : Source) (resumes : Nat) (session : Session) :
    (session.transitions (callsFor source resumes)).filterMap (·.result.inputError?) ++
        Delivery.inputErrors (session.run (callsFor source resumes)).2.converter.summary.lines
          (session.run (callsFor source resumes)).2.unread.deliveries =
      Delivery.inputErrors session.converter.summary.lines source.deliveries := by
  induction resumes generalizing source session with
  | zero =>
      rw [← session.inputErrors_step_convert source]
      cases ended : (session.step (.convert source)).1.inputError? <;>
        simp [callsFor, transition, ended]
  | succ resumes ih =>
      have later := ih (session.step (.convert source)).2.unread (session.step (.convert source)).2
      rw [transitions_callsFor_succ, run_callsFor_succ, ← session.inputErrors_step_convert source,
        ← later]
      cases ended : (session.step (.convert source)).1.inputError? <;> simp [transition, ended]

/-- A step hands the lines that it takes up to the converter, one after the other, and does nothing
else but finish. -/
theorem replay_or_finish (step : Step) (session : Session) :
    let call := session.transition step
    let replayed := call.before.converter.replay (call.handled.map Handling.line)
    call.after.converter = replayed ∨
      call.after.converter = replayed.finish.2 ∧ call.result = .ofInput replayed.finish.1 := by
  cases step with
  | line text =>
      left
      simp [transition, step_line, handlings]
  | convert source =>
      exact (session.converter.runs source).replay_or_finish.imp_right
        (And.imp_right (congrArg StepResult.ofInput))
  | resume =>
      exact (session.converter.runs session.unread).replay_or_finish.imp_right
        (And.imp_right (congrArg StepResult.ofInput))

/-- A step that ends with an error of the input does not even finish. The error is about the line
after those that it has taken up. -/
theorem replay_of_inputError (step : Step) (session : Session) :
    let call := session.transition step
    ∀ error, call.result.inputError? = some error →
      call.after.converter = call.before.converter.replay (call.handled.map Handling.line) ∧
        ∃ failure,
          error = .ofReadFailure (call.after.converter.summary.lines + 1) failure := by
  intro call error failed
  change (session.step step).1.inputError? = some error at failed
  cases step with
  | line text =>
      rw [inputError?_step_line] at failed
      cases failed
  | convert source =>
      exact (session.converter.runs source).replay_of_inputError
        ((session.inputError?_step_convert source).symm.trans failed)
  | resume =>
      exact (session.converter.runs session.unread).replay_of_inputError
        ((session.inputError?_step_convert session.unread).symm.trans failed)

/-- Each call uses something up, as long as there is something. After as many calls as there are
deliveries, one more finds nothing and only finishes. -/
theorem last_callsFor {source : Source} {resumes : Nat} (session : Session)
    (enough : source.deliveries.length ≤ resumes) :
    (session.run (callsFor source resumes)).2.unread = [] ∧
      ∀ last ∈ (session.transitions (callsFor source resumes)).getLast?,
        last.handled = [] ∧ last.result = .ofInput last.before.converter.finish.1 := by
  induction resumes generalizing source session with
  | zero =>
      have nothing := List.length_eq_zero_iff.mp (Nat.le_zero.mp enough)
      rcases (session.converter.runs source).eq_finish nothing with ⟨none, finished⟩
      constructor
      · exact congrArg Conversion.unread finished
      · intro last only
        obtain rfl : session.transition (.convert source) = last := Option.some.inj only
        exact ⟨none, congrArg (StepResult.ofInput ∘ Conversion.result) finished⟩
  | succ resumes ih =>
      rw [run_callsFor_succ, transitions_callsFor_succ, callsFor, transitions_cons,
        List.getLast?_cons_cons]
      apply ih
      rcases (session.converter.runs source).exists_consumes with ⟨consumed, consumes⟩
      by_cases empty : consumed = []
      · have nothing : (session.step (.convert source)).2.unread = [] := consumes.progress empty
        rw [nothing]
        exact Nat.zero_le _
      · have shorter : source.deliveries.length =
            consumed.length + (session.step (.convert source)).2.unread.deliveries.length := by
          rw [consumes.delivered, List.length_append]
          rfl
        have positive := List.length_pos_iff.mpr empty
        omega

/-- However often an input is resumed, and whatever the sinks refuse:

- the lines taken up so far, in order, and those that are still unread are the well encoded ones
  among the complete lines of the input;
- the errors of the input that were reported so far, in order, and those that are still to be met
  are one error for each failure and for each ill encoded line;
- each call hands its lines to the converter and, at most, finishes;
- a call that ends with an error of the input has only handed over its lines, and reports the line
  after them;
- once the calls outnumber the deliveries, nothing is unread, and the last call only finishes. -/
theorem resuming_takes_up_input (source : Source) (resumes : Nat) (session : Session) :
    let calls := session.transitions (callsFor source resumes)
    let last := (session.run (callsFor source resumes)).2
    (calls.flatMap Transition.handled).map Handling.line ++ last.unread.texts = source.texts ∧
      calls.filterMap (·.result.inputError?) ++
          Delivery.inputErrors last.converter.summary.lines last.unread.deliveries =
        Delivery.inputErrors session.converter.summary.lines source.deliveries ∧
      (∀ call ∈ calls,
        let replayed := call.before.converter.replay (call.handled.map Handling.line)
        call.after.converter = replayed ∨
          call.after.converter = replayed.finish.2 ∧
            call.result = .ofInput replayed.finish.1) ∧
      (∀ call ∈ calls, ∀ error, call.result.inputError? = some error →
        call.after.converter = call.before.converter.replay (call.handled.map Handling.line) ∧
          ∃ failure,
            error = .ofReadFailure (call.after.converter.summary.lines + 1) failure) ∧
      (source.deliveries.length ≤ resumes →
        last.unread = [] ∧
          ∀ call ∈ calls.getLast?,
            call.handled = [] ∧ call.result = .ofInput call.before.converter.finish.1) := by
  intro calls last
  refine ⟨?_, ?_, ?_, ?_, ?_⟩
  · exact session.texts_callsFor source resumes
  · exact session.inputErrors_callsFor source resumes
  · exact forall_mem_transitions replay_or_finish _ session
  · exact forall_mem_transitions replay_of_inputError _ session
  · exact session.last_callsFor

end Session

end ExpectationTable
