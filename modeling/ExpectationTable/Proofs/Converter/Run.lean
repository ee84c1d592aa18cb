import ExpectationTable.Proofs.Converter.Line
import ExpectationTable.Proofs.Source.Deliveries

/-!
# The run of a conversion

A conversion reads lines and takes them up one by one, until a line cannot be written, a reading
fails or the input is at its end. Its run is told here together with the lines that it takes up.
What a run does can then be shown by induction on it: which deliveries of the source it uses up, to
which state it brings the converter, and how it ends.
-/

namespace ExpectationTable

@[simp] theorem ConversionError.ofReadFailure_illEncoded (line : Nat) :
    ofReadFailure line .illEncoded = illEncoded line := rfl

namespace Converter

/-- The lines that a conversion takes up, with what comes of each. -/
def handlings (source : Source) (converter : Converter) : List Handling :=
  match read : source.readLine with
  | (.line text, source) =>
      have := Source.size_lt_of_readLine read
      match converter.convertLine text with
      | (.ok outcome, converter) => ⟨text, .ok outcome⟩ :: handlings source converter
      | (.error error, _) => [⟨text, .error error⟩]
  | _ => []
termination_by source.size

/-- How a conversion goes: from a source and a converter, by the lines that are taken up, to where
it comes to. -/
inductive Runs : Source → Converter → List Handling → Conversion → Prop where
  | line {source rest : Source} {converter next : Converter} {text : String} {outcome : Outcome}
      {handled : List Handling} {conversion : Conversion}
      (read : source.readLine = (.line text, rest))
      (taken : converter.convertLine text = (.ok outcome, next))
      (more : Runs rest next handled conversion) :
      Runs source converter (⟨text, .ok outcome⟩ :: handled) conversion
  | unwritten {source rest : Source} {converter next : Converter} {text : String}
      {error : ConversionError}
      (read : source.readLine = (.line text, rest))
      (taken : converter.convertLine text = (.error error, next)) :
      Runs source converter [⟨text, .error error⟩] ⟨.error error, next, rest⟩
  | unread {source rest : Source} {converter : Converter} {failure : Failure}
      (read : source.readLine = (.failed failure, rest)) :
      Runs source converter []
        ⟨.error (.ofReadFailure (converter.summary.lines + 1) failure), converter, rest⟩
  | ended {source rest : Source} {converter : Converter}
      (read : source.readLine = (.endOfInput, rest)) :
      Runs source converter [] ⟨converter.finish.1, converter.finish.2, rest⟩

/-- Every conversion is a run. -/
theorem runs (source : Source) (converter : Converter) :
    Runs source converter (converter.handlings source) (converter.convert source) := by
  fun_induction handlings source converter with
  | case1 source converter text rest read _ outcome next taken ih =>
      rw [convert_of_readLine_eq_line converter read, taken]
      exact .line read taken ih
  | case2 source converter text rest read _ error next taken =>
      rw [convert_of_readLine_eq_line converter read, taken]
      exact .unwritten read taken
  | case3 source converter none =>
      rcases read : source.readLine with ⟨reading, rest⟩
      cases reading with
      | line text => exact absurd read (none text rest)
      | failed failure =>
          rw [convert_of_readLine_eq_failed converter read]
          exact .unread read
      | endOfInput =>
          rw [convert_of_readLine_eq_endOfInput converter read]
          exact .ended read

section Handlings

variable {source rest : Source} (converter : Converter)

theorem handlings_of_readLine_eq_line {text : String}
    (read : source.readLine = (.line text, rest)) :
    converter.handlings source =
      ⟨text, (converter.convertLine text).1⟩ ::
        match converter.convertLine text with
        | (.ok _, converter) => converter.handlings rest
        | (.error _, _) => [] := by
  rw [handlings]
  split
  next found =>
    cases read.symm.trans found
    split
    next taken => rw [taken]
    next taken => rw [taken]
  next none => exact absurd read (none _ _)

theorem handlings_of_readLine_eq_failed {failure : Failure}
    (read : source.readLine = (.failed failure, rest)) : converter.handlings source = [] := by
  rw [handlings]
  split <;> simp_all

theorem handlings_of_readLine_eq_endOfInput (read : source.readLine = (.endOfInput, rest)) :
    converter.handlings source = [] := by
  rw [handlings]
  split <;> simp_all

end Handlings

/-! ## The converter after a run -/

/-- Takes up lines one after the other, whatever comes of them. -/
def replay (lines : List String) (converter : Converter) : Converter :=
  lines.foldl (fun converter line => (converter.convertLine line).2) converter

@[simp] theorem replay_nil (converter : Converter) : converter.replay [] = converter := rfl

@[simp] theorem replay_cons (line : String) (lines : List String) (converter : Converter) :
    converter.replay (line :: lines) = (converter.convertLine line).2.replay lines := by
  rw [replay, List.foldl_cons, replay]

variable {source : Source} {converter : Converter} {handled : List Handling}
  {conversion : Conversion}

theorem exists_write_of_finish {error : ConversionError}
    (failed : converter.finish.1 = .error error) :
    ∃ stream failure, error = .write stream failure := by
  rcases converter with ⟨table, diagnostics, style, summary⟩
  rw [finish] at failed
  split at failed
  next failure after flushed =>
    cases failed
    exact ⟨_, _, rfl⟩
  next after flushed =>
    split at failed
    next failure after flushed =>
      cases failed
      exact ⟨_, _, rfl⟩
    next => cases failed

/-- Finishing changes neither what the sinks hold nor the style nor the counts. -/
theorem finish_keeps (converter : Converter) :
    converter.finish.2.table.bytes = converter.table.bytes ∧
      converter.finish.2.diagnostics.bytes = converter.diagnostics.bytes ∧
      converter.finish.2.style = converter.style ∧
      converter.finish.2.summary = converter.summary := by
  rcases converter with ⟨table, diagnostics, style, summary⟩
  have tableKept := table.bytes_flush
  have diagnosticsKept := diagnostics.bytes_flush
  rw [finish]
  split
  next failure after flushed =>
    rw [flushed] at tableKept
    exact ⟨tableKept, rfl, rfl, rfl⟩
  next after flushed =>
    rw [flushed] at tableKept
    split
    next failure afterSecond flushedSecond =>
      rw [flushedSecond] at diagnosticsKept
      exact ⟨tableKept, diagnosticsKept, rfl, rfl⟩
    next afterSecond flushedSecond =>
      rw [flushedSecond] at diagnosticsKept
      exact ⟨tableKept, diagnosticsKept, rfl, rfl⟩

/-- Finishing flushes the table, and the diagnostics if that worked. The first flush that fails is
the result. -/
theorem finish_flushes (converter : Converter) :
    converter.finish.1 =
        (match converter.table.flush.1, converter.diagnostics.flush.1 with
          | .error failure, _ => .error (.write .table failure)
          | .ok (), .error failure => .error (.write .diagnostics failure)
          | .ok (), .ok () => .ok converter.summary) ∧
      converter.finish.2.table.flushes = converter.table.flushes + 1 ∧
      converter.finish.2.diagnostics.flushes =
        converter.diagnostics.flushes + if converter.table.flush.1.isOk then 1 else 0 := by
  rcases converter with ⟨table, diagnostics, style, summary⟩
  have tableFlushed := table.flushes_flush
  have diagnosticsFlushed := diagnostics.flushes_flush
  rcases flushed : table.flush with ⟨failure | _, after⟩
  · rw [flushed] at tableFlushed
    simp only [finish, flushed]
    exact ⟨trivial, tableFlushed, rfl⟩
  · rw [flushed] at tableFlushed
    rcases flushedThen : diagnostics.flush with ⟨failure | _, afterThen⟩
    · rw [flushedThen] at diagnosticsFlushed
      simp only [finish, flushed, flushedThen]
      exact ⟨trivial, tableFlushed, diagnosticsFlushed⟩
    · rw [flushedThen] at diagnosticsFlushed
      simp only [finish, flushed, flushedThen]
      exact ⟨trivial, tableFlushed, diagnosticsFlushed⟩

/-- A relation between two states of the converter and the lines that are taken up from the one to
the other. It is cumulative if it holds of each single line, and of several lines once it holds of
one after the other, and if finishing does not matter to it. -/
structure IsCumulative (relation : Converter → List Handling → Converter → Prop) : Prop where
  refl (converter : Converter) : relation converter [] converter
  line {converter next : Converter} {line : String} {result : Except ConversionError Outcome} :
    LineStep converter line result next → relation converter [⟨line, result⟩] next
  trans {before between after : Converter} {first second : List Handling} :
    relation before first between → relation between second after →
      relation before (first ++ second) after
  finish (converter : Converter) : relation converter [] converter.finish.2

/-- What neither a line nor finishing puts an end to is kept, whichever lines are taken up. -/
theorem IsCumulative.of_invariant {property : Converter → Prop}
    (line : ∀ {converter : Converter} (text : String), property converter →
      property (converter.convertLine text).2)
    (finish : ∀ {converter : Converter}, property converter → property converter.finish.2) :
    IsCumulative fun before _ after => property before → property after where
  refl _ := id
  line := by
    intro converter next text result step holds
    obtain rfl : (converter.convertLine text).2 = next := congrArg Prod.snd step.convertLine_eq
    exact line text holds
  trans first second := second ∘ first
  finish _ := finish

/-- To take up lines is cumulative. To finish adds nothing to what they leave. -/
theorem TakesUp.isCumulative : IsCumulative TakesUp where
  refl := .refl
  line := LineStep.takesUp
  trans := .trans
  finish converter := by
    rcases converter.finish_keeps with ⟨tableKept, diagnosticsKept, styleKept, _⟩
    exact ⟨[], [], .nil, by simpa using tableKept, by simpa using diagnosticsKept, styleKept⟩

namespace Runs

/-- After a run the converter is as after its lines, or has finished then. -/
theorem replay_or_finish (run : Runs source converter handled conversion) :
    let replayed := converter.replay (handled.map Handling.line)
    conversion.converter = replayed ∨
      conversion.converter = replayed.finish.2 ∧ conversion.result = replayed.finish.1 := by
  induction run with
  | line read taken more ih => simpa [taken] using ih
  | unwritten read taken =>
      left
      simp [taken]
  | unread read =>
      left
      rfl
  | ended read =>
      right
      exact ⟨rfl, rfl⟩

/-- What is cumulative holds of every run and the lines that it takes up. -/
theorem of_isCumulative {relation : Converter → List Handling → Converter → Prop}
    (cumulative : IsCumulative relation) (run : Runs source converter handled conversion) :
    relation converter handled conversion.converter := by
  induction run with
  | line read taken more ih => exact cumulative.trans (cumulative.line (.of_convertLine taken)) ih
  | unwritten read taken => exact cumulative.line (.of_convertLine taken)
  | unread read => exact cumulative.refl _
  | ended read => exact cumulative.finish _

end Runs

end Converter

end ExpectationTable
