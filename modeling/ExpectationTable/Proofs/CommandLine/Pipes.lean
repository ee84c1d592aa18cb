import ExpectationTable.CommandLine.Run
import ExpectationTable.Proofs.Converter.LineByLine
import ExpectationTable.Proofs.Converter.Reliable
import ExpectationTable.Proofs.Sink.Limited

/-!
# Running between pipes

The program reads one pipe and writes two, of which either may be broken. It ends at the first line
that it cannot deal with: one that is not well encoded, or one that would have to be written to a
broken pipe. A broken pipe that no line goes to does no harm. What the lines before have left is
out, and the error is reported after that, if the pipe for errors is not broken itself.
-/

namespace ExpectationTable

namespace CommandLine

/-- The other end of a stream that the program writes: somebody reads it, or nobody does any
more. -/
inductive Pipe where
  | healthy
  | broken
  deriving DecidableEq

namespace Pipe

/-- The sink at this end of the pipe, before anything is written. -/
def sink : Pipe → Sink
  | .healthy => {}
  | .broken => .broken

/-- The pipe that the stream leads to. -/
def ofStream (output errors : Pipe) : Stream → Pipe
  | .table => output
  | .diagnostics => errors

/-- The sink does as one at this end of the pipe does, whatever was written to it. -/
def Serves : Pipe → Sink → Prop
  | .healthy, sink => sink.Reliable
  | .broken, sink => sink = .broken

@[simp] theorem bytes_sink (pipe : Pipe) : pipe.sink.bytes = [] := by
  cases pipe <;> rfl

theorem serves_sink (pipe : Pipe) : pipe.Serves pipe.sink := by
  cases pipe with
  | healthy => exact Sink.reliable_default
  | broken => rfl

theorem Serves.flush_eq {pipe : Pipe} {sink : Sink} (serves : pipe.Serves sink) :
    sink.flush.1 = .ok () := by
  cases pipe with
  | healthy => rw [Sink.Reliable.flush_eq serves]
  | broken =>
      obtain rfl : sink = .broken := serves
      rfl

end Pipe

/-- Whether the program ends at the line. -/
def stopsAt (output errors : Pipe) (line : Bytes) : Bool :=
  match Utf8.decode? line with
  | none => true
  | some text => if (Expectation.parse? text).isSome then output = .broken else errors = .broken

/-- The error with which the program ends at the line of this number. -/
def errorAt (number : Nat) (line : Bytes) : ConversionError :=
  match Utf8.decode? line with
  | none => .illEncoded number
  | some text =>
      if (Expectation.parse? text).isSome then .write .table .brokenPipe
      else .write .diagnostics .brokenPipe

/-- The program ends at a text whose stream leads to a broken pipe, with the error of that
stream. -/
theorem stopsAt_of_decode? {line : Bytes} {text : String} (output errors : Pipe)
    (decoded : Utf8.decode? line = some text) :
    stopsAt output errors line =
      decide (Pipe.ofStream output errors (Converter.destination text) = .broken) := by
  cases read : Expectation.parse? text <;>
    simp [stopsAt, decoded, read, Converter.destination, Pipe.ofStream]

theorem errorAt_of_decode? {line : Bytes} {text : String} (number : Nat)
    (decoded : Utf8.decode? line = some text) :
    errorAt number line = .write (Converter.destination text) .brokenPipe := by
  cases read : Expectation.parse? text <;> simp [errorAt, decoded, read, Converter.destination]

end CommandLine

namespace Converter

open CommandLine

/-- The sinks of the converter are at this end of the pipes. -/
def IsBetween (output errors : Pipe) (converter : Converter) : Prop :=
  ∀ stream, (Pipe.ofStream output errors stream).Serves (converter.sink stream)

namespace IsBetween

variable {output errors : Pipe} {source : Source} {converter next : Converter} {text : String}
  {result : Except ConversionError Outcome} {handled : List Handling} {conversion : Conversion}

theorem finish_eq (between : converter.IsBetween output errors) :
    converter.finish.1 = .ok converter.summary := by
  have table : converter.table.flush.1 = .ok () := (between .table).flush_eq
  have diagnostics : converter.diagnostics.flush.1 = .ok () := (between .diagnostics).flush_eq
  rw [converter.finish_flushes.1, table, diagnostics]

theorem of_healthy (between : converter.IsBetween output errors)
    (healthy : Pipe.ofStream output errors (destination text) = .healthy)
    (taken : converter.convertLine text = (result, next)) :
    result = .ok (destination text).outcome ∧ next = converter.recording [text] ∧
      next.IsBetween output errors := by
  have reliable : (converter.sink (destination text)).Reliable := by
    have serves := between (destination text)
    rwa [healthy] at serves
  have recorded := convertLine_eq_recording reliable
  obtain rfl : (converter.convertLine text).1 = result := congrArg Prod.fst taken
  obtain rfl : (converter.convertLine text).2 = next := congrArg Prod.snd taken
  refine ⟨congrArg Prod.fst recorded, congrArg Prod.snd recorded, ?_⟩
  intro stream
  by_cases same : stream = destination text
  · rw [same, sink_convertLine_destination, reliable.writeFragments_eq, healthy]
    exact reliable.append _
  · rw [sink_convertLine_of_ne _ same]
    exact between stream

theorem of_broken (between : converter.IsBetween output errors)
    (broken : Pipe.ofStream output errors (destination text) = .broken)
    (taken : converter.convertLine text = (result, next)) :
    result = .error (.write (destination text) .brokenPipe) ∧
      ∀ stream, next.sink stream = converter.sink stream := by
  have serves : converter.sink (destination text) = .broken := by
    have serves := between (destination text)
    rwa [broken] at serves
  have written := Sink.writeFragments_broken (encode_pieces_ne_nil converter.style text)
  rw [← serves] at written
  obtain rfl : (converter.convertLine text).1 = result := congrArg Prod.fst taken
  obtain rfl : (converter.convertLine text).2 = next := congrArg Prod.snd taken
  constructor
  · rw [result_convertLine, written]
  · intro stream
    by_cases same : stream = destination text
    · rw [same, sink_convertLine_destination, written]
    · rw [sink_convertLine_of_ne _ same]

/-- A conversion records the lines in front of the first at which it has to stop, and ends there
with the error of that line. -/
theorem conversion_eq (run : Runs source converter handled conversion)
    (between : converter.IsBetween output errors) {lines : List Bytes}
    (delivered : source.deliveries = lines.map .line) :
    let last := converter.recording
      ((lines.takeWhile fun line => !stopsAt output errors line).filterMap Utf8.decode?)
    conversion.converter.table.bytes = last.table.bytes ∧
      conversion.converter.diagnostics.bytes = last.diagnostics.bytes ∧
      match lines.find? (stopsAt output errors) with
      | none => conversion.result = .ok last.summary
      | some line =>
          conversion.result = .error (errorAt (last.summary.lines + 1) line) ∧
            conversion.converter.IsBetween output errors := by
  induction run generalizing lines with
  | @line _ _ converter _ text _ _ _ read taken more ih =>
      rcases Source.deliveries_of_readLine_eq_line read with ⟨bytes, decoded, first⟩
      rcases List.map_eq_cons_iff.mp (delivered.symm.trans first) with
        ⟨line, rest, rfl, same, others⟩
      cases same
      cases pipe : Pipe.ofStream output errors (destination text) with
      | broken => cases (between.of_broken pipe taken).1
      | healthy =>
          rcases between.of_healthy pipe taken with ⟨_, rfl, nextBetween⟩
          have goesOn : stopsAt output errors bytes = false := by
            rw [stopsAt_of_decode? output errors decoded, pipe]
            rfl
          have later := ih nextBetween others.symm
          rw [List.takeWhile_cons_of_pos (by rw [goesOn]; rfl), List.filterMap_cons_some decoded,
            recording_cons, List.find?_cons_of_neg (by rw [goesOn]; exact Bool.false_ne_true)]
          exact later
  | @unwritten _ _ converter _ text _ read taken =>
      rcases Source.deliveries_of_readLine_eq_line read with ⟨bytes, decoded, first⟩
      rcases List.map_eq_cons_iff.mp (delivered.symm.trans first) with
        ⟨line, rest, rfl, same, others⟩
      cases same
      cases pipe : Pipe.ofStream output errors (destination text) with
      | healthy => cases (between.of_healthy pipe taken).1
      | broken =>
          rcases between.of_broken pipe taken with ⟨failed, kept⟩
          have stops : stopsAt output errors bytes = true := by
            rw [stopsAt_of_decode? output errors decoded, pipe]
            rfl
          cases failed
          rw [List.takeWhile_cons_of_neg (by rw [stops]; exact Bool.false_ne_true),
            List.find?_cons_of_pos stops, List.filterMap_nil, recording_nil]
          refine ⟨congrArg Sink.bytes (kept .table), congrArg Sink.bytes (kept .diagnostics), ?_,
            ?_⟩
          · rw [errorAt_of_decode? _ decoded]
          · intro stream
            rw [kept stream]
            exact between stream
  | @unread _ _ converter failure read =>
      rcases Source.deliveries_of_readLine_eq_failed read with first | ⟨bytes, invalid, rfl, first⟩
      · rcases List.map_eq_cons_iff.mp (delivered.symm.trans first) with ⟨line, rest, _, same, _⟩
        cases same
      · rcases List.map_eq_cons_iff.mp (delivered.symm.trans first) with
          ⟨line, rest, rfl, same, others⟩
        cases same
        have stops : stopsAt output errors bytes = true := by rw [stopsAt, invalid]
        rw [List.takeWhile_cons_of_neg (by rw [stops]; exact Bool.false_ne_true),
          List.find?_cons_of_pos stops, List.filterMap_nil, recording_nil]
        refine ⟨rfl, rfl, ?_, between⟩
        rw [errorAt, invalid, ConversionError.ofReadFailure_illEncoded]
  | @ended _ _ converter read =>
      rcases Source.deliveries_of_readLine_eq_endOfInput read with first | ⟨nothing, _⟩
      · rcases List.map_eq_cons_iff.mp (delivered.symm.trans first) with ⟨line, rest, _, same, _⟩
        cases same
      · obtain rfl : lines = [] := List.map_eq_nil_iff.mp (delivered.symm.trans nothing)
        rcases converter.finish_keeps with ⟨tableKept, diagnosticsKept, _⟩
        rw [List.takeWhile_nil, List.filterMap_nil, recording_nil]
        exact ⟨tableKept, diagnosticsKept, between.finish_eq⟩

end IsBetween

def between (output errors : Pipe) : Converter where
  table := output.sink
  diagnostics := errors.sink
  style := .plain

theorem isBetween_between (output errors : Pipe) :
    (between output errors).IsBetween output errors := by
  intro stream
  cases stream with
  | table => exact output.serves_sink
  | diagnostics => exact errors.serves_sink

theorem table_recording_between (output errors : Pipe) (texts : List String) :
    ((between output errors).recording texts).table.bytes =
      (accepted texts).flatMap fun expectation => Utf8.encode (expectation.entry ++ "\n") := by
  rw [recording, Sink.bytes_append, between, output.bytes_sink, List.nil_append]
  rfl

theorem diagnostics_recording_between (output errors : Pipe) (texts : List String) :
    ((between output errors).recording texts).diagnostics.bytes =
      (rejected texts).flatMap fun text =>
        Utf8.encode ("Did not match line: " ++ Text.trimLineEnding text ++ "\n") := by
  rw [recording, Sink.bytes_append, between, errors.bytes_sink, List.nil_append]
  simp only [Diagnostic.line_plain]

end Converter

namespace CommandLine

theorem encode_report_ne_nil (error : ConversionError)
    (lettering : ConversionError.Lettering) : Utf8.encode (error.report lettering) ≠ [] := by
  rw [← Utf8.encode_empty, ne_eq, Utf8.encode_inj, ← String.toList_inj]
  simp [ConversionError.report, toString]

/-- The report of an error is added to a healthy pipe. Over a broken one it gets lost, which the
exit status tells. -/
theorem Completion.ofError_eq {pipe : Pipe} {errors : Sink} (serves : pipe.Serves errors)
    (error : ConversionError) (lettering : ConversionError.Lettering) (output : Sink) :
    Completion.ofError error lettering output errors =
      match pipe with
      | .healthy =>
          ⟨.conversionFailed, output, errors.append (Utf8.encode (error.report lettering))⟩
      | .broken => ⟨.reportFailed, output, .broken⟩ := by
  cases pipe with
  | healthy =>
      have reliable : errors.Reliable := serves
      rw [Completion.ofError, reliable.writeAll_eq]
  | broken =>
      obtain rfl : errors = .broken := serves
      rw [Completion.ofError, Sink.writeAll_broken (encode_report_ne_nil error lettering)]

theorem length_filterMap_decode?_takeWhile (output errors : Pipe) (lines : List Bytes) :
    ((lines.takeWhile fun line => !stopsAt output errors line).filterMap Utf8.decode?).length =
      (lines.takeWhile fun line => !stopsAt output errors line).length := by
  apply Utf8.length_filterMap_decode?
  intro line member
  have goesOn := List.all_eq_true.mp
    (List.all_takeWhile (p := fun line => !stopsAt output errors line)) line member
  cases decoded : Utf8.decode? line with
  | none => simp [stopsAt, decoded] at goesOn
  | some text => simp [Utf8.isText, decoded]

/-- Without options and without a terminal, the program converts its input with plain diagnostics,
and reports an error. -/
theorem Invocation.run_bare {arguments : List String} {environment : Environment}
    (bare : arguments ∈ [[], ["--"]]) (noTerminal : environment.isTerminal = false)
    {input : Source} {output errors : Sink} {conversion : Conversion}
    (converted : Converter.convert input
      { table := output, diagnostics := errors, style := .plain } = conversion) :
    Invocation.run { arguments, input, output, errors, environment } =
      match conversion.result with
      | .ok _ => ⟨.success, conversion.converter.table, conversion.converter.diagnostics⟩
      | .error error =>
          .ofError error .drawn conversion.converter.table conversion.converter.diagnostics := by
  have request : Request.ofArguments arguments = .convert := by
    simp only [List.mem_cons, List.not_mem_nil, or_false] at bare
    rcases bare with rfl | rfl <;> rfl
  have style : environment.style = .plain := by
    cases kind : environment.terminalKind <;>
      simp [Environment.style, Diagnostic.Style.forTerminal, noTerminal, kind]
  have lettering : environment.lettering = .drawn := by
    rw [Environment.lettering, noTerminal]
    rfl
  rw [← style] at converted
  rw [Invocation.run, request]
  cases ended : conversion.result with
  | ok summary => simp only [Invocation.convert, converted, ended]
  | error error => simp only [Invocation.convert, converted, ended, lettering]

/-- What the program does between pipes, without any option. It ends at the first line that is not
well encoded, is an expectation while nobody reads the output, or is none while nobody reads the
errors. If there is no such line, it succeeds. Otherwise the exit status is that of a failed
conversion, or of a failed report if the errors are not read. The entries of the lines before are
in the output, and their diagnostics, followed by a report of the error, in the errors. -/
theorem Invocation.run_between_pipes {arguments : List String} {source : Source}
    {environment : Environment} (bare : arguments ∈ [[], ["--"]]) (steady : source.Steady)
    (noTerminal : environment.isTerminal = false) (output errors : Pipe) :
    let lines := Bytes.lines source.bytes
    let before := lines.takeWhile fun line => !stopsAt output errors line
    let texts := before.filterMap Utf8.decode?
    let error? := (lines.find? (stopsAt output errors)).map (errorAt (before.length + 1))
    let completion := Invocation.run
      { arguments, input := source, output := output.sink, errors := errors.sink, environment }
    completion.status.code = error?.elim 0 (fun _ => if errors = .broken then 101 else 1) ∧
      completion.output.bytes =
        (Converter.accepted texts).flatMap (fun expectation =>
          Utf8.encode (expectation.entry ++ "\n")) ∧
      (errors = .healthy →
        completion.errors.bytes =
          (Converter.rejected texts).flatMap (fun text =>
              Utf8.encode ("Did not match line: " ++ Text.trimLineEnding text ++ "\n")) ++
            error?.elim [] fun error => Utf8.encode (error.report .drawn)) := by
  intro lines before texts error? completion
  let converter := Converter.between output errors
  have all : texts.length = before.length :=
    length_filterMap_decode?_takeWhile output errors lines
  rcases (Converter.isBetween_between output errors).conversion_eq (converter.runs source)
    steady.deliveries_eq with ⟨table, diagnostics, ends⟩
  have entries := table.trans (Converter.table_recording_between output errors texts)
  have reports := diagnostics.trans (Converter.diagnostics_recording_between output errors texts)
  have completed : completion = _ :=
    Invocation.run_bare bare noTerminal (rfl : converter.convert source = _)
  cases found : lines.find? (stopsAt output errors) with
  | none =>
      have absent : error? = none := congrArg (Option.map _) found
      rw [found] at ends
      rw [ends] at completed
      rw [absent, completed, Option.elim_none, Option.elim_none, List.append_nil]
      exact ⟨rfl, entries, fun _ => reports⟩
  | some line =>
      have present : error? = some (errorAt (before.length + 1) line) :=
        congrArg (Option.map _) found
      have number : (converter.recording texts).summary.lines = before.length := by
        rw [← all]
        exact Nat.zero_add _
      rw [found] at ends
      rcases ends with ⟨failed, betweenThen⟩
      have serves : errors.Serves (converter.convert source).converter.diagnostics :=
        betweenThen .diagnostics
      rw [failed, number] at completed
      dsimp only at completed
      rw [Completion.ofError_eq serves] at completed
      rw [present, completed]
      cases errors with
      | broken =>
          refine ⟨rfl, entries, ?_⟩
          intro healthy
          cases healthy
      | healthy =>
          refine ⟨rfl, entries, fun _ => ?_⟩
          rw [Sink.bytes_append, reports, Option.elim_some]

/-- Nobody reads the output, and the second of three lines is an expectation. The first has been
reported, and the third is not looked at. -/
theorem Invocation.run_between_pipes_of_unread_output :
    let input : Source :=
      [.bytes (Utf8.encode "x\n'' (a) as "), .failure ⟨.interrupted, ""⟩,
        .bytes (Utf8.encode "B:\ny\n")]
    let completion := Invocation.run
      { arguments := ["--"], input, output := .broken, errors := {} }
    completion.status.code = 1 ∧ completion.output.bytes = [] ∧
      completion.errors.bytes = Utf8.encode
        ("Did not match line: x\n" ++
          "convtab::io::write\n\n  × I/O error: failed to write to stdout\n" ++
          "  ╰─▶ Broken pipe (os error 32)\n\n") := by
  intro input completion
  have steady : input.Steady := by decide
  have noTerminal : Environment.isTerminal {} = false := rfl
  rcases Invocation.run_between_pipes (List.mem_cons_of_mem [] List.mem_cons_self) steady
    noTerminal .broken .healthy with ⟨status, table, diagnostics⟩
  refine ⟨status.trans ?_, table.trans ?_, (diagnostics rfl).trans ?_⟩
  · decide +kernel
  · decide +kernel
  · decide +kernel

end CommandLine

end ExpectationTable
