import ExpectationTable.Proofs.Converter.Recovery
import ExpectationTable.Proofs.Diagnostic.ColourCode
import ExpectationTable.Proofs.Session.Simulation
import ExpectationTable.Proofs.Sink.Interrupted

/-!
# Styles tell nothing

Coloured diagnostics are longer than plain ones. Still, as long as the diagnostics are not refused,
nothing else depends on the style: each step has the same result, adds the same to the table, and
leaves the same counts. The diagnostics report the same texts, and without their colour codes they
are the plain ones.
-/

namespace ExpectationTable

namespace Converter

theorem limit_sink_finish (converter : Converter) (stream : Stream) :
    (converter.finish.2.sink stream).limit = (converter.sink stream).limit := by
  rw [sink_finish]
  split
  next => exact Sink.limit_flush _
  next => rfl

theorem onlyInterrupts_finish {converter : Converter}
    (only : converter.diagnostics.OnlyInterrupts) :
    converter.finish.2.diagnostics.OnlyInterrupts := by
  intro limit its
  exact only limit ((converter.limit_sink_finish .diagnostics).symm.trans its)

/-- The two converters may set their diagnostics in different styles, and may hold different ones.
Nothing else of them differs, but for interruptions, and nothing keeps diagnostics from being
written. -/
structure UpToStyle (left right : Converter) : Prop where
  table : left.table = right.table
  flushesLike : left.diagnostics.FlushesLike right.diagnostics
  summary : left.summary = right.summary
  onlyInterrupts : left.diagnostics.OnlyInterrupts
  otherOnlyInterrupts : right.diagnostics.OnlyInterrupts

namespace UpToStyle

variable {left right : Converter} (alike : left.UpToStyle right)

include alike

/-- Converters that differ in their style do the same with a line. If it is an expectation, it is
written to the same table, and otherwise both report it. -/
theorem convertLine (line : String) :
    (left.convertLine line).1 = (right.convertLine line).1 ∧
      (left.convertLine line).2.UpToStyle (right.convertLine line).2 := by
  rcases left with ⟨table, diagnostics, style, summary⟩
  rcases right with ⟨otherTable, otherDiagnostics, otherStyle, otherSummary⟩
  rcases alike with ⟨sameTable, flushesLike, sameSummary, only, otherOnly⟩
  dsimp only at sameTable flushesLike sameSummary only otherOnly
  subst sameTable sameSummary
  cases read : Expectation.parse? line with
  | some expectation =>
      rcases written : table.writeFragments expectation.entryLineFragments with ⟨_ | _, after⟩ <;>
        simp only [Converter.convertLine, read, written] <;>
        exact ⟨trivial, rfl, flushesLike, rfl, only, otherOnly⟩
  | none =>
      rcases only.exists_writeFragments_eq
        (Diagnostic.fragments style (Text.trimLineEnding line)) with
        ⟨after, written, stillOnly, flushes, _⟩
      rcases otherOnly.exists_writeFragments_eq
        (Diagnostic.fragments otherStyle (Text.trimLineEnding line)) with
        ⟨otherAfter, otherWritten, otherStillOnly, otherFlushes, _⟩
      simp only [Converter.convertLine, read, written, otherWritten]
      exact ⟨trivial, rfl, (flushes.trans flushesLike).trans otherFlushes.symm, rfl, stillOnly,
        otherStillOnly⟩

theorem finish :
    left.finish.1 = right.finish.1 ∧ left.finish.2.UpToStyle right.finish.2 := by
  have flushed := alike.flushesLike.flush
  refine ⟨?_, ?_, ?_, ?_, onlyInterrupts_finish alike.onlyInterrupts,
    onlyInterrupts_finish alike.otherOnlyInterrupts⟩
  · rw [left.finish_flushes.1, right.finish_flushes.1, alike.table, flushed.1, alike.summary]
  · have table : left.finish.2.sink .table = right.finish.2.sink .table := by
      rw [sink_finish, sink_finish, if_pos (.inl rfl), if_pos (.inl rfl)]
      exact congrArg (·.flush.2) alike.table
    exact table
  · have diagnostics :
        (left.finish.2.sink .diagnostics).FlushesLike (right.finish.2.sink .diagnostics) := by
      rw [sink_finish, sink_finish, alike.table]
      split
      next => exact flushed.2
      next => exact alike.flushesLike
    exact diagnostics
  · rw [left.finish_keeps.2.2.2, right.finish_keeps.2.2.2, alike.summary]

end UpToStyle

/-- The style does not matter to any line, nor to finishing. -/
theorem isSimulation_upToStyle : IsSimulation UpToStyle :=
  .of_same (fun alike => congrArg Summary.lines alike.summary)
    (fun text alike => alike.convertLine text) UpToStyle.finish

/-- From one state of the converter to another, these lines were taken up, and each unmatched one
among them is a whole diagnostic now. -/
structure Reports (before : Converter) (handled : List Handling) (after : Converter) : Prop where
  onlyInterrupts : after.diagnostics.OnlyInterrupts
  style : after.style = before.style
  added : after.diagnostics.bytes = before.diagnostics.bytes ++
    (reported handled).flatMap fun text => Utf8.encode (Diagnostic.line before.style text)

theorem LineStep.reports {converter next : Converter} {line : String}
    {result : Except ConversionError Outcome} (step : LineStep converter line result next)
    (only : converter.diagnostics.OnlyInterrupts) : Reports converter [⟨line, result⟩] next := by
  cases step with
  | entry read written => exact ⟨only, rfl, by simp [reported, Handling.reported?]⟩
  | entryCut read written => exact ⟨only, rfl, by simp [reported, Handling.reported?]⟩
  | diagnostic unread written =>
      rcases only.exists_writeFragments_eq
        (Diagnostic.fragments converter.style (Text.trimLineEnding line)) with
        ⟨after, writing, stillOnly, _, added⟩
      cases writing.symm.trans written
      refine ⟨stillOnly, rfl, added.trans ?_⟩
      simp [reported, Handling.reported?, Diagnostic.line, Utf8.encode_join]
  | diagnosticCut unread written =>
      cases (only.writeFragments_ok _).1.symm.trans (congrArg Prod.fst written)

/-- To report lines is cumulative, as long as the diagnostics are only interrupted. -/
theorem Reports.isCumulative : IsCumulative fun before handled after =>
    before.diagnostics.OnlyInterrupts → Reports before handled after where
  refl converter only := ⟨only, rfl, by simp [reported]⟩
  line := LineStep.reports
  trans first second only := by
    have start := first only
    have finish := second start.onlyInterrupts
    refine ⟨finish.onlyInterrupts, finish.style.trans start.style, ?_⟩
    rw [finish.added, start.added, start.style, List.append_assoc, ← List.flatMap_append, reported,
      reported, ← List.filterMap_append, reported]
  finish converter only := by
    refine ⟨onlyInterrupts_finish only, converter.finish_keeps.2.2.1, ?_⟩
    simpa [reported] using converter.finish_keeps.2.1

end Converter

/-- The answer but for what it tells of the diagnostics' bytes. -/
def Answer.withoutDiagnostics (answer : Answer) : Answer :=
  { answer with diagnostics := [] }

namespace Session

open Converter (reported)

/-- The session with its diagnostics in this style from here on. -/
def withStyle (style : Diagnostic.Style) (session : Session) : Session :=
  { session with converter := { session.converter with style } }

theorem answer_up_to_style {left right : Session} (step : Step)
    (alike : left.Related Converter.UpToStyle right) :
    (left.answer step).1.withoutDiagnostics = (right.answer step).1.withoutDiagnostics := by
  rcases Converter.isSimulation_upToStyle.step step alike with ⟨result, after, _⟩
  rw [answer_fst_eq, answer_fst_eq, Answer.withoutDiagnostics, Answer.withoutDiagnostics, result,
    alike.converter.table, after.converter.table, after.converter.summary,
    after.converter.flushesLike.flushes]

/-- What the steps add to the diagnostics, in the style that these are set in, are the diagnostics
for the texts that are reported. -/
theorem diagnostics_run (steps : List Step) {session : Session}
    (only : session.converter.diagnostics.OnlyInterrupts) :
    (session.run steps).2.converter.diagnostics.bytes =
      session.converter.diagnostics.bytes ++
        (reported (session.history steps)).flatMap fun text =>
          Utf8.encode (Diagnostic.line session.converter.style text) :=
  (run_of_isCumulative Converter.Reports.isCumulative steps session only).added

/-- Unless the diagnostics are refused, a session with coloured diagnostics is answered as one with
plain ones, but for the bytes of the diagnostics. These report the same texts in both. Each text is
reported with the same lead, which in the coloured session stands between codes. If no text brings
an escape character, then what was added to the coloured diagnostics is, without its colour codes,
what was added to the plain ones. -/
theorem run_withStyle {session : Session} (only : session.converter.diagnostics.OnlyInterrupts)
    (steps : List Step) :
    let plain := session.withStyle .plain
    let coloured := session.withStyle .coloured
    let texts := reported (plain.history steps)
    let plainDiagnostics := texts.flatMap fun text =>
      Utf8.encode ("Did not match line:" ++ " " ++ text ++ "\n")
    let colouredDiagnostics := texts.flatMap fun text =>
      Utf8.encode
        ("\x1b[0m\x1b[1m\x1b[33m" ++ "Did not match line:" ++ "\x1b[0m" ++ " " ++ text ++ "\n")
    (coloured.run steps).1.map Answer.withoutDiagnostics =
        (plain.run steps).1.map Answer.withoutDiagnostics ∧
      reported (coloured.history steps) = texts ∧
      (plain.run steps).2.converter.diagnostics.bytes =
        session.converter.diagnostics.bytes ++ plainDiagnostics ∧
      (coloured.run steps).2.converter.diagnostics.bytes =
        session.converter.diagnostics.bytes ++ colouredDiagnostics ∧
      ((∀ text ∈ texts, '\x1b' ∉ text.toList) →
        Bytes.withoutColourCodes colouredDiagnostics = plainDiagnostics) := by
  intro plain coloured texts plainDiagnostics colouredDiagnostics
  have alike : coloured.Related Converter.UpToStyle plain :=
    ⟨⟨rfl, ⟨rfl, rfl⟩, rfl, only, only⟩, rfl⟩
  have plainLines : plainDiagnostics =
      texts.flatMap fun text => Utf8.encode (Diagnostic.line .plain text) := by
    simp only [plainDiagnostics, Diagnostic.line_plain]
    rfl
  have colouredLines : colouredDiagnostics =
      texts.flatMap fun text => Utf8.encode (Diagnostic.line .coloured text) := by
    simp only [colouredDiagnostics, Diagnostic.line_coloured]
  have answers := Converter.isSimulation_upToStyle.run answer_up_to_style steps alike
  have same : reported (coloured.history steps) = texts :=
    congrArg reported (Converter.isSimulation_upToStyle.history steps alike)
  refine ⟨answers.1, same, ?_, ?_, ?_⟩
  · rw [plainLines]
    exact diagnostics_run steps only
  · rw [colouredLines, ← same]
    exact diagnostics_run steps only
  · intro unescaped
    rw [plainLines, colouredLines]
    exact Diagnostic.withoutColourCodes_flatMap_line unescaped

set_option maxRecDepth 4000 in
/-- The table refuses the first entry, the diagnostics interrupt within their first code and fail to
flush once, and an input is not read to its end at first. The first text that is reported looks like
a code and like a lead. -/
theorem run_withStyle_of_misleading_text :
    let refusing : Limit :=
      { capacity := 3
        refusal := .failing .brokenPipe
        recurrence := .times 1
        interruptions_end := by decide }
    let interrupting : Limit :=
      { capacity := 2
        refusal := .failing ⟨.interrupted, ""⟩
        recurrence := .times 2
        interruptions_end := fun _ => Recurrence.noConfusion }
    let session : Session :=
      { converter :=
          { table := { limit := some refusing }
            diagnostics :=
              { limit := some interrupting, flushFault := some ⟨.brokenPipe, .times 1⟩ }
            style := .plain } }
    let steps : List Step :=
      [.line "'' (a) as B:", .line "[0mDid not match line: [33m\n",
        .convert [.bytes (Utf8.encode "x\r\n"), .failure .isADirectory,
          .bytes (Utf8.encode "'' (a) as B:\n")],
        .resume]
    let plain := (session.withStyle .plain).run steps
    let coloured := (session.withStyle .coloured).run steps
    session.converter.diagnostics.OnlyInterrupts ∧
      coloured.1.map Answer.result =
        [.failed (.write .table .brokenPipe), .handled .unmatched,
          .failed (.read 4 .isADirectory), .failed (.write .diagnostics .brokenPipe)] ∧
      plain.1.map Answer.result = coloured.1.map Answer.result ∧
      plain.2.converter.diagnostics.bytes =
        Utf8.encode
          "Did not match line: [0mDid not match line: [33m\nDid not match line: x\n" ∧
      Bytes.withoutColourCodes coloured.2.converter.diagnostics.bytes =
        plain.2.converter.diagnostics.bytes := by
  intro refusing interrupting session steps plain coloured
  have only : session.converter.diagnostics.OnlyInterrupts := by
    intro limit its
    cases its
    rfl
  have texts : reported ((session.withStyle .plain).history steps) =
      ["[0mDid not match line: [33m", "x"] := by
    decide +kernel
  have results : coloured.1.map Answer.result =
      [.failed (.write .table .brokenPipe), .handled .unmatched,
        .failed (.read 4 .isADirectory), .failed (.write .diagnostics .brokenPipe)] := by
    decide +kernel
  rcases run_withStyle only steps with ⟨answers, _, plainAdded, colouredAdded, erased⟩
  rw [texts] at plainAdded colouredAdded erased
  have sameResults := congrArg (List.map Answer.result) answers
  rw [List.map_map, List.map_map] at sameResults
  refine ⟨only, results, sameResults.symm, plainAdded, ?_⟩
  rw [colouredAdded, plainAdded]
  exact erased (by decide)

end Session

end ExpectationTable
