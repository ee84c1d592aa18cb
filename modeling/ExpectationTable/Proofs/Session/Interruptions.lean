import ExpectationTable.Proofs.Session.Simulation
import ExpectationTable.Proofs.Sink.Interrupted

/-!
# Interruptions leave no trace

Sinks may interrupt the writing of a line anywhere, also after a part of a piece was placed, and
several times in a row. Nothing of that can be seen from outside: each step has the same result,
adds the same bytes and leaves the same counts as if nothing had been interrupted.
-/

namespace ExpectationTable

namespace Converter

/-- The two converters differ in nothing but in how their sinks interrupt. -/
abbrev UpToInterruptions : Converter → Converter → Prop :=
  Sinkwise fun _ => Sink.UpToInterruptions

/-- Interruptions do not matter to any line, nor to finishing. -/
theorem isSimulation_upToInterruptions : IsSimulation UpToInterruptions := by
  apply IsSimulation.of_same
  · intro left right alike
    exact congrArg Summary.lines alike.summary
  · intro left right text alike
    have written := (alike.sinks (destination text)).writeFragments (pieces left.style text)
    exact alike.convertLine written.1 written.2
  · intro left right alike
    exact alike.finish Sink.UpToInterruptions.flushesLike Sink.UpToInterruptions.flush

end Converter

namespace Session

/-- The session with these limits on its sinks, in place of those that they had. -/
def withLimits (table diagnostics : Option Limit) (session : Session) : Session :=
  { session with
    converter :=
      { session.converter with
        table := { session.converter.table with limit := table }
        diagnostics := { session.converter.diagnostics with limit := diagnostics } } }

theorem answer_up_to_interruptions {left right : Session} (step : Step)
    (alike : left.Related Converter.UpToInterruptions right) :
    (left.answer step).1 = (right.answer step).1 := by
  rcases Converter.isSimulation_upToInterruptions.step step alike with ⟨result, after, _⟩
  have tableBefore : left.converter.table.bytes = right.converter.table.bytes :=
    (alike.converter.sinks .table).bytes
  have diagnosticsBefore : left.converter.diagnostics.bytes = right.converter.diagnostics.bytes :=
    (alike.converter.sinks .diagnostics).bytes
  rcases after.converter.sinks .table with ⟨table, ⟨tableFlushes, _⟩, _, _⟩
  rcases after.converter.sinks .diagnostics with ⟨diagnostics, ⟨diagnosticsFlushes, _⟩, _, _⟩
  dsimp only [Converter.sink] at table tableFlushes diagnostics diagnosticsFlushes
  rw [answer_fst_eq, answer_fst_eq, result, tableBefore, diagnosticsBefore, table, diagnostics,
    tableFlushes, diagnosticsFlushes, after.converter.summary]

/-- Limits that only interrupt make no difference to a session, whatever their sizes are, how often
they interrupt and to which sinks they belong: the answers to all steps are the same, and so is what
the session comes to. That there are such answers at all is due to the attempts of a writer, of
which each takes from the bytes that are left or from the interruptions that are left. -/
theorem run_withLimits {table diagnostics : Option Limit}
    (only : ∀ limit, limit ∈ table ∨ limit ∈ diagnostics → limit.refusal.isInterruption = true)
    (steps : List Step) (session : Session) :
    let interrupted := (session.withLimits table diagnostics).run steps
    let undisturbed := (session.withLimits none none).run steps
    interrupted.1 = undisturbed.1 ∧
      interrupted.2.converter.summary = undisturbed.2.converter.summary ∧
      interrupted.2.converter.table.bytes = undisturbed.2.converter.table.bytes ∧
      interrupted.2.converter.diagnostics.bytes = undisturbed.2.converter.diagnostics.bytes ∧
      interrupted.2.unread = undisturbed.2.unread := by
  intro interrupted undisturbed
  have alike : (session.withLimits table diagnostics).Related Converter.UpToInterruptions
      (session.withLimits none none) := by
    refine ⟨⟨?_, rfl, rfl⟩, rfl⟩
    intro stream
    cases stream with
    | table =>
        refine ⟨rfl, ⟨rfl, rfl⟩, fun limit its => only limit (.inl its), ?_⟩
        intro limit its
        cases its
    | diagnostics =>
        refine ⟨rfl, ⟨rfl, rfl⟩, fun limit its => only limit (.inr its), ?_⟩
        intro limit its
        cases its
  rcases Converter.isSimulation_upToInterruptions.run
    (fun step alike => congrArg id (answer_up_to_interruptions step alike)) steps alike with
    ⟨answers, last⟩
  rw [List.map_id, List.map_id] at answers
  exact ⟨answers, last.converter.summary, (last.converter.sinks .table).bytes,
    (last.converter.sinks .diagnostics).bytes, last.unread⟩

set_option maxRecDepth 4000 in
/-- The table interrupts twice within the first entry, and the diagnostics thrice within the code
that a coloured diagnostic begins with. All the same, each of the three lines is written once. -/
theorem run_withLimits_within_pieces :
    let interrupting (capacity count : Nat) : Limit :=
      { capacity
        refusal := .failing ⟨.interrupted, ""⟩
        recurrence := .times count
        interruptions_end := fun _ => Recurrence.noConfusion }
    let table := interrupting 3 2
    let diagnostics := interrupting 5 3
    let session : Session :=
      { converter := { table := {}, diagnostics := {}, style := .coloured } }
    let steps : List Step :=
      [.line "'' (a) as B:",
        .convert [.bytes (Utf8.encode "x\n"), .failure .isADirectory,
          .bytes (Utf8.encode "'' (a) as B:\n")],
        .resume]
    let interrupted := (session.withLimits (some table) (some diagnostics)).run steps
    (∀ limit, limit ∈ some table ∨ limit ∈ some diagnostics →
        limit.refusal.isInterruption = true) ∧
      interrupted.1 = ((session.withLimits none none).run steps).1 ∧
      interrupted.1.map Answer.result =
        [.handled .converted, .failed (.read 3 .isADirectory),
          .finished { lines := 3, matched := 2, unmatched := 1 }] ∧
      interrupted.2.converter.diagnostics.bytes =
        Utf8.encode "\x1b[0m\x1b[1m\x1b[33mDid not match line:\x1b[0m x\n" := by
  intro interrupting table diagnostics session steps interrupted
  have only : ∀ limit, limit ∈ some table ∨ limit ∈ some diagnostics →
      limit.refusal.isInterruption = true := by
    intro limit its
    cases its with
    | inl its =>
        cases its
        rfl
    | inr its =>
        cases its
        rfl
  have results : ((session.withLimits none none).run steps).1.map Answer.result =
      [.handled .converted, .failed (.read 3 .isADirectory),
        .finished { lines := 3, matched := 2, unmatched := 1 }] := by
    decide +kernel
  have reports : ((session.withLimits none none).run steps).2.converter.diagnostics.bytes =
      Utf8.encode "\x1b[0m\x1b[1m\x1b[33mDid not match line:\x1b[0m x\n" := by
    decide +kernel
  rcases run_withLimits only steps session with ⟨answers, _, _, same, _⟩
  exact ⟨only, answers, (congrArg (List.map Answer.result) answers).trans results,
    same.trans reports⟩

end Session

end ExpectationTable
