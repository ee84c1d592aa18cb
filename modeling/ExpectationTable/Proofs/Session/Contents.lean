import ExpectationTable.Proofs.Converter.Counting
import ExpectationTable.Proofs.Session.Transitions

/-!
# What a session has written and counted

Whatever a session is asked to do and whatever its sinks refuse, what its sinks hold is what the
lines that were taken up have left there, in the order of the lines. Nothing else adds to them, and
no line adds to the sink of the other kind.

So the counts and the contents of the sinks agree in every state that a session can reach. Each line
that was taken up is an entry, a diagnostic or a line that could not be written, the table holds one
line feed for each entry, and the diagnostics hold one for each of them, unless a line that was
handed over by itself has brought more.
-/

namespace ExpectationTable

namespace Session

theorem takesUp_run (steps : List Step) (session : Session) :
    session.converter.TakesUp (session.history steps) (session.run steps).2.converter :=
  run_of_isCumulative Converter.TakesUp.isCumulative steps session

/-- After any steps, the sinks hold what they held before and what the lines taken up have left
there: an accepted line its whole entry or, if writing it failed, a part that is not all of it, and
a rejected line the same of its diagnostic. -/
theorem contents_run (steps : List Step) (session : Session) :
    ∃ table diagnostics,
      Handling.AllLeave session.converter.style (session.history steps) table diagnostics ∧
        (session.run steps).2.converter.table.bytes = session.converter.table.bytes ++ table ∧
        (session.run steps).2.converter.diagnostics.bytes =
          session.converter.diagnostics.bytes ++ diagnostics := by
  rcases session.takesUp_run steps with
    ⟨table, diagnostics, leaves, tableAdded, diagnosticsAdded, _⟩
  exact ⟨table, diagnostics, leaves, tableAdded, diagnosticsAdded⟩

end Session

/-! ## Counts -/

/-- A converter that has not begun. Any faults may lie ahead of its sinks. -/
structure Converter.Unused (converter : Converter) : Prop where
  table : converter.table.bytes = []
  diagnostics : converter.diagnostics.bytes = []
  summary : converter.summary = {}

namespace Session

/-- The lines that a step takes up were read and so are unbroken, or there is one that was handed
over by itself. -/
theorem unbroken_of_mem_handlings {step : Step} {session : Session} {handling : Handling}
    (member : handling ∈ session.handlings step) :
    step = .line handling.line ∨ '\n' ∉ (Text.trimLineEnding handling.line).toList := by
  cases step with
  | line text =>
      left
      rw [List.mem_singleton.mp member]
  | convert source => exact .inr ((session.converter.runs source).unbroken handling member)
  | resume => exact .inr ((session.converter.runs session.unread).unbroken handling member)

theorem unbroken_of_mem_history {steps : List Step} {session : Session} {handling : Handling}
    (member : handling ∈ session.history steps) :
    .line handling.line ∈ steps ∨ '\n' ∉ (Text.trimLineEnding handling.line).toList := by
  induction steps generalizing session with
  | nil => cases member
  | cons step steps ih =>
      rw [history_cons, List.mem_append] at member
      cases member with
      | inl first =>
          apply (unbroken_of_mem_handlings first).imp_left
          intro same
          exact same ▸ List.mem_cons_self
      | inr later => exact (ih later).imp_left (List.mem_cons_of_mem step)

/-- In whichever state a session comes to, each line that was taken up is counted as an entry or as
a diagnostic, or it is one of those that could not be written; the line feeds of the table are as
many as the entries; and the line feeds of the diagnostics are as many as the diagnostics, unless a
line that was handed over by itself has line feeds of its own. -/
theorem counts_run (steps : List Step) (session : Session) (unused : session.converter.Unused) :
    let last := (session.run steps).2.converter
    last.summary.lines =
        last.summary.matched + last.summary.unmatched +
          (session.history steps).countP Handling.isUnwritten ∧
      last.table.bytes.count Bytes.lineFeed = last.summary.matched ∧
      ((∀ text, .line text ∈ steps → '\n' ∉ (Text.trimLineEnding text).toList) →
        last.diagnostics.bytes.count Bytes.lineFeed = last.summary.unmatched) := by
  intro last
  rcases session.takesUp_run steps with
    ⟨table, diagnostics, leave, tableAdded, diagnosticsAdded, _⟩
  have counted := run_of_isCumulative Converter.CountsUp.isCumulative steps session
  rw [unused.table, List.nil_append] at tableAdded
  rw [unused.diagnostics, List.nil_append] at diagnosticsAdded
  have lines := counted.lines
  have matched := counted.matched
  have unmatched := counted.unmatched
  rw [unused.summary, Nat.zero_add] at lines matched unmatched
  refine ⟨?_, ?_, ?_⟩
  · rw [lines, matched, unmatched]
    exact leave.length_eq
  · rw [matched, tableAdded]
    exact leave.count_table
  · intro unbroken
    rw [unmatched, diagnosticsAdded]
    apply leave.count_diagnostics
    intro handling member
    exact (unbroken_of_mem_history member).elim (unbroken _) id

/-- The table takes three bytes of the first entry and then refuses once. After that an entry and a
diagnostic are written in full, and a failure to read counts nowhere. -/
theorem counts_run_after_refusal :
    let limit : Limit :=
      { capacity := 3
        refusal := .failing .brokenPipe
        recurrence := .times 1
        interruptions_end := by decide }
    let session : Session :=
      { converter := { table := { limit := some limit }, diagnostics := {}, style := .coloured } }
    let steps : List Step :=
      [.line "'' (a) as B:", .line "x\r\n",
        .convert [.bytes (Utf8.encode "'' (a) as B:\n"), .failure .isADirectory]]
    let last := (session.run steps).2.converter
    last.summary = { lines := 3, matched := 1, unmatched := 1 } ∧
      (session.history steps).countP Handling.isUnwritten = 1 ∧
      last.table.bytes.count Bytes.lineFeed = 1 ∧
      last.diagnostics.bytes.count Bytes.lineFeed = 1 := by
  intro limit session steps last
  have unbroken : ∀ text, Step.line text ∈ steps →
      '\n' ∉ (Text.trimLineEnding text).toList := by
    intro text member
    have line : text = "'' (a) as B:" ∨ text = "x\r\n" := by simpa [steps] using member
    rcases line with rfl | rfl <;> decide
  have summary : (session.run steps).2.converter.summary =
      { lines := 3, matched := 1, unmatched := 1 } := by
    decide +kernel
  rcases counts_run steps session ⟨rfl, rfl, rfl⟩ with ⟨lines, table, diagnostics⟩
  rw [summary] at lines table diagnostics
  exact ⟨summary, (Nat.add_left_cancel lines).symm, table, diagnostics unbroken⟩

end Session

end ExpectationTable
