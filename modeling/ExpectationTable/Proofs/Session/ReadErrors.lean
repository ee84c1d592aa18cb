import ExpectationTable.Proofs.Session.Resuming

/-!
# Ill encoded or not read

Two errors of an input are told apart: a line that is not well encoded, and a failure to read. Each
step is seen here together with what it uses up of its input, whose last delivery decides on the
error. Bytes that are no text are always reported as ill encoded. A failure to read is reported as
such, unless it is a failure of the one kind that bytes without a text give as well.
-/

namespace ExpectationTable

theorem ConversionError.eq_of_ofInput?_eq_some {error input : ConversionError}
    (found : error.ofInput? = some input) : error = input := by
  cases error with
  | read line cause => exact Option.some.inj found
  | illEncoded line => exact Option.some.inj found
  | write stream cause => cases found

theorem StepResult.eq_failed_of_inputError? {result : StepResult} {error : ConversionError}
    (found : result.inputError? = some error) : result = .failed error := by
  cases result with
  | handled outcome => cases found
  | finished summary => cases found
  | failed met => exact congrArg failed (ConversionError.eq_of_ofInput?_eq_some found)

/-- What a step uses up of its input, its result, and how many lines have been taken up by then. -/
structure Account where
  consumed : List Delivery
  result : StepResult
  lines : Nat

namespace Account

/-- A line is reported as ill encoded only if it is: it is the last that was used up, and its bytes
are no text. Each failure to read is reported as a failure to read the line after those taken up,
with the cause that it has. -/
structure KeepsErrorsApart (account : Account) : Prop where
  illEncoded (line : Nat) : account.result = .failed (.illEncoded line) →
    ∃ bytes, account.consumed.getLast? = some (.line bytes) ∧ Utf8.decode? bytes = none
  read (cause : Failure) : .failure cause ∈ account.consumed →
    account.result = .failed (.read (account.lines + 1) cause)

/-- Lines that are well encoded were used up, and then at most one more delivery. If a failure is
met in that one, it decides on the result, and otherwise the input has no part in it. -/
structure Ends (account : Account) (taken : List String) (last : Option Delivery) : Prop where
  consumed : account.consumed = (taken.map fun text => .line (Utf8.encode text)) ++ last.toList
  error : account.result.inputError? =
    (last.bind Delivery.fault?).map (.ofReadFailure (account.lines + 1))

namespace Ends

variable {account : Account} {taken : List String} {last : Option Delivery}
  (ends : account.Ends taken last)

include ends

theorem result_eq {failure : Failure} (met : last.bind Delivery.fault? = some failure) :
    account.result = .failed (.ofReadFailure (account.lines + 1) failure) := by
  apply StepResult.eq_failed_of_inputError?
  rw [ends.error, met]
  rfl

theorem last_eq_of_mem {cause : Failure} (member : .failure cause ∈ account.consumed) :
    last = some (.failure cause) := by
  rw [ends.consumed, List.mem_append] at member
  rcases member with line | last
  · rcases List.mem_map.mp line with ⟨text, _, same⟩
    cases same
  · exact Option.mem_toList.mp last

/-- A line that is reported as ill encoded is the one after those taken up. Its bytes are no text,
or a failure of the same kind was met instead of it. -/
theorem getLast?_of_illEncoded {line : Nat}
    (reported : account.result = .failed (.illEncoded line)) :
    line = account.lines + 1 ∧
      ((∃ bytes, account.consumed.getLast? = some (.line bytes) ∧ Utf8.decode? bytes = none) ∨
        ∃ cause, account.consumed.getLast? = some (.failure cause) ∧
          cause.kind = .invalidData) := by
  have found : account.result.inputError? = some (.illEncoded line) := by
    rw [reported]
    rfl
  rw [ends.error, Option.map_eq_some_iff] at found
  rcases found with ⟨failure, met, same⟩
  rcases Option.bind_eq_some_iff.mp met with ⟨delivery, rfl, fault⟩
  have final : account.consumed.getLast? = some delivery := by simp [ends.consumed]
  rw [ConversionError.ofReadFailure] at same
  split at same
  next kind =>
    cases same
    refine ⟨rfl, ?_⟩
    rcases Delivery.fault?_eq_some_iff.mp fault with rfl | ⟨bytes, rfl, invalid, _⟩
    · exact .inr ⟨failure, final, kind⟩
    · exact .inl ⟨bytes, final, invalid⟩
  next => cases same

theorem keepsErrorsApart_iff :
    account.KeepsErrorsApart ↔
      ∀ cause, .failure cause ∈ account.consumed → cause.kind ≠ .invalidData := by
  constructor
  · intro apart cause member kind
    have met := ends.result_eq (congrArg (·.bind Delivery.fault?) (ends.last_eq_of_mem member))
    rw [apart.read cause member, ConversionError.ofReadFailure, if_pos kind] at met
    cases met
  · intro distinct
    constructor
    · intro line reported
      rcases (ends.getLast?_of_illEncoded reported).2 with undecoded | ⟨cause, final, kind⟩
      · exact undecoded
      · exact absurd kind (distinct cause (List.mem_of_getLast? final))
    · intro cause member
      have met := ends.result_eq (congrArg (·.bind Delivery.fault?) (ends.last_eq_of_mem member))
      rwa [ConversionError.ofReadFailure, if_neg (distinct cause member)] at met

end Ends

end Account

namespace Session

/-- The input that a step reads. A line that is handed over by itself is not read. -/
def input (step : Step) (session : Session) : Source :=
  match step with
  | .line _ => []
  | .convert source => source
  | .resume => session.unread

/-- The account of a step. What it uses up are the deliveries of its input up to those that it
leaves. -/
def account (step : Step) (session : Session) : Account :=
  let (result, after) := session.step step
  let delivered := (session.input step).deliveries
  { consumed := delivered.take (delivered.length - after.unread.deliveries.length)
    result
    lines := after.converter.summary.lines }

def accounts : List Step → Session → List Account
  | [], _ => []
  | step :: steps, session => session.account step :: (session.step step).2.accounts steps

theorem forall_mem_accounts {property : Account → Prop}
    (each : ∀ step session, property (Session.account step session)) (steps : List Step)
    (session : Session) : ∀ account ∈ session.accounts steps, property account := by
  induction steps generalizing session with
  | nil =>
      intro account member
      cases member
  | cons step steps ih => exact List.forall_mem_cons.mpr ⟨each step session, ih _⟩

/-- The accounts have the results and the counts that the steps are answered with. -/
theorem map_run_eq_map_accounts (steps : List Step) (session : Session) :
    (session.run steps).1.map (fun answer => (answer.result, answer.summary.lines)) =
      (session.accounts steps).map fun account => (account.result, account.lines) := by
  induction steps generalizing session with
  | nil => rfl
  | cons step steps ih =>
      exact congrArg (((session.step step).1, (session.step step).2.converter.summary.lines) :: ·)
        (ih (session.step step).2)

/-- Each step uses up its lines and at most one more delivery. -/
theorem exists_ends_account (step : Step) (session : Session) :
    ∃ taken last, (session.account step).Ends taken last := by
  have input (source : Source) :
      ∃ taken last, (session.account (.convert source)).Ends taken last := by
    rcases (session.converter.runs source).exists_last with ⟨last, delivered, _, error, _⟩
    refine ⟨(session.converter.handlings source).map Handling.line, last, ?_, ?_⟩
    · change source.deliveries.take (source.deliveries.length -
        (session.converter.convert source).unread.deliveries.length) = _
      rw [delivered, List.length_append, Nat.add_sub_cancel, List.take_left]
    · exact (session.inputError?_step_convert source).trans error
  cases step with
  | line text => exact ⟨[], none, List.take_nil, session.inputError?_step_line text⟩
  | convert source => exact input source
  | resume => exact input session.unread

/-- Whatever a session is asked to do, a line is reported as ill encoded only if its bytes are no
text or a failure of the same kind was met instead of it. Each failure to read that a step uses up
ends that step, with an error for the line after those taken up. The two errors of an input are kept
apart in all steps exactly if none of these failures is of the kind of bytes that are no text. -/
theorem keepsErrorsApart_run_iff (steps : List Step) (session : Session) :
    let accounts := session.accounts steps
    (session.run steps).1.map (fun answer => (answer.result, answer.summary.lines)) =
        accounts.map (fun account => (account.result, account.lines)) ∧
      (∀ account ∈ accounts, ∀ line, account.result = .failed (.illEncoded line) →
        line = account.lines + 1 ∧
          ((∃ bytes, account.consumed.getLast? = some (.line bytes) ∧
              Utf8.decode? bytes = none) ∨
            ∃ cause, account.consumed.getLast? = some (.failure cause) ∧
              cause.kind = .invalidData)) ∧
      (∀ account ∈ accounts, ∀ cause, .failure cause ∈ account.consumed →
        account.result = .failed (.ofReadFailure (account.lines + 1) cause)) ∧
      ((∀ account ∈ accounts, account.KeepsErrorsApart) ↔
        ∀ account ∈ accounts, ∀ cause, .failure cause ∈ account.consumed →
          cause.kind ≠ .invalidData) := by
  intro accounts
  refine ⟨session.map_run_eq_map_accounts steps, ?_, ?_, ?_⟩
  · apply forall_mem_accounts
    intro step session line reported
    rcases session.exists_ends_account step with ⟨taken, last, ends⟩
    exact ends.getLast?_of_illEncoded reported
  · apply forall_mem_accounts
    intro step session cause member
    rcases session.exists_ends_account step with ⟨taken, last, ends⟩
    exact ends.result_eq (congrArg (·.bind Delivery.fault?) (ends.last_eq_of_mem member))
  · have each : ∀ account ∈ accounts, account.KeepsErrorsApart ↔
        ∀ cause, .failure cause ∈ account.consumed → cause.kind ≠ .invalidData := by
      apply forall_mem_accounts
      intro step session
      rcases session.exists_ends_account step with ⟨taken, last, ends⟩
      exact ends.keepsErrorsApart_iff
    exact forall₂_congr each

/-- A source that fails with the kind of bytes that are no text is reported as ill encoded, though
it has delivered no bytes at all. -/
theorem not_keepsErrorsApart_of_invalidData :
    let cause : Failure := ⟨.invalidData, "corrupt"⟩
    let session : Session := { converter := { table := {}, diagnostics := {}, style := .plain } }
    let steps : List Step := [.convert [.failure cause]]
    (session.run steps).1.map Answer.result = [.failed (.illEncoded 1)] ∧
      ¬∀ account ∈ session.accounts steps, account.KeepsErrorsApart := by
  intro cause session steps
  have results : (session.run steps).1.map Answer.result = [.failed (.illEncoded 1)] := by
    decide +kernel
  have consumed : (session.account (.convert [.failure cause])).consumed = [.failure cause] := by
    decide +kernel
  refine ⟨results, ?_⟩
  intro apart
  have answered := (apart _ (List.mem_singleton.mpr rfl)).read cause
    (consumed ▸ List.mem_singleton.mpr rfl)
  have result : (session.account (.convert [.failure cause])).result = .failed (.illEncoded 1) := by
    decide +kernel
  cases result.symm.trans answered

end Session

end ExpectationTable
