import MailExchange.Proofs.Text.SortedSet
import MailExchange.Relay.Relayer

namespace MailExchange.Relay

open Text (TextSet)

namespace Attempt

def failure? (attempt : Attempt) : Option Error :=
  match attempt.outcome with
  | .unresolved => none
  | .unreached error => some error
  | .transferred ⟨.error error, _⟩ _ => some error
  | .transferred ⟨.ok (), _⟩ _ => none

theorem error_some {attempt : Attempt} {text : String} :
    attempt.error? = some text ↔
      attempt.outcome = .unresolved ∧ text = unknownDomain attempt.domain ∨
        ∃ error, attempt.failure? = some error ∧ text = failure attempt.domain error := by
  rcases attempt with ⟨domain, recipients, outcome⟩
  cases outcome with
  | unresolved => simp [error?, failure?, eq_comm]
  | unreached error => simp [error?, failure?, eq_comm]
  | transferred submission endpoint =>
      rcases submission with ⟨result, refused⟩
      cases result with
      | error error => simp [error?, failure?, eq_comm]
      | ok value => simp [error?, failure?]

theorem error_none {attempt : Attempt} (unfailed : attempt.error? = none) :
    ∃ refused endpoint, attempt.outcome = .transferred ⟨.ok (), refused⟩ endpoint := by
  rcases attempt with ⟨domain, recipients, outcome⟩
  cases outcome with
  | unresolved => cases unfailed
  | unreached error => cases unfailed
  | transferred submission endpoint =>
      rcases submission with ⟨result, refused⟩
      cases result with
      | error error => cases unfailed
      | ok value => exact ⟨refused, endpoint, rfl⟩

theorem unknown_subset (attempt : Attempt) : attempt.unknown ⊆ attempt.recipients := by
  intro recipient member
  rw [unknown] at member
  split at member
  · obtain ⟨user, _, named⟩ := List.mem_filterMap.mp member
    exact List.mem_of_find?_eq_some named
  · cases member

end Attempt

namespace Report

variable {report : Report} {attempt : Attempt} {attempts : List Attempt} {invalid : List String}
  {text : String}

theorem mem_foldl_addAttempt {set : Report → TextSet} {adds : Attempt → String → Prop}
    (step : ∀ report attempt text,
      text ∈ set (addAttempt report attempt) ↔ text ∈ set report ∨ adds attempt text) :
    text ∈ set (attempts.foldl addAttempt report) ↔
      text ∈ set report ∨ ∃ attempt ∈ attempts, adds attempt text := by
  induction attempts generalizing report with
  | nil => simp
  | cons attempt attempts ih =>
      calc text ∈ set ((attempt :: attempts).foldl addAttempt report)
        _ ↔ text ∈ set (addAttempt report attempt) ∨ ∃ other ∈ attempts, adds other text := ih
        _ ↔ text ∈ set report ∨ ∃ other ∈ attempt :: attempts, adds other text := by
            rw [step, List.exists_mem_cons_iff, or_assoc]

theorem mem_unknown_addAttempt (report : Report) (attempt : Attempt) (text : String) :
    text ∈ (addAttempt report attempt).unknown ↔
      text ∈ report.unknown ∨ text ∈ attempt.unknown := by
  rw [addAttempt]
  cases attempt.error? <;> simp only [TextSet.mem_insertAll, or_comm]

theorem mem_errors_addAttempt (report : Report) (attempt : Attempt) (text : String) :
    text ∈ (addAttempt report attempt).errors ↔
      text ∈ report.errors ∨ attempt.error? = some text := by
  rw [addAttempt]
  cases attempt.error? with
  | none => simp only [reduceCtorEq, or_false]
  | some error => simp only [TextSet.mem_insert, Option.some.injEq, eq_comm, or_comm]

theorem mem_failed_addAttempt (report : Report) (attempt : Attempt) (text : String) :
    text ∈ (addAttempt report attempt).failed ↔
      text ∈ report.failed ∨ attempt.error? ≠ none ∧ text ∈ attempt.recipients := by
  rw [addAttempt]
  cases attempt.error? with
  | none => simp only [ne_eq, not_true_eq_false, false_and, or_false]
  | some error =>
      simp only [TextSet.mem_insertAll, ne_eq, reduceCtorEq, not_false_eq_true, true_and, or_comm]

theorem mem_unknown : text ∈ (ofAttempts invalid attempts).unknown ↔
    text ∈ invalid ∨ ∃ attempt ∈ attempts, text ∈ attempt.unknown := by
  rw [ofAttempts, mem_foldl_addAttempt mem_unknown_addAttempt, TextSet.mem_ofList]

theorem mem_errors : text ∈ (ofAttempts invalid attempts).errors ↔
    ∃ attempt ∈ attempts, attempt.error? = some text := by
  rw [ofAttempts, mem_foldl_addAttempt mem_errors_addAttempt, or_iff_right List.not_mem_nil]

theorem mem_failed : text ∈ (ofAttempts invalid attempts).failed ↔
    ∃ attempt ∈ attempts, attempt.error? ≠ none ∧ text ∈ attempt.recipients := by
  rw [ofAttempts, mem_foldl_addAttempt mem_failed_addAttempt, or_iff_right List.not_mem_nil]

theorem errors_sorted (invalid : List String) (attempts : List Attempt) :
    (ofAttempts invalid attempts).errors.Sorted := by
  have step (report : Report) (attempt : Attempt) (sorted : report.errors.Sorted) :
      (addAttempt report attempt).errors.Sorted := by
    rw [addAttempt]
    cases attempt.error? with
    | none => exact sorted
    | some error => exact sorted.insert error
  have all (attempts : List Attempt) (report : Report) (sorted : report.errors.Sorted) :
      (attempts.foldl addAttempt report).errors.Sorted := by
    induction attempts generalizing report with
    | nil => exact sorted
    | cons attempt attempts ih => exact ih (addAttempt report attempt) (step report attempt sorted)
  exact all attempts _ List.Pairwise.nil

theorem isClean_empty (clean : report.isClean = true) :
    report.unknown = [] ∧ report.errors = [] ∧ report.failed = [] := by
  simpa only [isClean, Bool.and_eq_true, List.isEmpty_iff, and_assoc] using clean

end Report

end MailExchange.Relay
