import MailExchange.Proofs.Wire.Frame
import MailExchange.Wire.Session

/-!
A session does not see how its bytes are divided: to feed it a stream in pieces is to feed it the
whole. What each frame preserves, a run preserves.
-/

namespace MailExchange.Wire.Session

open Text (Bytes)

variable {σ : Type} [Session σ]

theorem isOver_iff {session : σ} : isOver session = false ↔ result? session = none := by
  rw [isOver, Option.isSome_eq_false_iff, Option.isNone_iff_eq_none]

theorem feed_over {session : σ} (finished : isOver session = true) (input : Bytes) :
    feed session input = (session, input) := by
  rw [feed, if_pos finished]

theorem feed_pending (session : σ) {input : Bytes} (pending : takeFrame? input = none) :
    feed session input = (session, input) := by
  rw [feed]
  split
  · rfl
  · split
    · rfl
    · rename_i found
      rw [pending] at found
      cases found

theorem feed_frame {session : σ} (running : isOver session = false) {input rest : Bytes}
    {frame : Frame} (found : takeFrame? input = some (frame, rest)) :
    feed session input = feed (take session (some frame)) rest := by
  rw [feed, if_neg (by rw [running]; exact Bool.false_ne_true)]
  split
  · rename_i pending
    rw [pending] at found
    cases found
  · rename_i other
    rw [other] at found
    cases found
    rfl

theorem run_over {session : σ} (finished : isOver session = true) (input : Bytes) :
    run session input = session := by
  simp only [run, feed_over finished, finished, if_true]

theorem run_pending {session : σ} (running : isOver session = false) {input : Bytes}
    (pending : takeFrame? input = none) : run session input = take session none := by
  simp only [run, feed_pending session pending, running, Bool.false_eq_true, if_false]

theorem run_frame {session : σ} (running : isOver session = false) {input rest : Bytes}
    {frame : Frame} (found : takeFrame? input = some (frame, rest)) :
    run session input = run (take session (some frame)) rest := by
  simp only [run, feed_frame running found]

theorem feed_append (session : σ) (first second : Bytes) :
    feed session (first ++ second) =
      feed (feed session first).1 ((feed session first).2 ++ second) := by
  fun_induction feed session first with
  | case1 session input finished => rfl
  | case2 session input running pending => rfl
  | case3 session input running frame rest found shorter ih =>
      rw [feed_frame (eq_false_of_ne_true running) (takeFrame_append found second)]
      exact ih

/-- What every frame preserves holds after a stream. -/
theorem feed_induction {P : σ → Prop}
    (step : ∀ session frame, isOver session = false → frame.Cut → P session →
      P (take session (some frame)))
    (session : σ) (input : Bytes) (start : P session) : P (feed session input).1 := by
  fun_induction feed session input with
  | case1 session input finished => exact start
  | case2 session input running pending => exact start
  | case3 session input running frame rest found shorter ih =>
      exact ih (step session frame (eq_false_of_ne_true running) (takeFrame_cut found) start)

theorem run_induction {P : σ → Prop}
    (step : ∀ session frame, isOver session = false → frame.Cut → P session →
      P (take session (some frame)))
    (ended : ∀ session, isOver session = false → P session → P (take session none))
    (session : σ) (input : Bytes) (start : P session) : P (run session input) := by
  have fed := feed_induction step session input start
  change P (if isOver (feed session input).1 then (feed session input).1
    else take (feed session input).1 none)
  split
  · exact fed
  · rename_i running
    exact ended _ (eq_false_of_ne_true running) fed

theorem feed_line {session : σ} (running : isOver session = false) {line : String}
    (fits : Fits line) :
    feed session (lineBytes line) = (take session (some (.line (Text.utf8 line))), []) := by
  have cut := takeFrame_fits fits []
  rw [List.append_nil] at cut
  rw [feed_frame running cut, feed_pending _ takeFrame_nil]

section Mapping

variable {τ : Type} [Session τ] (view : σ → τ)

theorem feed_map (taken : ∀ session frame, take (view session) frame = view (take session frame))
    (same_result : ∀ session, result? (view session) = result? session) (session : σ)
    (input : Bytes) :
    feed (view session) input = (view (feed session input).1, (feed session input).2) := by
  have same_over (session : σ) : isOver (view session) = isOver session :=
    congrArg Option.isSome (same_result session)
  fun_induction feed session input with
  | case1 session input finished => exact feed_over (by rw [same_over, finished]) input
  | case2 session input running pending => exact feed_pending _ pending
  | case3 session input running frame rest found shorter ih =>
      rw [feed_frame (by rw [same_over]; exact eq_false_of_ne_true running) found, taken, ih]

theorem run_map (taken : ∀ session frame, take (view session) frame = view (take session frame))
    (same_result : ∀ session, result? (view session) = result? session) (session : σ)
    (input : Bytes) : run (view session) input = view (run session input) := by
  have same_over : isOver (view (feed session input).1) = isOver (feed session input).1 :=
    congrArg Option.isSome (same_result _)
  simp only [run, feed_map view taken same_result, same_over, taken]
  split <;> rfl

end Mapping

section Relating

variable {τ : Type} [Session τ] {Related : σ → τ → Prop} {Allowed : σ → Prop}

theorem allowed_feed (closed : ∀ session frame, Allowed (take session frame) → Allowed session)
    {session : σ} {input : Bytes} (allowed : Allowed (feed session input).1) : Allowed session := by
  fun_induction feed session input with
  | case1 session input finished => exact allowed
  | case2 session input running pending => exact allowed
  | case3 session input running frame rest found shorter ih =>
      exact closed session (some frame) (ih allowed)

theorem feed_related (closed : ∀ session frame, Allowed (take session frame) → Allowed session)
    (same_over : ∀ left right, Related left right → isOver right = isOver left)
    (step : ∀ left right frame, Related left right → Allowed (take left frame) →
      Related (take left frame) (take right frame))
    {left : σ} {right : τ} {input : Bytes} (related : Related left right)
    (allowed : Allowed (feed left input).1) :
    Related (feed left input).1 (feed right input).1 := by
  fun_induction feed left input generalizing right with
  | case1 left input finished =>
      rw [feed_over (by rw [same_over left right related, finished])]
      exact related
  | case2 left input running pending =>
      rw [feed_pending right pending]
      exact related
  | case3 left input running frame rest found shorter ih =>
      have also_running : isOver right = false := by
        rw [same_over left right related]
        exact eq_false_of_ne_true running
      rw [feed_frame also_running found]
      exact ih (step left right (some frame) related (allowed_feed closed allowed)) allowed

/-- Two sessions that are related stay so on the same stream, if each frame keeps them so as long as
something holds that, once lost, does not come back. -/
theorem run_related (closed : ∀ session frame, Allowed (take session frame) → Allowed session)
    (same_over : ∀ left right, Related left right → isOver right = isOver left)
    (step : ∀ left right frame, Related left right → Allowed (take left frame) →
      Related (take left frame) (take right frame))
    {left : σ} {right : τ} {input : Bytes} (related : Related left right)
    (allowed : Allowed (run left input)) : Related (run left input) (run right input) := by
  change Allowed (if isOver (feed left input).1 then _ else _) at allowed
  change Related (if isOver (feed left input).1 then _ else _)
    (if isOver (feed right input).1 then _ else _)
  by_cases finished : isOver (feed left input).1 = true
  · rw [if_pos finished] at allowed
    have fed := feed_related closed same_over step related allowed
    rw [if_pos finished, if_pos (by rw [same_over _ _ fed, finished])]
    exact fed
  · rw [if_neg finished] at allowed
    have fed := feed_related closed same_over step related (closed _ _ allowed)
    rw [if_neg finished, if_neg (by rw [same_over _ _ fed]; exact finished)]
    exact step _ _ none fed allowed

end Relating

end MailExchange.Wire.Session
