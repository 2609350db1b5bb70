import MailExchange.Proofs.Wire.Session

namespace MailExchange.Wire

open Text (Bytes)

/-- A frame, or the end of the connection, and the session that meets it. -/
structure Moment (σ : Type) where
  before : σ
  frame : Option Frame

variable {σ : Type} [Session σ]

def Moment.after (moment : Moment σ) : σ := Session.take moment.before moment.frame

structure Trailed (σ : Type) where
  session : σ
  trail : List (Moment σ) := []

namespace Trailed

def take (trailed : Trailed σ) (frame : Option Frame) : Trailed σ :=
  ⟨Session.take trailed.session frame, trailed.trail ++ [⟨trailed.session, frame⟩]⟩

instance : Session (Trailed σ) where
  take := take
  result? trailed := Session.result? trailed.session
  sent trailed := Session.sent trailed.session

end Trailed

namespace Session

def trail (session : σ) (input : Bytes) : List (Moment σ) :=
  (run ({ session } : Trailed σ) input).trail

theorem trail_frame {session : σ} (running : isOver session = false) {input rest : Bytes}
    {frame : Frame} (found : takeFrame? input = some (frame, rest)) :
    trail session input = ⟨session, some frame⟩ :: trail (take session (some frame)) rest := by
  let behind (trailed : Trailed σ) : Trailed σ :=
    ⟨trailed.session, ⟨session, some frame⟩ :: trailed.trail⟩
  have further := run_map behind (fun _ _ => rfl) (fun _ => rfl)
    { session := take session (some frame) } rest
  have running_trailed : isOver ({ session } : Trailed σ) = false := running
  have first : run ({ session } : Trailed σ) input =
      run (behind { session := take session (some frame) }) rest := by
    rw [run, feed_frame running_trailed found]
    rfl
  rw [trail, first, further]
  rfl

theorem trail_pending {session : σ} (running : isOver session = false) {input : Bytes}
    (pending : takeFrame? input = none) : trail session input = [⟨session, none⟩] := by
  have running_trailed : isOver ({ session } : Trailed σ) = false := running
  rw [trail, run, feed_pending _ pending]
  simp only [running_trailed, Bool.false_eq_true, if_false]
  rfl

/-- These moments, one after another, lead from one session to another. -/
def Passes (start : σ) : List (Moment σ) → σ → Prop
  | [], final => final = start
  | moment :: later, final =>
    moment.before = start ∧ isOver start = false ∧ Passes moment.after later final

theorem passes_append {start final : σ} {first second : List (Moment σ)} :
    Passes start (first ++ second) final ↔
      ∃ middle, Passes start first middle ∧ Passes middle second final := by
  induction first generalizing start with
  | nil =>
      constructor
      · intro passes
        exact ⟨start, rfl, passes⟩
      · rintro ⟨middle, rfl, passes⟩
        exact passes
  | cons moment first ih =>
      constructor
      · rintro ⟨meets, running, passes⟩
        obtain ⟨middle, passes_first, passes_second⟩ := ih.mp passes
        exact ⟨middle, ⟨meets, running, passes_first⟩, passes_second⟩
      · rintro ⟨middle, ⟨meets, running, passes_first⟩, passes_second⟩
        exact ⟨meets, running, ih.mpr ⟨middle, passes_first, passes_second⟩⟩

theorem Passes.nothing_left {start final : σ} {moments : List (Moment σ)}
    (passes : Passes start moments final) (finished : isOver start = true) :
    moments = [] ∧ final = start := by
  cases moments with
  | nil => exact ⟨rfl, passes⟩
  | cons moment later => exact absurd (passes.2.1.symm.trans finished) Bool.false_ne_true

theorem Passes.cut {start final : σ} {earlier later : List (Moment σ)} {moment : Moment σ}
    (passes : Passes start (earlier ++ moment :: later) final) :
    Passes start earlier moment.before ∧ isOver moment.before = false ∧
      Passes moment.after later final := by
  obtain ⟨middle, passes_earlier, rfl, running, passes_later⟩ := passes_append.mp passes
  exact ⟨passes_earlier, running, passes_later⟩

theorem Passes.induction {P : σ → Prop}
    (step : ∀ moment : Moment σ, isOver moment.before = false → P moment.before → P moment.after)
    {start final : σ} {moments : List (Moment σ)} (passes : Passes start moments final)
    (holds : P start) : P final := by
  induction moments generalizing start with
  | nil =>
      rw [show final = start from passes]
      exact holds
  | cons moment later ih =>
      obtain ⟨rfl, running, passes_later⟩ := passes
      exact ih passes_later (step moment running holds)

theorem trail_passes (session : σ) (input : Bytes) :
    Passes session (trail session input) (run session input) := by
  have same_end : (run ({ session } : Trailed σ) input).session = run session input :=
    (run_map Trailed.session (fun _ _ => rfl) (fun _ => rfl) _ input).symm
  have onward (trailed : Trailed σ) (frame : Option Frame) (running : isOver trailed = false)
      (passes : Passes session trailed.trail trailed.session) :
      Passes session (trailed.take frame).trail (trailed.take frame).session :=
    passes_append.mpr ⟨trailed.session, passes, rfl, running, rfl⟩
  rw [trail, ← same_end]
  apply run_induction (P := fun trailed : Trailed σ => Passes session trailed.trail trailed.session)
  · exact fun trailed frame running _ passes => onward trailed (some frame) running passes
  · exact fun trailed running passes => onward trailed none running passes
  · rfl

end Session

end MailExchange.Wire
