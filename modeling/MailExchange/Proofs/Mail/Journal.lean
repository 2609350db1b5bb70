import MailExchange.Mail.Message

namespace MailExchange

structure Journal (κ : Type) where
  consumer : κ
  /-- The mails that were handed over, with the answers to them. -/
  calls : List (Mail × Except Error Unit) := []

namespace Journal

variable {κ : Type} [Consumer κ]

instance : Consumer (Journal κ) where
  accepts journal := Consumer.accepts journal.consumer
  consume journal mail :=
    let (result, consumer) := Consumer.consume journal.consumer mail
    (result, ⟨consumer, journal.calls ++ [(mail, result)]⟩)

def taken (journal : Journal κ) : List Mail :=
  journal.calls.filterMap fun call => match call.2 with
    | .ok () => some call.1
    | .error _ => none

@[simp] theorem consume_result (journal : Journal κ) (mail : Mail) :
    (Consumer.consume journal mail).1 = (Consumer.consume journal.consumer mail).1 := rfl

@[simp] theorem consume_calls (journal : Journal κ) (mail : Mail) :
    (Consumer.consume journal mail).2.calls =
      journal.calls ++ [(mail, (Consumer.consume journal.consumer mail).1)] := rfl

theorem taken_ok (journal : Journal κ) {mail : Mail}
    (taken : (Consumer.consume journal mail).1 = .ok ()) :
    (Consumer.consume journal mail).2.taken = journal.taken ++ [mail] := by
  rw [consume_result] at taken
  rw [Journal.taken, consume_calls, List.filterMap_append, taken]
  rfl

theorem taken_error (journal : Journal κ) {mail : Mail} {error : Error}
    (failed : (Consumer.consume journal mail).1 = .error error) :
    (Consumer.consume journal mail).2.taken = journal.taken := by
  rw [consume_result] at failed
  rw [Journal.taken, consume_calls, List.filterMap_append, failed]
  exact List.append_nil _

end Journal

/-- A consumer that fails so many times before it takes a mail. -/
structure Reluctant where
  failures : Nat

instance : Consumer Reluctant where
  accepts _ _ := true
  consume consumer _ := match consumer.failures with
    | 0 => (.ok (), consumer)
    | failures + 1 => (.error .queueClosed, ⟨failures⟩)

end MailExchange
