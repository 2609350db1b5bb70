import MailExchange.Proofs.Access.Grammar
import MailExchange.Proofs.Access.Limits

namespace MailExchange.Access

open Wire (Carriable Channel Endpoint Linked Live Talk)

theorem Account.perform_absent {account : Account Mailboxes} {user : String} {request : Request}
    {id : MessageId} (signed : account.user = some user)
    (numbered : request.command.number? = some id) (absent : account.store.get? user id = none)
    (users : Users) :
    ∃ store, account.perform users request =
        (.error "unknown message id", { account with store }) ∧
      ∀ other, store.list other = account.store.list other := by
  cases request with
  | view other =>
      cases numbered
      refine ⟨account.store, ?_, fun _ => rfl⟩
      rw [perform, asUser_some signed, view_absent absent]
  | delete other =>
      cases numbered
      obtain ⟨not_found, same⟩ := Mailboxes.delete_absent absent
      refine ⟨(account.store.delete user id).2, ?_, same⟩
      rw [perform, asUser_some signed]
      exact delete_absent not_found
  | _ => cases numbered

namespace Served

variable {session : Session} {user : String} {channel : Channel (Live Session)} {request : Request}
  {id : MessageId}

theorem absent (served : Served session user channel)
    (numbered : request.command.number? = some id) (short : id.toNat < 10 ^ 19)
    (absent : session.site.mailboxes.get? user id = none) :
    ∃ next after, (Client.perform request).run channel =
        (.error (.remote "unknown message id"), after) ∧
      Served next user after ∧
      ∀ other, next.site.mailboxes.list other = session.site.mailboxes.list other := by
  let heard := session.hearing request.command.line
  have signed : heard.account.user = some user := served.signed
  obtain ⟨store, performed, same⟩ :=
    Account.perform_absent signed numbered absent heard.site.users
  let next : Session := { heard with site.mailboxes := store }
  have executed : heard.execute request.command = next.say ["error unknown message id"] := by
    rw [Session.execute_request, performed, Session.settle, Session.turn_store]
    rfl
  have refusal : Carriable session.endpoint.isEncrypted "error unknown message id" := by
    cases session.endpoint.isEncrypted <;> decide
  have carriable : ∀ line ∈ [request.command.line, "error unknown message id"],
      Carriable session.endpoint.isEncrypted line := by
    rw [List.forall_mem_cons, List.forall_mem_singleton]
    exact ⟨numbered_carriable numbered _, refusal⟩
  obtain ⟨after, asked, linked⟩ := Session.request_linked served.linked served.waiting
    served.running ((Command.wellFormed_numbered numbered).mpr short) carriable executed
    ⟨rfl, rfl, rfl⟩
  exact ⟨_, after, Client.perform_error asked,
    ⟨linked, served.waiting, served.running, served.signed⟩, same⟩

theorem malformed (served : Served session user channel)
    (numbered : request.command.number? = some id) (long : 10 ^ 19 ≤ id.toNat) :
    ∃ after, (Client.perform request).run channel =
        (.error (.remote "protocol error"), after) ∧
      after.peer.session.result? = some (.error (.protocol "malformed command")) := by
  have refusal : Carriable session.endpoint.isEncrypted "error protocol error" := by
    cases session.endpoint.isEncrypted <;> decide
  have carriable : ∀ line ∈ [request.command.line, "error protocol error"],
      Carriable session.endpoint.isEncrypted line := by
    rw [List.forall_mem_cons, List.forall_mem_singleton]
    exact ⟨numbered_carriable numbered _, refusal⟩
  have taken := Session.take_malformed served.waiting (Command.parse_numbered numbered long)
    (numbered_carriable numbered _)
  obtain ⟨after, asked, linked⟩ := Session.exchange_linked served.linked served.running carriable
    taken ⟨rfl, rfl, rfl⟩ rfl
  refine ⟨after, Client.perform_error asked, ?_⟩
  rw [linked.peer]
  change some (session.result?.getD (.error (.protocol "malformed command"))) = _
  rw [served.running]
  rfl

end Served

/-- Which commands are read from their own lines, and what comes of asking for a message. The line of a
command with an id is read exactly if the id has at most nineteen digits. Then a message that is not
there is refused and the session goes on with all mail as it was; an id that is longer, though it is a
number of 64 bits like the others, ends the session. -/
theorem ids_read {session : Session} {user : String} {channel : Channel (Live Session)}
    (served : Served session user channel) :
    (∀ command : Command, Command.parse? command.line = some command ↔ command.WellFormed) ∧
    (∀ (command : Command) (id : MessageId), command.number? = some id →
      Command.parse? command.line = if id.toNat < 10 ^ 19 then some command else none) ∧
    ∀ (request : Request) (id : MessageId), request.command.number? = some id →
      (id.toNat < 10 ^ 19 → session.site.mailboxes.get? user id = none →
        ∃ next after, (Client.perform request).run channel =
            (.error (.remote "unknown message id"), after) ∧
          Served next user after ∧
          ∀ other, next.site.mailboxes.list other = session.site.mailboxes.list other) ∧
      (10 ^ 19 ≤ id.toNat →
        ∃ after, (Client.perform request).run channel =
            (.error (.remote "protocol error"), after) ∧
          after.peer.session.result? = some (.error (.protocol "malformed command"))) := by
  refine ⟨fun command => Command.parse_line_iff, ?_, ?_⟩
  · intro command id numbered
    split
    · rename_i short
      exact Command.parse_line ((Command.wellFormed_numbered numbered).mpr short)
    · rename_i long
      exact Command.parse_numbered numbered (Nat.not_lt.mp long)
  · intro request id numbered
    exact ⟨served.absent numbered, served.malformed numbered⟩

/-- The last id of all ends a session, and the last of nineteen digits does not. -/
theorem last_id_unread : ∃ greeted opened session ended next refused,
    Client.readGreeting.run (Live.connect (.ofProtocol "near") (Session.greet (.ofProtocol "far")
      (lab {}))) = (.ok (), greeted) ∧
    (Client.login "dib" "moose").run greeted = (.ok (), opened) ∧
    Served session "dib" opened ∧
    Command.parse? (Command.view 18446744073709551615).line = none ∧
    (Client.perform (.view 18446744073709551615)).run opened =
      (.error (.remote "protocol error"), ended) ∧
    ended.peer.session.result? = some (.error (.protocol "malformed command")) ∧
    (Client.perform (.view 9999999999999999999)).run opened =
      (.error (.remote "unknown message id"), refused) ∧
    Served next "dib" refused := by
  have known : (lab {}).users.has "dib" = true := rfl
  have accepted : (lab {}).users.accepts "dib" "moose" = true := rfl
  obtain ⟨greeted, opened, session, read, signed_in, served, same_site, _⟩ :=
    Served.login (.ofProtocol "near") (.ofProtocol "far") known accepted
      ⟨⟨by decide, by decide⟩, by decide, by decide⟩ (by decide)
  have absent (id : MessageId) : session.site.mailboxes.get? "dib" id = none := by
    rw [same_site]
    rfl
  obtain ⟨_, lines, asked⟩ := ids_read served
  obtain ⟨_, malformed⟩ := asked (.view 18446744073709551615) 18446744073709551615 rfl
  obtain ⟨unknown, _⟩ := asked (.view 9999999999999999999) 9999999999999999999 rfl
  obtain ⟨ended, cut_off, finished⟩ := malformed (by decide)
  obtain ⟨next, refused, refusal, goes_on, _⟩ := unknown (by decide) (absent _)
  exact ⟨greeted, opened, session, ended, next, refused, read, signed_in, served,
    lines (.view 18446744073709551615) _ rfl, cut_off, finished, refusal, goes_on⟩

end MailExchange.Access
