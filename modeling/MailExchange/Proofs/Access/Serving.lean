import MailExchange.Proofs.Access.Command
import MailExchange.Proofs.Access.Replies
import MailExchange.Proofs.Wire.Handshake

namespace MailExchange

theorem Keys.Store.publicKey_named {keys kept : Keys.Store} {files : Files.Tree} {identity : String}
    {key : Rsa.PublicKey} (looked : keys.publicKey files identity = (.ok key, kept)) :
    identity ≠ "" := by
  rintro rfl
  simp only [publicKey, look, show isIdentity "" = false from rfl, Bool.false_eq_true, if_false,
    Prod.mk.injEq, reduceCtorEq, false_and] at looked

namespace Access

open Text (Bytes)
open Wire (Carriable Channel Endpoint Lane Linked Live Talk)
open Wire.Handshake (Secrets)

namespace Session

section Saying

variable {session : Session} {line : String} {lines : List String}

def saying (session : Session) (lines : List String) : Session :=
  { session with endpoint := session.endpoint.wroteAll lines }

theorem say_wrote (session : Session) (one_line : ∀ line ∈ lines, '\n' ∉ line.toList) :
    session.say lines = session.saying lines := by
  rw [say, session.endpoint.writeAll_wrote one_line]
  rfl

def hearing (session : Session) (line : String) : Session :=
  { session with endpoint := session.endpoint.took line }

theorem take_line (waiting : session.stage = .commands)
    (carriable : Carriable session.endpoint.isEncrypted line) :
    session.take (some (.line (Text.utf8 (session.endpoint.inbound.wire line)))) =
      (session.hearing line).interpret line := by
  rw [← Endpoint.inbound_isSome] at carriable
  simp only [take, waiting, session.endpoint.decode_wire carriable, hearing]

theorem take_command {command : Command} (waiting : session.stage = .commands)
    (formed : command.WellFormed)
    (carriable : Carriable session.endpoint.isEncrypted command.line) :
    session.take (some (.line (Text.utf8 (session.endpoint.inbound.wire command.line)))) =
      (session.hearing command.line).execute command := by
  rw [take_line waiting carriable]
  simp only [interpret, Command.parse_line formed]

theorem take_malformed (waiting : session.stage = .commands)
    (unread : Command.parse? line = none)
    (carriable : Carriable session.endpoint.isEncrypted line) :
    session.take (some (.line (Text.utf8 (session.endpoint.inbound.wire line)))) =
      ((session.hearing line).saying ["error protocol error"]).finish
        (.error (.protocol "malformed command")) := by
  have one_line : ∀ reply ∈ ["error protocol error"], '\n' ∉ reply.toList := by decide
  rw [take_line waiting carriable]
  simp only [interpret, unread, say_wrote _ one_line]

theorem startSecure_again (secure : session.endpoint.isEncrypted = true) :
    session.startSecure = session.say ["error already secure"] := by
  rw [startSecure, if_pos secure]

theorem startSecure_first {key : Rsa.PrivateKey} {keys : Keys.Store}
    (clear : session.endpoint.isEncrypted = false)
    (held : session.site.keys.privateKey session.site.files session.site.identity =
      (.ok key, keys)) :
    session.startSecure =
      { session with site.keys := keys, stage := .securing key .offer }.say
        ["ok " ++ session.site.identity] := by
  rw [startSecure, if_neg (by rw [clear]; exact Bool.false_ne_true)]
  simp only [held]

end Saying

/-- Two ends of which one has only been named anew. -/
structure SameLanes (before after : Endpoint) : Prop where
  sent : after.sent = before.sent
  inbound : after.inbound = before.inbound
  outbound : after.outbound = before.outbound

theorem SameLanes.isEncrypted {before after : Endpoint} (same : SameLanes before after) :
    after.isEncrypted = before.isEncrypted := by
  rw [← Endpoint.inbound_isSome, same.inbound, Endpoint.inbound_isSome]

theorem turn_lanes (session : Session) (account : Account Mailboxes) :
    SameLanes session.endpoint (session.turn account).endpoint := by
  rw [turn]
  split <;> exact ⟨rfl, rfl, rfl⟩

section Linking

variable {session next : Session} {channel : Channel (Live Session)} {command : Command}
  {reply : String} {replies : List String}

theorem exchange_linked {line : String} {far : Endpoint}
    (linked : Linked session session.endpoint [] channel) (running : session.result? = none)
    (carriable : ∀ other ∈ line :: reply :: replies, Carriable session.endpoint.isEncrypted other)
    (taken : session.take (some (.line (Text.utf8 (session.endpoint.inbound.wire line)))) = next)
    (same : SameLanes (session.endpoint.took line) far)
    (replied : next.endpoint = far.wroteAll (reply :: replies)) :
    ∃ after, (Talk.request line).run channel = (.ok reply, after) ∧
      Linked next next.endpoint replies after := by
  have line_carriable := carriable line List.mem_cons_self
  apply linked.request (Wire.Session.isOver_iff.mpr running) line_carriable taken
  · change next.endpoint.sent = session.endpoint.sent ++ _
    rw [replied, Endpoint.wroteAll_sent, same.sent, same.outbound, Endpoint.took_sent,
      Endpoint.took_outbound]
  · exact fun other member => carriable other (List.mem_cons_of_mem line member)
  · rw [replied, Endpoint.wroteAll_inbound, same.inbound, Endpoint.took_inbound]
  · rw [replied, Endpoint.wroteAll_outbound, same.outbound, Endpoint.took_outbound]

theorem request_linked (linked : Linked session session.endpoint [] channel)
    (waiting : session.stage = .commands) (running : session.result? = none)
    (formed : command.WellFormed)
    (carriable : ∀ line ∈ command.line :: reply :: replies,
      Carriable session.endpoint.isEncrypted line)
    (executed : (session.hearing command.line).execute command = next.say (reply :: replies))
    (same : SameLanes (session.endpoint.took command.line) next.endpoint) :
    ∃ after, (Client.request command).run channel = (.ok reply, after) ∧
      Linked (next.saying (reply :: replies)) (next.saying (reply :: replies)).endpoint replies
        after := by
  have said := next.say_wrote fun line member =>
    (carriable line (List.mem_cons_of_mem command.line member)).one_line
  have taken := (take_command waiting formed (carriable command.line List.mem_cons_self)).trans
    (executed.trans said)
  exact exchange_linked linked running carriable taken same rfl

theorem greet_linked (label far_label : LogPrefix) (site : Site) :
    ∃ greeted, Client.readGreeting.run (Live.connect label (greet far_label site)) =
        (.ok (), greeted) ∧
      Linked (greet far_label site) (greet far_label site).endpoint [] greeted := by
  have carriable : Carriable false greeting := by decide
  have linked : Linked (greet far_label site) (greet far_label site).endpoint [greeting]
      (Live.connect label (greet far_label site)) :=
    Linked.connect label _ rfl rfl carriable
  obtain ⟨greeted, received, linked_after, _⟩ := linked.receive
  have read : Talk.readLine.run (Live.connect label (greet far_label site)) =
      (.ok greeting, greeted) := received
  refine ⟨greeted, ?_, linked_after⟩
  rw [Client.readGreeting, Talk.run_ok read]
  rfl

end Linking

section Securing

variable {session : Session} {key : Rsa.PrivateKey} {offer : Bytes}

theorem take_offer {secrets : Secrets} (awaiting : session.stage = .securing key .offer)
    (clear : session.endpoint.cipher = none) (carriable : Carriable false (Base64.encode offer))
    (opened : key.decrypt offer = .ok (Text.utf8 secrets.offer)) :
    session.take (some (.line (Text.utf8 (Base64.encode offer)))) =
      { session with
        endpoint := secrets.challenging session.endpoint offer
        stage := .securing key .acknowledgement } := by
  simp only [take, awaiting, secure, Wire.Handshake.step_offer clear carriable opened]

theorem take_accepted {frame : Option Wire.Frame} {secured : Endpoint}
    (awaiting : session.stage = .securing key .acknowledgement)
    (accepted : Wire.Handshake.step key.decrypt .acknowledgement session.endpoint frame =
      (.ok none, secured)) :
    session.take frame = { session with endpoint := secured, stage := .commands } := by
  simp only [take, awaiting, secure, accepted]

theorem secure_linked {random : Client.Randomness} {lock : Rsa.PublicKey}
    {channel : Channel (Live Session)}
    (linked : Linked session session.endpoint [] channel)
    (awaiting : session.stage = .securing key .offer) (running : session.result? = none)
    (clear : session.endpoint.cipher = none)
    (offered : lock.encrypt random.seed (Text.utf8 random.secrets.offer) = .ok offer)
    (opened : key.decrypt offer = .ok (Text.utf8 random.secrets.offer))
    (carriable : Carriable false (Base64.encode offer)) :
    ∃ after, (Client.shakeHands random lock).run channel = (.ok (), after) ∧
      Linked
        { session with
          endpoint := random.secrets.secured session.endpoint offer
          stage := .commands }
        (random.secrets.secured session.endpoint offer) [] after := by
  have not_over : Wire.Session.isOver session = false := Wire.Session.isOver_iff.mpr running
  obtain ⟨after, done, linked_after, _⟩ := Wire.Handshake.initiate_linked linked clear offered
    carriable not_over (take_offer awaiting clear carriable opened)
    (random.secrets.challenging_sent session.endpoint offer) not_over
    (take_accepted rfl (random.secrets.step_secured key.decrypt session.endpoint offer)) rfl
  exact ⟨after, done, linked_after⟩

end Securing

end Session

end Access

end MailExchange
