import MailExchange.Proofs.Wire.Exchange
import MailExchange.Proofs.Wire.Lane

namespace MailExchange.Wire

open Text (Bytes)

section Talking

variable {π α β : Type} {channel after : Channel π}

theorem Talk.run_error {talk : Talk π α} {next : α → Talk π β} {error : Error}
    (failed : talk.run channel = (.error error, after)) :
    (talk >>= next).run channel = (.error error, after) := by
  rw [Talk.run_bind, failed]
  rfl

theorem Talk.run_ofExcept (result : Except Error α) (channel : Channel π) :
    (Talk.ofExcept result).run channel = (result, channel) := rfl

theorem Talk.run_alter (change : Endpoint → Endpoint) (channel : Channel π) :
    (Talk.alter change).run channel =
      (.ok (), { channel with endpoint := change channel.endpoint }) := rfl

theorem Talk.run_try (talk : Talk π α) (recover : Error → Talk π α) (channel : Channel π) :
    (tryCatch talk recover).run channel =
      match talk.run channel with
      | (.ok value, after) => (.ok value, after)
      | (.error error, after) => (recover error).run after := by
  have tried : StateT.run talk.run channel = talk.run channel := rfl
  rw [ExceptT.run_tryCatch]
  change StateT.run (talk.run >>= _) channel = _
  rw [StateT.run_bind, tried]
  rcases talk.run channel with ⟨result, after⟩
  cases result with
  | ok value => rfl
  | error error => rfl

variable [Peer π]

theorem Talk.run_readLine (channel : Channel π) : Talk.readLine.run channel = channel.receive := rfl

theorem Talk.run_writeLine (line : String) (channel : Channel π) :
    (Talk.writeLine line).run channel = channel.send line := rfl

end Talking

/-- These lines, and nothing else, are still to be read from a channel. -/
structure Pending {π : Type} (lines : List String) (channel : Channel π) : Prop where
  unread : channel.unread = (channel.endpoint.inbound.wires lines).flatMap lineBytes
  carriable : ∀ line ∈ lines, Carriable channel.endpoint.isEncrypted line

theorem Pending.receive {π : Type} [Peer π] {line : String} {lines : List String}
    {channel : Channel π} (pending : Pending (line :: lines) channel) :
    ∃ after, channel.receive = (.ok line, after) ∧ Pending lines after ∧
      after.endpoint = channel.endpoint.took line ∧ after.peer = channel.peer := by
  have carriable : Carriable channel.endpoint.inbound.isSome line := by
    rw [Endpoint.inbound_isSome]
    exact pending.carriable line List.mem_cons_self
  let rest := ((channel.endpoint.inbound.after line).wires lines).flatMap lineBytes
  have cut : takeFrame? channel.unread =
      some (.line (Text.utf8 (channel.endpoint.inbound.wire line)), rest) := by
    rw [pending.unread, Lane.wires, List.flatMap_cons]
    exact takeFrame_fits carriable.fits rest
  refine ⟨⟨channel.endpoint.took line, rest, channel.peer⟩, ?_, ⟨?_, ?_⟩, rfl, rfl⟩
  · simp only [Channel.receive, cut, Endpoint.decode_wire channel.endpoint carriable]
  · rw [Endpoint.took_inbound]
  · intro other member
    rw [Endpoint.took_isEncrypted]
    exact pending.carriable other (List.mem_cons_of_mem line member)

variable {σ : Type} [Session σ] {session next : σ} {channel : Channel (Live σ)}

theorem Channel.send_live (unread : channel.unread = [])
    (peer : channel.peer = ⟨session, [], (Session.sent session).length⟩)
    (running : Session.isOver session = false) {line : String} (one_line : '\n' ∉ line.toList)
    (fits : Fits (channel.endpoint.outbound.wire line))
    (taken : Session.take session
      (some (.line (Text.utf8 (channel.endpoint.outbound.wire line)))) = next)
    {wires : List String} (said : Session.sent next = Session.sent session ++ wires) :
    channel.send line = (.ok (), ⟨channel.endpoint.wrote line, wires.flatMap lineBytes,
      ⟨next, [], (Session.sent next).length⟩⟩) := by
  have fed := Session.feed_line running fits
  rw [taken] at fed
  simp only [Channel.send, Endpoint.encode_wrote channel.endpoint one_line, unread, peer, Peer.hear,
    Live.feed, Live.answer, Live.collect, List.nil_append, fed, said, List.drop_left]

/-- A client and a session, whose end is the far one. -/
structure Linked (session : σ) (far : Endpoint) (lines : List String)
    (channel : Channel (Live σ)) : Prop where
  pending : Pending lines channel
  peer : channel.peer = ⟨session, [], (Session.sent session).length⟩
  outbound : channel.endpoint.outbound = far.inbound
  inbound : channel.endpoint.inbound.afterAll lines = far.outbound

namespace Linked

variable {far beyond : Endpoint} {line reply : String} {lines replies : List String}

theorem isEncrypted (linked : Linked session far lines channel) :
    channel.endpoint.isEncrypted = far.isEncrypted := by
  rw [← Endpoint.outbound_isSome, linked.outbound, Endpoint.inbound_isSome]

theorem unread (linked : Linked session far [] channel) : channel.unread = [] :=
  linked.pending.unread

theorem in_step (linked : Linked session far [] channel) : InStep channel.endpoint far :=
  ⟨linked.outbound, linked.inbound⟩

theorem of_inStep (unread : channel.unread = [])
    (peer : channel.peer = ⟨session, [], (Session.sent session).length⟩)
    (in_step : InStep channel.endpoint far) : Linked session far [] channel :=
  ⟨⟨unread, fun _ member => absurd member List.not_mem_nil⟩, peer, in_step.outbound,
    in_step.inbound⟩

theorem receive (linked : Linked session far (line :: lines) channel) :
    ∃ after, channel.receive = (.ok line, after) ∧ Linked session far lines after ∧
      after.endpoint = channel.endpoint.took line := by
  obtain ⟨after, received, pending, endpoint, peer⟩ := linked.pending.receive
  refine ⟨after, received, ⟨pending, ?_, ?_, ?_⟩, endpoint⟩
  · rw [peer, linked.peer]
  · rw [endpoint, Endpoint.took_outbound, linked.outbound]
  · rw [endpoint, Endpoint.took_inbound]
    exact linked.inbound

theorem send (linked : Linked session far [] channel)
    (running : Session.isOver session = false) (carriable : Carriable far.isEncrypted line)
    (taken : Session.take session (some (.line (Text.utf8 (far.inbound.wire line)))) = next)
    (said : Session.sent next = Session.sent session ++ far.outbound.wires replies)
    (replies_carriable : ∀ reply ∈ replies, Carriable far.isEncrypted reply)
    (heard : beyond.inbound = far.inbound.after line)
    (answered : beyond.outbound = far.outbound.afterAll replies) :
    ∃ after, channel.send line = (.ok (), after) ∧ Linked next beyond replies after ∧
      after.endpoint = channel.endpoint.wrote line := by
  have same : far.outbound = channel.endpoint.inbound := linked.inbound.symm
  have fits : Fits (channel.endpoint.outbound.wire line) := by
    rw [linked.outbound]
    apply Carriable.fits
    rw [Endpoint.inbound_isSome]
    exact carriable
  have sent := Channel.send_live linked.unread linked.peer running carriable.one_line fits
    (by rw [linked.outbound]; exact taken) said
  refine ⟨_, sent, ⟨⟨?_, ?_⟩, rfl, ?_, ?_⟩, rfl⟩
  · rw [Endpoint.wrote_inbound, same]
  · rw [Endpoint.wrote_isEncrypted, linked.isEncrypted]
    exact replies_carriable
  · rw [Endpoint.wrote_outbound, linked.outbound, heard]
  · rw [Endpoint.wrote_inbound, ← same, answered]

theorem tell (linked : Linked session far [] channel)
    (running : Session.isOver session = false) (carriable : Carriable far.isEncrypted line)
    (taken : Session.take session (some (.line (Text.utf8 (far.inbound.wire line)))) = next)
    (silent : Session.sent next = Session.sent session) :
    ∃ after, channel.send line = (.ok (), after) ∧ Linked next (far.took line) [] after ∧
      after.endpoint = channel.endpoint.wrote line := by
  have nothing : ∀ reply ∈ [], Carriable far.isEncrypted reply :=
    fun _ member => absurd member List.not_mem_nil
  have said : Session.sent next = Session.sent session ++ far.outbound.wires [] := by
    rw [silent, Lane.wires, List.append_nil]
  exact linked.send running carriable taken said nothing (Endpoint.took_inbound far line)
    (Endpoint.took_outbound far line)

theorem request (linked : Linked session far [] channel)
    (running : Session.isOver session = false) (carriable : Carriable far.isEncrypted line)
    (taken : Session.take session (some (.line (Text.utf8 (far.inbound.wire line)))) = next)
    (said : Session.sent next = Session.sent session ++ far.outbound.wires (reply :: replies))
    (replies_carriable : ∀ other ∈ reply :: replies, Carriable far.isEncrypted other)
    (heard : beyond.inbound = far.inbound.after line)
    (answered : beyond.outbound = far.outbound.afterAll (reply :: replies)) :
    ∃ after, (Talk.request line).run channel = (.ok reply, after) ∧
      Linked next beyond replies after := by
  obtain ⟨middle, sent, linked_middle, _⟩ :=
    linked.send running carriable taken said replies_carriable heard answered
  obtain ⟨after, received, linked_after, _⟩ := linked_middle.receive
  refine ⟨after, ?_, linked_after⟩
  have written : (Talk.writeLine line).run channel = (.ok (), middle) := sent
  rw [Talk.request, Talk.run_ok written]
  exact received

end Linked

theorem Linked.connect (label : LogPrefix) {greeting : String} (far : Endpoint)
    (clear : far.cipher = none) (said : Session.sent session = [greeting])
    (carriable : Carriable false greeting) :
    Linked session far [greeting] (Live.connect label session) := by
  have collected : (Live.answer ({ session } : Live σ)) =
      (lineBytes greeting, ⟨session, [], (Session.sent session).length⟩) := by
    simp only [Live.answer, Live.collect, said, List.drop_zero, List.flatMap_cons, List.flatMap_nil,
      List.append_nil]
  refine ⟨⟨?_, ?_⟩, ?_, ?_, ?_⟩
  · simp only [Live.connect, collected, Endpoint.inbound, Option.map_none, Lane.wires_clear,
      List.flatMap_cons, List.flatMap_nil, List.append_nil]
  · intro line member
    rw [List.mem_singleton.mp member]
    exact carriable
  · simp only [Live.connect, collected]
  · simp only [Live.connect, Endpoint.outbound, Endpoint.inbound, clear, Option.map_none]
  · simp only [Live.connect, Endpoint.outbound, Endpoint.inbound, clear, Option.map_none]
    rfl

/-- A peer as part of something that answers as the peer does. -/
structure Embeds {π ρ : Type} [Peer π] [Peer ρ] (embed : π → ρ) : Prop where
  hear : ∀ peer bytes, Peer.hear (embed peer) bytes =
    ((Peer.hear peer bytes).1, embed (Peer.hear peer bytes).2)
  ending : ∀ peer, Peer.ending (embed peer) = ((Peer.ending peer).1, embed (Peer.ending peer).2)

variable {π ρ α β : Type} {embed : π → ρ}

def Channel.map (embed : π → ρ) (channel : Channel π) : Channel ρ :=
  ⟨channel.endpoint, channel.unread, embed channel.peer⟩

/-- Two computations that come to the same, the second on a channel whose peer is part of more. -/
def Talk.Alike (embed : π → ρ) (near : Talk π α) (far : Talk ρ α) : Prop :=
  ∀ channel, far.run (channel.map embed) =
    ((near.run channel).1, (near.run channel).2.map embed)

namespace Talk

theorem alike_pure (value : α) : Alike embed (pure value) (pure value) := fun _ => rfl

theorem alike_ofExcept (result : Except Error α) : Alike embed (ofExcept result) (ofExcept result) :=
  fun _ => rfl

theorem alike_throw (error : Error) :
    Alike embed (throw error : Talk π α) (throw error) := fun _ => rfl

theorem Alike.bind {near : Talk π α} {far : Talk ρ α} {near_next : α → Talk π β}
    {far_next : α → Talk ρ β} (alike : Alike embed near far)
    (next : ∀ value, Alike embed (near_next value) (far_next value)) :
    Alike embed (near >>= near_next) (far >>= far_next) := by
  intro channel
  have first := alike channel
  rcases ran : near.run channel with ⟨result, middle⟩
  rw [ran] at first
  cases result with
  | error error => rw [run_error ran, run_error first]
  | ok value => rw [run_ok ran, run_ok first, next value middle]

variable [Peer π] [Peer ρ]

theorem alike_readLine (embeds : Embeds embed) : Alike embed readLine readLine := by
  intro channel
  change (channel.map embed).receive = (channel.receive.1, channel.receive.2.map embed)
  cases found : takeFrame? channel.unread with
  | none => simp only [Channel.receive, found, Channel.map, embeds.ending]
  | some cut => simp only [Channel.receive, found, Channel.map]

theorem alike_writeLine (embeds : Embeds embed) (line : String) :
    Alike embed (writeLine line) (writeLine line) := by
  intro channel
  change (channel.map embed).send line = ((channel.send line).1, (channel.send line).2.map embed)
  cases encoded : channel.endpoint.encode line with
  | error error =>
      simp only [Channel.send, encoded, Channel.map]
  | ok outcome =>
      rcases heard : Peer.hear channel.peer (lineBytes outcome.1) with ⟨result, peer⟩
      simp only [Channel.send, encoded, Channel.map, embeds.hear, heard]
      cases result with
      | error error => rfl
      | ok more => rfl

theorem alike_request (embeds : Embeds embed) (line : String) :
    Alike embed (request line) (request line) :=
  (alike_writeLine embeds line).bind fun _ => alike_readLine embeds

end Talk

end MailExchange.Wire
