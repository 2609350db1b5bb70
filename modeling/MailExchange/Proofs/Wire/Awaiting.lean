import MailExchange.Proofs.Wire.Framing

namespace MailExchange.Wire

variable {π α β : Type}

/-- These lines, and nothing else, are still to be read, whether or not they fit. -/
structure Awaiting (lines : List String) (channel : Channel π) : Prop where
  unread : channel.unread = (channel.endpoint.inbound.wires lines).flatMap lineBytes
  one_line : ∀ line ∈ lines, '\n' ∉ line.toList

namespace Awaiting

variable [Peer π] {line : String} {lines : List String} {channel : Channel π}

omit [Peer π] in
theorem cut (awaiting : Awaiting (line :: lines) channel) : channel.unread =
    lineBytes (channel.endpoint.inbound.wire line) ++
      ((channel.endpoint.inbound.after line).wires lines).flatMap lineBytes := by
  rw [awaiting.unread]
  exact List.flatMap_cons

theorem receive (awaiting : Awaiting (line :: lines) channel)
    (short : wireSize channel.endpoint.isEncrypted line ≤ maxLine) :
    ∃ after, channel.receive = (.ok (arrival channel.endpoint.isEncrypted line), after) ∧
      after.endpoint.isEncrypted = channel.endpoint.isEncrypted ∧ Awaiting lines after := by
  have fits : Fits (channel.endpoint.inbound.wire line) :=
    Lane.wire_fits (awaiting.one_line line List.mem_cons_self) (by
      rw [Endpoint.inbound_isSome]
      exact short)
  refine ⟨_, Channel.receive_arrival channel fits awaiting.cut, Endpoint.took_isEncrypted _ _,
    ⟨?_, fun other member => awaiting.one_line other (List.mem_cons_of_mem line member)⟩⟩
  rw [Endpoint.took_inbound, ← Endpoint.inbound_isSome, Lane.after_arrival]

theorem receive_long (awaiting : Awaiting (line :: lines) channel)
    (long : ¬ wireSize channel.endpoint.isEncrypted line ≤ maxLine) :
    channel.receive.1 = .error .lineTooLong := by
  rw [Channel.receive_long channel (awaiting.one_line line List.mem_cons_self)
    (Nat.lt_of_not_le long) awaiting.cut]

end Awaiting

theorem Linked.ask {σ : Type} [Session σ] {session next : σ} {far : Endpoint}
    {channel : Channel (Live σ)} {line : String} {replies : List String}
    (linked : Linked session far [] channel) (running : Session.isOver session = false)
    (carriable : Carriable far.isEncrypted line)
    (taken : Session.take session (some (.line (Text.utf8 (far.inbound.wire line)))) = next)
    (said : Session.sent next = Session.sent session ++ far.outbound.wires replies)
    (one_line : ∀ reply ∈ replies, '\n' ∉ reply.toList) :
    ∃ after, channel.send line = (.ok (), after) ∧
      after.endpoint.isEncrypted = far.isEncrypted ∧ Awaiting replies after := by
  have same : far.outbound = channel.endpoint.inbound := linked.inbound.symm
  have fits : Fits (channel.endpoint.outbound.wire line) := by
    rw [linked.outbound]
    apply Carriable.fits
    rw [Endpoint.inbound_isSome]
    exact carriable
  have sent := Channel.send_live linked.unread linked.peer running carriable.one_line fits
    (by rw [linked.outbound]; exact taken) said
  refine ⟨_, sent, ?_, ⟨?_, one_line⟩⟩
  · rw [Endpoint.wrote_isEncrypted, linked.isEncrypted]
  · rw [Endpoint.wrote_inbound, same]

namespace Talk

/-- A computation that gets this value out of these lines if they all fit, and otherwise fails. -/
def Reads (secure : Bool) (talk : Talk π α) (lines : List String) (value : α) : Prop :=
  ∀ rest channel, channel.endpoint.isEncrypted = secure → Awaiting (lines ++ rest) channel →
    ((∀ line ∈ lines, wireSize secure line ≤ maxLine) → ∃ after,
      talk.run channel = (.ok value, after) ∧ after.endpoint.isEncrypted = secure ∧
        Awaiting rest after) ∧
    ((¬ ∀ line ∈ lines, wireSize secure line ≤ maxLine) →
      (talk.run channel).1 = .error .lineTooLong)

variable {secure : Bool}

theorem reads_pure (value : α) : Reads secure (pure value : Talk π α) [] value :=
  fun _ channel encrypted awaiting => ⟨fun _ => ⟨channel, rfl, encrypted, awaiting⟩,
    fun long => absurd (fun _ member => absurd member List.not_mem_nil) long⟩

theorem reads_ofExcept {result : Except Error α} {value : α} (same : result = .ok value) :
    Reads secure (ofExcept result : Talk π α) [] value := by
  rw [same]
  exact reads_pure value

theorem Reads.bind {talk : Talk π α} {next : α → Talk π β} {first second : List String} {value : α}
    {result : β} (reads : Reads secure talk first value)
    (more : Reads secure (next value) second result) :
    Reads secure (talk >>= next) (first ++ second) result := by
  intro rest channel encrypted awaiting
  rw [List.append_assoc] at awaiting
  obtain ⟨read, stopped⟩ := reads (second ++ rest) channel encrypted awaiting
  constructor
  · intro short
    obtain ⟨middle, ran, still_encrypted, others⟩ :=
      read fun line member => short line (List.mem_append_left _ member)
    obtain ⟨after, ran_on, done⟩ := (more rest middle still_encrypted others).1
      fun line member => short line (List.mem_append_right _ member)
    exact ⟨after, by rw [run_ok ran, ran_on], done⟩
  · intro long
    by_cases short : ∀ line ∈ first, wireSize secure line ≤ maxLine
    · obtain ⟨middle, ran, still_encrypted, others⟩ := read short
      rw [run_ok ran]
      refine (more rest middle still_encrypted others).2 fun also_short => long ?_
      intro line member
      exact (List.mem_append.mp member).elim (short line) (also_short line)
    · have failed := stopped short
      rcases ran : talk.run channel with ⟨outcome, middle⟩
      rw [ran] at failed
      rw [run_bind, ran, failed]
      rfl

theorem reads_readLine [Peer π] {line : String} (heard : String)
    (arrives : arrival secure line = heard) :
    Reads secure (readLine : Talk π String) [line] heard := by
  rintro rest channel rfl awaiting
  rw [← arrives]
  constructor
  · intro short
    exact awaiting.receive (short line List.mem_cons_self)
  · intro long
    exact awaiting.receive_long fun short => long (List.forall_mem_singleton.mpr short)

theorem Reads.outcome {talk : Talk π α} {lines : List String} {value : α}
    (reads : Reads secure talk lines value) {channel : Channel π}
    (encrypted : channel.endpoint.isEncrypted = secure) (awaiting : Awaiting lines channel) :
    (talk.run channel).1 = if ∀ line ∈ lines, wireSize secure line ≤ maxLine then .ok value
      else .error .lineTooLong := by
  obtain ⟨read, stopped⟩ := reads [] channel encrypted (by rwa [List.append_nil])
  split
  · rename_i short
    obtain ⟨after, ran, _⟩ := read short
    rw [ran]
  · rename_i long
    exact stopped long

end Talk

end MailExchange.Wire
