import MailExchange.Proofs.Wire.Link

namespace MailExchange.Wire

def Heard (before : Endpoint) (count : Nat) (after : Endpoint) : Prop :=
  ∃ more, after.heard = before.heard ++ more ∧ more.length ≤ count

namespace Heard

variable {before middle after : Endpoint} {first second : Nat}

theorem same (equal : after.heard = before.heard) (count : Nat) : Heard before count after :=
  ⟨[], by rw [equal, List.append_nil], Nat.zero_le count⟩

theorem append (heard : Heard before first middle) (more : Heard middle second after) :
    Heard before (first + second) after := by
  obtain ⟨lines, equal, few⟩ := heard
  obtain ⟨others, other_equal, other_few⟩ := more
  refine ⟨lines ++ others, by rw [other_equal, equal, List.append_assoc], ?_⟩
  rw [List.length_append]
  exact Nat.add_le_add few other_few

theorem mono (heard : Heard before first after) (fewer : first ≤ second) :
    Heard before second after := by
  obtain ⟨lines, equal, few⟩ := heard
  exact ⟨lines, equal, few.trans fewer⟩

theorem getElem (heard : Heard before first after) {index : Nat}
    (early : index < before.heard.length) : after.heard[index]? = before.heard[index]? := by
  obtain ⟨lines, equal, _⟩ := heard
  rw [equal, List.getElem?_append_left early]

theorem length_le (heard : Heard before first after) :
    after.heard.length ≤ before.heard.length + first := by
  obtain ⟨lines, equal, few⟩ := heard
  rw [equal, List.length_append]
  exact Nat.add_le_add_left few _

end Heard

theorem Endpoint.decode_heard (endpoint : Endpoint) (frame : Option Frame) :
    (endpoint.decode frame).2.heard =
      endpoint.heard ++ (endpoint.decode frame).1.toOption.toList := by
  have text (line : String) : (endpoint.decodeText line).2.heard = endpoint.heard := by
    rw [decodeText]
    cases endpoint.cipher <;> rfl
  cases frame with
  | none => exact (List.append_nil _).symm
  | some frame =>
      cases frame with
      | overlong => exact (List.append_nil _).symm
      | line bytes =>
          cases read : Text.ofUtf8? (withoutCr bytes) with
          | none =>
              simp only [decode, read]
              exact (List.append_nil _).symm
          | some line =>
              have unheard := text line
              rcases decoded : endpoint.decodeText line with ⟨result, after⟩
              rw [decoded] at unheard
              simp only [decode, read, decoded]
              cases result with
              | ok line => exact congrArg (· ++ [line]) unheard
              | error error => exact unheard.trans (List.append_nil _).symm

section Channels

variable {π : Type} [Peer π]

theorem Channel.receive_heard (channel : Channel π) :
    channel.receive.2.endpoint.heard =
      channel.endpoint.heard ++ channel.receive.1.toOption.toList := by
  rw [receive]
  split
  · exact (List.append_nil _).symm
  · exact channel.endpoint.decode_heard _

theorem Channel.send_heard (channel : Channel π) (line : String) :
    (channel.send line).2.endpoint.heard = channel.endpoint.heard := by
  have encoded {wire : String} {endpoint : Endpoint}
      (found : channel.endpoint.encode line = .ok (wire, endpoint)) :
      endpoint.heard = channel.endpoint.heard := by
    rw [Endpoint.encode] at found
    split at found
    · cases found
    · split at found
      · cases found
        rfl
      · cases found
        rfl
  rw [send]
  split
  · rfl
  · rename_i wire endpoint found
    split
    · exact encoded found
    · exact encoded found

end Channels

namespace Talk

variable {π α β : Type}

/-- A computation that hears at most so many lines, whatever comes of it. -/
def Hears (talk : Talk π α) (count : Nat) : Prop :=
  ∀ channel, Heard channel.endpoint count (talk.run channel).2.endpoint

theorem hears_pure (value : α) : (pure value : Talk π α).Hears 0 := fun _ => Heard.same rfl 0

theorem hears_ofExcept (result : Except Error α) : (ofExcept result : Talk π α).Hears 0 :=
  fun _ => Heard.same rfl 0

theorem hears_throw (error : Error) : (throw error : Talk π α).Hears 0 := fun _ => Heard.same rfl 0

theorem Hears.bind {talk : Talk π α} {next : α → Talk π β} {first second : Nat}
    (hears : talk.Hears first) (more : ∀ value, (next value).Hears second) :
    (talk >>= next).Hears (first + second) := by
  intro channel
  have heard := hears channel
  rcases ran : talk.run channel with ⟨result, middle⟩
  rw [ran] at heard
  cases result with
  | error error =>
      rw [run_error ran]
      exact heard.mono (Nat.le_add_right first second)
  | ok value =>
      rw [run_ok ran]
      exact heard.append (more value middle)

theorem Hears.alone {talk : Talk π α} {next : α → Talk π β} {count : Nat}
    (hears : talk.Hears count) (silent : ∀ value, (next value).Hears 0) :
    (talk >>= next).Hears count := hears.bind silent

variable [Peer π]

theorem request_heard (line : String) (channel : Channel π) :
    ((request line).run channel).2.endpoint.heard =
      channel.endpoint.heard ++ ((request line).run channel).1.toOption.toList := by
  have written := channel.send_heard line
  rcases sent : channel.send line with ⟨result, middle⟩
  have wrote : (writeLine line).run channel = (result, middle) := sent
  rw [sent] at written
  cases result with
  | error error =>
      rw [request, run_error wrote]
      exact written.trans (List.append_nil _).symm
  | ok value =>
      rw [request, run_ok wrote, ← written]
      exact middle.receive_heard

theorem hears_readLine : (readLine : Talk π String).Hears 1 := by
  intro channel
  exact ⟨_, channel.receive_heard, Option.length_toList_le⟩

theorem hears_request (line : String) : (request line : Talk π String).Hears 1 :=
  fun channel => ⟨_, request_heard line channel, Option.length_toList_le⟩

end Talk

end MailExchange.Wire
