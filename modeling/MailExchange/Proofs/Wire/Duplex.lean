import MailExchange.Proofs.Wire.Lane
import Mathlib.Logic.Function.Basic

/-!
Two ends that write and read in any order, with the bytes that are on their way between them. Ends
that are in step are as good as two queues of lines: whatever either end writes, the other reads.
-/

namespace MailExchange.Wire

open Text (Bytes)

@[simp] theorem Role.peer_peer (role : Role) : role.peer.peer = role := by
  cases role with
  | initiator => rfl
  | responder => rfl

theorem Role.peer_ne (role : Role) : role.peer ≠ role := by
  cases role with
  | initiator => decide
  | responder => decide

theorem Role.eq_or_peer (role other : Role) : other = role ∨ other = role.peer := by
  cases role <;> cases other <;> decide

inductive Action where
  | write (line : String)
  | read

inductive Report where
  | wrote (result : Except Error Unit)
  | read (result : Option (Except Error String))
  deriving DecidableEq

structure Duplex where
  ends : Role → Endpoint
  arriving : Role → Bytes

namespace Duplex

def ofEnds (initiator responder : Endpoint) : Duplex where
  ends
    | .initiator => initiator
    | .responder => responder
  arriving _ := []

def act (duplex : Duplex) (role : Role) : Action → Report × Duplex
  | .write line =>
    match (duplex.ends role).encode line with
    | .error error => (.wrote (.error error), duplex)
    | .ok (wire, endpoint) =>
      (.wrote (.ok ()),
        { ends := Function.update duplex.ends role endpoint
          arriving := Function.update duplex.arriving role.peer
            (duplex.arriving role.peer ++ lineBytes wire) })
  | .read =>
    match takeFrame? (duplex.arriving role) with
    | none => (.read none, duplex)
    | some (frame, rest) =>
      let (line, endpoint) := (duplex.ends role).decode (some frame)
      (.read (some line),
        { ends := Function.update duplex.ends role endpoint
          arriving := Function.update duplex.arriving role rest })

def reports (duplex : Duplex) : List (Role × Action) → List Report
  | [] => []
  | (role, action) :: rest =>
    (duplex.act role action).1 :: (duplex.act role action).2.reports rest

end Duplex

abbrev Queues := Role → List String

namespace Queues

def empty : Queues := fun _ => []

def act (queues : Queues) (role : Role) : Action → Report × Queues
  | .write line =>
    (.wrote (.ok ()), Function.update queues role.peer (queues role.peer ++ [line]))
  | .read =>
    match queues role with
    | [] => (.read none, queues)
    | line :: rest => (.read (some (.ok line)), Function.update queues role rest)

def reports (queues : Queues) : List (Role × Action) → List Report
  | [] => []
  | (role, action) :: rest =>
    (queues.act role action).1 :: (queues.act role action).2.reports rest

end Queues

structure Arriving (secure : Bool) (near far : Endpoint) (bytes : Bytes) (lines : List String) :
    Prop where
  encrypted : near.isEncrypted = secure
  bytes : bytes = (near.inbound.wires lines).flatMap lineBytes
  lanes : near.inbound.afterAll lines = far.outbound
  carriable : ∀ line ∈ lines, Carriable secure line

namespace Arriving

variable {secure : Bool} {near far : Endpoint} {bytes : Bytes} {line : String} {lines : List String}

theorem isSome (arriving : Arriving secure near far bytes lines) : near.inbound.isSome = secure := by
  rw [Endpoint.inbound_isSome, arriving.encrypted]

theorem write (arriving : Arriving secure near far bytes lines) (carriable : Carriable secure line) :
    Arriving secure near (far.wrote line) (bytes ++ lineBytes (far.outbound.wire line))
      (lines ++ [line]) := by
  refine ⟨arriving.encrypted, ?_, ?_, ?_⟩
  · rw [Lane.wires_append, arriving.lanes, List.flatMap_append, ← arriving.bytes]
    simp only [Lane.wires, List.flatMap_cons, List.flatMap_nil, List.append_nil]
  · rw [Lane.afterAll_append, arriving.lanes, Endpoint.wrote_outbound]
    rfl
  · intro other member
    rcases List.mem_append.mp member with earlier | last
    · exact arriving.carriable other earlier
    · rw [List.mem_singleton.mp last]
      exact carriable

theorem read (arriving : Arriving secure near far bytes (line :: lines)) :
    takeFrame? bytes = some (.line (Text.utf8 (near.inbound.wire line)),
        ((near.inbound.after line).wires lines).flatMap lineBytes) ∧
      near.decode (some (.line (Text.utf8 (near.inbound.wire line)))) =
        (.ok line, near.took line) ∧
      Arriving secure (near.took line) far
        (((near.inbound.after line).wires lines).flatMap lineBytes) lines := by
  have carriable : Carriable near.inbound.isSome line := by
    rw [arriving.isSome]
    exact arriving.carriable line List.mem_cons_self
  refine ⟨?_, near.decode_wire carriable, ?_, ?_, ?_, ?_⟩
  · rw [arriving.bytes, Lane.wires, List.flatMap_cons]
    exact takeFrame_fits carriable.fits _
  · rw [← Endpoint.outbound_isSome, Endpoint.took_outbound, Endpoint.outbound_isSome,
      arriving.encrypted]
  · rw [Endpoint.took_inbound]
  · rw [Endpoint.took_inbound]
    exact arriving.lanes
  · exact fun other member => arriving.carriable other (List.mem_cons_of_mem line member)

theorem near_wrote (arriving : Arriving secure near far bytes lines) (line : String) :
    Arriving secure (near.wrote line) far bytes lines := by
  refine ⟨?_, ?_, ?_, arriving.carriable⟩
  · rw [← Endpoint.inbound_isSome, Endpoint.wrote_inbound, arriving.isSome]
  · rw [Endpoint.wrote_inbound, arriving.bytes]
  · rw [Endpoint.wrote_inbound, arriving.lanes]

theorem far_took (arriving : Arriving secure near far bytes lines) (line : String) :
    Arriving secure near (far.took line) bytes lines :=
  ⟨arriving.encrypted, arriving.bytes, by rw [Endpoint.took_outbound, arriving.lanes],
    arriving.carriable⟩

end Arriving

namespace Duplex

variable {secure : Bool} {duplex : Duplex} {queues : Queues}

/-- Each end is about to read what stands in its queue. -/
def Carries (secure : Bool) (duplex : Duplex) (queues : Queues) : Prop :=
  ∀ role, Arriving secure (duplex.ends role) (duplex.ends role.peer) (duplex.arriving role)
    (queues role)

theorem Carries.write (carries : Carries secure duplex queues) (role : Role) {line : String}
    (carriable : Carriable secure line) :
    (duplex.act role (.write line)).1 = (queues.act role (.write line)).1 ∧
      Carries secure (duplex.act role (.write line)).2 (queues.act role (.write line)).2 := by
  have encoded := (duplex.ends role).encode_wrote carriable.one_line
  have there := (carries role.peer).write carriable
  rw [Role.peer_peer] at there
  simp only [act, Queues.act, encoded]
  refine ⟨trivial, fun other => ?_⟩
  rcases Role.eq_or_peer role other with rfl | rfl
  · have own := (carries other).near_wrote line
    simpa only [Function.update_self, Function.update_of_ne (Role.peer_ne other),
      Function.update_of_ne (Role.peer_ne other).symm] using own
  · simpa only [Role.peer_peer, Function.update_self, Function.update_of_ne (Role.peer_ne role)]
      using there

theorem Carries.read (carries : Carries secure duplex queues) (role : Role) :
    (duplex.act role .read).1 = (queues.act role .read).1 ∧
      Carries secure (duplex.act role .read).2 (queues.act role .read).2 := by
  have here := carries role
  cases waiting : queues role with
  | nil =>
      rw [waiting] at here
      have nothing : takeFrame? (duplex.arriving role) = none := by
        rw [here.bytes]
        rfl
      simp only [act, Queues.act, nothing, waiting]
      exact ⟨trivial, carries⟩
  | cons line rest =>
      rw [waiting] at here
      obtain ⟨cut, decoded, left⟩ := here.read
      simp only [act, Queues.act, cut, decoded, waiting]
      refine ⟨trivial, fun other => ?_⟩
      rcases Role.eq_or_peer role other with rfl | rfl
      · simpa only [Function.update_self, Function.update_of_ne (Role.peer_ne other)] using left
      · have there := (carries role.peer).far_took line
        rw [Role.peer_peer] at there
        simpa only [Role.peer_peer, Function.update_self,
          Function.update_of_ne (Role.peer_ne role)] using there

theorem Carries.reports (carries : Carries secure duplex queues) (actions : List (Role × Action))
    (carriable : ∀ role line, (role, .write line) ∈ actions → Carriable secure line) :
    duplex.reports actions = queues.reports actions := by
  induction actions generalizing duplex queues with
  | nil => rfl
  | cons first rest ih =>
      obtain ⟨role, action⟩ := first
      have later : ∀ role line, (role, .write line) ∈ rest → Carriable secure line :=
        fun role line member => carriable role line (List.mem_cons_of_mem _ member)
      cases action with
      | write line =>
          have written := carries.write role (carriable role line List.mem_cons_self)
          rw [Duplex.reports, Queues.reports, written.1, ih written.2 later]
      | read =>
          have seen := carries.read role
          rw [Duplex.reports, Queues.reports, seen.1, ih seen.2 later]

theorem ofEnds_carries {initiator responder : Endpoint} (in_step : InStep initiator responder)
    (encrypted : initiator.isEncrypted = secure) :
    Carries secure (ofEnds initiator responder) Queues.empty := by
  intro role
  cases role with
  | initiator =>
      exact ⟨encrypted, rfl, in_step.inbound, fun line member => absurd member List.not_mem_nil⟩
  | responder =>
      exact ⟨in_step.isEncrypted ▸ encrypted, rfl, in_step.outbound.symm,
        fun line member => absurd member List.not_mem_nil⟩

end Duplex

end MailExchange.Wire
