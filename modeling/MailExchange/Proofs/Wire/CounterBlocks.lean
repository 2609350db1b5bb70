import MailExchange.Proofs.Wire.CipherPair
import Mathlib.Data.List.Iterate
import Mathlib.Data.List.Nodup

/-!
The counter blocks of the two directions of a session. Each line is masked with the part of its
direction's stream that comes after the lines before it, and the blocks of the two directions are half
of all counters apart.
-/

namespace MailExchange

open Text (Bytes)

namespace CounterMode

def following (block : Bytes) : Bytes := BigEndian.ofNat 16 ((BigEndian.toNat block + 1) % 2 ^ 128)

def blocksOf (bytes : Nat) : Nat := (bytes + 15) / 16

/-- Bytes under what AES-256 makes of some counter blocks, from a place on. -/
def mask (key : Bytes) (blocks : List Bytes) (place : Nat) (bytes : Bytes) : Bytes :=
  bytes.zipWith (· ^^^ ·) ((blocks.flatMap (Aes.encrypt (Aes.expandKey key))).drop place)

end CounterMode

namespace Keystream

theorem counterBlock_toNat (start index : Nat) :
    BigEndian.toNat (counterBlock start index) = (start + index) % 2 ^ 128 := by
  have whole : Nat.pow 2 128 = 256 ^ 16 := by decide
  rw [counterBlock, BigEndian.toNat_ofNat, ← whole, Nat.mod_mod]
  rfl

theorem counterBlock_start {block : Bytes} (block_length : block.length = 16) :
    counterBlock (BigEndian.toNat block) 0 = block := by
  have small := BigEndian.toNat_lt block
  have whole : Nat.pow 2 128 = 256 ^ 16 := by decide
  rw [block_length, ← whole] at small
  rw [counterBlock, Nat.add_zero, Nat.mod_eq_of_lt small, ← block_length, BigEndian.ofNat_toNat]

theorem following_counterBlock (start index : Nat) :
    CounterMode.following (counterBlock start index) = counterBlock start (index + 1) := by
  have whole : Nat.pow 2 128 = 2 ^ 128 := rfl
  rw [CounterMode.following, counterBlock_toNat, Nat.mod_add_mod, Nat.add_assoc, counterBlock, whole]

theorem counterBlock_iterate {block : Bytes} (block_length : block.length = 16) (index : Nat) :
    CounterMode.following^[index] block = counterBlock (BigEndian.toNat block) index := by
  induction index with
  | zero => exact (counterBlock_start block_length).symm
  | succ index ih => rw [Function.iterate_succ_apply', ih, following_counterBlock]

theorem flatMap_bytes (key : Bytes) (start count : Nat) :
    ((List.range count).map (counterBlock start)).flatMap (Aes.encrypt (Aes.expandKey key)) =
      (List.range' 0 (16 * count)).map (byteAt key start) := by
  have whole := blocks_bytes key start 0 count
  rwa [blocks, ← List.range_eq_range', ← List.flatMap_map] at whole

/-- A stream goes on with its counter blocks where it stands, and needs no more of them than it has
bytes for. -/
theorem apply_mask (key : Bytes) (start used : Nat) (bytes : Bytes) :
    (apply ⟨key, start, used⟩ bytes).1 = CounterMode.mask key
      ((List.range (CounterMode.blocksOf (used + bytes.length))).map (counterBlock start)) used
      bytes := by
  have enough : used + bytes.length ≤ 16 * CounterMode.blocksOf (used + bytes.length) := by
    rw [CounterMode.blocksOf]
    omega
  rw [apply_bytes, CounterMode.mask, flatMap_bytes]
  apply List.ext_getElem
  · simp only [List.length_mapIdx, List.length_zipWith, List.length_drop, List.length_map,
      List.length_range']
    omega
  · intro place _ _
    simp only [List.getElem_mapIdx, List.getElem_zipWith, List.getElem_drop, List.getElem_map,
      List.getElem_range', Nat.one_mul, Nat.zero_add]

end Keystream

namespace Wire.Cipher

/-- The counter blocks of the lines of one end, in their order. -/
def counterBlocks (iv : Bytes) (sender : Role) (count : Nat) : List Bytes :=
  List.iterate CounterMode.following (firstBlock iv sender) count

theorem firstBlock_length (iv : Bytes) (sender : Role) :
    (firstBlock iv sender).length = iv.length := by
  cases sender with
  | initiator => rfl
  | responder => exact List.length_modifyHead

theorem counterBlocks_range {iv : Bytes} (iv_length : iv.length = 16) (sender : Role) (count : Nat) :
    counterBlocks iv sender count =
      (List.range count).map (Keystream.counterBlock (firstCounter iv sender)) := by
  have block_length := (firstBlock_length iv sender).trans iv_length
  rw [counterBlocks, ← List.range_map_iterate, firstCounter_firstBlock iv_length]
  apply List.map_congr_left
  intro index _
  exact Keystream.counterBlock_iterate block_length index

theorem mem_counterBlocks {iv : Bytes} (iv_length : iv.length = 16) {sender : Role} {count : Nat}
    {block : Bytes} : block ∈ counterBlocks iv sender count ↔
      ∃ index < count, Keystream.counterBlock (firstCounter iv sender) index = block := by
  rw [counterBlocks_range iv_length, List.mem_map]
  simp only [List.mem_range]

theorem firstCounter_initiator (iv : Bytes) : firstCounter iv .initiator = BigEndian.toNat iv := rfl

theorem firstCounter_responder (iv : Bytes) :
    firstCounter iv .responder = (BigEndian.toNat iv + 2 ^ 127) % 2 ^ 128 := rfl

theorem counterBlocks_nodup {iv : Bytes} (iv_length : iv.length = 16) (sender : Role) {count : Nat}
    (fits : count ≤ 2 ^ 128) : (counterBlocks iv sender count).Nodup := by
  rw [counterBlocks_range iv_length]
  apply List.Nodup.map_on _ List.nodup_range
  intro index inside other also_inside same
  rw [List.mem_range] at inside also_inside
  have counters := congrArg BigEndian.toNat same
  rw [Keystream.counterBlock_toNat, Keystream.counterBlock_toNat] at counters
  omega

/-- The directions start half of all counters apart, so that neither gets to where the other began. -/
theorem counterBlocks_disjoint {iv : Bytes} (iv_length : iv.length = 16) {first second : Nat}
    (first_fits : first ≤ 2 ^ 127) (second_fits : second ≤ 2 ^ 127) :
    (counterBlocks iv .initiator first).Disjoint (counterBlocks iv .responder second) := by
  rw [List.disjoint_left]
  intro block here there
  rcases (mem_counterBlocks iv_length).mp here with ⟨index, inside, rfl⟩
  rcases (mem_counterBlocks iv_length).mp there with ⟨other, also_inside, same⟩
  have counters := congrArg BigEndian.toNat same
  rw [Keystream.counterBlock_toNat, Keystream.counterBlock_toNat, firstCounter_initiator,
    firstCounter_responder] at counters
  -- Equal counters would have steps that differ by half of all counters, and neither side has as many.
  omega

theorem counterBlocks_meet {iv : Bytes} (iv_length : iv.length = 16) {first second : Nat}
    (too_many : 2 ^ 127 < first) (some_block : 0 < second) :
    ¬ (counterBlocks iv .initiator first).Disjoint (counterBlocks iv .responder second) := by
  intro apart
  have here : Keystream.counterBlock (firstCounter iv .responder) 0 ∈
      counterBlocks iv .initiator first := by
    rw [mem_counterBlocks iv_length]
    refine ⟨2 ^ 127, too_many, ?_⟩
    rw [Keystream.counterBlock, Keystream.counterBlock, firstCounter_initiator,
      firstCounter_responder, Nat.add_zero]
    exact congrArg (BigEndian.ofNat 16) (Nat.mod_mod _ _).symm
  exact List.disjoint_left.mp apart here ((mem_counterBlocks iv_length).mpr ⟨0, some_block, rfl⟩)

inductive Use where
  | encrypt (line : String)
  | decrypt (line : String)

namespace Use

def sent : Use → Nat
  | .encrypt line => (Text.utf8 line).length
  | .decrypt _ => 0

/-- The bytes that are decrypted. A line that is not base64 has none. -/
def received : Use → Nat
  | .encrypt _ => 0
  | .decrypt line => ((Base64.decode? line).getD []).length

end Use

def use (cipher : Cipher) : Use → Cipher
  | .encrypt line => (cipher.encrypt line).2
  | .decrypt line => (cipher.decrypt line).2

def after (cipher : Cipher) (uses : List Use) : Cipher := uses.foldl use cipher

theorem use_streams (cipher : Cipher) (use : Use) : cipher.use use =
    { cipher with
      outgoing := { cipher.outgoing with used := cipher.outgoing.used + use.sent }
      incoming := { cipher.incoming with used := cipher.incoming.used + use.received } } := by
  cases use with
  | encrypt line => rfl
  | decrypt line =>
      cases decoded : Base64.decode? line with
      | none => simp only [Cipher.use, decrypt_stray decoded, Use.sent, Use.received, decoded,
          Option.getD_none, List.length_nil, Nat.add_zero]
      | some bytes => simp only [Cipher.use, decrypt_decoded decoded, Keystream.apply_stream,
          Use.sent, Use.received, decoded, Option.getD_some, Nat.add_zero]

theorem after_streams (cipher : Cipher) (uses : List Use) : cipher.after uses =
    { cipher with
      outgoing := { cipher.outgoing with
        used := cipher.outgoing.used + (uses.map Use.sent).sum }
      incoming := { cipher.incoming with
        used := cipher.incoming.used + (uses.map Use.received).sum } } := by
  induction uses generalizing cipher with
  | nil => rfl
  | cons use uses ih =>
      calc cipher.after (use :: uses)
        _ = (cipher.use use).after uses := rfl
        _ = _ := by
          rw [ih, use_streams]
          simp only [List.map_cons, List.sum_cons, Nat.add_assoc]

section Masks

variable {key iv : Bytes} (iv_length : iv.length = 16) (sender : Role) (uses : List Use)
include iv_length

theorem encrypt_mask (line : String) :
    let place := (uses.map Use.sent).sum
    (((start key iv sender).after uses).encrypt line).1 = Base64.encode (CounterMode.mask key
      (counterBlocks iv sender (CounterMode.blocksOf (place + (Text.utf8 line).length))) place
      (Text.utf8 line)) := by
  intro place
  have stream : ((start key iv sender).after uses).outgoing =
      ⟨key, firstCounter iv sender, place⟩ := by
    rw [after_streams]
    simp only [start, keystream, Nat.zero_add, place]
  rw [encrypt, stream]
  exact congrArg Base64.encode (by rw [Keystream.apply_mask, ← counterBlocks_range iv_length])

theorem decrypt_mask {line : String} {bytes : Bytes} (decoded : Base64.decode? line = some bytes) :
    let place := (uses.map Use.received).sum
    (((start key iv sender.peer).after uses).decrypt line).1 = readText (CounterMode.mask key
      (counterBlocks iv sender (CounterMode.blocksOf (place + bytes.length))) place bytes) := by
  intro place
  have stream : ((start key iv sender.peer).after uses).incoming =
      ⟨key, firstCounter iv sender, place⟩ := by
    rw [after_streams]
    simp only [start, keystream, Role.peer_peer, Nat.zero_add, place]
  rw [decrypt_decoded decoded, stream, Keystream.apply_mask, ← counterBlocks_range iv_length]

end Masks

/-- Up to half of all counters in each direction, no block masks two parts of a session: the blocks of
each direction are all different, the two directions share none, and an end encrypts with the blocks
with which the other end decrypts. One block more, and the directions meet. -/
theorem directions_never_meet {iv : Bytes} (iv_length : iv.length = 16) (key : Bytes) :
    (∀ first second, first ≤ 2 ^ 127 → second ≤ 2 ^ 127 →
      (counterBlocks iv .initiator first).Nodup ∧ (counterBlocks iv .responder second).Nodup ∧
      (counterBlocks iv .initiator first).Disjoint (counterBlocks iv .responder second)) ∧
    (∀ first second, 2 ^ 127 < first → 0 < second →
      ¬ (counterBlocks iv .initiator first).Disjoint (counterBlocks iv .responder second)) ∧
    (∀ sender uses line,
      let place := (uses.map Use.sent).sum
      (((start key iv sender).after uses).encrypt line).1 = Base64.encode (CounterMode.mask key
        (counterBlocks iv sender (CounterMode.blocksOf (place + (Text.utf8 line).length))) place
        (Text.utf8 line))) ∧
    (∀ sender uses line bytes, Base64.decode? line = some bytes →
      let place := (uses.map Use.received).sum
      (((start key iv sender.peer).after uses).decrypt line).1 = readText (CounterMode.mask key
        (counterBlocks iv sender (CounterMode.blocksOf (place + bytes.length))) place bytes)) := by
  have half : 2 ^ 127 ≤ 2 ^ 128 := by decide
  refine ⟨?_, ?_, ?_, ?_⟩
  · intro first second first_fits second_fits
    exact ⟨counterBlocks_nodup iv_length .initiator (first_fits.trans half),
      counterBlocks_nodup iv_length .responder (second_fits.trans half),
      counterBlocks_disjoint iv_length first_fits second_fits⟩
  · intro first second too_many some_block
    exact counterBlocks_meet iv_length too_many some_block
  · intro sender uses line
    exact encrypt_mask iv_length sender uses line
  · intro sender uses line bytes decoded
    exact decrypt_mask iv_length sender uses decoded

theorem last_block_never_meets :
    counterBlocks (List.replicate 16 255) .initiator 2 =
      [List.replicate 16 255, List.replicate 16 0] ∧
    (counterBlocks (List.replicate 16 255) .initiator (2 ^ 127)).Disjoint
      (counterBlocks (List.replicate 16 255) .responder (2 ^ 127)) := by
  have iv_length : (List.replicate 16 255 : Bytes).length = 16 := List.length_replicate
  have apart := (directions_never_meet iv_length (List.replicate 32 7)).1 (2 ^ 127) (2 ^ 127)
    le_rfl le_rfl
  exact ⟨by decide, apart.2.2⟩

end Wire.Cipher

end MailExchange
