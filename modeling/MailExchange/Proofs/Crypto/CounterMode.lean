import MailExchange.Proofs.Bytes.Encoding
import MailExchange.Wire.Cipher

namespace MailExchange

open Text (Bytes)

theorem Aes.encrypt_length (keys : Array UInt8) (block : Bytes) :
    (Aes.encrypt keys block).length = 16 := by
  simp [Aes.encrypt, Aes.addRoundKey, Aes.plainColumn, List.range_succ]

namespace Keystream

theorem blocks_length (keys : Array UInt8) (start first count : Nat) :
    (blocks keys start first count).length = 16 * count := by
  have sixteen (index : Nat) : (Aes.encrypt keys (counterBlock start index)).length = 16 :=
    Aes.encrypt_length keys _
  rw [blocks, List.length_flatMap]
  simp only [sixteen, List.map_const', List.length_range', List.sum_replicate_nat]
  exact Nat.mul_comm count 16

@[simp] theorem next_length (stream : Keystream) (count : Nat) :
    (stream.next count).length = count := by
  rw [next, List.length_take, List.length_drop, blocks_length]
  omega

@[simp] theorem apply_length (stream : Keystream) (bytes : Bytes) :
    (stream.apply bytes).1.length = bytes.length := by
  rw [apply, List.length_zipWith, next_length, Nat.min_self]

theorem apply_stream (stream : Keystream) (bytes : Bytes) :
    (stream.apply bytes).2 = { stream with used := stream.used + bytes.length } := rfl

theorem apply_twice (stream : Keystream) (bytes : Bytes) :
    stream.apply (stream.apply bytes).1 = (bytes, (stream.apply bytes).2) := by
  have enough : bytes.length ≤ (stream.next bytes.length).length :=
    Nat.le_of_eq (next_length stream bytes.length).symm
  have clear : (stream.apply (stream.apply bytes).1).1 = bytes := by
    rw [apply, apply_length]
    exact BigEndian.xor_twice enough
  have moved : (stream.apply (stream.apply bytes).1).2 = (stream.apply bytes).2 := by
    rw [apply_stream, apply_length, apply_stream]
  exact Prod.ext clear moved

end Keystream

namespace CounterMode

/-- A byte of the stream that starts at a counter block. Counters are numbers of 128 bits, and zero
follows the last one. -/
def streamByte (key firstBlock : Bytes) (place : Nat) : UInt8 :=
  (Aes.encrypt (Aes.expandKey key)
    (BigEndian.ofNat 16 ((BigEndian.toNat firstBlock + place / 16) % 2 ^ 128))).getD (place % 16) 0

/-- AES-256 in counter mode. -/
def encrypt (key firstBlock : Bytes) (bytes : Bytes) : Bytes :=
  bytes.mapIdx fun place byte => byte ^^^ streamByte key firstBlock place

end CounterMode

namespace Keystream

def byteAt (key : Bytes) (start place : Nat) : UInt8 :=
  (Aes.encrypt (Aes.expandKey key) (counterBlock start (place / 16))).getD (place % 16) 0

theorem block_bytes (key : Bytes) (start index : Nat) :
    Aes.encrypt (Aes.expandKey key) (counterBlock start index) =
      (List.range' (16 * index) 16).map (byteAt key start) := by
  have size := Aes.encrypt_length (Aes.expandKey key) (counterBlock start index)
  apply List.ext_getElem
  · rw [size, List.length_map, List.length_range']
  · intro place inside _
    rw [size] at inside
    have same_block : (16 * index + place) / 16 = index := by omega
    have same_place : (16 * index + place) % 16 = place := by omega
    rw [List.getElem_map, List.getElem_range', Nat.one_mul, byteAt, same_block, same_place,
      List.getD_eq_getElem?_getD, List.getElem?_eq_getElem (by rw [size]; exact inside),
      Option.getD_some]

theorem blocks_bytes (key : Bytes) (start first count : Nat) :
    blocks (Aes.expandKey key) start first count =
      (List.range' (16 * first) (16 * count)).map (byteAt key start) := by
  induction count generalizing first with
  | zero => rfl
  | succ count ih =>
      have next_block : 16 * (first + 1) = 16 * first + 1 * 16 := by omega
      have more : 16 * (count + 1) = 16 + 16 * count := by omega
      calc blocks (Aes.expandKey key) start first (count + 1)
        _ = Aes.encrypt (Aes.expandKey key) (counterBlock start first) ++
              blocks (Aes.expandKey key) start (first + 1) count := by
            rw [blocks, List.range'_succ, List.flatMap_cons]
            rfl
        _ = (List.range' (16 * first) (16 * (count + 1))).map (byteAt key start) := by
            rw [ih, block_bytes, ← List.map_append, next_block, List.range'_append, more]

theorem next_bytes (stream : Keystream) (count : Nat) :
    stream.next count = (List.range' stream.used count).map (byteAt stream.key stream.start) := by
  apply List.ext_getElem
  · rw [next_length, List.length_map, List.length_range']
  · intro place inside _
    have used : 16 * (stream.used / 16) + stream.used % 16 = stream.used :=
      Nat.div_add_mod stream.used 16
    simp only [next, blocks_bytes, List.getElem_take, List.getElem_drop, List.getElem_map,
      List.getElem_range', Nat.one_mul]
    rw [← Nat.add_assoc, used]

theorem apply_bytes (stream : Keystream) (bytes : Bytes) :
    (stream.apply bytes).1 =
      bytes.mapIdx fun place byte => byte ^^^ byteAt stream.key stream.start (stream.used + place) := by
  apply List.ext_getElem
  · rw [apply_length, List.length_mapIdx]
  · intro place inside _
    simp only [apply, next_bytes, List.getElem_zipWith, List.getElem_map, List.getElem_range',
      List.getElem_mapIdx, Nat.one_mul]

def applyAll : Keystream → List Bytes → List Bytes
  | _, [] => []
  | stream, bytes :: rest => (stream.apply bytes).1 :: applyAll (stream.apply bytes).2 rest

def past (stream : Keystream) (pieces : List Bytes) : Keystream :=
  pieces.foldl (fun stream bytes => (stream.apply bytes).2) stream

theorem applyAll_append (stream : Keystream) (first second : List Bytes) :
    stream.applyAll (first ++ second) =
      stream.applyAll first ++ (stream.past first).applyAll second := by
  induction first generalizing stream with
  | nil => rfl
  | cons bytes first ih => exact congrArg ((stream.apply bytes).1 :: ·) (ih (stream.apply bytes).2)

theorem past_append (stream : Keystream) (first second : List Bytes) :
    stream.past (first ++ second) = (stream.past first).past second := List.foldl_append

theorem applyAll_lengths (stream : Keystream) (pieces : List Bytes) :
    (stream.applyAll pieces).map List.length = pieces.map List.length := by
  induction pieces generalizing stream with
  | nil => rfl
  | cons bytes pieces ih =>
      rw [applyAll, List.map_cons, List.map_cons, apply_length, ih (stream.apply bytes).2]

/-- However a text is cut into pieces, the pieces together are the text under the stream. -/
theorem flatten_applyAll (stream : Keystream) (pieces : List Bytes) :
    (stream.applyAll pieces).flatten = (stream.apply pieces.flatten).1 := by
  induction pieces generalizing stream with
  | nil => rfl
  | cons bytes pieces ih =>
      have further (place : Nat) :
          stream.used + bytes.length + place = stream.used + (bytes.length + place) :=
        Nat.add_assoc _ _ _
      rw [applyAll, List.flatten_cons, List.flatten_cons, ih]
      simp only [apply_bytes, apply_stream, List.mapIdx_append, further, Nat.add_comm bytes.length]

theorem apply_counterMode {key firstBlock : Bytes} {start : Nat}
    (starts : start = BigEndian.toNat firstBlock) (bytes : Bytes) :
    (Keystream.apply ⟨key, start, 0⟩ bytes).1 = CounterMode.encrypt key firstBlock bytes := by
  have modulus : (2 ^ 128 : Nat) = Nat.pow 2 128 := rfl
  have same_byte (place : Nat) :
      byteAt key start (0 + place) = CounterMode.streamByte key firstBlock place := by
    rw [Nat.zero_add, byteAt, CounterMode.streamByte, counterBlock, starts, modulus]
  simp only [apply_bytes, CounterMode.encrypt, same_byte]

end Keystream

end MailExchange
