import MailExchange.Proofs.Crypto.CounterMode
import MailExchange.Proofs.Text.Utf8
import MailExchange.Proofs.Wire.Duplex

/-!
The two ciphers of a session, used in any order. The pieces that an end has encrypted and the other
has not decrypted yet are the stretch of one keystream between the places where the two stand, so the
pair is as good as two queues.
-/

namespace MailExchange.Wire

open Text (Bytes)

namespace Cipher

/-- The first counter block of one end. The responder's has the top bit inverted. -/
def firstBlock (iv : Bytes) : Role → Bytes
  | .initiator => iv
  | .responder => iv.modifyHead (· ^^^ 0x80)

theorem invert_top (byte : UInt8) : (byte ^^^ 0x80).toNat = (byte.toNat + 128) % 256 := by
  have all : ∀ value < 256,
      (UInt8.ofNat value ^^^ 0x80).toNat = ((UInt8.ofNat value).toNat + 128) % 256 := by
    decide +kernel
  have this_byte := all byte.toNat byte.toNat_lt
  rwa [UInt8.ofNat_toNat] at this_byte

theorem firstCounter_firstBlock {iv : Bytes} (iv_length : iv.length = 16) (role : Role) :
    firstCounter iv role = BigEndian.toNat (firstBlock iv role) := by
  cases role with
  | initiator => rfl
  | responder =>
      cases iv with
      | nil => cases iv_length
      | cons byte rest =>
          have rest_length : rest.length = 15 := Nat.succ.inj iv_length
          have rest_small := BigEndian.toNat_lt rest
          have inverted := invert_top byte
          have small := byte.toNat_lt
          have half : Nat.pow 2 127 = 128 * 256 ^ 15 := by decide
          have whole : Nat.pow 2 128 = 256 * 256 ^ 15 := by decide
          rw [rest_length] at rest_small
          rw [firstCounter, firstBlock, List.modifyHead_cons, BigEndian.toNat_cons,
            BigEndian.toNat_cons, inverted, rest_length, half, whole]
          omega

def readText (clear : Bytes) : Except Error String :=
  match Text.ofUtf8? clear with
  | some text => .ok text
  | none => .error .framing

theorem readText_utf8 (line : String) : readText (Text.utf8 line) = .ok line := by
  rw [readText, Text.ofUtf8_utf8]

def enclose (cipher : Cipher) (bytes : Bytes) : String × Cipher :=
  (Base64.encode (cipher.outgoing.apply bytes).1,
    { cipher with outgoing := (cipher.outgoing.apply bytes).2 })

section Decrypting

variable {cipher : Cipher} {line : String} {bytes : Bytes}

theorem decrypt_stray (stray : Base64.decode? line = none) :
    cipher.decrypt line = (.error .framing, cipher) := by
  rw [decrypt, stray]

theorem decrypt_decoded (decoded : Base64.decode? line = some bytes) :
    cipher.decrypt line =
      (readText (cipher.incoming.apply bytes).1,
        { cipher with incoming := (cipher.incoming.apply bytes).2 }) := by
  rw [decrypt, decoded]
  rfl

theorem decrypt_outgoing (cipher : Cipher) (line : String) :
    (cipher.decrypt line).2.outgoing = cipher.outgoing := by
  cases decoded : Base64.decode? line with
  | none => rw [decrypt_stray decoded]
  | some bytes => rw [decrypt_decoded decoded]

end Decrypting

end Cipher

inductive Crypt where
  | encrypt (line : String)
  /-- Encrypts bytes that need not be a text. -/
  | enclose (bytes : Bytes)
  /-- Decrypts the next line of the other end, if there is one. -/
  | decrypt
  /-- Decrypts a line that the other end has not written. -/
  | stray (line : String)

namespace Crypt

def clear? : Crypt → Option Bytes
  | .encrypt line => some (Text.utf8 line)
  | .enclose bytes => some bytes
  | .decrypt => none
  | .stray _ => none

def pieces (role : Role) (crypts : List (Role × Crypt)) : List Bytes :=
  crypts.filterMap fun crypt => if crypt.1 = role then crypt.2.clear? else none

theorem pieces_cons (role actor : Role) (crypt : Crypt) (rest : List (Role × Crypt)) :
    pieces role ((actor, crypt) :: rest) =
      (if actor = role then crypt.clear? else none).toList ++ pieces role rest := by
  rw [pieces, List.filterMap_cons]
  cases (if actor = role then crypt.clear? else none) with
  | none => rfl
  | some bytes => rfl

end Crypt

/-- What a decryption gives. Nothing comes of decrypting the next line when there is none. -/
abbrev Decrypted := Option (Except Error String)

structure CipherPair where
  ends : Role → Cipher
  /-- The lines that each end has written. -/
  written : Role → List String
  /-- The lines that each end has yet to decrypt. -/
  arriving : Role → List String

namespace CipherPair

def start (key iv : Bytes) : CipherPair :=
  ⟨Cipher.start key iv, fun _ => [], fun _ => []⟩

def wrote (pair : CipherPair) (role : Role) (outcome : String × Cipher) : CipherPair where
  ends := Function.update pair.ends role outcome.2
  written := Function.update pair.written role (pair.written role ++ [outcome.1])
  arriving := Function.update pair.arriving role.peer (pair.arriving role.peer ++ [outcome.1])

def act (pair : CipherPair) (role : Role) : Crypt → Decrypted × CipherPair
  | .encrypt line => (none, pair.wrote role ((pair.ends role).encrypt line))
  | .enclose bytes => (none, pair.wrote role ((pair.ends role).enclose bytes))
  | .decrypt =>
    match pair.arriving role with
    | [] => (none, pair)
    | line :: rest =>
      (some ((pair.ends role).decrypt line).1,
        { pair with
          ends := Function.update pair.ends role ((pair.ends role).decrypt line).2
          arriving := Function.update pair.arriving role rest })
  | .stray line =>
    (some ((pair.ends role).decrypt line).1,
      { pair with ends := Function.update pair.ends role ((pair.ends role).decrypt line).2 })

def decrypted (pair : CipherPair) : List (Role × Crypt) → List Decrypted
  | [] => []
  | (role, crypt) :: rest => (pair.act role crypt).1 :: (pair.act role crypt).2.decrypted rest

def run (pair : CipherPair) (crypts : List (Role × Crypt)) : CipherPair :=
  crypts.foldl (fun pair crypt => (pair.act crypt.1 crypt.2).2) pair

end CipherPair

abbrev Expected := Role → List (Except Error String)

namespace Expected

def empty : Expected := fun _ => []

def push (expected : Expected) (role : Role) (result : Except Error String) : Expected :=
  Function.update expected role (expected role ++ [result])

def act (expected : Expected) (role : Role) : Crypt → Decrypted × Expected
  | .encrypt line => (none, expected.push role.peer (.ok line))
  | .enclose bytes => (none, expected.push role.peer (Cipher.readText bytes))
  | .decrypt =>
    match expected role with
    | [] => (none, expected)
    | result :: rest => (some result, Function.update expected role rest)
  | .stray _ => (some (.error .framing), expected)

def decrypted (expected : Expected) : List (Role × Crypt) → List Decrypted
  | [] => []
  | (role, crypt) :: rest =>
    (expected.act role crypt).1 :: (expected.act role crypt).2.decrypted rest

end Expected

structure Underway (near far : Cipher) (lines : List String)
    (results : List (Except Error String)) (pieces : List Bytes) : Prop where
  lines : lines = (near.incoming.applyAll pieces).map Base64.encode
  place : near.incoming.past pieces = far.outgoing
  results : results = pieces.map Cipher.readText

namespace Underway

variable {near far : Cipher} {lines : List String} {results : List (Except Error String)}
  {pieces : List Bytes}

theorem encloses (underway : Underway near far lines results pieces) (bytes : Bytes) :
    Underway near (far.enclose bytes).2 (lines ++ [(far.enclose bytes).1])
      (results ++ [Cipher.readText bytes]) (pieces ++ [bytes]) := by
  constructor
  · rw [Keystream.applyAll_append, List.map_append, underway.place, underway.lines]
    rfl
  · rw [Keystream.past_append, underway.place]
    rfl
  · rw [List.map_append, underway.results]
    rfl

theorem decrypts {line : String} (underway : Underway near far (line :: lines) results pieces) :
    ∃ result rest later, results = result :: rest ∧ (near.decrypt line).1 = result ∧
      Underway (near.decrypt line).2 far lines rest later := by
  cases pieces with
  | nil => cases underway.lines
  | cons bytes later =>
      have cut := List.cons.inj underway.lines
      have decoded : Base64.decode? line = some (near.incoming.apply bytes).1 := by
        rw [cut.1, Base64.decode_encode]
      have decrypted := @Cipher.decrypt_decoded near _ _ decoded
      rw [Keystream.apply_twice] at decrypted
      rw [decrypted]
      exact ⟨Cipher.readText bytes, later.map Cipher.readText, later, underway.results, rfl,
        cut.2, underway.place, rfl⟩

theorem near_encloses (underway : Underway near far lines results pieces) (bytes : Bytes) :
    Underway (near.enclose bytes).2 far lines results pieces :=
  ⟨underway.lines, underway.place, underway.results⟩

theorem far_decrypts (underway : Underway near far lines results pieces) (line : String) :
    Underway near (far.decrypt line).2 lines results pieces :=
  ⟨underway.lines, by rw [Cipher.decrypt_outgoing, underway.place], underway.results⟩

end Underway

namespace CipherPair

section Reading

variable {pair : CipherPair} {expected : Expected}

/-- Each end is about to decrypt what is expected of it. -/
def Carries (pair : CipherPair) (expected : Expected) : Prop :=
  ∀ role, ∃ pieces,
    Underway (pair.ends role) (pair.ends role.peer) (pair.arriving role) (expected role) pieces

theorem start_carries (key iv : Bytes) : Carries (start key iv) Expected.empty := by
  intro role
  have same_place : (Cipher.start key iv role).incoming =
      (Cipher.start key iv role.peer).outgoing := rfl
  exact ⟨[], rfl, same_place, rfl⟩

theorem Carries.encloses (carries : Carries pair expected) (role : Role) (bytes : Bytes) :
    Carries (pair.wrote role ((pair.ends role).enclose bytes))
      (expected.push role.peer (Cipher.readText bytes)) := by
  intro other
  rcases Role.eq_or_peer role other with rfl | rfl
  · obtain ⟨pieces, underway⟩ := carries other
    refine ⟨pieces, ?_⟩
    simpa only [wrote, Expected.push, Function.update_self,
      Function.update_of_ne (Role.peer_ne other), Function.update_of_ne (Role.peer_ne other).symm]
      using underway.near_encloses bytes
  · obtain ⟨pieces, underway⟩ := carries role.peer
    rw [Role.peer_peer] at underway
    refine ⟨pieces ++ [bytes], ?_⟩
    simpa only [wrote, Expected.push, Role.peer_peer, Function.update_self,
      Function.update_of_ne (Role.peer_ne role)] using underway.encloses bytes

theorem Carries.decrypts (carries : Carries pair expected) (role : Role) :
    (pair.act role .decrypt).1 = (expected.act role .decrypt).1 ∧
      Carries (pair.act role .decrypt).2 (expected.act role .decrypt).2 := by
  obtain ⟨pieces, underway⟩ := carries role
  cases lines : pair.arriving role with
  | nil =>
      have nothing : expected role = [] := by
        cases pieces with
        | nil => exact underway.results
        | cons bytes later => cases lines.symm.trans underway.lines
      simp only [act, Expected.act, lines, nothing]
      exact ⟨trivial, carries⟩
  | cons line rest =>
      rw [lines] at underway
      obtain ⟨result, results, later, split, read, left⟩ := underway.decrypts
      simp only [act, Expected.act, lines, split, read]
      refine ⟨trivial, fun other => ?_⟩
      rcases Role.eq_or_peer role other with rfl | rfl
      · refine ⟨later, ?_⟩
        simpa only [Function.update_self, Function.update_of_ne (Role.peer_ne other)] using left
      · obtain ⟨others, there⟩ := carries role.peer
        have unmoved := there.far_decrypts line
        rw [Role.peer_peer] at unmoved
        refine ⟨others, ?_⟩
        simpa only [Role.peer_peer, Function.update_self,
          Function.update_of_ne (Role.peer_ne role)] using unmoved

theorem Carries.stray (carries : Carries pair expected) (role : Role) {line : String}
    (stray : Base64.decode? line = none) :
    (pair.act role (.stray line)).1 = (expected.act role (.stray line)).1 ∧
      Carries (pair.act role (.stray line)).2 (expected.act role (.stray line)).2 := by
  simp only [act, Expected.act, Cipher.decrypt_stray stray, Function.update_eq_self]
  exact ⟨trivial, carries⟩

theorem Carries.act (carries : Carries pair expected) (role : Role) (crypt : Crypt)
    (strays : ∀ line, crypt = .stray line → Base64.decode? line = none) :
    (pair.act role crypt).1 = (expected.act role crypt).1 ∧
      Carries (pair.act role crypt).2 (expected.act role crypt).2 := by
  cases crypt with
  | encrypt line =>
      have written := carries.encloses role (Text.utf8 line)
      rw [Cipher.readText_utf8] at written
      exact ⟨rfl, written⟩
  | enclose bytes => exact ⟨rfl, carries.encloses role bytes⟩
  | decrypt => exact carries.decrypts role
  | stray line => exact carries.stray role (strays line rfl)

theorem Carries.decrypted (carries : Carries pair expected) (crypts : List (Role × Crypt))
    (strays : ∀ role line, (role, .stray line) ∈ crypts → Base64.decode? line = none) :
    pair.decrypted crypts = expected.decrypted crypts := by
  induction crypts generalizing pair expected with
  | nil => rfl
  | cons first rest ih =>
      rcases first with ⟨role, crypt⟩
      have first_strays (line : String) (same : crypt = .stray line) :
          Base64.decode? line = none := by
        apply strays role line
        rw [same]
        exact List.mem_cons_self
      have acted := carries.act role crypt first_strays
      rw [CipherPair.decrypted, Expected.decrypted, acted.1,
        ih acted.2 fun other line member => strays other line (List.mem_cons_of_mem _ member)]

end Reading

section Writing

variable (pair : CipherPair) (actor : Role)

theorem enclose_written (bytes : Bytes) (role : Role) :
    let after := pair.wrote actor ((pair.ends actor).enclose bytes)
    let piece := (if actor = role then some bytes else none).toList
    after.written role =
        pair.written role ++ ((pair.ends role).outgoing.applyAll piece).map Base64.encode ∧
      (after.ends role).outgoing = (pair.ends role).outgoing.past piece := by
  intro after piece
  by_cases own : actor = role
  · subst own
    simp only [after, piece, if_pos, wrote, Function.update_self]
    exact ⟨rfl, rfl⟩
  · simp only [after, piece, if_neg own, wrote, Function.update_of_ne (Ne.symm own)]
    exact ⟨(List.append_nil _).symm, rfl⟩

theorem act_written (crypt : Crypt) (role : Role) :
    let after := (pair.act actor crypt).2
    let piece := (if actor = role then crypt.clear? else none).toList
    after.written role =
        pair.written role ++ ((pair.ends role).outgoing.applyAll piece).map Base64.encode ∧
      (after.ends role).outgoing = (pair.ends role).outgoing.past piece := by
  have reads (line : String) :
      (Function.update pair.ends actor ((pair.ends actor).decrypt line).2 role).outgoing =
        (pair.ends role).outgoing := by
    by_cases own : actor = role
    · rw [← own, Function.update_self, Cipher.decrypt_outgoing]
    · rw [Function.update_of_ne (Ne.symm own)]
  cases crypt with
  | encrypt line => exact pair.enclose_written actor (Text.utf8 line) role
  | enclose bytes => exact pair.enclose_written actor bytes role
  | decrypt =>
      simp only [act, Crypt.clear?, ite_self]
      cases pair.arriving actor with
      | nil => exact ⟨(List.append_nil _).symm, rfl⟩
      | cons line rest => exact ⟨(List.append_nil _).symm, reads line⟩
  | stray line =>
      simp only [act, Crypt.clear?, ite_self]
      exact ⟨(List.append_nil _).symm, reads line⟩

theorem run_written (crypts : List (Role × Crypt)) (role : Role) :
    (pair.run crypts).written role = pair.written role ++
      ((pair.ends role).outgoing.applyAll (Crypt.pieces role crypts)).map Base64.encode := by
  induction crypts generalizing pair with
  | nil => exact (List.append_nil _).symm
  | cons first rest ih =>
      rcases first with ⟨actor, crypt⟩
      have step := pair.act_written actor crypt role
      calc (pair.run ((actor, crypt) :: rest)).written role
        _ = ((pair.act actor crypt).2.run rest).written role := rfl
        _ = _ := by
          rw [ih, step.1, step.2, Crypt.pieces_cons, Keystream.applyAll_append, List.map_append,
            List.append_assoc]

end Writing

end CipherPair

/-- The two ends of a session carry text for each other as two queues do, in whatever order they are
used and whatever comes between. What each writes is counter mode over the bytes of all its lines, and
only a line that can be decoded moves a stream. -/
theorem duplex_stream {key iv : Bytes} (key_length : key.length = 32) (iv_length : iv.length = 16) :
    (∀ role, Cipher.ofParts key iv role = .ok ((CipherPair.start key iv).ends role)) ∧
    (∀ crypts, (∀ role line, (role, .stray line) ∈ crypts → Base64.decode? line = none) →
      (CipherPair.start key iv).decrypted crypts = Expected.empty.decrypted crypts) ∧
    (∀ crypts role, ∃ ciphertexts : List Bytes,
      ((CipherPair.start key iv).run crypts).written role = ciphertexts.map Base64.encode ∧
      ciphertexts.map List.length = (Crypt.pieces role crypts).map List.length ∧
      ciphertexts.flatten =
        CounterMode.encrypt key (Cipher.firstBlock iv role) (Crypt.pieces role crypts).flatten) ∧
    (∀ (cipher : Cipher) (line : String),
      (Base64.decode? line = none → cipher.decrypt line = (.error .framing, cipher)) ∧
      (∀ bytes, Base64.decode? line = some bytes →
        Text.ofUtf8? (cipher.incoming.apply bytes).1 = none →
        cipher.decrypt line = (.error .framing, { cipher with
          incoming := { cipher.incoming with used := cipher.incoming.used + bytes.length } }))) := by
  refine ⟨fun role => ?_, fun crypts strays => ?_, fun crypts role => ?_, fun cipher line => ⟨?_, ?_⟩⟩
  · exact if_pos ⟨key_length, iv_length⟩
  · exact (CipherPair.start_carries key iv).decrypted crypts strays
  · refine ⟨(Cipher.keystream key iv role).applyAll (Crypt.pieces role crypts), ?_, ?_, ?_⟩
    · exact (CipherPair.start key iv).run_written crypts role
    · exact Keystream.applyAll_lengths _ _
    · rw [Keystream.flatten_applyAll]
      exact Keystream.apply_counterMode (Cipher.firstCounter_firstBlock iv_length role) _
  · exact fun stray => Cipher.decrypt_stray stray
  · intro bytes decoded garbled
    rw [Cipher.decrypt_decoded decoded, Cipher.readText, garbled, Keystream.apply_stream]

/-- A pair whose counters start at the last block. The responder's line arrives behind a line that no
end has written. -/
theorem duplex_stream_last_block :
    (CipherPair.start (List.replicate 32 7) (List.replicate 16 255)).decrypted
        [(.initiator, .encrypt "list"), (.responder, .encrypt ""), (.initiator, .stray "!"),
          (.initiator, .decrypt), (.responder, .decrypt), (.responder, .decrypt)] =
      [none, none, some (.error .framing), some (.ok ""), some (.ok "list"), none] := by
  apply ((duplex_stream rfl rfl).2.1 _ _).trans
  · rfl
  · intro role line member
    simp only [List.mem_cons, Prod.mk.injEq, Crypt.stray.injEq, reduceCtorEq, and_false, false_or,
      List.not_mem_nil, or_false] at member
    rw [member.2]
    decide

end MailExchange.Wire
