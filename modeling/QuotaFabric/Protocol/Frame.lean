import QuotaFabric.Persistence.Codec
import QuotaFabric.Lib.ByteStream

/-!
# Frames

Model of `protocol/frame.hpp`, `src/protocol/frame.cpp` and `TcpSocket::recv_all`.  A frame is a
20-byte header, all words big-endian, and a payload.

* `encodeFrame` — a complete frame;
* `decodeFrame` — the parser over a buffer, with its `BigReader`;
* `recvFrame` — the parser over a socket, which reads the header and then the payload.  What the
  operating system does is a `ByteStream`: some bytes at each call, in order, until the peer closes;
* `frameAt`, `HeaderOk` — the header words where they stand; both parsers check them in the same order.

Principal results: `decodeFrame_ok_iff` — a buffer is accepted exactly if it begins with an encoded
frame; `recvFrame_eq` — the socket parser answers as the buffer parser on the bytes to come;
`recvFrames_encode` — a sequence of frames arrives as sent, then the end of the stream.
-/

set_option autoImplicit false

namespace QuotaFabric

/-! ## Message types -/

inductive MessageType where
  | hello
  | welcome
  | createGroup
  | createTenant
  | setTenantQuota
  | setGroupQuota
  | evaluate
  | reserve
  | commitReservation
  | release
  | startAllocation
  | releaseAllocation
  | borrow
  | lend
  | recallBorrow
  | recallDecision
  | observe
  | envelope
  | snapshot
  | advanceEpoch
  | ping
  | resultOk
  | resultErr
  | undeclared (code : { b : UInt8 // b = 0 ∨ 21 < b ∧ b < 200 ∨ 200 < b ∧ b < 255 })
  deriving DecidableEq

namespace MessageType

def toByte : MessageType → UInt8
  | .hello => 1
  | .welcome => 2
  | .createGroup => 3
  | .createTenant => 4
  | .setTenantQuota => 5
  | .setGroupQuota => 6
  | .evaluate => 7
  | .reserve => 8
  | .commitReservation => 9
  | .release => 10
  | .startAllocation => 11
  | .releaseAllocation => 12
  | .borrow => 13
  | .lend => 14
  | .recallBorrow => 15
  | .recallDecision => 16
  | .observe => 17
  | .envelope => 18
  | .snapshot => 19
  | .advanceEpoch => 20
  | .ping => 21
  | .resultOk => 200
  | .resultErr => 255
  | .undeclared b => b.val

def declared : List MessageType :=
  [hello, welcome, createGroup, createTenant, setTenantQuota, setGroupQuota, evaluate, reserve,
   commitReservation, release, startAllocation, releaseAllocation, borrow, lend, recallBorrow,
   recallDecision, observe, envelope, snapshot, advanceEpoch, ping, resultOk, resultErr]

/-- `static_cast` from a byte. -/
def ofByte (b : UInt8) : MessageType :=
  if h : b = 0 ∨ 21 < b ∧ b < 200 ∨ 200 < b ∧ b < 255 then .undeclared ⟨b, h⟩
  else (declared.find? fun t => t.toByte == b).getD .ping

theorem ofByte_toByte (t : MessageType) : ofByte t.toByte = t := by
  cases t with
  | undeclared b => exact dif_pos b.property
  | _ => rfl

/-- Every byte that is not an undeclared value belongs to a declared one. -/
theorem exists_declared {b : UInt8} (h : ¬ (b = 0 ∨ 21 < b ∧ b < 200 ∨ 200 < b ∧ b < 255)) :
    ∃ t ∈ declared, t.toByte = b := by
  have hall : ∀ n : Fin 256, n.val = 0 ∨ 21 < n.val ∧ n.val < 200 ∨ 200 < n.val ∧ n.val < 255 ∨
      ∃ t ∈ declared, t.toByte.toNat = n.val := by decide +kernel
  have hb := b.toNat_lt
  simp only [UInt8.lt_iff_toNat_lt, ← UInt8.toNat_inj] at h
  rcases hall ⟨b.toNat, hb⟩ with h' | h' | h' | ⟨t, ht, h'⟩
  · exact absurd (Or.inl h') h
  · exact absurd (Or.inr (Or.inl h')) h
  · exact absurd (Or.inr (Or.inr h')) h
  · exact ⟨t, ht, UInt8.toNat_inj.mp h'⟩

theorem toByte_ofByte (b : UInt8) : (ofByte b).toByte = b := by
  unfold ofByte
  split
  · rfl
  · rename_i h
    obtain ⟨t, ht, htb⟩ := exists_declared h
    cases hfind : declared.find? fun t => t.toByte == b with
    | none =>
      have hno := List.find?_eq_none.mp hfind t ht
      exact absurd (beq_iff_eq.mpr htb) hno
    | some u =>
      have hu := List.find?_some hfind
      exact beq_iff_eq.mp hu

end MessageType

/-! ## Frames in memory -/

def kFrameMagic : UInt32 := 0x51FA0134

def kProtocolVersion : UInt16 := 1

/-- Bounded frame size: 16 MiB of payload. -/
def kMaxFrameSize : UInt32 := 16 * 1024 * 1024

structure Frame where
  type : MessageType := .ping
  flags : UInt8 := 0
  correlation : UInt64 := 0
  payload : Bytes := []
  deriving DecidableEq

namespace BigWriter

def u8 (v : UInt8) : Bytes := [v]

def u16 (v : UInt16) : Bytes := toBE 2 v.toNat

def u32 (v : UInt32) : Bytes := toBE 4 v.toNat

def u64 (v : UInt64) : Bytes := toBE 8 v.toNat

end BigWriter

def encodeFrame (type : MessageType) (corr : UInt64) (flags : UInt8) (payload : Bytes) : Bytes :=
  BigWriter.u32 kFrameMagic ++ BigWriter.u16 kProtocolVersion ++ BigWriter.u8 type.toByte ++
  BigWriter.u8 flags ++ BigWriter.u64 corr ++ BigWriter.u32 (UInt32.ofNat payload.length) ++ payload

/-- The encoding of a frame. -/
def Frame.encode (f : Frame) : Bytes := encodeFrame f.type f.correlation f.flags f.payload

structure BigReader where
  bytes : Bytes
  off : Nat := 0

/-- Read a word of `k` bytes.  Where too few are left the variable keeps its initial zero. -/
def BigReader.word (r : BigReader) (k : Nat) : Nat × BigReader :=
  if r.off + k > r.bytes.length then (0, r)
  else (field r.bytes r.off k, { r with off := r.off + k })

def decodeFrame (data : Bytes) : Except Str Frame :=
  if data.length < 20 then .error (text "frame too small")
  else
    let (magic, r) := BigReader.word ⟨data, 0⟩ 4
    if magic ≠ kFrameMagic.toNat then .error (text "bad frame magic")
    else
      let (ver, r) := r.word 2
      if ver ≠ kProtocolVersion.toNat then .error (text "unsupported protocol version")
      else
        let (type, r) := r.word 1
        let (flags, r) := r.word 1
        let (corr, r) := r.word 8
        let (plen, r) := r.word 4
        if plen > kMaxFrameSize.toNat then .error (text "frame oversized")
        else if r.off + plen > data.length then .error (text "truncated frame")
        else
          .ok
            { type := .ofByte (UInt8.ofNat type), flags := UInt8.ofNat flags
              correlation := UInt64.ofNat corr, payload := (data.drop r.off).take plen }

/-! ## Frames from a socket -/

def validateFrameHeaderMagic (h : Bytes) : Bool := field h 0 4 == kFrameMagic.toNat

section Socket

variable {σ : Type}

/-- Read one complete frame.  `maxSize` bounds the payload further unless it is `0`. -/
def recvFrame (sock : ByteStream σ) (s : σ) (maxSize : UInt32) : Except Str Frame × σ :=
  match sock.recvAll s 20 with
  | (none, s) => (.error (text "socket closed reading header"), s)
  | (some h, s) =>
    if !validateFrameHeaderMagic h then (.error (text "bad frame magic"), s)
    else if field h 4 2 ≠ kProtocolVersion.toNat then (.error (text "unsupported protocol version"), s)
    else
      let plen := field h 16 4
      if plen > kMaxFrameSize.toNat then (.error (text "frame oversized"), s)
      else if maxSize ≠ 0 ∧ plen > maxSize.toNat then (.error (text "frame exceeds caller bound"), s)
      else
        let frame (payload : Bytes) : Frame :=
          { type := .ofByte (UInt8.ofNat (field h 6 1)), flags := UInt8.ofNat (field h 7 1)
            correlation := UInt64.ofNat (field h 8 8), payload }
        -- an empty payload is not waited for
        if plen > 0 then
          match sock.recvAll s plen with
          | (none, s) => (.error (text "socket closed reading payload"), s)
          | (some payload, s) => (.ok (frame payload), s)
        else (.ok (frame []), s)

/-- `n` calls of `recv_frame`, one after another. -/
def recvFrames (sock : ByteStream σ) : Nat → σ → List (Except Str Frame)
  | 0, _ => []
  | n + 1, s =>
    let (r, s) := recvFrame sock s 0
    r :: recvFrames sock n s

end Socket

/-! ## The header words -/

/-- The frame whose header is in front of `data`. -/
def frameAt (data : Bytes) : Frame where
  type := .ofByte (UInt8.ofNat (field data 6 1))
  flags := UInt8.ofNat (field data 7 1)
  correlation := UInt64.ofNat (field data 8 8)
  payload := (data.drop 20).take (field data 16 4)

/-- The payload length a header declares. -/
def declaredLength (data : Bytes) : Nat := field data 16 4

/-- The header in front of `data` passes the checks both parsers make. -/
structure HeaderOk (data : Bytes) : Prop where
  long : 20 ≤ data.length
  magic : field data 0 4 = kFrameMagic.toNat
  version : field data 4 2 = kProtocolVersion.toNat
  size : declaredLength data ≤ kMaxFrameSize.toNat

theorem BigReader.word_of_le {data : Bytes} {off k : Nat} (h : off + k ≤ data.length) :
    BigReader.word ⟨data, off⟩ k = (field data off k, ⟨data, off + k⟩) := by
  unfold BigReader.word
  rw [if_neg (by simp only; omega)]

/-- The buffer parser in terms of the header words. -/
theorem decodeFrame_eq {data : Bytes} (h : 20 ≤ data.length) :
    decodeFrame data =
      if field data 0 4 ≠ kFrameMagic.toNat then .error (text "bad frame magic")
      else if field data 4 2 ≠ kProtocolVersion.toNat then .error (text "unsupported protocol version")
      else if declaredLength data > kMaxFrameSize.toNat then .error (text "frame oversized")
      else if 20 + declaredLength data > data.length then .error (text "truncated frame")
      else .ok (frameAt data) := by
  unfold decodeFrame
  rw [if_neg (by omega)]
  simp only [BigReader.word_of_le (show 0 + 4 ≤ data.length by omega),
    BigReader.word_of_le (show 4 + 2 ≤ data.length by omega),
    BigReader.word_of_le (show 6 + 1 ≤ data.length by omega),
    BigReader.word_of_le (show 7 + 1 ≤ data.length by omega),
    BigReader.word_of_le (show 8 + 8 ≤ data.length by omega),
    BigReader.word_of_le (show 16 + 4 ≤ data.length by omega)]
  rfl

theorem decodeFrame_short {data : Bytes} (h : data.length < 20) :
    decodeFrame data = .error (text "frame too small") := by
  unfold decodeFrame
  rw [if_pos h]

/-- What a buffer that is accepted looks like, and what is made of it. -/
theorem decodeFrame_ok {data : Bytes} {f : Frame} :
    decodeFrame data = .ok f ↔ HeaderOk data ∧ 20 + declaredLength data ≤ data.length ∧ frameAt data = f := by
  by_cases hlong : 20 ≤ data.length
  · rw [decodeFrame_eq hlong]
    constructor
    · intro h
      split at h
      · cases h
      rename_i hmagic
      split at h
      · cases h
      rename_i hver
      split at h
      · cases h
      rename_i hsize
      split at h
      · cases h
      rename_i hrest
      cases h
      exact ⟨⟨hlong, not_not.mp hmagic, not_not.mp hver, not_lt.mp hsize⟩, not_lt.mp hrest, rfl⟩
    · rintro ⟨hok, hrest, rfl⟩
      rw [if_neg (not_not.mpr hok.magic), if_neg (not_not.mpr hok.version), if_neg (not_lt.mpr hok.size),
        if_neg (not_lt.mpr hrest)]
  · rw [decodeFrame_short (by omega)]
    constructor
    · intro h
      cases h
    · intro h
      exact absurd h.1.long hlong

theorem length_encode (f : Frame) : f.encode.length = 20 + f.payload.length := by
  unfold Frame.encode encodeFrame BigWriter.u32 BigWriter.u16 BigWriter.u8 BigWriter.u64
  simp only [List.length_append, length_toBE, List.length_singleton]

/-- Behind a header that passes the checks stands what it encodes. -/
theorem eq_encode_frameAt {data : Bytes} (h : HeaderOk data) (hrest : 20 + declaredLength data ≤ data.length) :
    data = (frameAt data).encode ++ data.drop (20 + declaredLength data) := by
  have hlong := h.long
  have hword : ∀ i k, i + k ≤ 20 → data.drop i = toBE k (field data i k) ++ data.drop (i + k) := fun i k hik =>
    drop_eq_field (by omega)
  have hbyte : ∀ i, i + 1 ≤ 20 → toBE 1 (field data i 1) = [UInt8.ofNat (field data i 1)] := fun i _ => by
    simp [toBE]
  have hcorr : (UInt64.ofNat (field data 8 8)).toNat = field data 8 8 := by
    have := field_lt data 8 8
    rw [UInt64.toNat_ofNat']
    omega
  have hlen : (frameAt data).payload.length = declaredLength data := by
    show ((data.drop 20).take (field data 16 4)).length = declaredLength data
    rw [List.length_take, List.length_drop]
    unfold declaredLength at *
    omega
  have hplen : (UInt32.ofNat (frameAt data).payload.length).toNat = field data 16 4 := by
    have := field_lt data 16 4
    rw [hlen, UInt32.toNat_ofNat']
    unfold declaredLength
    omega
  have hpayload : data.drop 20 = (frameAt data).payload ++ data.drop (20 + declaredLength data) := by
    rw [← List.drop_drop]
    exact (List.take_append_drop _ _).symm
  unfold Frame.encode encodeFrame BigWriter.u32 BigWriter.u16 BigWriter.u8 BigWriter.u64
  rw [hplen, ← h.magic, ← h.version]
  show data = toBE 4 (field data 0 4) ++ toBE 2 (field data 4 2) ++
    [(MessageType.ofByte (UInt8.ofNat (field data 6 1))).toByte] ++ [UInt8.ofNat (field data 7 1)] ++
    toBE 8 (UInt64.ofNat (field data 8 8)).toNat ++ toBE 4 (field data 16 4) ++ (frameAt data).payload ++ _
  rw [MessageType.toByte_ofByte, hcorr, ← hbyte 6 (by omega), ← hbyte 7 (by omega)]
  simp only [List.append_assoc]
  rw [← hpayload, ← hword 16 4 (by omega), ← hword 8 8 (by omega), ← hword 7 1 (by omega),
    ← hword 6 1 (by omega), ← hword 4 2 (by omega), ← hword 0 4 (by omega), List.drop_zero]

/-- The header words of an encoded frame. -/
theorem fields_encode {f : Frame} (hf : f.payload.length < 2 ^ 32) (rest : Bytes) :
    field (f.encode ++ rest) 0 4 = kFrameMagic.toNat ∧ field (f.encode ++ rest) 4 2 = kProtocolVersion.toNat ∧
    field (f.encode ++ rest) 6 1 = f.type.toByte.toNat ∧ field (f.encode ++ rest) 7 1 = f.flags.toNat ∧
    field (f.encode ++ rest) 8 8 = f.correlation.toNat ∧ field (f.encode ++ rest) 16 4 = f.payload.length ∧
    (f.encode ++ rest).drop 20 = f.payload ++ rest := by
  have hplen : (UInt32.ofNat f.payload.length).toNat = f.payload.length := by
    rw [UInt32.toNat_ofNat']
    omega
  have hbyte : ∀ b : UInt8, [b] = toBE 1 b.toNat := fun b => by simp [toBE]
  have hsmall : ∀ b : UInt8, b.toNat < 256 ^ 1 := fun b => b.toNat_lt
  unfold Frame.encode encodeFrame BigWriter.u32 BigWriter.u16 BigWriter.u8 BigWriter.u64
  rw [hplen, hbyte f.type.toByte, hbyte f.flags]
  simp only [List.append_assoc]
  refine ⟨field_head (by decide) _, ?_, ?_, ?_, ?_, ?_, ?_⟩
  · rw [field_tail (by omega)]
    exact field_head (by decide) _
  · rw [field_tail (by omega), field_tail (by omega)]
    exact field_head (hsmall _) _
  · rw [field_tail (by omega), field_tail (by omega), field_tail (by omega)]
    exact field_head (hsmall _) _
  · rw [field_tail (by omega), field_tail (by omega), field_tail (by omega), field_tail (by omega)]
    exact field_head f.correlation.toNat_lt _
  · rw [field_tail (by omega), field_tail (by omega), field_tail (by omega), field_tail (by omega),
      field_tail (by omega)]
    exact field_head hf _
  · rw [drop_toBE_append (by omega), drop_toBE_append (by omega), drop_toBE_append (by omega),
      drop_toBE_append (by omega), drop_toBE_append (by omega), drop_toBE_append (by omega)]
    rfl

/-- An encoded frame is recognised, and the frame is what was encoded. -/
theorem header_encode {f : Frame} (hf : f.payload.length ≤ kMaxFrameSize.toNat) (rest : Bytes) :
    HeaderOk (f.encode ++ rest) ∧ declaredLength (f.encode ++ rest) = f.payload.length ∧
    frameAt (f.encode ++ rest) = f := by
  have hmax : kMaxFrameSize.toNat = 2 ^ 24 := rfl
  obtain ⟨hmagic, hver, htype, hflags, hcorr, hplen, hdrop⟩ := fields_encode (f := f) (by omega) rest
  refine ⟨⟨?_, hmagic, hver, ?_⟩, hplen, ?_⟩
  · rw [List.length_append, length_encode]
    omega
  · show field _ 16 4 ≤ _
    rw [hplen]
    exact hf
  · unfold frameAt
    rw [htype, hflags, hcorr, hplen, hdrop, List.take_left, UInt8.ofNat_toNat, UInt8.ofNat_toNat,
      UInt64.ofNat_toNat, MessageType.ofByte_toByte]

/-- **A buffer is accepted exactly if it begins with an encoded frame of admissible size.**  What
    follows the frame is not looked at. -/
theorem decodeFrame_ok_iff {data : Bytes} {f : Frame} :
    decodeFrame data = .ok f ↔
      ∃ rest, data = f.encode ++ rest ∧ f.payload.length ≤ kMaxFrameSize.toNat := by
  rw [decodeFrame_ok]
  constructor
  · rintro ⟨hok, hrest, rfl⟩
    refine ⟨_, eq_encode_frameAt hok hrest, ?_⟩
    show ((data.drop 20).take (declaredLength data)).length ≤ _
    rw [List.length_take]
    exact le_trans (min_le_left _ _) hok.size
  · rintro ⟨rest, rfl, hf⟩
    obtain ⟨hok, hplen, hframe⟩ := header_encode hf rest
    refine ⟨hok, ?_, hframe⟩
    rw [hplen, List.length_append, length_encode]
    omega

theorem decodeFrame_encode {f : Frame} (hf : f.payload.length ≤ kMaxFrameSize.toNat) (rest : Bytes) :
    decodeFrame (f.encode ++ rest) = .ok f :=
  decodeFrame_ok_iff.mpr ⟨rest, rfl, hf⟩

/-! ## The two parsers -/

/-- What the socket parser reports where the buffer parser reports `e`. -/
def socketText (e : Str) : Str :=
  if e = text "frame too small" then text "socket closed reading header"
  else if e = text "truncated frame" then text "socket closed reading payload"
  else e

@[simp] theorem socketText_short : socketText (text "frame too small") = text "socket closed reading header" := by
  decide +kernel

@[simp] theorem socketText_magic : socketText (text "bad frame magic") = text "bad frame magic" := by decide +kernel

@[simp] theorem socketText_version :
    socketText (text "unsupported protocol version") = text "unsupported protocol version" := by decide +kernel

@[simp] theorem socketText_oversized : socketText (text "frame oversized") = text "frame oversized" := by decide +kernel

@[simp] theorem socketText_truncated :
    socketText (text "truncated frame") = text "socket closed reading payload" := by decide +kernel

section Socket

variable {σ : Type} (sock : ByteStream σ)

/-- **The socket parser answers as the buffer parser does on the bytes to come**, and after a frame it
    stands right behind it. -/
theorem recvFrame_eq (s : σ) :
    ∃ s', recvFrame sock s 0 = ((decodeFrame (sock.pending s)).mapError socketText, s') ∧
      (∀ f, decodeFrame (sock.pending s) = .ok f →
        sock.pending s' = (sock.pending s).drop (20 + declaredLength (sock.pending s))) ∧
      (sock.pending s = [] → sock.pending s' = []) := by
  unfold recvFrame
  by_cases hlong : 20 ≤ (sock.pending s).length
  · obtain ⟨s₁, hrecv, hpend⟩ := sock.recvAll_of_le 20 s hlong
    rw [hrecv, decodeFrame_eq hlong]
    generalize sock.pending s = data at *
    have hne : data ≠ [] := by
      rintro rfl
      exact absurd hlong (by decide)
    have hmagic : field (data.take 20) 0 4 = field data 0 4 := field_take (by omega)
    have hver : field (data.take 20) 4 2 = field data 4 2 := field_take (by omega)
    have htype : field (data.take 20) 6 1 = field data 6 1 := field_take (by omega)
    have hflags : field (data.take 20) 7 1 = field data 7 1 := field_take (by omega)
    have hcorr : field (data.take 20) 8 8 = field data 8 8 := field_take (by omega)
    have hplen : field (data.take 20) 16 4 = field data 16 4 := field_take (by omega)
    unfold validateFrameHeaderMagic
    simp only [hmagic, hver, htype, hflags, hcorr, hplen]
    by_cases h1 : field data 0 4 = kFrameMagic.toNat
    swap
    · simp [h1, hne, Except.mapError]
    by_cases h2 : field data 4 2 = kProtocolVersion.toNat
    swap
    · simp [h1, h2, hne, Except.mapError]
    by_cases h3 : declaredLength data > kMaxFrameSize.toNat
    · have h3' : field data 16 4 > kMaxFrameSize.toNat := h3
      simp [h1, h2, h3, h3', hne, Except.mapError]
    have h3' : ¬ field data 16 4 > kMaxFrameSize.toNat := h3
    by_cases hzero : field data 16 4 = 0
    · -- no payload: the buffer is long enough
      have hrest : ¬ 20 + declaredLength data > data.length := by
        unfold declaredLength
        omega
      refine ⟨s₁, ?_, ?_, fun h => absurd h hne⟩
      · simp [h1, h2, h3, hrest, hzero, Except.mapError, frameAt]
      · intro f _
        rw [hpend]
        simp [declaredLength, hzero]
    · by_cases hrest : 20 + declaredLength data > data.length
      · obtain ⟨s₂, hrecv', hpend'⟩ := sock.recvAll_of_lt (field data 16 4) s₁ (by
          rw [hpend, List.length_drop]
          unfold declaredLength at hrest
          omega)
        refine ⟨s₂, ?_, ?_, fun h => absurd h hne⟩
        · simp [h1, h2, h3, h3', hrest, hrecv', Except.mapError, Nat.pos_of_ne_zero hzero]
        · intro f hf
          simp [h1, h2, h3, hrest] at hf
      · obtain ⟨s₂, hrecv', hpend'⟩ := sock.recvAll_of_le (field data 16 4) s₁ (by
          rw [hpend, List.length_drop]
          unfold declaredLength at hrest
          omega)
        refine ⟨s₂, ?_, ?_, fun h => absurd h hne⟩
        · simp [h1, h2, h3, h3', hrest, hrecv', Except.mapError, Nat.pos_of_ne_zero hzero, frameAt, hpend]
        · intro f _
          rw [hpend', hpend, List.drop_drop]
          rfl
  · obtain ⟨s₁, hrecv, hpend⟩ := sock.recvAll_of_lt 20 s (by omega)
    rw [hrecv, decodeFrame_short (by omega)]
    refine ⟨s₁, ?_, fun f h => (by cases h), fun _ => hpend⟩
    simp only [Except.mapError, socketText_short]

/-- A frame that is next on the stream is received, and no byte of what follows is taken. -/
theorem recvFrame_encode {s : σ} {f : Frame} (hf : f.payload.length ≤ kMaxFrameSize.toNat) {rest : Bytes}
    (hs : sock.pending s = f.encode ++ rest) :
    ∃ s', recvFrame sock s 0 = (.ok f, s') ∧ sock.pending s' = rest := by
  obtain ⟨s', hrecv, hpend, -⟩ := recvFrame_eq sock s
  have hdec : decodeFrame (sock.pending s) = .ok f := by
    rw [hs]
    exact decodeFrame_encode hf rest
  refine ⟨s', ?_, ?_⟩
  · rw [hrecv, hdec]
    rfl
  · rw [hpend f hdec, hs, (header_encode hf rest).2.1, ← length_encode, List.drop_left]

theorem recvFrames_succ {s s' : σ} {r : Except Str Frame} (h : recvFrame sock s 0 = (r, s')) (n : Nat) :
    recvFrames sock (n + 1) s = r :: recvFrames sock n s' := by
  rw [recvFrames, h]

/-- At the end of the stream every call reports that it is closed. -/
theorem recvFrames_closed : ∀ (n : Nat) (s : σ), sock.pending s = [] →
    recvFrames sock n s = List.replicate n (.error (text "socket closed reading header"))
  | 0, _, _ => rfl
  | n + 1, s, hs => by
    obtain ⟨s', hrecv, -, hnil⟩ := recvFrame_eq sock s
    rw [hs, decodeFrame_short (by decide)] at hrecv
    rw [recvFrames_succ sock hrecv, recvFrames_closed n s' (hnil hs), List.replicate_succ]
    simp only [Except.mapError, socketText_short]

/-- **Frames written one after another are received as they are, in order, and then the end of the
    stream, however the bytes are cut.** -/
theorem recvFrames_encode (n : Nat) : ∀ (fs : List Frame) (s : σ),
    (∀ f ∈ fs, f.payload.length ≤ kMaxFrameSize.toNat) → sock.pending s = fs.flatMap Frame.encode →
    recvFrames sock (fs.length + n) s =
      fs.map .ok ++ List.replicate n (.error (text "socket closed reading header"))
  | [], s, _, hs => by
    rw [List.length_nil, Nat.zero_add]
    exact recvFrames_closed sock n s hs
  | f :: fs, s, hf, hs => by
    obtain ⟨s', hrecv, hpend⟩ := recvFrame_encode sock (hf f List.mem_cons_self) hs
    have ih := recvFrames_encode n fs s' (fun g hg => hf g (List.mem_cons_of_mem f hg)) hpend
    have hlen : (f :: fs).length + n = fs.length + n + 1 := by
      rw [List.length_cons]
      omega
    rw [hlen, recvFrames_succ sock hrecv, ih, List.map_cons, List.cons_append]

/-- The socket parser accepts exactly what the buffer parser accepts. -/
theorem recvFrame_ok_iff (s : σ) (f : Frame) :
    (recvFrame sock s 0).1 = .ok f ↔ decodeFrame (sock.pending s) = .ok f := by
  obtain ⟨s', hrecv, -⟩ := recvFrame_eq sock s
  rw [hrecv]
  cases decodeFrame (sock.pending s) with
  | error e =>
    constructor
    · intro h
      cases h
    · intro h
      cases h
  | ok g => rfl

/-- **Framing over a byte stream.**  A sequence of frames is received as sent and then the stream
    ends, for every way the bytes are cut; and on any bytes the two parsers accept the same frames. -/
theorem framing :
    (∀ (fs : List Frame) (n : Nat) (s : σ), (∀ f ∈ fs, f.payload.length ≤ kMaxFrameSize.toNat) →
      sock.pending s = fs.flatMap (fun f => encodeFrame f.type f.correlation f.flags f.payload) →
      recvFrames sock (fs.length + n) s =
        fs.map .ok ++ List.replicate n (.error (text "socket closed reading header"))) ∧
    ∀ (b : Bytes) (s : σ) (f : Frame), sock.pending s = b →
      ((recvFrame sock s 0).1 = .ok f ↔ decodeFrame b = .ok f) := by
  constructor
  · intro fs n s hf hs
    exact recvFrames_encode sock n fs s hf hs
  · rintro b s f rfl
    exact recvFrame_ok_iff sock s f

end Socket

/-- Two frames, the first without payload, that arrive in chunks of 1, 20, 7, 3, … bytes. -/
theorem framing_cut :
    recvFrames ByteStream.cut 3
        (encodeFrame .ping 7 0 [] ++ encodeFrame .release 8 1 [1, 2, 3], [1, 20, 7, 3]) =
      [.ok { type := .ping, correlation := 7 },
        .ok { type := .release, correlation := 8, flags := 1, payload := [1, 2, 3] },
        .error (text "socket closed reading header")] :=
  (framing ByteStream.cut).1
    [{ type := .ping, correlation := 7 },
      { type := .release, correlation := 8, flags := 1, payload := [1, 2, 3] }] 1 _ (by decide) rfl

end QuotaFabric
