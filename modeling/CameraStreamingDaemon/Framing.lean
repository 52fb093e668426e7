import CameraStreamingDaemon.Mavlink

/-!
# CameraStreamingDaemon.Framing — MAVLink framing, and `_message_received` over many peers.

`_message_received` feeds each byte of a datagram to `mavlink_parse_char(MAVLINK_COMM_0, ...)`
and hands every message the parser completes to `_handle_mavlink_message` with the datagram's
source. The parser is the MAVLink library's, outside the sources; §1 to §3 model it from the
spec ("parse one byte at a time into messages", "emits a fully decoded message when the frame CRC
validates, silently discards otherwise", "messages are framed with ID, CRC, and optional
signature") with the library's frame layouts, parse states and X.25 checksum. It reads MAVLink 2
frames, signed or not, and MAVLink 1 frames. A MAVLink 2 incompatibility flag other than
`MAVLINK_IFLAG_SIGNED` drops the frame at that byte. A signed frame is handed over after its
13-byte signature block, which nothing checks: the server installs no signing key. A frame whose
checksum fails is dropped, and the parser restarts at its last byte when that byte is `STX`, still
reading the protocol version of the frame it dropped.

The well-formed frames are the data type `Frame` (§2). Encoding and parsing are inverse from the
idle state (`parseBytes_encodes`), so a peer's datagram of whole frames is handed over exactly
when the parser is idle as it starts. The parser's state survives the end of a datagram, and there
is one state for every peer. §4 shows both sides: one stray `STX` from another peer puts the
parser inside a frame, and it absorbs the next peer's whole frame (`shared_parser_absorbs_frame`);
when every other peer's datagram leaves the parser idle, each peer's frames are handed over as if
it were alone (`peer_frames_delivered_from_idle`).

In the other direction the parser is sound (§5): the checks accept exactly the frames
(`checkFrame_eq_some_iff`, `checkFrame1_eq_some_iff`), a reachable parse state keeps what its
start byte and flags promised (`parseChar_wf`), and so every message handed over stood in the
received bytes as a well-formed frame, even when those bytes came from several peers
(`received_messages_were_framed`). With it, frames laid end to end and cut into datagrams
anywhere are handed over exactly, in order (`frames_cut_anywhere_delivered`).
-/

namespace CameraStreamingDaemon

/-! ## §1 — the checksum -/

theorem u8_toNat_ofNat (n : Nat) : (UInt8.ofNat n).toNat = n % 256 := BitVec.toNat_ofNat ..

theorem u8_ofNat_eq {a : UInt8} {n : Nat} (h : n % 256 = a.toNat) : UInt8.ofNat n = a :=
  UInt8.ext_iff.mpr (by rw [u8_toNat_ofNat]; exact h)

/-- Modelled from the spec: the MAVLink library's `crc_accumulate`, one step of the X.25 checksum
that validates a frame. -/
def crcAccumulate (crc : UInt16) (b : UInt8) : UInt16 :=
  let tmp := b ^^^ crc.toUInt8
  let tmp := tmp ^^^ (tmp <<< 4)
  (crc >>> 8) ^^^ (tmp.toUInt16 <<< 8) ^^^ (tmp.toUInt16 <<< 3) ^^^ (tmp.toUInt16 >>> 4)

/-- Modelled from the spec: `crc_calculate`, from `crc_init`'s `0xFFFF`. -/
def crcCalculate (bytes : List UInt8) : UInt16 := bytes.foldl crcAccumulate 0xFFFF

/-- Modelled from the spec: the two checksum bytes, low first, of a frame's bytes after `STX`
followed by the dialect's `CRC_EXTRA` byte for its message id. -/
def checksum (crcExtra : Nat → UInt8) (body : List UInt8) (msgid : Nat) : List UInt8 :=
  let crc := crcCalculate (body ++ [crcExtra msgid])
  [crc.toUInt8, (crc >>> 8).toUInt8]

/-! ## §2 — messages and frames -/

/-- `MAVLINK_STX`, the MAVLink 2 start byte. -/
def stx : UInt8 := 0xFD

/-- `MAVLINK_STX_MAVLINK1`, the MAVLink 1 start byte. -/
def stx1 : UInt8 := 0xFE

/-- Modelled from the spec: a message as the parser hands it over (`mavlink_message_t`): sequence
number, sender ids, a 24-bit message id and at most 255 payload bytes. -/
structure RawMessage where
  seq : UInt8
  sysid : UInt8
  compid : UInt8
  msgid : Nat
  payload : List UInt8
  msgid_lt : msgid < 2 ^ 24
  payload_le : payload.length ≤ 255
  deriving DecidableEq

/-- Modelled from the spec: the bytes of a MAVLink 2 frame between `STX` and the checksum: length,
incompatibility and compatibility flags, sequence, ids, the message id low byte first, and the
payload. -/
def RawMessage.bodyWith (m : RawMessage) (incompat compat : UInt8) : List UInt8 :=
  [UInt8.ofNat m.payload.length, incompat, compat, m.seq, m.sysid, m.compid, UInt8.ofNat m.msgid,
    UInt8.ofNat (m.msgid / 2 ^ 8), UInt8.ofNat (m.msgid / 2 ^ 16)] ++ m.payload

/-- Modelled from the spec: the MAVLink 2 frame bytes the sender writes, with no flag set. -/
def RawMessage.body (m : RawMessage) : List UInt8 := m.bodyWith 0 0

/-- Modelled from the spec: the bytes of a MAVLink 1 frame between its start byte and the
checksum: length, sequence, ids, the one-byte message id, and the payload. -/
def RawMessage.body1 (m : RawMessage) : List UInt8 :=
  [UInt8.ofNat m.payload.length, m.seq, m.sysid, m.compid, UInt8.ofNat m.msgid] ++ m.payload

/-- Modelled from the spec: the frame `mavlink_msg_to_send_buffer` writes for `m`. -/
def encodeFrame (crcExtra : Nat → UInt8) (m : RawMessage) : List UInt8 :=
  stx :: (m.body ++ checksum crcExtra m.body m.msgid)

/-- Modelled from the spec: a well-formed frame, as any sender may write it. -/
inductive Frame
  /-- A MAVLink 1 frame, whose message id fits in one byte. -/
  | v1 (m : RawMessage) (h : m.msgid < 256)
  /-- A MAVLink 2 frame with its compatibility flags: unsigned, or signed, with the
  `MAVLINK_IFLAG_SIGNED` incompatibility flag set and the 13-byte signature block after the
  checksum. -/
  | v2 (m : RawMessage) (compat : UInt8) (sig : Option (CharBuf 13))

/-- The message a frame carries. -/
def Frame.message : Frame → RawMessage
  | .v1 m _ => m
  | .v2 m _ _ => m

/-- The start byte of a frame. -/
def Frame.start : Frame → UInt8
  | .v1 .. => stx1
  | .v2 .. => stx

/-- The bytes of a frame after its start byte. -/
def Frame.tail (crcExtra : Nat → UInt8) : Frame → List UInt8
  | .v1 m _ => m.body1 ++ checksum crcExtra m.body1 m.msgid
  | .v2 m compat none => m.bodyWith 0 compat ++ checksum crcExtra (m.bodyWith 0 compat) m.msgid
  | .v2 m compat (some sig) =>
    m.bodyWith 1 compat ++ checksum crcExtra (m.bodyWith 1 compat) m.msgid ++ sig.bytes

/-- The bytes of a frame. -/
def Frame.encode (crcExtra : Nat → UInt8) (f : Frame) : List UInt8 := f.start :: f.tail crcExtra

theorem encodeFrame_eq (crcExtra : Nat → UInt8) (m : RawMessage) :
    encodeFrame crcExtra m = (Frame.v2 m 0 none).encode crcExtra := rfl

/-! ## §3 — the parser -/

/-- Modelled from the spec: the parse state of a channel. Between frames; inside a frame, with
whether the parser reads it as MAVLink 1 (`MAVLINK_STATUS_FLAG_IN_MAVLINK1`) and the bytes
received from its start byte on; or waiting for the signature block of a signed frame whose
checksum validated, with the frame's bytes and the signature bytes received so far. -/
inductive ParseState
  | idle
  | frame (v1 : Bool) (acc : List UInt8)
  | signature (acc sig : List UInt8)
  deriving DecidableEq, Repr

/-- Modelled from the spec: how many bytes follow the start byte of a frame with length byte
`len`, up to its checksum: a MAVLink 1 frame has a 5-byte header, a MAVLink 2 frame a 9-byte
one. -/
def frameLength (v1 : Bool) (len : UInt8) : Nat := len.toNat + if v1 then 7 else 11

/-- Modelled from the spec: the check of a complete MAVLink 2 frame's bytes after `STX`: the
message the length, ids and payload declare, when the checksum bytes match. -/
def checkFrame (crcExtra : Nat → UInt8) : List UInt8 → Option RawMessage
  | len :: incompat :: compat :: seq :: sysid :: compid :: m0 :: m1 :: m2 :: rest =>
    let msgid := m0.toNat + 2 ^ 8 * m1.toNat + 2 ^ 16 * m2.toNat
    let payload := rest.take len.toNat
    if rest.drop len.toNat =
        checksum crcExtra ([len, incompat, compat, seq, sysid, compid, m0, m1, m2] ++ payload) msgid
    then some ⟨seq, sysid, compid, msgid, payload,
      by have := m0.toNat_lt_size; have := m1.toNat_lt_size; have := m2.toNat_lt_size
         simp only [UInt8.size] at *; omega,
      Nat.le_trans (List.length_take_le _ _) (Nat.le_of_lt_succ len.toNat_lt_size)⟩
    else none
  | _ => none

/-- Modelled from the spec: the same check for a MAVLink 1 frame. -/
def checkFrame1 (crcExtra : Nat → UInt8) : List UInt8 → Option RawMessage
  | len :: seq :: sysid :: compid :: msgid :: rest =>
    let payload := rest.take len.toNat
    if rest.drop len.toNat = checksum crcExtra ([len, seq, sysid, compid, msgid] ++ payload) msgid.toNat
    then some ⟨seq, sysid, compid, msgid.toNat, payload,
      by have := msgid.toNat_lt_size; simp only [UInt8.size] at *; omega,
      Nat.le_trans (List.length_take_le _ _) (Nat.le_of_lt_succ len.toNat_lt_size)⟩
    else none
  | _ => none

/-- The check of the protocol version the parser reads. -/
def checkFrameOf (crcExtra : Nat → UInt8) : Bool → List UInt8 → Option RawMessage
  | true => checkFrame1 crcExtra
  | false => checkFrame crcExtra

/-- Modelled from the spec: whether a frame's bytes after its start byte set
`MAVLINK_IFLAG_SIGNED`; a MAVLink 1 frame has no flags. -/
def isSigned : Bool → List UInt8 → Bool
  | false, _ :: incompat :: _ => incompat &&& 1 != 0
  | _, _ => false

/-- Modelled from the spec: the last checksum byte `c` of a frame whose bytes after the start byte
`s` are `f`. A frame whose checksum validates is handed over, or, when signed, waits for its
signature block; otherwise the frame is dropped, and the parser restarts at `c` if `c` is `STX`,
keeping the protocol version it read the dropped frame in. -/
def frameEnd (crcExtra : Nat → UInt8) (v1 : Bool) (s : UInt8) (f : List UInt8) (c : UInt8) :
    ParseState × Option RawMessage :=
  match checkFrameOf crcExtra v1 f with
  | some m => if isSigned v1 f then (.signature (s :: f) [], none) else (.idle, some m)
  | none => (if c = stx then .frame v1 [c] else .idle, none)

/-- Modelled from the spec: `mavlink_parse_char` on one channel. Between frames every byte but the
two start bytes is skipped. Inside a frame bytes are taken as they come, with no
resynchronisation on a start byte; a MAVLink 2 incompatibility flag other than
`MAVLINK_IFLAG_SIGNED` drops the frame at that byte; the last checksum byte ends the frame
(`frameEnd`). The 13 bytes of a signature block are taken after it, and the frame is handed over
after the last of them: the server installs no signing key, so the library checks no
signature. -/
def parseChar (crcExtra : Nat → UInt8) : ParseState → UInt8 → ParseState × Option RawMessage
  | .idle, c => (if c = stx then .frame false [c] else if c = stx1 then .frame true [c] else .idle, none)
  | .frame v1 (s :: len :: rest), c =>
    if v1 = false ∧ rest = [] ∧ c &&& 0xFE ≠ 0 then (.idle, none)
    else if rest.length + 2 = frameLength v1 len then frameEnd crcExtra v1 s (len :: rest ++ [c]) c
    else (.frame v1 (s :: len :: rest ++ [c]), none)
  | .frame v1 acc, c => (.frame v1 (acc ++ [c]), none)
  | .signature acc sig, c =>
    if sig.length + 1 = 13 then (.idle, checkFrame crcExtra acc.tail)
    else (.signature acc (sig ++ [c]), none)

/-- The parser over a byte sequence: the state it ends in and the messages it hands over. -/
def parseBytes (crcExtra : Nat → UInt8) : ParseState → List UInt8 → ParseState × List RawMessage
  | st, [] => (st, [])
  | st, c :: cs =>
    let r := parseChar crcExtra st c
    let rest := parseBytes crcExtra r.1 cs
    (rest.1, r.2.toList ++ rest.2)

/-- The bytes the parser holds: those of the frame it is inside, from its start byte; none
between frames. -/
def ParseState.bytes : ParseState → List UInt8
  | .idle => []
  | .frame _ acc => acc
  | .signature acc sig => acc ++ sig

/-- The parser's own invariant. A MAVLink 2 frame it is inside began with `STX` and has no
unknown incompatibility flag; a frame it reads as MAVLink 1 began with either start byte; a
signature it waits for follows a signed frame of some message. -/
def ParseState.Wf (crcExtra : Nat → UInt8) : ParseState → Prop
  | .idle => True
  | .frame false acc => acc.head? = some stx ∧ ∀ a ∈ acc[2]?, a &&& 0xFE = 0
  | .frame true acc => acc.head? = some stx1 ∨ acc.head? = some stx
  | .signature acc sig => sig.length < 13 ∧ ∃ (m : RawMessage) (compat : UInt8),
      acc = stx :: (m.bodyWith 1 compat ++ checksum crcExtra (m.bodyWith 1 compat) m.msgid)

section Parser

variable (crcExtra : Nat → UInt8)

/-- A MAVLink 2 frame's own bytes, whatever its flag bytes, pass the check and give back its
message. -/
theorem checkFrame_bodyWith (m : RawMessage) (incompat compat : UInt8) :
    checkFrame crcExtra (m.bodyWith incompat compat ++
      checksum crcExtra (m.bodyWith incompat compat) m.msgid) = some m := by
  obtain ⟨seq, sysid, compid, msgid, payload, hid, hp⟩ := m
  have hlen : (UInt8.ofNat payload.length).toNat = payload.length := by
    rw [u8_toNat_ofNat]; omega
  have hmsgid : (UInt8.ofNat msgid).toNat + 2 ^ 8 * (UInt8.ofNat (msgid / 2 ^ 8)).toNat +
      2 ^ 16 * (UInt8.ofNat (msgid / 2 ^ 16)).toNat = msgid := by
    simp only [u8_toNat_ofNat]; omega
  simp only [RawMessage.bodyWith, List.cons_append, List.nil_append, List.append_assoc, checkFrame,
    hlen, List.take_left, List.drop_left, hmsgid, if_true]

/-- **The check accepts exactly the frames.** Bytes after `STX` pass the MAVLink 2 check with
message `m` exactly when they are `m`'s frame bytes, with some flag bytes, followed by their
checksum. -/
theorem checkFrame_eq_some_iff {f : List UInt8} {m : RawMessage} :
    checkFrame crcExtra f = some m ↔ ∃ incompat compat,
      f = m.bodyWith incompat compat ++ checksum crcExtra (m.bodyWith incompat compat) m.msgid := by
  refine ⟨fun h => ?_, fun ⟨i, c, hf⟩ => hf ▸ checkFrame_bodyWith crcExtra m i c⟩
  match f, h with
  | len :: incompat :: compat :: seq :: sysid :: compid :: m0 :: m1 :: m2 :: rest, h =>
    simp only [checkFrame] at h
    split_ifs at h with hsum
    cases h
    refine ⟨incompat, compat, ?_⟩
    have hrest : len.toNat ≤ rest.length := by
      have := congrArg List.length hsum
      simp [checksum] at this; omega
    have := len.toNat_lt_size; have := m0.toNat_lt_size; have := m1.toNat_lt_size
    have := m2.toNat_lt_size
    simp only [UInt8.size] at *
    have hl : (UInt8.ofNat (rest.take len.toNat).length) = len :=
      u8_ofNat_eq (by rw [List.length_take, min_eq_left hrest]; omega)
    have h0 : UInt8.ofNat (m0.toNat + 2 ^ 8 * m1.toNat + 2 ^ 16 * m2.toNat) = m0 :=
      u8_ofNat_eq (by omega)
    have h1 : UInt8.ofNat ((m0.toNat + 2 ^ 8 * m1.toNat + 2 ^ 16 * m2.toNat) / 2 ^ 8) = m1 :=
      u8_ofNat_eq (by omega)
    have h2 : UInt8.ofNat ((m0.toNat + 2 ^ 8 * m1.toNat + 2 ^ 16 * m2.toNat) / 2 ^ 16) = m2 :=
      u8_ofNat_eq (by omega)
    simp only [RawMessage.bodyWith, hl, h0, h1, h2, ← hsum, List.append_assoc,
      List.take_append_drop]
    rfl

/-- A MAVLink 1 frame's own bytes pass the MAVLink 1 check and give back its message. -/
theorem checkFrame1_body1 (m : RawMessage) (h : m.msgid < 256) :
    checkFrame1 crcExtra (m.body1 ++ checksum crcExtra m.body1 m.msgid) = some m := by
  obtain ⟨seq, sysid, compid, msgid, payload, hid, hp⟩ := m
  have hlen : (UInt8.ofNat payload.length).toNat = payload.length := by
    rw [u8_toNat_ofNat]; omega
  have hmsgid : (UInt8.ofNat msgid).toNat = msgid := by rw [u8_toNat_ofNat]; exact Nat.mod_eq_of_lt h
  simp only [RawMessage.body1, List.cons_append, List.nil_append, List.append_assoc, checkFrame1,
    hlen, List.take_left, List.drop_left, hmsgid, if_true]

/-- Bytes after the start byte pass the MAVLink 1 check with message `m` exactly when `m`'s id
fits in a byte and they are `m`'s MAVLink 1 frame bytes followed by their checksum. -/
theorem checkFrame1_eq_some_iff {f : List UInt8} {m : RawMessage} :
    checkFrame1 crcExtra f = some m ↔
      m.msgid < 256 ∧ f = m.body1 ++ checksum crcExtra m.body1 m.msgid := by
  refine ⟨fun h => ?_, fun ⟨hm, hf⟩ => hf ▸ checkFrame1_body1 crcExtra m hm⟩
  match f, h with
  | len :: seq :: sysid :: compid :: m0 :: rest, h =>
    simp only [checkFrame1] at h
    split_ifs at h with hsum
    cases h
    refine ⟨m0.toNat_lt_size, ?_⟩
    have hrest : len.toNat ≤ rest.length := by
      have := congrArg List.length hsum
      simp [checksum] at this; omega
    have := len.toNat_lt_size
    simp only [UInt8.size] at *
    have hl : (UInt8.ofNat (rest.take len.toNat).length) = len :=
      u8_ofNat_eq (by rw [List.length_take, min_eq_left hrest]; omega)
    have h0 : UInt8.ofNat m0.toNat = m0 := u8_ofNat_eq (Nat.mod_eq_of_lt m0.toNat_lt_size)
    simp only [RawMessage.body1, hl, h0, ← hsum, List.append_assoc, List.take_append_drop]
    rfl

/-- The incompatibility byte the parser keeps is `0` or `MAVLINK_IFLAG_SIGNED`. -/
theorem incompat_eq_of_signed {a : UInt8} (h : a &&& 0xFE = 0) :
    a = if (a &&& 1 != 0) = true then 1 else 0 := by
  obtain ⟨x⟩ := a
  revert x h
  decide

theorem isSigned_bodyWith (m : RawMessage) (incompat compat : UInt8) (rest : List UInt8) :
    isSigned false (m.bodyWith incompat compat ++ rest) = (incompat &&& 1 != 0) := rfl

/-- What the last byte of a frame leaves: a validated frame waits for its signature or is handed
over; a failed one leaves no message and the idle state, or a restart at an `STX`. -/
theorem frameEnd_cases (v1 : Bool) (s : UInt8) (f : List UInt8) (c : UInt8) :
    (∃ m, checkFrameOf crcExtra v1 f = some m ∧
      (isSigned v1 f = true ∧ frameEnd crcExtra v1 s f c = (.signature (s :: f) [], none) ∨
        isSigned v1 f = false ∧ frameEnd crcExtra v1 s f c = (.idle, some m))) ∨
    ((frameEnd crcExtra v1 s f c).2 = none ∧ ((frameEnd crcExtra v1 s f c).1 = .idle ∨
      c = stx ∧ (frameEnd crcExtra v1 s f c).1 = .frame v1 [c])) := by
  unfold frameEnd
  split
  · next m hm => exact .inl ⟨m, hm, by cases isSigned v1 f <;> simp⟩
  · by_cases hc : c = stx <;> simp [hc]

theorem parseBytes_cons (st : ParseState) (c : UInt8) (cs : List UInt8) :
    parseBytes crcExtra st (c :: cs) =
      ((parseBytes crcExtra (parseChar crcExtra st c).1 cs).1,
        (parseChar crcExtra st c).2.toList ++
          (parseBytes crcExtra (parseChar crcExtra st c).1 cs).2) :=
  rfl

theorem parseBytes_append (st : ParseState) (xs ys : List UInt8) :
    parseBytes crcExtra st (xs ++ ys) =
      ((parseBytes crcExtra (parseBytes crcExtra st xs).1 ys).1,
        (parseBytes crcExtra st xs).2 ++
          (parseBytes crcExtra (parseBytes crcExtra st xs).1 ys).2) := by
  induction xs generalizing st with
  | nil => rfl
  | cons c cs ih => rw [List.cons_append, parseBytes_cons, parseBytes_cons, ih, List.append_assoc]

theorem frameLength_ge (v1 : Bool) (len : UInt8) : 7 ≤ frameLength v1 len := by
  unfold frameLength; split <;> omega

/-- No frame ends at its second header byte. -/
theorem frameLength_ne_two (v1 : Bool) (len : UInt8) :
    ¬ ([] : List UInt8).length + 2 = frameLength v1 len := by
  have := frameLength_ge v1 len; simp; omega

/-- The flag byte of a MAVLink 2 frame's bytes. -/
theorem bodyWith_flag (m : RawMessage) (incompat compat : UInt8) (rest : List UInt8) :
    (m.bodyWith incompat compat ++ rest)[1]? = some incompat :=
  rfl

/-- Inside a frame, past its first header byte and before its last byte, bytes are only
collected. -/
theorem parseBytes_inside (v1 : Bool) (s len a : UInt8) :
    ∀ (rest ys : List UInt8), rest.length + ys.length + 2 < frameLength v1 len →
      parseBytes crcExtra (.frame v1 (s :: len :: a :: rest)) ys =
        (.frame v1 (s :: len :: a :: (rest ++ ys)), [])
  | rest, [], _ => by simp [parseBytes]
  | rest, y :: ys, hlen => by
    have hnot : ¬ (a :: rest).length + 2 = frameLength v1 len := by simp at hlen ⊢; omega
    have hstep : parseChar crcExtra (.frame v1 (s :: len :: a :: rest)) y =
        (.frame v1 (s :: len :: a :: (rest ++ [y])), none) := by
      simp only [parseChar, if_neg hnot, List.cons_append, List.cons_ne_nil, false_and, and_false,
        if_false]
    rw [parseBytes_cons, hstep, parseBytes_inside v1 s len a (rest ++ [y]) ys (by simp at hlen ⊢; omega)]
    simp

/-- Bytes that pass their version's check are a length byte, one more header byte, and as many
bytes again as the frame's length says. -/
theorem checkFrameOf_shape {v1 : Bool} {f : List UInt8} {m : RawMessage}
    (hm : checkFrameOf crcExtra v1 f = some m) :
    ∃ len a tail, f = len :: a :: tail ∧ tail.length + 2 = frameLength v1 len := by
  have hlen : (UInt8.ofNat m.payload.length).toNat = m.payload.length := by
    rw [u8_toNat_ofNat]; have := m.payload_le; omega
  cases v1 with
  | true =>
    obtain ⟨-, rfl⟩ := (checkFrame1_eq_some_iff crcExtra).mp hm
    exact ⟨_, _, _, rfl, by simp [RawMessage.body1, checksum, frameLength, hlen]⟩
  | false =>
    obtain ⟨incompat, compat, rfl⟩ := (checkFrame_eq_some_iff crcExtra).mp hm
    exact ⟨_, _, _, rfl, by simp [RawMessage.bodyWith, checksum, frameLength, hlen]⟩

/-- From just after its start byte `s`, the bytes of a frame that passes its version's check, with
no unknown incompatibility flag, hand over its message and leave the parser idle, or, for a signed
frame, leave it waiting for the signature block. -/
theorem parseBytes_frameBytes (v1 : Bool) {s : UInt8} {f : List UInt8} {m : RawMessage}
    (hm : checkFrameOf crcExtra v1 f = some m) (ha : v1 = false → ∀ a ∈ f[1]?, a &&& 0xFE = 0) :
    parseBytes crcExtra (.frame v1 [s]) f =
      if isSigned v1 f then (.signature (s :: f) [], []) else (.idle, [m]) := by
  obtain ⟨len, a, tail, rfl, hlen⟩ := checkFrameOf_shape crcExtra hm
  have hfl := frameLength_ge v1 len
  obtain ⟨mid, c, rfl⟩ : ∃ mid c, tail = mid ++ [c] :=
    ⟨tail.dropLast, tail.getLast (List.ne_nil_of_length_pos (by omega)),
      (List.dropLast_concat_getLast _).symm⟩
  simp only [List.length_append, List.length_singleton] at hlen
  have hhead : parseBytes crcExtra (.frame v1 [s]) [len, a] = (.frame v1 [s, len, a], []) := by
    have hchk : ¬ (v1 = false ∧ a &&& 0xFE ≠ 0) := fun h => h.2 (ha h.1 a (by simp))
    have hfull : ¬ 0 + 2 = frameLength v1 len := by omega
    simp [parseBytes, parseChar, hchk, hfull]
  have hmid := parseBytes_inside crcExtra v1 s len a [] mid (by simp; omega)
  have hlast : parseChar crcExtra (.frame v1 (s :: len :: a :: mid)) c =
      frameEnd crcExtra v1 s (len :: a :: (mid ++ [c])) c := by
    have hfull : (a :: mid).length + 2 = frameLength v1 len := by simp; omega
    simp only [parseChar, List.cons_ne_nil, false_and, and_false, if_false, if_pos hfull,
      List.cons_append]
  have hend : frameEnd crcExtra v1 s (len :: a :: (mid ++ [c])) c =
      if isSigned v1 (len :: a :: (mid ++ [c])) then
        (.signature (s :: len :: a :: (mid ++ [c])) [], none)
      else (.idle, some m) := by
    unfold frameEnd
    rw [hm]
  rw [show len :: a :: (mid ++ [c]) = [len, a] ++ mid ++ [c] by simp, parseBytes_append,
    parseBytes_append, hhead]
  simp only [List.nil_append] at hmid
  rw [hmid]
  split_ifs at hend with hsig <;> simp [parseBytes_cons, hlast, hend, parseBytes, hsig]

/-- The bytes of a signature block, the last of them included, end the wait and hand over the
frame's message. -/
theorem parseBytes_signature (acc : List UInt8) :
    ∀ (sig rest : List UInt8), rest ≠ [] → sig.length + rest.length = 13 →
      parseBytes crcExtra (.signature acc sig) rest = (.idle, (checkFrame crcExtra acc.tail).toList)
  | _, [], hne, _ => absurd rfl hne
  | sig, [c], _, hlen => by
    simp only [List.length_singleton] at hlen
    simp [parseBytes, parseChar, hlen]
  | sig, c :: c' :: cs, _, hlen => by
    have hnot : ¬ sig.length + 1 = 13 := by simp at hlen; omega
    rw [parseBytes_cons]
    simp only [parseChar, if_neg hnot, Option.toList_none, List.nil_append]
    rw [parseBytes_signature acc (sig ++ [c]) (c' :: cs) (List.cons_ne_nil _ _)
      (by simp at hlen ⊢; omega)]

theorem parseChar_idle_stx : parseChar crcExtra .idle stx = (.frame false [stx], none) := rfl

theorem parseChar_idle_stx1 : parseChar crcExtra .idle stx1 = (.frame true [stx1], none) := rfl

/-- **Frames parse back.** From the idle state every well-formed frame, MAVLink 1 or MAVLink 2,
signed or not, hands over exactly its message and leaves the parser idle. -/
theorem parseBytes_encode (f : Frame) :
    parseBytes crcExtra .idle (f.encode crcExtra) = (.idle, [f.message]) := by
  match f with
  | .v1 m hm =>
    have h := parseBytes_frameBytes crcExtra true (s := stx1)
      (f := m.body1 ++ checksum crcExtra m.body1 m.msgid) (checkFrame1_body1 crcExtra m hm) (by simp)
    rw [Frame.encode, Frame.start, Frame.tail, parseBytes_cons, parseChar_idle_stx1, h]
    rfl
  | .v2 m compat none =>
    have h := parseBytes_frameBytes crcExtra false (s := stx)
      (f := m.bodyWith 0 compat ++ checksum crcExtra (m.bodyWith 0 compat) m.msgid)
      (checkFrame_bodyWith crcExtra m 0 compat) fun _ a ha => by
        cases (bodyWith_flag m 0 compat _).symm.trans ha; decide
    rw [Frame.encode, Frame.start, Frame.tail, parseBytes_cons, parseChar_idle_stx, h]
    rfl
  | .v2 m compat (some sig) =>
    have h := parseBytes_frameBytes crcExtra false (s := stx)
      (f := m.bodyWith 1 compat ++ checksum crcExtra (m.bodyWith 1 compat) m.msgid)
      (checkFrame_bodyWith crcExtra m 1 compat) fun _ a ha => by
        cases (bodyWith_flag m 1 compat _).symm.trans ha; decide
    rw [isSigned_bodyWith, if_pos (show ((1 : UInt8) &&& 1 != 0) = true by decide)] at h
    have hsig := parseBytes_signature crcExtra
      (stx :: (m.bodyWith 1 compat ++ checksum crcExtra (m.bodyWith 1 compat) m.msgid)) [] sig.bytes
      (List.ne_nil_of_length_pos (by rw [sig.length_eq]; omega)) (by rw [sig.length_eq]; rfl)
    rw [List.tail_cons, checkFrame_bodyWith] at hsig
    rw [Frame.encode, Frame.start, Frame.tail, parseBytes_cons, parseChar_idle_stx,
      parseBytes_append, h, hsig]
    rfl

/-- Frames laid end to end from the idle state hand over their messages in order. -/
theorem parseBytes_encodes (fs : List Frame) :
    parseBytes crcExtra .idle (fs.flatMap (Frame.encode crcExtra)) = (.idle, fs.map Frame.message) := by
  induction fs with
  | nil => rfl
  | cons f fs ih => simp [List.flatMap_cons, parseBytes_append, parseBytes_encode, ih]

/-- In particular the frames the library sends, unsigned with no flag set. -/
theorem parseBytes_encodeFrames (ms : List RawMessage) :
    parseBytes crcExtra .idle (ms.flatMap (encodeFrame crcExtra)) = (.idle, ms) := by
  have h := parseBytes_encodes crcExtra (ms.map fun m => .v2 m 0 none)
  simpa [List.flatMap_map, Function.comp_def, encodeFrame_eq, Frame.message] using h

theorem parseBytes_encodeFrame (m : RawMessage) :
    parseBytes crcExtra .idle (encodeFrame crcExtra m) = (.idle, [m]) :=
  parseBytes_encode crcExtra (.v2 m 0 none)

/-- The last byte of a frame keeps the invariant: a signed frame that waits for its signature
began with `STX` and carries exactly the signed flag. -/
theorem frameEnd_wf {v1 : Bool} {s : UInt8} {f : List UInt8} (c : UInt8)
    (hs : v1 = false → s = stx) (ha : v1 = false → ∀ a ∈ f[1]?, a &&& 0xFE = 0) :
    (frameEnd crcExtra v1 s f c).1.Wf crcExtra := by
  rcases frameEnd_cases crcExtra v1 s f c with ⟨m, hm, ⟨hsig, he⟩ | ⟨-, he⟩⟩ | ⟨-, he | ⟨rfl, he⟩⟩
  · rw [he]
    cases v1 with
    | true => exact absurd hsig Bool.false_ne_true
    | false =>
      obtain ⟨incompat, compat, rfl⟩ := (checkFrame_eq_some_iff crcExtra).mp hm
      have hflag := ha rfl incompat (bodyWith_flag m incompat compat _)
      rw [isSigned_bodyWith] at hsig
      have h1 : incompat = 1 := by rw [incompat_eq_of_signed hflag, if_pos hsig]
      exact ⟨by simp, m, compat, by rw [hs rfl, h1]⟩
  · rw [he]; trivial
  · rw [he]; trivial
  · rw [he]
    cases v1
    · exact ⟨rfl, by simp⟩
    · exact .inr rfl

/-- One byte keeps the parser's invariant. -/
theorem parseChar_wf {st : ParseState} (c : UInt8) (h : st.Wf crcExtra) :
    (parseChar crcExtra st c).1.Wf crcExtra := by
  match st, h with
  | .idle, _ =>
    simp only [parseChar]
    split_ifs with h1 h2
    · subst h1; exact ⟨rfl, by simp⟩
    · subst h2; exact .inl rfl
    · trivial
  | .frame v1 (s :: len :: rest), h =>
    simp only [parseChar]
    split_ifs with hdrop hfull
    · trivial
    · cases rest with
      | nil => exact absurd hfull (frameLength_ne_two v1 len)
      | cons a rest =>
        refine frameEnd_wf crcExtra c (fun hv => ?_) (fun hv => ?_)
        · subst hv; simpa [ParseState.Wf] using h.1
        · subst hv; simpa [ParseState.Wf] using h.2
    · cases v1 with
      | true => simpa [ParseState.Wf] using h
      | false =>
        refine ⟨by simpa using h.1, ?_⟩
        cases rest with
        | nil => simpa using hdrop
        | cons a rest => simpa using h.2
  | .frame v1 [], h => cases v1 <;> simp [ParseState.Wf] at h
  | .frame v1 [s], h => cases v1 <;> simpa [parseChar, ParseState.Wf] using h
  | .signature acc sig, h =>
    simp only [parseChar]
    split_ifs with hlen
    · trivial
    · exact ⟨by have := h.1; simp; omega, h.2⟩

/-- After one byte the parser holds at most the bytes it held and that byte. -/
theorem parseChar_bytes (st : ParseState) (c : UInt8) :
    (parseChar crcExtra st c).1.bytes <:+ st.bytes ++ [c] := by
  match st with
  | .idle =>
    simp only [parseChar]
    split_ifs <;> simp [ParseState.bytes]
  | .frame v1 (s :: len :: rest) =>
    simp only [parseChar]
    split_ifs
    · exact List.nil_suffix
    · rcases frameEnd_cases crcExtra v1 s (len :: rest ++ [c]) c with
        ⟨m, -, ⟨-, he⟩ | ⟨-, he⟩⟩ | ⟨-, he | ⟨-, he⟩⟩ <;> rw [he]
      · simp [ParseState.bytes]
      · exact List.nil_suffix
      · exact List.nil_suffix
      · exact List.suffix_append _ _
    · simp [ParseState.bytes]
  | .frame v1 [] => simp [parseChar, ParseState.bytes]
  | .frame v1 [s] => simp [parseChar, ParseState.bytes]
  | .signature acc sig =>
    simp only [parseChar]
    split_ifs
    · exact List.nil_suffix
    · simp [ParseState.bytes]

/-- A frame the last byte hands over stands, with its start byte, as a well-formed frame:
unsigned with no flag for MAVLink 2, and after either start byte for MAVLink 1. -/
theorem frameEnd_some {v1 : Bool} {s : UInt8} {f : List UInt8} {c : UInt8} {m : RawMessage}
    (hs : s = stx ∨ v1 = true ∧ s = stx1) (ha : v1 = false → ∀ a ∈ f[1]?, a &&& 0xFE = 0)
    (hm : (frameEnd crcExtra v1 s f c).2 = some m) :
    ∃ F : Frame, F.message = m ∧ ∃ s', (s' = F.start ∨ s' = stx) ∧
      s :: f = s' :: F.tail crcExtra := by
  rcases frameEnd_cases crcExtra v1 s f c with ⟨m', hm', ⟨-, he⟩ | ⟨hsig, he⟩⟩ | ⟨he, -⟩
  · rw [he] at hm; cases hm
  · rw [he] at hm
    cases hm
    cases v1 with
    | true =>
      obtain ⟨hid, rfl⟩ := (checkFrame1_eq_some_iff crcExtra).mp hm'
      exact ⟨.v1 m hid, rfl, s, hs.symm.imp (fun h => h.2) id, rfl⟩
    | false =>
      obtain ⟨incompat, compat, rfl⟩ := (checkFrame_eq_some_iff crcExtra).mp hm'
      have hflag := ha rfl incompat (bodyWith_flag m incompat compat _)
      rw [isSigned_bodyWith] at hsig
      have h0 : incompat = 0 := by rw [incompat_eq_of_signed hflag, if_neg (by simp [hsig])]
      subst h0
      exact ⟨.v2 m compat none, rfl, s, .inl (hs.resolve_right fun h => nomatch h.1), rfl⟩
  · rw [he] at hm; cases hm

/-- A byte that completes a message completes a well-formed frame of it: the held bytes and that
byte are the frame, after its own start byte or, for MAVLink 1, after `STX`. -/
theorem parseChar_some {st : ParseState} {c : UInt8} {m : RawMessage} (h : st.Wf crcExtra)
    (hm : (parseChar crcExtra st c).2 = some m) :
    ∃ f : Frame, f.message = m ∧ ∃ s, (s = f.start ∨ s = stx) ∧
      st.bytes ++ [c] = s :: f.tail crcExtra := by
  match st, h with
  | .idle, _ => simp [parseChar] at hm
  | .frame v1 (s :: len :: rest), h =>
    simp only [parseChar] at hm
    split_ifs at hm with hdrop hfull
    cases rest with
      | nil => exact absurd hfull (frameLength_ne_two v1 len)
      | cons a rest =>
        have hs : s = stx ∨ v1 = true ∧ s = stx1 := by
          cases v1
          · exact .inl (by simpa [ParseState.Wf] using h.1)
          · simpa [ParseState.Wf, or_comm] using h
        have ha : v1 = false → ∀ b ∈ (len :: (a :: rest ++ [c]))[1]?, b &&& 0xFE = 0 := by
          rintro rfl; simpa [ParseState.Wf] using h.2
        simpa [ParseState.bytes] using frameEnd_some crcExtra hs ha hm
  | .frame v1 [], _ => cases hm
  | .frame v1 [s], _ => cases hm
  | .signature acc sig, h =>
    simp only [parseChar] at hm
    split_ifs at hm with hlen
    obtain ⟨-, m', compat, rfl⟩ := h
    rw [List.tail_cons, checkFrame_bodyWith] at hm
    cases hm
    refine ⟨.v2 m compat (some ⟨sig ++ [c], by simp [hlen]⟩), rfl, stx, .inl rfl, ?_⟩
    simp [ParseState.bytes, Frame.tail]

/-- From a state that keeps the invariant, every message handed over stands as a well-formed
frame in the held bytes followed by the input. -/
theorem parseBytes_sound : ∀ {st : ParseState} (bs : List UInt8), st.Wf crcExtra →
    ∀ m ∈ (parseBytes crcExtra st bs).2, ∃ f : Frame, f.message = m ∧ ∃ s, (s = f.start ∨ s = stx) ∧
      s :: f.tail crcExtra <:+: st.bytes ++ bs
  | _, [], _, _, hm => by simp [parseBytes] at hm
  | st, c :: cs, h, m, hm => by
    rw [parseBytes_cons, List.mem_append] at hm
    rcases hm with hm | hm
    · obtain ⟨f, hf, s, hs, heq⟩ := parseChar_some crcExtra h (Option.mem_toList.mp hm)
      exact ⟨f, hf, s, hs, [], cs, by simp [← heq]⟩
    · obtain ⟨f, hf, s, hs, hin⟩ := parseBytes_sound cs (parseChar_wf crcExtra c h) m hm
      obtain ⟨t, ht⟩ := parseChar_bytes crcExtra st c
      refine ⟨f, hf, s, hs, hin.trans ⟨t, [], ?_⟩⟩
      rw [List.append_nil, ← List.append_assoc, ht]
      simp

end Parser

/-! ## §4 — `_message_received` and several peers -/

/-- `MavlinkServer::_message_received(sockaddr, buf)`: each byte of the datagram goes through the
parser of channel `MAVLINK_COMM_0`, whose state is the server's, not the peer's; each message it
completes is handed to `_handle_mavlink_message` with the datagram's source. -/
def messageReceived (crcExtra : Nat → UInt8) (st : ParseState) (addr : SockAddr)
    (buf : List UInt8) : ParseState × List (SockAddr × RawMessage) :=
  let r := parseBytes crcExtra st buf
  (r.1, r.2.map (addr, ·))

/-- Datagrams of any peers in arrival order, through the one parser: the hand-overs to
`_handle_mavlink_message`, each with its datagram's source. -/
def receiveAll (crcExtra : Nat → UInt8) :
    ParseState → List (SockAddr × List UInt8) → ParseState × List (SockAddr × RawMessage)
  | st, [] => (st, [])
  | st, (addr, buf) :: ds =>
    let r := messageReceived crcExtra st addr buf
    let rest := receiveAll crcExtra r.1 ds
    (rest.1, r.2 ++ rest.2)

section Peers

variable (crcExtra : Nat → UInt8)

/-- When every datagram leaves an idle parser idle, the datagrams are parsed one by one as if
each came alone. -/
theorem receiveAll_of_idle :
    ∀ ds : List (SockAddr × List UInt8),
      (∀ d ∈ ds, (messageReceived crcExtra .idle d.1 d.2).1 = .idle) →
        receiveAll crcExtra .idle ds =
          (.idle, ds.flatMap fun d => (messageReceived crcExtra .idle d.1 d.2).2)
  | [], _ => rfl
  | (addr, buf) :: ds, h => by
    have hd := h (addr, buf) (List.mem_cons_self _ _)
    simp only [receiveAll, hd, receiveAll_of_idle ds fun d hd => h d (List.mem_cons_of_mem _ hd),
      List.flatMap_cons]

/-- What the datagrams of one source hand over: the other sources' hand-overs carry their own
addresses. -/
theorem filter_received (b : SockAddr) :
    ∀ ds : List (SockAddr × List UInt8),
      (ds.flatMap fun d => (messageReceived crcExtra .idle d.1 d.2).2).filter (fun e => e.1 = b) =
        ((ds.filter fun d => d.1 = b).map Prod.snd).flatMap
          fun buf => (parseBytes crcExtra .idle buf).2.map (b, ·)
  | [] => rfl
  | d :: ds => by
    rw [List.flatMap_cons, List.filter_append, filter_received b ds, List.filter_cons]
    by_cases hb : d.1 = b
    · simp [messageReceived, List.filter_map, Function.comp_def, hb, List.filter_eq_self.mpr,
        -IsEmpty.forall_iff, -IsEmpty.exists_iff]
    · simp [messageReceived, List.filter_map, Function.comp_def, hb, -IsEmpty.forall_iff]

/-- A datagram of whole frames leaves an idle parser idle and hands over its messages with its
source. -/
theorem messageReceived_encodes (addr : SockAddr) (fs : List Frame) :
    messageReceived crcExtra .idle addr (fs.flatMap (Frame.encode crcExtra)) =
      (.idle, (fs.map Frame.message).map (addr, ·)) := by
  simp [messageReceived, parseBytes_encodes]

/-- **Each peer's frames arrive intact when the others end idle.** Let a peer `b` send datagrams
of whole well-formed frames (MAVLink 1, or MAVLink 2 signed or not), interleaved in any way with
datagrams of other peers that each leave the idle parser idle. Then `_message_received` hands
over with `b`'s address exactly the messages of `b`'s frames, in order, as when `b`'s datagrams
arrive alone. -/
theorem peer_frames_delivered_from_idle (b : SockAddr) (ds : List (SockAddr × List UInt8))
    (frames : List (List Frame))
    (hB : (ds.filter fun d => d.1 = b).map Prod.snd =
      frames.map fun fs => fs.flatMap (Frame.encode crcExtra))
    (hA : ∀ d ∈ ds, d.1 ≠ b → (messageReceived crcExtra .idle d.1 d.2).1 = .idle) :
    (receiveAll crcExtra .idle ds).2.filter (fun e => e.1 = b) =
        (frames.flatten.map Frame.message).map (b, ·) ∧
      (receiveAll crcExtra .idle (frames.map fun fs => (b, fs.flatMap (Frame.encode crcExtra)))).2 =
        (frames.flatten.map Frame.message).map (b, ·) := by
  have hidle : ∀ d ∈ ds, (messageReceived crcExtra .idle d.1 d.2).1 = .idle := by
    intro d hd
    by_cases hb : d.1 = b
    · have hmem : d.2 ∈ (ds.filter fun d => d.1 = b).map Prod.snd :=
        List.mem_map_of_mem _ (List.mem_filter.mpr ⟨hd, by simp [hb]⟩)
      rw [hB] at hmem
      obtain ⟨fs, -, hfs⟩ := List.mem_map.mp hmem
      rw [← hfs, messageReceived_encodes]
    · exact hA d hd hb
  constructor
  · rw [receiveAll_of_idle crcExtra ds hidle, filter_received, hB]
    simp only [List.flatMap_map, Function.comp_def, parseBytes_encodes, List.map_flatten]
    simp [List.flatMap_map, List.map_flatMap, List.flatten_eq_flatMap]
  · rw [receiveAll_of_idle crcExtra _ (by simp [messageReceived_encodes])]
    simp only [List.flatMap_map, Function.comp_def, messageReceived_encodes, List.map_flatten]
    simp [List.flatMap_map, List.map_flatMap, List.flatten_eq_flatMap]

/-- The `CRC_EXTRA` table of a dialect whose only message is `HEARTBEAT` (id `0`, extra `50`). -/
def heartbeatCrcExtra (msgid : Nat) : UInt8 := if msgid = 0 then 50 else 0

/-- The `HEARTBEAT` a ground station (`MAV_TYPE_GCS`) of system `255`, component `190` sends. -/
def gcsHeartbeat : RawMessage := ⟨0, 255, 190, 0, [0, 0, 0, 0, 6, 8, 0, 4, 3], by decide, by decide⟩

/-- A ground station's `HEARTBEAT` signed with a 13-byte block, sent while another peer sends
whole MAVLink 1 frames. -/
def signedGcsHeartbeat : Frame := .v2 gcsHeartbeat 0 (some ⟨List.replicate 13 0x5A, rfl⟩)

theorem peer_frames_delivered_two_peers :
    let other : SockAddr := ⟨0x0A000002, 14550⟩
    let gcs : SockAddr := ⟨0x7F000001, 14550⟩
    let ds := [(other, (Frame.v1 ⟨0, 1, 1, 0, [0, 0, 0, 0, 2, 12, 0, 4, 3], by decide, by decide⟩
        (by decide)).encode heartbeatCrcExtra), (gcs, signedGcsHeartbeat.encode heartbeatCrcExtra)]
    (receiveAll heartbeatCrcExtra .idle ds).2.filter (fun e => e.1 = gcs) = [(gcs, gcsHeartbeat)] :=
  (peer_frames_delivered_from_idle heartbeatCrcExtra _ _ [[signedGcsHeartbeat]] (by decide)
    (by decide)).1

set_option maxRecDepth 2000 in
/-- The failing input of the multi-peer law: a peer sends the single byte `STX`, then the ground
station sends one whole `HEARTBEAT` frame. The shared parser, inside the other peer's frame, reads
the station's `STX` as that frame's length and the station's length byte as its incompatibility
flags, drops the frame there, and skips the rest of the station's bytes: nothing is handed over.
Alone, the same datagram hands over the heartbeat. -/
theorem shared_parser_absorbs_frame :
    let other : SockAddr := ⟨0x0A000002, 14550⟩
    let gcs : SockAddr := ⟨0x7F000001, 14550⟩
    let frame := encodeFrame heartbeatCrcExtra gcsHeartbeat
    (receiveAll heartbeatCrcExtra .idle [(other, [stx]), (gcs, frame)]).2 = [] ∧
      (receiveAll heartbeatCrcExtra .idle [(gcs, frame)]).2 = [(gcs, gcsHeartbeat)] :=
  ⟨by decide, by
    simp [receiveAll, messageReceived, parseBytes_encodeFrame heartbeatCrcExtra gcsHeartbeat]⟩

/-! ## §5 — the parser invents nothing -/

/-- The datagrams through the one parser are the parser over their bytes laid end to end. -/
theorem receiveAll_eq_parseBytes : ∀ (st : ParseState) (ds : List (SockAddr × List UInt8)),
    (receiveAll crcExtra st ds).1 = (parseBytes crcExtra st (ds.flatMap Prod.snd)).1 ∧
      (receiveAll crcExtra st ds).2.map Prod.snd = (parseBytes crcExtra st (ds.flatMap Prod.snd)).2
  | _, [] => ⟨rfl, rfl⟩
  | st, (addr, buf) :: ds => by
    obtain ⟨h1, h2⟩ := receiveAll_eq_parseBytes (parseBytes crcExtra st buf).1 ds
    simp [receiveAll, messageReceived, List.flatMap_cons, parseBytes_append, h1, h2,
      Function.comp_def]

/-- **Every message handed over was framed in the bytes received.** Whatever datagrams arrive,
from whatever peers, each message `_message_received` hands to `_handle_mavlink_message` stands in
the received bytes, in arrival order, as a well-formed frame of it: MAVLink 2 unsigned with no
incompatibility flag, MAVLink 2 signed with its signature block, or MAVLink 1. Its start byte is
its own, except that a MAVLink 1 frame may follow an `STX`: the byte the parser restarted at after
a MAVLink 1 frame failed its checksum. The frame may span datagrams of several peers, since the
parser is shared. -/
theorem received_messages_were_framed (ds : List (SockAddr × List UInt8))
    {e : SockAddr × RawMessage} (he : e ∈ (receiveAll crcExtra .idle ds).2) :
    ∃ f : Frame, f.message = e.2 ∧ ∃ s, (s = f.start ∨ s = stx) ∧
      s :: f.tail crcExtra <:+: ds.flatMap Prod.snd := by
  have hm : e.2 ∈ (parseBytes crcExtra .idle (ds.flatMap Prod.snd)).2 :=
    (receiveAll_eq_parseBytes crcExtra .idle ds).2 ▸ List.mem_map_of_mem _ he
  simpa [ParseState.bytes] using @parseBytes_sound crcExtra .idle _ trivial e.2 hm

theorem received_messages_were_framed_heartbeat :
    let gcs : SockAddr := ⟨0x7F000001, 14550⟩
    let ds := [(gcs, signedGcsHeartbeat.encode heartbeatCrcExtra)]
    (gcs, gcsHeartbeat) ∈ (receiveAll heartbeatCrcExtra .idle ds).2 ∧
      ∃ f : Frame, f.message = gcsHeartbeat ∧ ∃ s, (s = f.start ∨ s = stx) ∧
        s :: f.tail heartbeatCrcExtra <:+: ds.flatMap Prod.snd :=
  have he : ((⟨0x7F000001, 14550⟩ : SockAddr), gcsHeartbeat) ∈ (receiveAll heartbeatCrcExtra .idle
      [(⟨0x7F000001, 14550⟩, signedGcsHeartbeat.encode heartbeatCrcExtra)]).2 := by
    simp only [receiveAll, messageReceived, parseBytes_encode]
    exact List.mem_singleton_self _
  have hf := received_messages_were_framed heartbeatCrcExtra _ he
  ⟨he, hf⟩

/-- Every hand-over carries the source of one of the datagrams. -/
theorem receiveAll_sources : ∀ (st : ParseState) (ds : List (SockAddr × List UInt8)),
    ∀ e ∈ (receiveAll crcExtra st ds).2, ∃ d ∈ ds, e.1 = d.1
  | _, [], _, he => absurd he (List.not_mem_nil _)
  | st, (addr, buf) :: ds, e, he => by
    simp only [receiveAll, messageReceived, List.mem_append, List.mem_map] at he
    rcases he with ⟨m, -, rfl⟩ | he
    · exact ⟨(addr, buf), List.mem_cons_self _ _, rfl⟩
    · obtain ⟨d, hd, h⟩ := receiveAll_sources _ ds e he
      exact ⟨d, List.mem_cons_of_mem _ hd, h⟩

/-- From an idle parser, datagrams of one peer whose bytes are frames laid end to end hand over
those frames' messages, each with the peer's address, and leave the parser idle. -/
theorem receiveAll_one_peer {ds : List (SockAddr × List UInt8)} {ms : List RawMessage}
    {b : SockAddr} (hb : ∀ d ∈ ds, d.1 = b)
    (h : ds.flatMap Prod.snd = ms.flatMap (encodeFrame crcExtra)) :
    receiveAll crcExtra .idle ds = (.idle, ms.map (b, ·)) := by
  obtain ⟨h1, h2⟩ := receiveAll_eq_parseBytes crcExtra .idle ds
  rw [h, parseBytes_encodeFrames] at h1 h2
  dsimp only at h1 h2
  refine Prod.ext h1 ?_
  calc (receiveAll crcExtra .idle ds).2
      = (receiveAll crcExtra .idle ds).2.map fun e => (b, e.2) :=
        (List.map_id _).symm.trans <| List.map_congr_left fun e he => by
          obtain ⟨d, hd, hed⟩ := receiveAll_sources crcExtra .idle ds e he
          exact Prod.ext (hed.trans (hb d hd)) rfl
    _ = ms.map (b, ·) := by rw [← h2, List.map_map]; rfl

/-- **Frames survive any cutting.** Lay the frames of any messages end to end and cut the bytes
into datagrams anywhere, from any peers: the parser hands over exactly those messages, in order,
and ends idle. When the datagrams all come from one peer, every message carries its address. -/
theorem frames_cut_anywhere_delivered (ds : List (SockAddr × List UInt8)) (ms : List RawMessage)
    (h : ds.flatMap Prod.snd = ms.flatMap (encodeFrame crcExtra)) :
    (receiveAll crcExtra .idle ds).1 = .idle ∧ (receiveAll crcExtra .idle ds).2.map Prod.snd = ms ∧
      ∀ b, (∀ d ∈ ds, d.1 = b) → (receiveAll crcExtra .idle ds).2 = ms.map (b, ·) := by
  obtain ⟨h1, h2⟩ := receiveAll_eq_parseBytes crcExtra .idle ds
  rw [h, parseBytes_encodeFrames] at h1 h2
  exact ⟨h1, h2, fun b hb => congrArg Prod.snd (receiveAll_one_peer crcExtra hb h)⟩

/-- A ground station's `HEARTBEAT` frame cut after its fifth byte into two datagrams: the
heartbeat is handed over once, with the station's address. -/
theorem frames_cut_anywhere_delivered_split_heartbeat :
    let gcs : SockAddr := ⟨0x7F000001, 14550⟩
    let frame := encodeFrame heartbeatCrcExtra gcsHeartbeat
    let ds := [(gcs, frame.take 5), (gcs, frame.drop 5)]
    (receiveAll heartbeatCrcExtra .idle ds).1 = .idle ∧
      (receiveAll heartbeatCrcExtra .idle ds).2.map Prod.snd = [gcsHeartbeat] ∧
      ∀ b, (∀ d ∈ ds, d.1 = b) → (receiveAll heartbeatCrcExtra .idle ds).2 = [gcsHeartbeat].map (b, ·) :=
  frames_cut_anywhere_delivered heartbeatCrcExtra _ [gcsHeartbeat]
    (by simp only [List.flatMap_cons, List.flatMap_nil, List.append_nil, List.take_append_drop])

end Peers

end CameraStreamingDaemon
