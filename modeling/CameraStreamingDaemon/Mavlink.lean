import Mathlib

/-!
# CameraStreamingDaemon.Mavlink — the MAVLink messages the server decodes and packs.

The server sees MAVLink through the generated C library: inbound frames are decoded into the
`mavlink_*_t` structs the handlers read, and replies are packed from the arguments of the
`mavlink_msg_*_pack` calls. The library is outside the repository, so this module keeps exactly
the fields the handlers of `part_001` read or write, with the C types they have there:

* scalars keep their widths (`uint8_t` ids, `uint16_t` commands and resolutions), a `float`
  is its binary32 bit pattern (`CFloat`), and a `char[n]` field is a buffer of exactly `n`
  bytes (`CharBuf`), written by `strncpy`;
* a decoded inbound message is one of the five kinds `_handle_mavlink_message` routes, or a
  message of another id (`MavlinkMessage.other`, which carries the proof that its id is none of
  the routed ones);
* what the server does towards its collaborators is a list of `Event`s: each UDP send it
  attempts, with its destination and packet, and each `setParam` it calls on a camera component.
-/

namespace CameraStreamingDaemon

/-! ## §1 — C scalars and buffers -/

/-- A C `float`, as its IEEE-754 binary32 bit pattern. -/
structure CFloat where
  bits : UInt32
  deriving DecidableEq, Repr

namespace CFloat

/-- `1.0f`. -/
def one : CFloat := ⟨0x3F800000⟩

/-- `0.0f`. -/
def zero : CFloat := ⟨0⟩

/-- `50.0f`. -/
def fifty : CFloat := ⟨0x42480000⟩

/-- `x == 1`: the only binary32 value equal to one is the pattern of `1.0f`. -/
def eqOne (x : CFloat) : Bool := x.bits == one.bits

/-- The conversion `(unsigned int) x`, truncating toward zero. C++ leaves values outside
`unsigned int` undefined; this is what x86-64 code computes (a 64-bit `cvttss2si`, whose low
word is kept): magnitudes of `2^63` and above, infinities and NaNs give `0`, and negative values
wrap modulo `2^32`. -/
def toUInt32 (x : CFloat) : UInt32 :=
  let e := x.bits.toNat / 2 ^ 23 % 2 ^ 8
  let m := x.bits.toNat % 2 ^ 23 + 2 ^ 23
  let mag := if e < 150 then m / 2 ^ (150 - e) else m * 2 ^ (e - 150)
  if e < 127 ∨ 190 ≤ e then 0
  else if x.bits.toNat < 2 ^ 31 then UInt32.ofNat mag
  else UInt32.ofNat (2 ^ 32 - mag % 2 ^ 32)

example : one.toUInt32 = 1 ∧ (⟨0x42480000⟩ : CFloat).toUInt32 = 50 := by decide

end CFloat

/-- A C `char[n]` field: exactly `n` bytes. -/
structure CharBuf (n : Nat) where
  bytes : List UInt8
  length_eq : bytes.length = n

instance (n : Nat) : DecidableEq (CharBuf n) := fun a b =>
  decidable_of_iff (a.bytes = b.bytes) (by cases a; cases b; simp)

theorem CharBuf.bytes_inj {n : Nat} : ∀ {a b : CharBuf n}, a.bytes = b.bytes ↔ a = b
  | ⟨_, _⟩, ⟨_, _⟩ => ⟨fun h => by cases h; rfl, congrArg CharBuf.bytes⟩

/-- `strncpy(dst, src, n)`: the bytes of `src` before its first NUL, at most `n` of them, then
NULs up to `n`. -/
def strncpy (n : Nat) (src : List UInt8) : CharBuf n :=
  ⟨((src.takeWhile (· ≠ 0)).take n).rightpad n 0, by
    simp only [List.rightpad, List.length_append, List.length_replicate, List.length_take]; omega⟩

/-- `strncpy` of a whole buffer keeps its bytes before the first NUL and writes NULs from there
on. -/
theorem strncpy_bytes {n : Nat} (b : CharBuf n) :
    (strncpy n b.bytes).bytes =
      b.bytes.takeWhile (· ≠ 0) ++ List.replicate (n - (b.bytes.takeWhile (· ≠ 0)).length) 0 := by
  have hle : (b.bytes.takeWhile (· ≠ 0)).length ≤ n :=
    (List.takeWhile_sublist _).length_le.trans b.length_eq.le
  simp only [strncpy, List.take_of_length_le hle, List.rightpad]

/-- `strncpy` of a whole buffer gives it back exactly when only NULs follow its first NUL. -/
theorem strncpy_self_iff {n : Nat} (b : CharBuf n) :
    strncpy n b.bytes = b ↔ ∀ x ∈ b.bytes.dropWhile (· ≠ 0), x = 0 := by
  have hsplit := List.takeWhile_append_dropWhile (fun x : UInt8 => decide (x ≠ 0)) b.bytes
  have hlen : (b.bytes.takeWhile (· ≠ 0)).length + (b.bytes.dropWhile (· ≠ 0)).length = n := by
    rw [← List.length_append, hsplit, b.length_eq]
  rw [← CharBuf.bytes_inj, strncpy_bytes]
  conv_lhs => rhs; rw [← hsplit]
  rw [List.append_cancel_left_eq, eq_comm, List.eq_replicate_iff]
  exact ⟨fun h => h.2, fun h => ⟨by omega, h⟩⟩

/-- The bytes of a `std::string` as `c_str()` hands them out. -/
def cStr (s : String) : List UInt8 := s.toUTF8.toList

/-- `ByteArray.toList`'s loop from position `i` appends the bytes from `i` on to what it has
collected. -/
theorem byteArray_toList_loop (l : List UInt8) (i : Nat) (r : List UInt8) :
    ByteArray.toList.loop ⟨⟨l⟩⟩ i r = r.reverse ++ l.drop i := by
  rw [ByteArray.toList.loop]
  split_ifs with hlt
  · have hlt' : i < l.length := hlt
    have hget : (ByteArray.mk ⟨l⟩).get! i = l[i] := by
      simp [ByteArray.get!, Array.get!, Array.getD, hlt']
    rw [byteArray_toList_loop l (i + 1) _, hget, List.drop_eq_getElem_cons hlt']
    simp
  · simp [List.drop_eq_nil_of_le (show l.length ≤ i from Nat.le_of_not_lt hlt)]
termination_by l.length - i
decreasing_by simp_wf; simp [ByteArray.size] at hlt; omega

/-- The bytes of `c_str()` are the UTF-8 encodings of the characters, in order; in this form
they evaluate by `decide`. -/
theorem cStr_eq (s : String) : cStr s = s.data.flatMap String.utf8EncodeChar := by
  simp [cStr, ByteArray.toList, String.toUTF8, byteArray_toList_loop]

/-- A `struct sockaddr_in`: IPv4 address and port. -/
structure SockAddr where
  addr : UInt32
  port : UInt16
  deriving DecidableEq, Repr

/-! ## §2 — constants -/

/-- `MAV_COMP_ID_CAMERA`: the first camera component id (spec, glossary: `100`). -/
def mavCompIdCamera : Int := 100

/-- `MAV_COMP_ID_CAMERA6`: the last camera component id (spec, glossary: `105`). -/
def mavCompIdCamera6 : Int := 105

/-- `MAV_CMD_REQUEST_CAMERA_INFORMATION`. -/
def mavCmdRequestCameraInformation : UInt16 := 521

/-- `MAV_CMD_REQUEST_CAMERA_SETTINGS`. -/
def mavCmdRequestCameraSettings : UInt16 := 522

/-- `MAV_CMD_REQUEST_STORAGE_INFORMATION`. -/
def mavCmdRequestStorageInformation : UInt16 := 525

/-- `MAV_CMD_REQUEST_VIDEO_STREAM_INFORMATION`. -/
def mavCmdRequestVideoStreamInformation : UInt16 := 2504

/-- `MAVLINK_MSG_ID_COMMAND_LONG`, `_SET_VIDEO_STREAM_SETTINGS`, `_PARAM_EXT_REQUEST_READ`,
`_PARAM_EXT_REQUEST_LIST` and `_PARAM_EXT_SET`: the ids `_handle_mavlink_message` routes. -/
def routedMsgIds : List Nat := [76, 270, 320, 321, 323]

/-- `MAV_RESULT` as `_send_ack` uses it. -/
inductive MavResult
  | accepted | failed
  deriving DecidableEq, Repr

/-- `PARAM_ACK` as the parameter handlers use it. -/
inductive ParamAck
  | accepted | failed
  deriving DecidableEq, Repr

/-! ## §3 — inbound messages -/

/-- `mavlink_command_long_t`, the fields the dispatcher and the command handlers read. -/
structure CommandLong where
  targetSystem : UInt8
  targetComponent : UInt8
  command : UInt16
  param1 : CFloat
  param2 : CFloat
  deriving DecidableEq, Repr

/-- `mavlink_set_video_stream_settings_t`, the fields the handler reads and the addressing. -/
structure SetVideoStreamSettings where
  targetSystem : UInt8
  targetComponent : UInt8
  cameraId : UInt8
  resolutionH : UInt16
  resolutionV : UInt16
  deriving DecidableEq, Repr

/-- `mavlink_param_ext_request_read_t`. -/
structure ParamExtRequestRead where
  targetSystem : UInt8
  targetComponent : UInt8
  paramId : CharBuf 16
  deriving DecidableEq

/-- `mavlink_param_ext_request_list_t`. -/
structure ParamExtRequestList where
  targetSystem : UInt8
  targetComponent : UInt8
  deriving DecidableEq, Repr

/-- `mavlink_param_ext_set_t`. -/
structure ParamExtSet where
  targetSystem : UInt8
  targetComponent : UInt8
  paramId : CharBuf 16
  paramValue : CharBuf 128
  paramType : UInt8
  deriving DecidableEq

/-- A decoded inbound `mavlink_message_t`: one of the kinds the dispatcher routes, or a message
whose id it does not route. -/
inductive MavlinkMessage
  | commandLong (cmd : CommandLong)
  | setVideoStreamSettings (settings : SetVideoStreamSettings)
  | paramExtRequestRead (req : ParamExtRequestRead)
  | paramExtRequestList (req : ParamExtRequestList)
  | paramExtSet (req : ParamExtSet)
  | other (msgid : Nat) (unrouted : msgid ∉ routedMsgIds)

/-- `msg->msgid`. -/
def MavlinkMessage.msgid : MavlinkMessage → Nat
  | .commandLong _ => 76
  | .setVideoStreamSettings _ => 270
  | .paramExtRequestRead _ => 320
  | .paramExtRequestList _ => 321
  | .paramExtSet _ => 323
  | .other id _ => id

/-- The `target_system` a message is addressed to (`none` for a message of another id). -/
def MavlinkMessage.targetSystem : MavlinkMessage → Option UInt8
  | .commandLong c => some c.targetSystem
  | .setVideoStreamSettings s => some s.targetSystem
  | .paramExtRequestRead r => some r.targetSystem
  | .paramExtRequestList r => some r.targetSystem
  | .paramExtSet r => some r.targetSystem
  | .other _ _ => none

/-! ## §4 — outbound messages and events -/

/-- Modelled from the spec: `CameraInfo` (§3), which is not among the sources; the fields
`_handle_request_camera_information` packs. -/
structure CameraInfo where
  vendorName : CharBuf 32
  modelName : CharBuf 32
  firmwareVersion : UInt32
  focalLength : CFloat
  sensorSizeH : CFloat
  sensorSizeV : CFloat
  resolutionH : UInt16
  resolutionV : UInt16
  lensId : UInt8
  flags : UInt32
  camDefinitionVersion : UInt16
  camDefinitionUri : CharBuf 140
  deriving DecidableEq

/-- `mavlink_param_ext_value_t`. -/
structure ParamExtValue where
  paramId : CharBuf 16
  paramValue : CharBuf 128
  paramType : UInt8
  paramCount : UInt16
  paramIndex : UInt16
  deriving DecidableEq

/-- `mavlink_param_ext_ack_t`. -/
structure ParamExtAck where
  paramId : CharBuf 16
  paramValue : CharBuf 128
  paramType : UInt8
  paramResult : ParamAck
  deriving DecidableEq

/-- The payload of a packed reply: the arguments of its `mavlink_msg_*_pack` call after the
header, `time_boot_ms` (always `0`) left out. -/
inductive MavlinkPayload
  /-- `HEARTBEAT(MAV_TYPE_GENERIC, MAV_AUTOPILOT_INVALID, MAV_MODE_PREFLIGHT, 0,
  MAV_STATE_ACTIVE)`. -/
  | heartbeat
  | commandAck (command : UInt16) (result : MavResult) (progress : UInt8)
  | cameraInformation (info : CameraInfo)
  | cameraSettings (mode : UInt8)
  | storageInformation (storageId storageCount status : UInt8)
      (totalCapacity usedCapacity availableCapacity readSpeed writeSpeed : CFloat)
  | videoStreamInformation (cameraId : UInt8) (status : Bool) (framerate : CFloat)
      (resolutionH resolutionV : UInt32) (bitrate : UInt32) (rotation : UInt16) (uri : String)
  | paramExtValue (value : ParamExtValue)
  | paramExtAck (ack : ParamExtAck)
  deriving DecidableEq

/-- A packed `mavlink_message_t`: the system and component id the pack call is given (the
packer narrows both to `uint8_t`), and the payload. -/
structure Packet where
  systemId : Int
  componentId : Int
  payload : MavlinkPayload
  deriving DecidableEq

/-- What the server does towards its collaborators: a UDP send it attempts
(`_send_mavlink_message`), or a `setParam` call on a camera component. -/
inductive Event (Comp : Type)
  | send (dest : SockAddr) (pkt : Packet)
  | setParam (comp : Comp) (paramId : CharBuf 16) (paramValue : CharBuf 128) (paramType : UInt8)
  deriving DecidableEq

/-- Whether a payload is a `COMMAND_ACK`. -/
def MavlinkPayload.isCommandAck : MavlinkPayload → Bool
  | .commandAck _ _ _ => true
  | _ => false

@[simp] theorem MavlinkPayload.isCommandAck_commandAck (cmd : UInt16) (r : MavResult) (p : UInt8) :
    (MavlinkPayload.commandAck cmd r p).isCommandAck = true := rfl

/-- Whether an event is the send of a `COMMAND_ACK`. -/
def Event.isCommandAck {Comp : Type} : Event Comp → Bool
  | .send _ pkt => pkt.payload.isCommandAck
  | .setParam _ _ _ _ => false

@[simp] theorem Event.isCommandAck_send {Comp : Type} (dest : SockAddr) (pkt : Packet) :
    (Event.send dest pkt : Event Comp).isCommandAck = pkt.payload.isCommandAck := rfl

/-- A send goes to `addr`; a `setParam` call sends nothing. -/
def Event.SentTo {Comp : Type} (addr : SockAddr) : Event Comp → Prop
  | .send dest _ => dest = addr
  | .setParam _ _ _ _ => True

/-- Whether an event is a call of `setParam`. -/
def Event.isSetParam {Comp : Type} : Event Comp → Bool
  | .setParam _ _ _ _ => true
  | _ => false

end CameraStreamingDaemon
