import CameraStreamingDaemon.CameraParameters
import CameraStreamingDaemon.Stream
import CameraStreamingDaemon.Registry

/-!
# CameraStreamingDaemon.Server — `MavlinkServer`'s handlers and its message dispatcher.

The server state is what the handlers of `part_001` read and write: the streams, the registry,
the configured ids and addresses, and the camera component objects, whose class is outside the
sources and enters through the methods the server calls (`CameraComponentOps`). The UDP socket
wrapper and the RTSP server are collaborators (`Env`): a send succeeds or not, and the RTSP
server turns a stream and a query suffix into a URI.

Each handler is a function of the state, the datagram's source address and the decoded message;
it returns the events it causes (the sends it attempts, the `setParam` calls it makes) and, for
the two that write state, the new state. A handler stops where the C++ `return`s: after a failed
send, after the "Invalid requested resolution" abort. The locals the C++ leaves uninitialised
are inputs (`Uninit`), since what a handler reads from them is whatever the stack held.
Dereferencing a null or dangling frame-size pointer is a `Fault`.

`_handle_mavlink_message` (`handleMavlinkMessage`) filters `COMMAND_LONG` on `target_system`
and the camera component range and routes by command; the other four kinds are routed by
message id with no addressing check of their own beyond the handlers' component lookup.
-/

namespace CameraStreamingDaemon

/-! ## §1 — state, collaborators and uninitialised locals -/

/-- The `CameraComponent` methods the server calls (the class is not among the sources). `Comp`
is a component pointer, `σ` the state of all component objects. `getParam` gets the prior
contents of its output buffer and answers success and the new contents; `setParam` answers
success and the new state. -/
structure CameraComponentOps (Comp σ : Type) where
  getCameraInfo : σ → Comp → CameraInfo
  getParam : σ → Comp → CharBuf 16 → CharBuf 128 → Bool × CharBuf 128
  getParamType : σ → Comp → CharBuf 16 → Int
  getParamList : σ → Comp → StdMap String String
  setParam : σ → Comp → CharBuf 16 → CharBuf 128 → UInt8 → Bool × σ

/-- The collaborators outside the sources: `_udp.write(buf, addr) > 0` and
`_rtsp.get_rtsp_uri(server_addr, stream, query)`. -/
structure Env where
  udpWrite : SockAddr → Packet → Bool
  getRtspUri : Option String → Stream → String → String

/-- The members of `MavlinkServer` the handlers use. -/
structure MavlinkServer (Comp σ : Type) where
  streams : List Stream
  compIdToObj : Registry Comp
  systemId : Int
  compId : Int
  broadcastAddr : SockAddr
  rtspServerAddr : Option String
  components : σ

/-- What the handlers' uninitialised local structs hold on entry: `param_ext_value` and
`param_ext_ack`. -/
structure Uninit where
  paramExtValue : ParamExtValue
  paramExtAck : ParamExtAck

/-- Undefined behaviour the model makes visible. -/
inductive Fault
  /-- A `const Stream::FrameSize *` that is null or dangling was dereferenced. -/
  | badFrameSizeDeref
  deriving DecidableEq, Repr

/-- Storing an `int` into a `uint8_t` field. -/
def truncU8 (x : Int) : UInt8 := UInt8.ofNat (x % 256).toNat

/-- `%d` applied to a `uint32_t`: the bits read as an `int`. -/
def asInt32 (x : UInt32) : Int := if x.toNat < 2 ^ 31 then x.toNat else x.toNat - 2 ^ 32

/-- The text `snprintf` formats for `"?width=%d&height=%d"`. -/
def queryText (w h : UInt32) : String :=
  "?width=" ++ toString (asInt32 w) ++ "&height=" ++ toString (asInt32 h)

/-- `snprintf(query, 35, "?width=%d&height=%d", w, h)`: the length it returns and what the
35-byte buffer holds (at most 34 characters and the terminator). -/
def snprintfQuery (w h : UInt32) : Nat × String :=
  ((queryText w h).length, (queryText w h).take 34)

section Handlers

variable {Comp σ : Type} (env : Env) (ops : CameraComponentOps Comp σ)

/-! ## §2 — the command handlers -/

/-- `_send_ack(addr, cmd, comp_id, success)`: one `COMMAND_ACK` with progress `255`. -/
def sendAck (srv : MavlinkServer Comp σ) (addr : SockAddr) (cmd : UInt16) (compId : Int)
    (success : Bool) : List (Event Comp) :=
  [.send addr ⟨srv.systemId, compId, .commandAck cmd (if success then .accepted else .failed) 255⟩]

/-- The shape of `_handle_request_camera_information`, `_handle_request_camera_settings` and
`_handle_request_storage_information`: with `param1 != 1`, ack success; otherwise look the
target up, and for a component `c` send `reply c` and, if that send succeeds, ack success; with
no component, ack failure. -/
def handleRequest (srv : MavlinkServer Comp σ) (addr : SockAddr) (cmd : CommandLong)
    (reply : Comp → MavlinkPayload) : List (Event Comp) :=
  if !cmd.param1.eqOne then sendAck srv addr cmd.command cmd.targetComponent.toNat true
  else match getCameraComponent srv.compIdToObj cmd.targetComponent.toNat with
    | none => sendAck srv addr cmd.command cmd.targetComponent.toNat false
    | some c =>
      let pkt : Packet := ⟨srv.systemId, cmd.targetComponent.toNat, reply c⟩
      if env.udpWrite addr pkt then .send addr pkt :: sendAck srv addr cmd.command
        cmd.targetComponent.toNat true
      else [.send addr pkt]

/-- `MavlinkServer::_handle_request_camera_information`. -/
def handleRequestCameraInformation (srv : MavlinkServer Comp σ) (addr : SockAddr)
    (cmd : CommandLong) : List (Event Comp) :=
  handleRequest env srv addr cmd fun c => .cameraInformation (ops.getCameraInfo srv.components c)

/-- `MavlinkServer::_handle_request_camera_settings` (mode fixed to `1`). -/
def handleRequestCameraSettings (srv : MavlinkServer Comp σ) (addr : SockAddr)
    (cmd : CommandLong) : List (Event Comp) :=
  handleRequest env srv addr cmd fun _ => .cameraSettings 1

/-- `MavlinkServer::_handle_request_storage_information` (placeholder values). -/
def handleRequestStorageInformation (srv : MavlinkServer Comp σ) (addr : SockAddr)
    (cmd : CommandLong) : List (Event Comp) :=
  handleRequest env srv addr cmd fun _ =>
    .storageInformation 1 1 2 CFloat.fifty CFloat.zero CFloat.fifty ⟨0x43000000⟩ ⟨0x43000000⟩

/-- The `VIDEO_STREAM_INFORMATION` packed for stream `s` with frame size `fs` and suffix
`query`. -/
def streamInformation (srv : MavlinkServer Comp σ) (s : Stream) (fs : FrameSize)
    (query : String) : Packet :=
  ⟨srv.systemId, srv.compId, .videoStreamInformation s.id s.isStreaming CFloat.zero fs.width
    fs.height 0 0 (env.getRtspUri srv.rtspServerAddr s query)⟩

/-- `*fs` for `fs = s->sel_frame_size ? s->sel_frame_size : _find_best_frame_size(*s, UINT32_MAX,
UINT32_MAX)`, the stream at position `i`; `none` when that pointer is null or dangling. -/
def reportedFrameSize (streams : List Stream) (i : Nat) (s : Stream) : Option FrameSize :=
  (s.selFrameSize.orElse fun _ => findBestFrameSize i s uint32Max uint32Max).bind
    (FrameSizeRef.deref streams)

/-- The block `if (s->sel_frame_size) { ret = snprintf(query, ...); }`: the length `snprintf`
returns (`0` when the block is skipped) and what `query` holds after it. -/
def updateQuery (s : Stream) (fs : FrameSize) (query : String) : Nat × String :=
  if s.selFrameSize.isSome then snprintfQuery fs.width fs.height else (0, query)

/-- The loop of `_handle_camera_video_stream_request` over `(position, stream)` pairs, carrying
the `query` buffer declared before the loop. For a stream it covers: `fs` is the selection or
the resolver's answer at `UINT32_MAX`; only a selection rewrites `query` (and a suffix longer
than the buffer aborts the request); the packet carries the RTSP URI built from `query`; a
failed send ends the request. -/
def videoStreamLoop (srv : MavlinkServer Comp σ) (addr : SockAddr) (cameraId : UInt32) :
    String → List (Nat × Stream) → Except Fault (List (Event Comp))
  | _, [] => .ok []
  | query, (i, s) :: rest =>
    if cameraId = 0 ∨ cameraId = s.id.toUInt32 then
      match reportedFrameSize srv.streams i s with
      | none => .error .badFrameSizeDeref
      | some fs =>
        let (ret, q) := updateQuery s fs query
        if ret > 35 then .ok []
        else
          let pkt := streamInformation env srv s fs q
          if env.udpWrite addr pkt then
            (videoStreamLoop srv addr cameraId q rest).map (.send addr pkt :: ·)
          else .ok [.send addr pkt]
    else videoStreamLoop srv addr cameraId query rest

/-- `MavlinkServer::_handle_camera_video_stream_request(addr, command, camera_id, action)`. -/
def handleCameraVideoStreamRequest (srv : MavlinkServer Comp σ) (addr : SockAddr)
    (cameraId action : UInt32) : Except Fault (List (Event Comp)) :=
  if action ≠ 1 then .ok [] else videoStreamLoop env srv addr cameraId "" srv.streams.enum

/-! ## §3 — the message handlers -/

/-- The loop of `_handle_camera_set_video_stream_settings`: the position of the last stream
whose id is `camera_id` (`stream = &*s` on every match). -/
def lastStreamWithId (cameraId : UInt8) (streams : List Stream) : Option Nat :=
  streams.enum.foldl (fun acc e => if e.2.id = cameraId then some e.1 else acc) none

/-- The new selection of the stream at position `i`: null when either dimension is zero, else
the resolver's answer. -/
def newSelection (settings : SetVideoStreamSettings) (i : Nat) (s : Stream) : Stream :=
  { s with selFrameSize :=
      if settings.resolutionH = 0 ∨ settings.resolutionV = 0 then none
      else findBestFrameSize i s settings.resolutionH.toUInt32 settings.resolutionV.toUInt32 }

/-- `MavlinkServer::_handle_camera_set_video_stream_settings`. -/
def handleCameraSetVideoStreamSettings (srv : MavlinkServer Comp σ)
    (settings : SetVideoStreamSettings) : MavlinkServer Comp σ :=
  match lastStreamWithId settings.cameraId srv.streams with
  | none => srv
  | some i => { srv with streams := srv.streams.modify (newSelection settings i) i }

/-- `MavlinkServer::_handle_param_ext_request_read`. On the failure path the type is looked up
with `param_ext_value.param_id`, which that path never writes, and the ack's `param_value` is
never written. -/
def handleParamExtRequestRead (srv : MavlinkServer Comp σ) (u : Uninit) (addr : SockAddr)
    (req : ParamExtRequestRead) : List (Event Comp) :=
  match getCameraComponent srv.compIdToObj req.targetComponent.toNat with
  | none => []
  | some c =>
    let (ret, value) := ops.getParam srv.components c req.paramId u.paramExtValue.paramValue
    let pid := strncpy 16 req.paramId.bytes
    let payload : MavlinkPayload :=
      if ret then .paramExtValue ⟨pid, value, truncU8 (ops.getParamType srv.components c pid), 1, 0⟩
      else .paramExtAck ⟨pid, u.paramExtAck.paramValue,
        truncU8 (ops.getParamType srv.components c u.paramExtValue.paramId), .failed⟩
    [.send addr ⟨srv.systemId, req.targetComponent.toNat, payload⟩]

/-- `MavlinkServer::_handle_param_ext_request_list`: one `PARAM_EXT_VALUE` per entry of the
component's parameter map, in key order, whatever each send returns. -/
def handleParamExtRequestList (srv : MavlinkServer Comp σ) (addr : SockAddr)
    (req : ParamExtRequestList) : List (Event Comp) :=
  match getCameraComponent srv.compIdToObj req.targetComponent.toNat with
  | none => []
  | some c =>
    let params := ops.getParamList srv.components c
    params.entries.enum.map fun (idx, key, value) =>
      let pid := strncpy 16 (cStr key)
      .send addr ⟨srv.systemId, req.targetComponent.toNat, .paramExtValue ⟨pid,
        strncpy 128 (cStr value), truncU8 (ops.getParamType srv.components c pid),
        UInt16.ofNat params.size, UInt16.ofNat idx⟩⟩

/-- `MavlinkServer::_handle_param_ext_set`: call `setParam`, then ack with the request's value on
success, or with the value `getParam` reads back on failure. -/
def handleParamExtSet (srv : MavlinkServer Comp σ) (u : Uninit) (addr : SockAddr)
    (req : ParamExtSet) : MavlinkServer Comp σ × List (Event Comp) :=
  match getCameraComponent srv.compIdToObj req.targetComponent.toNat with
  | none => (srv, [])
  | some c =>
    let (ret, comps) := ops.setParam srv.components c req.paramId req.paramValue req.paramType
    let pid := strncpy 16 req.paramId.bytes
    let ack : ParamExtAck :=
      if ret then ⟨pid, strncpy 128 req.paramValue.bytes, req.paramType, .accepted⟩
      else ⟨pid, (ops.getParam comps c pid u.paramExtAck.paramValue).2, req.paramType, .failed⟩
    ({ srv with components := comps },
      [.setParam c req.paramId req.paramValue req.paramType,
       .send addr ⟨srv.systemId, req.targetComponent.toNat, .paramExtAck ack⟩])

/-! ## §4 — the dispatcher -/

/-- Whether a `COMMAND_LONG` passes the dispatcher's filter: addressed to the configured system
and to a component of the camera range. -/
def passesFilter (srv : MavlinkServer Comp σ) (cmd : CommandLong) : Prop :=
  (cmd.targetSystem.toNat : Int) = srv.systemId ∧ mavCompIdCamera ≤ cmd.targetComponent.toNat ∧
    (cmd.targetComponent.toNat : Int) ≤ mavCompIdCamera6

instance (srv : MavlinkServer Comp σ) (cmd : CommandLong) : Decidable (passesFilter srv cmd) :=
  inferInstanceAs (Decidable (_ ∧ _))

/-- `MavlinkServer::_handle_mavlink_message`. -/
def handleMavlinkMessage (srv : MavlinkServer Comp σ) (u : Uninit) (addr : SockAddr) :
    MavlinkMessage → Except Fault (MavlinkServer Comp σ × List (Event Comp))
  | .commandLong cmd =>
    if ¬ passesFilter srv cmd then .ok (srv, [])
    else if cmd.command = mavCmdRequestCameraInformation then
      .ok (srv, handleRequestCameraInformation env ops srv addr cmd)
    else if cmd.command = mavCmdRequestVideoStreamInformation then
      (handleCameraVideoStreamRequest env srv addr cmd.param1.toUInt32 cmd.param2.toUInt32).map
        (srv, ·)
    else if cmd.command = mavCmdRequestCameraSettings then
      .ok (srv, handleRequestCameraSettings env srv addr cmd)
    else if cmd.command = mavCmdRequestStorageInformation then
      .ok (srv, handleRequestStorageInformation env srv addr cmd)
    else .ok (srv, [])
  | .setVideoStreamSettings settings => .ok (handleCameraSetVideoStreamSettings srv settings, [])
  | .paramExtRequestRead req => .ok (srv, handleParamExtRequestRead ops srv u addr req)
  | .paramExtRequestList req => .ok (srv, handleParamExtRequestList ops srv addr req)
  | .paramExtSet req => .ok (handleParamExtSet ops srv u addr req)
  | .other _ _ => .ok (srv, [])

end Handlers

/-! ## §5 — concrete collaborators

The values the fixed-input theorems run the server on: a GCS address, collaborators whose every
send succeeds and whose RTSP URI is the query suffix itself (so the suffix can be read off a
packet), component objects with no state, and all-zero stack contents. -/

/-- A ground station at `127.0.0.1:14550`. -/
def gcsAddr : SockAddr := ⟨0x7F000001, 14550⟩

/-- Every send succeeds; the RTSP URI of a stream is its query suffix. -/
def uriEnv : Env := ⟨fun _ _ => true, fun _ _ query => query⟩

/-- An all-zero `CameraInfo`. -/
def zeroCameraInfo : CameraInfo :=
  ⟨strncpy 32 [], strncpy 32 [], 0, CFloat.zero, CFloat.zero, CFloat.zero, 0, 0, 0, 0, 0,
    strncpy 140 []⟩

/-- Stateless components (pointers are numbers): `getParam` fails and leaves its buffer,
`setParam` succeeds. -/
def stubOps : CameraComponentOps Nat Unit :=
  ⟨fun _ _ => zeroCameraInfo, fun _ _ _ value => (false, value), fun _ _ _ => 0,
    fun _ _ => StdMap.empty, fun _ _ _ _ _ => (true, ())⟩

/-- All-zero stack contents. -/
def zeroUninit : Uninit :=
  ⟨⟨strncpy 16 [], strncpy 128 [], 0, 0, 0⟩, ⟨strncpy 16 [], strncpy 128 [], 0, .failed⟩⟩

/-- A server of system `1`, component `100`, broadcasting to port `14550`. -/
def testServer (streams : List Stream) (compIdToObj : Registry Nat) : MavlinkServer Nat Unit :=
  ⟨streams, compIdToObj, 1, mavCompIdCamera, ⟨0xFFFFFFFF, 14550⟩, none, ()⟩

end CameraStreamingDaemon
