import CameraStreamingDaemon.Dispatch

/-!
# CameraStreamingDaemon.Lifecycle — the constructor's options, and `start` / `stop`.

`MavlinkServer::MavlinkServer` reads the `[mavlink]` section into a zero-initialised
`struct options` and derives the configuration from it (§1). The system id and the component id
go through the same check, "set, and `1 < id < 255`, or else the default" (`configuredId`): the
configured system id always lies in `[1, 254]`, so a `COMMAND_LONG` for the broadcast system id
`0` never passes the dispatcher's filter (`created_server_drops_broadcast_target`).

`start` and `stop` (§2) switch `_is_running` and install or remove the heartbeat timer with the
main loop. The main loop is outside the sources; it is modelled by the list of timers it runs.
`stop` keeps the stale handler in `_timeout_handler`; the next `start` overwrites it before any
`stop` can read it again. Over every sequence of calls the main loop runs the heartbeat timer
exactly while the server is running, and only one (`heartbeat_timer_while_running`). The socket
`_udp` is outside the sources too; it is modelled by whether it is open and has a read callback
(`Socket`), changed by the socket calls among the events `start` and `stop` emit.
-/

namespace CameraStreamingDaemon

/-! ## §1 — the constructor -/

/-- The `struct options` the constructor fills from the `[mavlink]` section. It starts as
`{}`, so an option missing from the file is `0`, `nullptr` or the empty string. -/
structure MavlinkOptions where
  port : UInt64
  sysid : Int
  compid : Int
  rtspServerAddr : Option String
  broadcast : CharBuf 17

/-- `DEFAULT_MAVLINK_PORT`. -/
def defaultMavlinkPort : UInt16 := 14550

/-- `DEFAULT_SYSID`. -/
def defaultSysid : Int := 1

/-- `DEFAULT_MAVLINK_BROADCAST_ADDR`. -/
def defaultMavlinkBroadcastAddr : String := "255.255.255.255"

/-- The check the constructor makes of `opt.sysid` and of `opt.compid`: a set option is taken
unless `id <= 1 || id >= 255`, which logs an error and keeps the default. -/
def configuredId (opt default : Int) : Int :=
  if opt ≠ 0 then (if opt ≤ 1 ∨ opt ≥ 255 then default else opt) else default

/-- `MavlinkServer::MavlinkServer(conf, streams, rtsp)` after `conf.extract_options`, with an
empty registry. `inetAddr` is libc's `inet_addr`; `htons` narrows the `unsigned long` port to
16 bits. -/
def MavlinkServer.create {Comp σ : Type} (inetAddr : List UInt8 → UInt32) (opt : MavlinkOptions)
    (streams : List Stream) (components : σ) : MavlinkServer Comp σ where
  streams := streams
  compIdToObj := StdMap.empty
  systemId := configuredId opt.sysid defaultSysid
  compId := configuredId opt.compid mavCompIdCamera
  broadcastAddr :=
    ⟨if opt.broadcast.bytes.headD 0 ≠ 0 then inetAddr opt.broadcast.bytes
      else inetAddr (cStr defaultMavlinkBroadcastAddr),
     if opt.port ≠ 0 then UInt16.ofNat opt.port.toNat else defaultMavlinkPort⟩
  rtspServerAddr := opt.rtspServerAddr
  components := components

/-- The configured id is the option when it lies in `(1, 255)`, and the default otherwise. -/
theorem configuredId_eq (opt default : Int) :
    configuredId opt default = if 1 < opt ∧ opt < 255 then opt else default := by
  unfold configuredId
  split_ifs <;> first | rfl | omega

/- The default system id `1` is one the check rejects: a configured `system_id = 1` is logged as
invalid, and the default it falls back to is that same `1`. -/
example : configuredId 1 defaultSysid = defaultSysid ∧ ¬ (1 < defaultSysid ∧ defaultSysid < 255) := by
  decide

/-- **A constructed server's ids are valid MAVLink ids.** The system id lies in `[1, 254]`, and
the component id is `MAV_COMP_ID_CAMERA` or lies in `[2, 254]`. -/
theorem create_ids {Comp σ : Type} (inetAddr : List UInt8 → UInt32) (opt : MavlinkOptions)
    (streams : List Stream) (components : σ) :
    let srv : MavlinkServer Comp σ := MavlinkServer.create inetAddr opt streams components
    (1 ≤ srv.systemId ∧ srv.systemId ≤ 254) ∧
      (srv.compId = mavCompIdCamera ∨ 1 < srv.compId ∧ srv.compId < 255) := by
  simp only [MavlinkServer.create, configuredId_eq, defaultSysid]
  constructor <;> split_ifs <;> omega

/-- **The broadcast system id is dropped.** For every option set, a `COMMAND_LONG` whose
`target_system` is the broadcast id `0` fails the filter of a constructed server, whatever its
later registry and streams: `_handle_mavlink_message` answers it with nothing and changes
nothing. -/
theorem created_server_drops_broadcast_target {Comp σ : Type} (env : Env)
    (ops : CameraComponentOps Comp σ) (inetAddr : List UInt8 → UInt32) (opt : MavlinkOptions)
    (streams : List Stream) (components : σ) (reg : Registry Comp) (u : Uninit) (addr : SockAddr)
    (cmd : CommandLong) (h0 : cmd.targetSystem = 0) :
    let srv := { (MavlinkServer.create inetAddr opt streams components : MavlinkServer Comp σ)
      with compIdToObj := reg }
    handleMavlinkMessage env ops srv u addr (.commandLong cmd) = .ok (srv, []) := by
  intro srv
  apply handleMavlinkMessage_filtered
  have hsys := (@create_ids Comp σ inetAddr opt streams components).1.1
  simp only [passesFilter, h0, UInt8.toNat_zero, Nat.cast_zero, not_and]
  omega

theorem created_server_drops_broadcast_target_default :
    let opt : MavlinkOptions := ⟨0, 0, 0, none, strncpy 17 []⟩
    let cmd : CommandLong := ⟨0, 100, mavCmdRequestCameraInformation, CFloat.one, CFloat.zero⟩
    let srv := { (MavlinkServer.create (fun _ => 0xFFFFFFFF) opt [] () : MavlinkServer Nat Unit)
      with compIdToObj := StdMap.empty.insert 100 (some 7) }
    cmd.targetSystem = 0 ∧
      handleMavlinkMessage uriEnv stubOps srv zeroUninit gcsAddr (.commandLong cmd) = .ok (srv, []) :=
  ⟨rfl, created_server_drops_broadcast_target uriEnv stubOps _ _ [] () _ zeroUninit gcsAddr _ rfl⟩

/-! ## §2 — `start` and `stop` -/

/-- What `start` and `stop` ask of the socket and the main loop. -/
inductive LifecycleEvent
  /-- `_udp.open(true)`. -/
  | udpOpen (broadcast : Bool)
  /-- `_udp.set_read_callback(...)`, which routes each datagram to `_message_received`. -/
  | setReadCallback
  /-- `_udp.close()`: the socket's descriptor leaves the main loop and closes. No function of the
  server calls it; it is here so that the socket's state says what `stop` leaves undone. -/
  | udpClose
  /-- `Mainloop::add_timeout(period, _heartbeat_cb, this)`, and the handler it answers. -/
  | addTimeout (periodMs : Nat) (answer : Int)
  /-- `Mainloop::del_timeout(handler)`. -/
  | delTimeout (handler : Int)
  deriving DecidableEq, Repr

/-- Modelled from the spec: the UDP socket `_udp` as the main loop sees it: whether its
descriptor is open, and whether a read callback is installed. -/
structure Socket where
  isOpen : Bool
  readCallback : Bool
  deriving DecidableEq, Repr

/-- The socket the constructor leaves: never opened, no callback. -/
def Socket.init : Socket := ⟨false, false⟩

/-- Modelled from the spec: what each call does to the socket. `open` opens its descriptor,
`close` closes it, `set_read_callback` installs the callback; the main loop's timer calls leave
it alone. -/
def socketApply (sock : Socket) : LifecycleEvent → Socket
  | .udpOpen _ => { sock with isOpen := true }
  | .setReadCallback => { sock with readCallback := true }
  | .udpClose => { sock with isOpen := false }
  | .addTimeout .. | .delTimeout _ => sock

/-- Whether the main loop hands the socket's datagrams to `_message_received`: its descriptor is
open and a read callback is installed. -/
def Socket.delivers (sock : Socket) : Bool := sock.isOpen && sock.readCallback

/-- `_is_running` and `_timeout_handler`, which the constructor sets to `false` and `0`. -/
structure Lifecycle where
  isRunning : Bool
  timeoutHandler : Int
  deriving DecidableEq, Repr

/-- The state the constructor leaves. -/
def Lifecycle.init : Lifecycle := ⟨false, 0⟩

/-- `MavlinkServer::start()`; `handler` is what `add_timeout` answers. -/
def Lifecycle.start (s : Lifecycle) (handler : Int) : Lifecycle × List LifecycleEvent :=
  if s.isRunning then (s, [])
  else (⟨true, handler⟩, [.udpOpen true, .setReadCallback, .addTimeout 1000 handler])

/-- `MavlinkServer::stop()`, which the destructor also runs: `_timeout_handler` keeps its
value. -/
def Lifecycle.stop (s : Lifecycle) : Lifecycle × List LifecycleEvent :=
  if s.isRunning then
    (⟨false, s.timeoutHandler⟩,
      if s.timeoutHandler > 0 then [.delTimeout s.timeoutHandler] else [])
  else (s, [])

/-- `start` opens the socket and installs its read callback unless the server already runs, and
then leaves it as it is. -/
theorem start_socket (s : Lifecycle) (handler : Int) (sock : Socket) :
    (s.start handler).2.foldl socketApply sock = if s.isRunning then sock else ⟨true, true⟩ := by
  unfold Lifecycle.start
  split_ifs <;> rfl

/-- `stop` emits no socket call: the socket stays open with its read callback. -/
theorem stop_socket (s : Lifecycle) (sock : Socket) : s.stop.2.foldl socketApply sock = sock := by
  unfold Lifecycle.stop
  split_ifs <;> rfl

/-- Modelled from the spec: the timers the main loop runs, by handler. `add_timeout` installs one
under the positive handler it answers, and nothing when its answer is not positive; `del_timeout`
removes the timer of a handler. -/
def mainloopApply (timers : List Int) : LifecycleEvent → List Int
  | .addTimeout _ answer => if answer > 0 then answer :: timers else timers
  | .delTimeout handler => timers.erase handler
  | _ => timers

/-- A lifecycle call: `start` with the answer `add_timeout` will give, or `stop`. -/
inductive LifecycleCall
  | start (handler : Int)
  | stop

/-- One call, and its events applied to the main loop's timers. -/
def LifecycleCall.apply (p : Lifecycle × List Int) : LifecycleCall → Lifecycle × List Int
  | .start handler =>
    let r := p.1.start handler
    (r.1, r.2.foldl mainloopApply p.2)
  | .stop =>
    let r := p.1.stop
    (r.1, r.2.foldl mainloopApply p.2)

/-- The timers the main loop should run for a lifecycle state: the heartbeat timer while the
server runs and `add_timeout` succeeded, and none otherwise. -/
def heartbeatTimers (s : Lifecycle) : List Int :=
  if s.isRunning ∧ 0 < s.timeoutHandler then [s.timeoutHandler] else []

/-- Each call keeps the main loop's timers equal to `heartbeatTimers`. -/
theorem apply_heartbeatTimers (p : Lifecycle × List Int) (h : p.2 = heartbeatTimers p.1)
    (c : LifecycleCall) : (c.apply p).2 = heartbeatTimers (c.apply p).1 := by
  obtain ⟨⟨running, handler⟩, timers⟩ := p
  simp only at h
  subst h
  cases c with
  | start answer =>
    cases running
    · by_cases hh : 0 < answer <;>
        simp [LifecycleCall.apply, Lifecycle.start, heartbeatTimers, mainloopApply, hh]
    · simp [LifecycleCall.apply, Lifecycle.start, heartbeatTimers]
  | stop =>
    cases running
    · simp [LifecycleCall.apply, Lifecycle.stop, heartbeatTimers]
    · by_cases hh : 0 < handler <;>
        simp [LifecycleCall.apply, Lifecycle.stop, heartbeatTimers, mainloopApply, hh]

/-- **The heartbeat timer runs exactly while the server runs.** After any sequence of `start`
and `stop` calls from construction, the main loop runs one heartbeat timer, under the handler
`_timeout_handler` holds, when the server is running and `add_timeout` succeeded, and none
otherwise: a second `start` installs no second timer, and `stop` removes the one there is. -/
theorem heartbeat_timer_while_running (calls : List LifecycleCall) :
    let p := calls.foldl LifecycleCall.apply (Lifecycle.init, [])
    p.2 = heartbeatTimers p.1 := by
  suffices ∀ (p : Lifecycle × List Int), p.2 = heartbeatTimers p.1 →
      (calls.foldl LifecycleCall.apply p).2 = heartbeatTimers (calls.foldl LifecycleCall.apply p).1
    from this _ rfl
  induction calls with
  | nil => exact fun _ h => h
  | cons c cs ih => exact fun p h => ih _ (apply_heartbeatTimers p h c)

end CameraStreamingDaemon
