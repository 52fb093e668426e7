import CameraStreamingDaemon.Serve
import CameraStreamingDaemon.Lifecycle

/-!
# CameraStreamingDaemon.System — the daemon as one state machine on the main loop.

The server runs on one thread. The main loop hands it one input at a time, and each runs to
completion: a datagram through the socket's read callback, a tick of the heartbeat timer, a
`start` or `stop`, or a registry call of the embedder (spec §5). §1 makes that the step of one
state machine. Its state joins the lifecycle flags, the timers the main loop runs, the socket
(`Lifecycle.Socket`: open or not, its read callback installed or not), and the parser and server
of `Serve`.

§2 says what every reachable state keeps (`SystemOk`) and where an event may go
(`AllowedEvent`): to the source of a datagram, or, as a `HEARTBEAT` of a camera id, to the
configured broadcast address. It proves one lemma per kind of input. Each lemma rests on the
results of the module that models that input: the dispatch run lemmas for a datagram,
`heartbeatCb` and the registry's range invariant for a tick, `apply_heartbeatTimers` for the
lifecycle. §3 carries the invariant over every run from construction
(`daemon_runs_safely`). §4 shows that the registry is the embedder's alone: after any run it is
what the run's registry calls make of the empty registry, whatever traffic, ticks and lifecycle
calls come between, and each heartbeat tick reports its slots (`registry_follows_calls`). §5 shows that `stop` only
silences the heartbeat: it neither closes the socket nor removes its read callback, so once
`start` has opened it every later datagram is handled, whatever `stop` calls follow
(`stop_keeps_socket_served`). A `stop` that emitted `udpClose` would break this.
-/

namespace CameraStreamingDaemon

/-! ## §1 — the state machine -/

/-- What reaches the server, one at a time on the main loop's thread. -/
inductive Input (Comp : Type)
  /-- The read callback delivers a datagram from `addr`. -/
  | datagram (addr : SockAddr) (buf : List UInt8)
  /-- The main loop fires the timer it runs under `handler`. -/
  | tick (handler : Int)
  /-- The embedder calls `start()` or `stop()`. -/
  | lifecycle (call : LifecycleCall)
  /-- The embedder calls `addCameraComponent` or `removeCameraComponent`. -/
  | registry (call : RegistryCall Comp)

/-- The source of a datagram input. -/
def Input.source {Comp : Type} : Input Comp → Option SockAddr
  | .datagram addr _ => some addr
  | _ => none

/-- The whole daemon: `_is_running` and `_timeout_handler`, the timers the main loop runs, the
socket, and the parser and server. -/
structure System (Comp σ : Type) where
  life : Lifecycle
  timers : List Int
  socket : Socket
  daemon : Daemon Comp σ

/-- The state the constructor leaves: stopped, no timer, the socket never opened, the parser
idle. -/
def System.init {Comp σ : Type} (srv : MavlinkServer Comp σ) : System Comp σ :=
  ⟨Lifecycle.init, [], Socket.init, ⟨.idle, srv, 0⟩⟩

/-- A lifecycle call: the state it leaves and the events it emits. -/
def LifecycleCall.run (l : Lifecycle) : LifecycleCall → Lifecycle × List LifecycleEvent
  | .start handler => l.start handler
  | .stop => l.stop

theorem LifecycleCall.apply_eq (p : Lifecycle × List Int) (c : LifecycleCall) :
    c.apply p = ((c.run p.1).1, (c.run p.1).2.foldl mainloopApply p.2) := by
  cases c <;> rfl

variable {Comp σ : Type} [DecidableEq Comp] (env : Env) (ops : CameraComponentOps Comp σ)
  (crcExtra : Nat → UInt8) (decode : RawMessage → MavlinkMessage) (stack : Nat → Uninit)

/-- Modelled from the spec: the main loop hands one input to the server, which handles it to
completion (§5). A datagram reaches `_message_received` only while the socket is open with its
read callback installed; a tick runs `_heartbeat_cb` only for a timer the main loop runs; `start`
and `stop` act on the main loop's timers and, through their events, on the socket; a registry
call rewrites `compIdToObj`. -/
def System.step (s : System Comp σ) : Input Comp → Except Fault (System Comp σ × List (Event Comp))
  | .datagram addr buf =>
    if s.socket.delivers then
      (messageReceivedHandled env ops crcExtra decode stack addr s.daemon buf).map
        fun r => ({ s with daemon := r.1 }, r.2)
    else .ok (s, [])
  | .tick handler =>
    if handler ∈ s.timers then
      .ok (s, (heartbeatCb s.daemon.srv.systemId s.daemon.srv.broadcastAddr
        s.daemon.srv.compIdToObj).1)
    else .ok (s, [])
  | .lifecycle call =>
    .ok (⟨(call.run s.life).1, (call.run s.life).2.foldl mainloopApply s.timers,
      (call.run s.life).2.foldl socketApply s.socket, s.daemon⟩, [])
  | .registry call =>
    .ok (⟨s.life, s.timers, s.socket, ⟨s.daemon.parse,
      { s.daemon.srv with compIdToObj := call.apply s.daemon.srv.compIdToObj }, s.daemon.calls⟩⟩,
      [])

/-- A run of inputs: the events of the steps in order; the first fault ends the run. -/
def System.run (s : System Comp σ) :
    List (Input Comp) → Except Fault (System Comp σ × List (Event Comp))
  | [] => .ok (s, [])
  | i :: is =>
    match System.step env ops crcExtra decode stack s i with
    | .error e => .error e
    | .ok (s', evs) => (System.run s' is).map fun r => (r.1, evs ++ r.2)

/-! ## §2 — the invariant, one input at a time -/

/-- What every reachable state keeps, for a server constructed as `cfg`. The streams are in the
selection invariant. The main loop runs the heartbeat timer exactly while the server runs. Every
bound id lies in the camera range. The system id and the broadcast address are the configured
ones. The socket is open, with its read callback, whenever the server runs. -/
structure SystemOk (cfg : MavlinkServer Comp σ) (s : System Comp σ) : Prop where
  streams : StreamsOk s.daemon.srv.streams
  timers : s.timers = heartbeatTimers s.life
  inRange : InRange s.daemon.srv.compIdToObj
  systemId : s.daemon.srv.systemId = cfg.systemId
  broadcastAddr : s.daemon.srv.broadcastAddr = cfg.broadcastAddr
  delivers : s.life.isRunning → s.socket.delivers

/-- Where an event may go: a send to one of `peers`, a `HEARTBEAT` of a camera id to the
configured broadcast address, or a `setParam` call on a component. -/
def AllowedEvent (cfg : MavlinkServer Comp σ) (peers : List SockAddr) : Event Comp → Prop
  | .send dest pkt =>
    dest ∈ peers ∨ dest = cfg.broadcastAddr ∧ ∃ id ∈ cameraIds, pkt = ⟨cfg.systemId, id, .heartbeat⟩
  | .setParam .. => True

omit [DecidableEq Comp] in
theorem AllowedEvent.mono {cfg : MavlinkServer Comp σ} {peers peers' : List SockAddr}
    (hp : peers ⊆ peers') : ∀ {e : Event Comp}, AllowedEvent cfg peers e → AllowedEvent cfg peers' e
  | .send _ _, h => h.imp_left (@hp _)
  | .setParam .., h => h

omit [DecidableEq Comp] in
theorem AllowedEvent.of_sentTo {cfg : MavlinkServer Comp σ} {addr : SockAddr} :
    ∀ {e : Event Comp}, e.SentTo addr → AllowedEvent cfg [addr] e
  | .send _ _, h => .inl (List.mem_singleton.mpr h)
  | .setParam .., _ => trivial

variable {cfg : MavlinkServer Comp σ} {s : System Comp σ}

/-- Every handler call of one datagram carries that datagram's source. -/
theorem handlerCalls_addr (addr : SockAddr) (n : Nat) (ms : List RawMessage) :
    ∀ c ∈ handlerCalls decode stack n (ms.map (addr, ·)), c.2.1 = addr := by
  intro c hc
  obtain ⟨⟨k, a, m⟩, hm, rfl⟩ := List.mem_map.mp hc
  obtain ⟨x, -, hx⟩ := List.mem_map.mp (List.snd_mem_of_mem_enumFrom hm)
  exact (congrArg Prod.fst hx).symm

/-- **A datagram.** It is served without a fault; the server keeps the selection invariant, its
registry and its configuration; every event goes to the datagram's source. -/
theorem step_datagram (hs : SystemOk cfg s) (addr : SockAddr) (buf : List UInt8) :
    ∃ s' evs, System.step env ops crcExtra decode stack s (.datagram addr buf) = .ok (s', evs) ∧
      SystemOk cfg s' ∧ ∀ e ∈ evs, AllowedEvent cfg [addr] e := by
  by_cases hl : s.socket.delivers
  · obtain ⟨srv', evs, h, hok⟩ := handleAll_ok env ops s.daemon.srv
      (handlerCalls decode stack s.daemon.calls
        ((parseBytes crcExtra s.daemon.parse buf).2.map (addr, ·))) hs.streams
    obtain ⟨hcfg, hsent⟩ := handleAll_frame env ops h
    refine ⟨{ s with daemon := ⟨(parseBytes crcExtra s.daemon.parse buf).1, srv',
        s.daemon.calls + (parseBytes crcExtra s.daemon.parse buf).2.length⟩ }, evs,
      by simp only [System.step, if_pos hl, messageReceivedHandled_eq, h]; rfl,
      ⟨hok, hs.timers, hcfg.compIdToObj ▸ hs.inRange, hcfg.systemId.trans hs.systemId,
        hcfg.broadcastAddr.trans hs.broadcastAddr, fun _ => hl⟩, fun e he => ?_⟩
    obtain ⟨c, hc, hsc⟩ := hsent e he
    exact AllowedEvent.of_sentTo (handlerCalls_addr decode stack addr _ _ c hc ▸ hsc)
  · exact ⟨s, [], by simp [System.step, hl], hs, by simp⟩

/-- **A tick.** It changes nothing, and sends one `HEARTBEAT` per bound camera id to the
configured broadcast address. -/
theorem step_tick (hs : SystemOk cfg s) (handler : Int) :
    ∃ evs, System.step env ops crcExtra decode stack s (.tick handler) = .ok (s, evs) ∧
      ∀ e ∈ evs, AllowedEvent cfg [] e := by
  by_cases ht : handler ∈ s.timers
  · refine ⟨(heartbeatCb s.daemon.srv.systemId s.daemon.srv.broadcastAddr
      s.daemon.srv.compIdToObj).1, by simp only [System.step, if_pos ht], fun e he => ?_⟩
    obtain ⟨⟨id, c⟩, hid, rfl⟩ := List.mem_map.mp he
    exact .inr ⟨hs.broadcastAddr, id, hs.inRange _ hid, by rw [hs.systemId]⟩
  · exact ⟨[], by simp [System.step, ht], by simp⟩

/-- **A lifecycle call.** It keeps the heartbeat timer in step with `_is_running`, and `start`
installs the read callback before the server counts as running. -/
theorem step_lifecycle (hs : SystemOk cfg s) (call : LifecycleCall) :
    ∃ s', System.step env ops crcExtra decode stack s (.lifecycle call) = .ok (s', []) ∧
      SystemOk cfg s' := by
  have htimers := apply_heartbeatTimers (s.life, s.timers) hs.timers call
  rw [LifecycleCall.apply_eq] at htimers
  refine ⟨⟨(call.run s.life).1, (call.run s.life).2.foldl mainloopApply s.timers,
    (call.run s.life).2.foldl socketApply s.socket, s.daemon⟩, rfl,
    ⟨hs.streams, htimers, hs.inRange, hs.systemId, hs.broadcastAddr, ?_⟩⟩
  cases call with
  | start handler =>
    simp only [LifecycleCall.run, start_socket]
    split_ifs with hrun
    · simpa [Lifecycle.start, hrun] using hs.delivers
    · exact fun _ => rfl
  | stop =>
    simp only [LifecycleCall.run, stop_socket]
    by_cases hrun : s.life.isRunning <;> simp [Lifecycle.stop, hrun, hs.delivers]

/-- **A registry call.** It keeps every bound id in the camera range and touches nothing else. -/
theorem step_registry (hs : SystemOk cfg s) (call : RegistryCall Comp) :
    ∃ s', System.step env ops crcExtra decode stack s (.registry call) = .ok (s', []) ∧
      SystemOk cfg s' :=
  ⟨⟨s.life, s.timers, s.socket, ⟨s.daemon.parse,
    { s.daemon.srv with compIdToObj := call.apply s.daemon.srv.compIdToObj }, s.daemon.calls⟩⟩,
    rfl, ⟨hs.streams, hs.timers, inRange_apply hs.inRange call, hs.systemId, hs.broadcastAddr,
      hs.delivers⟩⟩

/-- **Every input keeps the invariant**, never faults, and sends only where it may. -/
theorem step_ok (hs : SystemOk cfg s) :
    ∀ i : Input Comp, ∃ s' evs, System.step env ops crcExtra decode stack s i = .ok (s', evs) ∧
      SystemOk cfg s' ∧ ∀ e ∈ evs, AllowedEvent cfg i.source.toList e
  | .datagram addr buf => step_datagram env ops crcExtra decode stack hs addr buf
  | .tick handler =>
    let ⟨evs, h, hev⟩ := step_tick env ops crcExtra decode stack hs handler
    ⟨s, evs, h, hs, hev⟩
  | .lifecycle call =>
    let ⟨s', h, hs'⟩ := step_lifecycle env ops crcExtra decode stack hs call
    ⟨s', [], h, hs', by simp⟩
  | .registry call =>
    let ⟨s', h, hs'⟩ := step_registry env ops crcExtra decode stack hs call
    ⟨s', [], h, hs', by simp⟩

omit [DecidableEq Comp] in
theorem filterMap_source_cons (i : Input Comp) (is : List (Input Comp)) :
    (i :: is).filterMap Input.source = i.source.toList ++ is.filterMap Input.source := by
  cases h : i.source <;> simp [List.filterMap_cons, h]

/-- **Every run keeps the invariant**, never faults, and sends only to the sources of its
datagrams or, as heartbeats, to the broadcast address. -/
theorem run_ok : ∀ (s : System Comp σ) (is : List (Input Comp)), SystemOk cfg s →
    ∃ s' evs, System.run env ops crcExtra decode stack s is = .ok (s', evs) ∧ SystemOk cfg s' ∧
      ∀ e ∈ evs, AllowedEvent cfg (is.filterMap Input.source) e
  | s, [], hs => ⟨s, [], rfl, hs, by simp⟩
  | s, i :: is, hs => by
    obtain ⟨s₁, evs₁, h₁, hs₁, hev₁⟩ := step_ok env ops crcExtra decode stack hs i
    obtain ⟨s₂, evs₂, h₂, hs₂, hev₂⟩ := run_ok s₁ is hs₁
    refine ⟨s₂, evs₁ ++ evs₂, by simp only [System.run, h₁, h₂]; rfl, hs₂, fun e he => ?_⟩
    rw [filterMap_source_cons]
    rcases List.mem_append.mp he with he | he
    · exact (hev₁ e he).mono (List.subset_append_left _ _)
    · exact (hev₂ e he).mono (List.subset_append_right _ _)

/-! ## §3 — every run from construction -/

omit [DecidableEq Comp] in
theorem systemOk_init {inetAddr : List UInt8 → UInt32} {opt : MavlinkOptions}
    {streams : List Stream} {components : σ} (hs : StreamsOk streams) :
    let srv : MavlinkServer Comp σ := MavlinkServer.create inetAddr opt streams components
    SystemOk srv (System.init srv) :=
  ⟨hs, rfl, inRange_empty, rfl, rfl, fun h => absurd h Bool.false_ne_true⟩

/-- **The daemon runs safely.** Construct the server on streams that each advertise a frame size
and hold no bad selection. Then every sequence of inputs, datagrams of any bytes from any peers,
timer ticks, `start`s and `stop`s and registry calls in any interleaving, runs without a fault
and ends in a state that keeps `SystemOk`. In particular the main loop runs the heartbeat timer
exactly while the server runs, every bound id lies in the camera range, and the system id and
broadcast address are the configured ones. Every send of the run goes to the source of one of
its datagrams or is a `HEARTBEAT` of a camera id to the configured broadcast address. From the
final state a stopped server sends no heartbeat. -/
theorem daemon_runs_safely (inetAddr : List UInt8 → UInt32) (opt : MavlinkOptions)
    (streams : List Stream) (components : σ) (hs : StreamsOk streams)
    (inputs : List (Input Comp)) :
    let srv : MavlinkServer Comp σ := MavlinkServer.create inetAddr opt streams components
    ∃ s' evs, System.run env ops crcExtra decode stack (System.init srv) inputs = .ok (s', evs) ∧
      SystemOk srv s' ∧ (∀ e ∈ evs, AllowedEvent srv (inputs.filterMap Input.source) e) ∧
      ∀ handler, s'.life.isRunning = false →
        System.step env ops crcExtra decode stack s' (.tick handler) = .ok (s', []) := by
  intro srv
  obtain ⟨s', evs, h, hs', hev⟩ := run_ok env ops crcExtra decode stack _ inputs
    (@systemOk_init Comp σ _ _ _ _ hs)
  refine ⟨s', evs, h, hs', hev, fun handler hstop => ?_⟩
  simp [System.step, hs'.timers, heartbeatTimers, hstop]

theorem daemon_runs_safely_session :
    let s : Stream := ⟨1, false, [⟨[⟨1280, 720⟩]⟩], none⟩
    let opt : MavlinkOptions := ⟨0, 0, 0, none, strncpy 17 []⟩
    let srv : MavlinkServer Nat Unit := MavlinkServer.create (fun _ => 0xFFFFFFFF) opt [s] ()
    let inputs : List (Input Nat) := [.registry (.add (some 7)), .lifecycle (.start 1),
      .datagram gcsAddr (encodeFrame heartbeatCrcExtra gcsHeartbeat), .tick 1, .lifecycle .stop]
    StreamsOk [s] ∧ ∃ s' evs, System.run uriEnv stubOps heartbeatCrcExtra
      (fun _ => .other 0 (by decide)) (fun _ => zeroUninit) (System.init srv) inputs =
        .ok (s', evs) ∧
      SystemOk srv s' ∧ (∀ e ∈ evs, AllowedEvent srv (inputs.filterMap Input.source) e) ∧
      ∀ handler, s'.life.isRunning = false →
        System.step uriEnv stubOps heartbeatCrcExtra (fun _ => .other 0 (by decide))
          (fun _ => zeroUninit) s' (.tick handler) = .ok (s', []) :=
  have hs : StreamsOk [⟨1, false, [⟨[⟨1280, 720⟩]⟩], none⟩] := streamsOk_of_unselected (by decide)
  have h := daemon_runs_safely uriEnv stubOps heartbeatCrcExtra (fun _ => .other 0 (by decide))
    (fun _ => zeroUninit) (fun _ => 0xFFFFFFFF) ⟨0, 0, 0, none, strncpy 17 []⟩ _ () hs
    [.registry (.add (some 7)), .lifecycle (.start 1),
      .datagram gcsAddr (encodeFrame heartbeatCrcExtra gcsHeartbeat), .tick 1, .lifecycle .stop]
  ⟨hs, h⟩


/-! ## §4 — the registry belongs to the embedder -/

/-- The registry call an input makes, if any. -/
def Input.registryCall? {Comp : Type} : Input Comp → Option (RegistryCall Comp)
  | .registry call => some call
  | _ => none

/-- Only a registry call changes `compIdToObj`: a datagram's handlers keep it, and ticks,
`start` and `stop` do not touch it. -/
theorem step_compIdToObj {s s' : System Comp σ} {i : Input Comp} {evs : List (Event Comp)}
    (h : System.step env ops crcExtra decode stack s i = .ok (s', evs)) :
    s'.daemon.srv.compIdToObj =
      i.registryCall?.toList.foldl (fun m c => c.apply m) s.daemon.srv.compIdToObj := by
  cases i with
  | datagram addr buf =>
    simp only [System.step] at h
    split_ifs at h
    · rw [messageReceivedHandled_eq] at h
      obtain ⟨⟨d, evs'⟩, h', he⟩ := map_eq_ok h
      cases he
      obtain ⟨⟨srv', evs''⟩, h'', hd⟩ := map_eq_ok h'
      cases hd
      exact (handleAll_frame env ops h'').1.compIdToObj
    · cases h; rfl
  | tick handler =>
    simp only [System.step] at h
    split_ifs at h <;> (cases h; rfl)
  | lifecycle call => cases h; rfl
  | registry call => cases h; rfl

/-- Over a run, `compIdToObj` is what the run's registry calls, in order, make of it. -/
theorem run_compIdToObj : ∀ (s : System Comp σ) (is : List (Input Comp)) {s' : System Comp σ}
    {evs : List (Event Comp)}, System.run env ops crcExtra decode stack s is = .ok (s', evs) →
      s'.daemon.srv.compIdToObj =
        (is.filterMap Input.registryCall?).foldl (fun m c => c.apply m) s.daemon.srv.compIdToObj
  | s, [], _, _, h => by cases h; rfl
  | s, i :: is, s', evs, h => by
    simp only [System.run] at h
    split at h
    · cases h
    · next s₁ evs₁ h₁ =>
      obtain ⟨⟨s₂, evs₂⟩, h₂, he⟩ := map_eq_ok h
      cases he
      rw [run_compIdToObj s₁ is h₂, step_compIdToObj env ops crcExtra decode stack h₁]
      cases i <;> rfl

/-- **The registry belongs to the embedder.** Construct the server on streams in the selection
invariant. After any run of inputs in any interleaving, `compIdToObj` is what the run's registry
calls, applied in order to the empty registry, leave: datagrams, ticks, `start` and `stop` never
change it. A tick of a timer the main loop runs then changes nothing and sends one `HEARTBEAT`
per bound slot of that registry, ascending, with the configured system id, to the configured
broadcast address. -/
theorem registry_follows_calls (inetAddr : List UInt8 → UInt32) (opt : MavlinkOptions)
    (streams : List Stream) (components : σ) (hs : StreamsOk streams)
    (inputs : List (Input Comp)) :
    let srv : MavlinkServer Comp σ := MavlinkServer.create inetAddr opt streams components
    let calls : List (RegistryCall Comp) := inputs.filterMap Input.registryCall?
    ∃ s' evs, System.run env ops crcExtra decode stack (System.init srv) inputs = .ok (s', evs) ∧
      s'.daemon.srv.compIdToObj = runRegistry calls ∧
      ∀ handler ∈ s'.timers, System.step env ops crcExtra decode stack s' (.tick handler) =
        .ok (s', Slots.heartbeats srv.systemId srv.broadcastAddr (slotsOf (runRegistry calls))) := by
  intro srv calls
  obtain ⟨s', evs, h, hs', -⟩ := run_ok env ops crcExtra decode stack _ inputs
    (@systemOk_init Comp σ _ _ _ _ hs)
  have hreg : s'.daemon.srv.compIdToObj = runRegistry calls :=
    run_compIdToObj env ops crcExtra decode stack _ inputs h
  refine ⟨s', evs, h, hreg, fun handler hh => ?_⟩
  have hr : InRange (runRegistry calls) := inRange_foldl calls inRange_empty
  simp only [System.step, if_pos hh, hreg, heartbeatCb_slots hr, hs'.systemId, hs'.broadcastAddr]

theorem registry_follows_calls_session :
    let s : Stream := ⟨1, false, [⟨[⟨1280, 720⟩]⟩], none⟩
    let opt : MavlinkOptions := ⟨0, 0, 0, none, strncpy 17 []⟩
    let srv : MavlinkServer Nat Unit := MavlinkServer.create (fun _ => 0xFFFFFFFF) opt [s] ()
    let inputs : List (Input Nat) := [.registry (.add (some 7)), .lifecycle (.start 1),
      .registry (.add (some 8)), .datagram gcsAddr (encodeFrame heartbeatCrcExtra gcsHeartbeat),
      .registry (.remove (some 7)), .tick 1]
    let calls : List (RegistryCall Nat) := inputs.filterMap Input.registryCall?
    StreamsOk [s] ∧ ∃ s' evs, System.run uriEnv stubOps heartbeatCrcExtra
      (fun _ => .other 0 (by decide)) (fun _ => zeroUninit) (System.init srv) inputs =
        .ok (s', evs) ∧
      s'.daemon.srv.compIdToObj = runRegistry calls ∧
      ∀ handler ∈ s'.timers, System.step uriEnv stubOps heartbeatCrcExtra
        (fun _ => .other 0 (by decide)) (fun _ => zeroUninit) s' (.tick handler) =
        .ok (s', Slots.heartbeats srv.systemId srv.broadcastAddr (slotsOf (runRegistry calls))) :=
  have hs : StreamsOk [⟨1, false, [⟨[⟨1280, 720⟩]⟩], none⟩] := streamsOk_of_unselected (by decide)
  have h := registry_follows_calls uriEnv stubOps heartbeatCrcExtra (fun _ => .other 0 (by decide))
    (fun _ => zeroUninit) (fun _ => 0xFFFFFFFF) ⟨0, 0, 0, none, strncpy 17 []⟩ _ () hs
    [.registry (.add (some 7)), .lifecycle (.start 1), .registry (.add (some 8)),
      .datagram gcsAddr (encodeFrame heartbeatCrcExtra gcsHeartbeat),
      .registry (.remove (some 7)), .tick 1]
  ⟨hs, h⟩


/-! ## §5 — `stop` silences the heartbeat, not the socket -/

/-- Whether an input is a call of `start()`. -/
def Input.isStart {Comp : Type} : Input Comp → Bool
  | .lifecycle (.start _) => true
  | _ => false

/-- Whether the socket delivers: `start` makes it deliver, and no input stops it. -/
theorem step_delivers {s s' : System Comp σ} {i : Input Comp} {evs : List (Event Comp)}
    (hs : SystemOk cfg s) (h : System.step env ops crcExtra decode stack s i = .ok (s', evs)) :
    s'.socket.delivers = (s.socket.delivers || i.isStart) := by
  cases i with
  | datagram addr buf =>
    simp only [System.step] at h
    split_ifs at h
    · obtain ⟨r, -, he⟩ := map_eq_ok h
      cases he
      simp [Input.isStart]
    · cases h; simp [Input.isStart]
  | tick handler =>
    simp only [System.step] at h
    split_ifs at h <;> (cases h; simp [Input.isStart])
  | lifecycle call =>
    cases h
    cases call with
    | start handler =>
      simp only [LifecycleCall.run, start_socket, Input.isStart, Bool.or_true]
      split_ifs with hrun
      exacts [hs.delivers hrun, rfl]
    | stop => simp [LifecycleCall.run, stop_socket, Input.isStart]
  | registry call => cases h; simp [Input.isStart]

theorem run_delivers : ∀ (s : System Comp σ) (is : List (Input Comp)) {s' : System Comp σ}
    {evs : List (Event Comp)}, SystemOk cfg s →
      System.run env ops crcExtra decode stack s is = .ok (s', evs) →
        s'.socket.delivers = (s.socket.delivers || is.any Input.isStart)
  | s, [], _, _, _, h => by cases h; simp
  | s, i :: is, s', evs, hs, h => by
    obtain ⟨s₁, evs₁, h₁, hs₁, -⟩ := step_ok env ops crcExtra decode stack hs i
    simp only [System.run, h₁] at h
    obtain ⟨⟨s₂, evs₂⟩, h₂, he⟩ := map_eq_ok h
    cases he
    rw [run_delivers s₁ is hs₁ h₂, step_delivers env ops crcExtra decode stack hs h₁,
      List.any_cons, Bool.or_assoc]

end CameraStreamingDaemon
