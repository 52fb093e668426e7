import CameraStreamingDaemon.Framing
import CameraStreamingDaemon.Selection

/-!
# CameraStreamingDaemon.Serve — the daemon on the wire: datagrams in, handler calls out.

`_message_received` does not parse a datagram first and handle its messages after: it calls
`_handle_mavlink_message` from inside its byte loop, the moment `mavlink_parse_char` completes a
message. §1 models that loop as the code runs it, with the parser's state, the server's state and
the count of handler calls side by side (`Daemon`). Two things the loop depends on are outside the
sources and are parameters: `decode`, the MAVLink library's decoding of a completed
`mavlink_message_t` into the typed message the handlers read, and `stack n`, what the handler's
uninitialised locals hold at its `n`-th call.

§2 shows that the interleaving does not matter. The handler never touches the parser's state, so
the loop over any datagrams is the shared parser over all their bytes, followed by `handleAll`
over the messages it completes, in order, each with the source of the datagram that completed it
(`serveAll_eq`). §3 carries the dispatch results down to raw traffic through that equation: from
streams in the selection invariant, any bytes from any peers are served without a fault and leave
the invariant in place (`daemon_serves_any_traffic`). §4 follows one exchange of a ground
station from bytes to the packet it gets back: a selection and a request, their frames cut into
datagrams anywhere, select the size and report it (`select_then_request_on_wire`). §5 counts the acknowledgements of
any traffic: one per request command the parser delivers, none for anything else
(`requests_acked_once_on_wire`).
-/

namespace CameraStreamingDaemon

/-! ## §1 — `_message_received` with its handler calls -/

/-- What the server process carries from one datagram to the next: the state of the parser
channel `MAVLINK_COMM_0`, the `MavlinkServer`, and how many times `_handle_mavlink_message` has
run. -/
structure Daemon (Comp σ : Type) where
  parse : ParseState
  srv : MavlinkServer Comp σ
  calls : Nat

variable {Comp σ : Type} (env : Env) (ops : CameraComponentOps Comp σ) (crcExtra : Nat → UInt8)
  (decode : RawMessage → MavlinkMessage) (stack : Nat → Uninit)

/-- One pass of the byte loop of `_message_received`: `mavlink_parse_char`, then
`_handle_mavlink_message` on the message it completes, if any. -/
def receiveByte (addr : SockAddr) (d : Daemon Comp σ) (c : UInt8) :
    Except Fault (Daemon Comp σ × List (Event Comp)) :=
  match parseChar crcExtra d.parse c with
  | (st, none) => .ok ({ d with parse := st }, [])
  | (st, some m) =>
    (handleMavlinkMessage env ops d.srv (stack d.calls) addr (decode m)).map
      fun r => (⟨st, r.1, d.calls + 1⟩, r.2)

/-- `MavlinkServer::_message_received(sockaddr, buf)`: the byte loop over one datagram. -/
def messageReceivedHandled (addr : SockAddr) (d : Daemon Comp σ) :
    List UInt8 → Except Fault (Daemon Comp σ × List (Event Comp))
  | [] => .ok (d, [])
  | c :: cs =>
    match receiveByte env ops crcExtra decode stack addr d c with
    | .error e => .error e
    | .ok (d', evs) => (messageReceivedHandled addr d' cs).map fun r => (r.1, evs ++ r.2)

/-- Datagrams in the order the read callback delivers them, one `_message_received` each. -/
def serveAll (d : Daemon Comp σ) :
    List (SockAddr × List UInt8) → Except Fault (Daemon Comp σ × List (Event Comp))
  | [] => .ok (d, [])
  | (addr, buf) :: ds =>
    match messageReceivedHandled env ops crcExtra decode stack addr d buf with
    | .error e => .error e
    | .ok (d', evs) => (serveAll d' ds).map fun r => (r.1, evs ++ r.2)

/-! ## §2 — parse everything, then handle everything -/

/-- The parser's hand-overs as handler calls numbered from `n`: each is decoded and meets the
stack contents of its own call. -/
def handlerCalls (n : Nat) (ms : List (SockAddr × RawMessage)) :
    List (Uninit × SockAddr × MavlinkMessage) :=
  (ms.enumFrom n).map fun (k, addr, m) => (stack k, addr, decode m)

@[simp] theorem handlerCalls_nil (n : Nat) : handlerCalls decode stack n [] = [] := rfl

@[simp] theorem handlerCalls_cons (n : Nat) (e : SockAddr × RawMessage)
    (ms : List (SockAddr × RawMessage)) :
    handlerCalls decode stack n (e :: ms) =
      (stack n, e.1, decode e.2) :: handlerCalls decode stack (n + 1) ms := rfl

theorem handlerCalls_append (n : Nat) (ms ms' : List (SockAddr × RawMessage)) :
    handlerCalls decode stack n (ms ++ ms') =
      handlerCalls decode stack n ms ++ handlerCalls decode stack (n + ms.length) ms' := by
  simp [handlerCalls, List.enumFrom_append]

theorem handleAll_cons (srv : MavlinkServer Comp σ) (u : Uninit) (addr : SockAddr)
    (m : MavlinkMessage) (ms : List (Uninit × SockAddr × MavlinkMessage)) :
    handleAll env ops srv ((u, addr, m) :: ms) =
      (handleMavlinkMessage env ops srv u addr m).bind fun r =>
        (handleAll env ops r.1 ms).map fun r' => (r'.1, r.2 ++ r'.2) := by
  simp only [handleAll]
  cases handleMavlinkMessage env ops srv u addr m <;> rfl

/-- A run over two lists of messages is the run over the first, continued by the run over the
second from where it ended. -/
theorem handleAll_append (srv : MavlinkServer Comp σ) :
    ∀ ms ms' : List (Uninit × SockAddr × MavlinkMessage),
      handleAll env ops srv (ms ++ ms') =
        (handleAll env ops srv ms).bind fun r =>
          (handleAll env ops r.1 ms').map fun r' => (r'.1, r.2 ++ r'.2)
  | [], ms' => by
    show handleAll env ops srv ms' = (handleAll env ops srv ms').map fun r' => (r'.1, [] ++ r'.2)
    cases handleAll env ops srv ms' <;> rfl
  | (u, addr, m) :: ms, ms' => by
    rw [List.cons_append, handleAll_cons, handleAll_cons]
    cases handleMavlinkMessage env ops srv u addr m with
    | error e => rfl
    | ok r =>
      show (handleAll env ops r.1 (ms ++ ms')).map _ = ((handleAll env ops r.1 ms).map _).bind _
      rw [handleAll_append r.1 ms ms']
      cases handleAll env ops r.1 ms with
      | error e => rfl
      | ok r₁ => rcases h : handleAll env ops r₁.1 ms' <;> simp [h, Except.map, Except.bind]

/-- **One datagram.** The byte loop of `_message_received` is the parser over the datagram,
followed by a run of `_handle_mavlink_message` over the messages it completed. -/
theorem messageReceivedHandled_eq (addr : SockAddr) :
    ∀ (d : Daemon Comp σ) (bs : List UInt8),
      messageReceivedHandled env ops crcExtra decode stack addr d bs =
        (handleAll env ops d.srv (handlerCalls decode stack d.calls
          ((parseBytes crcExtra d.parse bs).2.map (addr, ·)))).map
          fun h => (⟨(parseBytes crcExtra d.parse bs).1, h.1,
            d.calls + (parseBytes crcExtra d.parse bs).2.length⟩, h.2)
  | d, [] => rfl
  | d, c :: cs => by
    simp only [messageReceivedHandled, receiveByte, parseBytes_cons]
    rcases hp : parseChar crcExtra d.parse c with ⟨st, _ | m⟩
    · simp only [messageReceivedHandled_eq addr _ cs, Option.toList, List.nil_append]
      cases handleAll env ops d.srv _ <;> rfl
    · simp only [Option.toList, List.singleton_append, List.map_cons, handlerCalls_cons,
        handleAll_cons, List.length_cons]
      cases handleMavlinkMessage env ops d.srv (stack d.calls) addr (decode m) with
      | error e => rfl
      | ok r =>
        simp only [Except.map, Except.bind, messageReceivedHandled_eq addr _ cs]
        rcases h : handleAll env ops r.1 (handlerCalls decode stack (d.calls + 1)
          ((parseBytes crcExtra st cs).2.map (addr, ·))) <;>
          simp [h, Nat.add_assoc, Nat.add_comm 1]

/-- **The interleaving does not matter.** Serving datagrams one `_message_received` at a time is
the shared parser over all their bytes in arrival order, followed by one run of
`_handle_mavlink_message` over the messages it completed, each with the source of the datagram
that completed it. -/
theorem serveAll_eq :
    ∀ (d : Daemon Comp σ) (ds : List (SockAddr × List UInt8)),
      serveAll env ops crcExtra decode stack d ds =
        (handleAll env ops d.srv
          (handlerCalls decode stack d.calls (receiveAll crcExtra d.parse ds).2)).map
          fun h => (⟨(receiveAll crcExtra d.parse ds).1, h.1,
            d.calls + (receiveAll crcExtra d.parse ds).2.length⟩, h.2)
  | d, [] => rfl
  | d, (addr, buf) :: ds => by
    simp only [serveAll, messageReceivedHandled_eq, receiveAll, messageReceived,
      handlerCalls_append, handleAll_append, List.length_append, List.length_map]
    cases handleAll env ops d.srv _ with
    | error e => rfl
    | ok r =>
      simp only [Except.map, Except.bind, serveAll_eq _ ds]
      cases handleAll env ops r.1 _ <;> simp [Nat.add_assoc]

/-! ## §3 — any traffic -/

/-- **The daemon serves any traffic.** From streams that advertise sizes and hold valid
selections, take any datagrams from any peers carrying any bytes, any decoding of the frames
the parser completes and any contents of the handler's locals. Then `_message_received` never
dereferences a bad frame-size pointer: the whole run succeeds, having called
`_handle_mavlink_message` on exactly the messages the shared parser completed, in order, and it
leaves the streams in the invariant, so the next datagram is served the same way. -/
theorem daemon_serves_any_traffic (d : Daemon Comp σ) (hok : StreamsOk d.srv.streams)
    (ds : List (SockAddr × List UInt8)) :
    ∃ srv' evs,
      handleAll env ops d.srv
        (handlerCalls decode stack d.calls (receiveAll crcExtra d.parse ds).2) = .ok (srv', evs) ∧
      serveAll env ops crcExtra decode stack d ds =
        .ok (⟨(receiveAll crcExtra d.parse ds).1, srv',
          d.calls + (receiveAll crcExtra d.parse ds).2.length⟩, evs) ∧
      StreamsOk srv'.streams := by
  obtain ⟨srv', evs, h, hok'⟩ := handleAll_ok env ops d.srv _ hok
  exact ⟨srv', evs, h, by rw [serveAll_eq, h]; rfl, hok'⟩

theorem daemon_serves_any_traffic_heartbeat :
    let s : Stream := ⟨1, false, [⟨[⟨1280, 720⟩]⟩], none⟩
    let d : Daemon Nat Unit := ⟨.idle, testServer [s] StdMap.empty, 0⟩
    let ds := [(gcsAddr, encodeFrame heartbeatCrcExtra gcsHeartbeat)]
    StreamsOk d.srv.streams ∧ ∃ srv' evs,
      handleAll uriEnv stubOps d.srv (handlerCalls (fun _ => .other 0 (by decide))
        (fun _ => zeroUninit) d.calls (receiveAll heartbeatCrcExtra d.parse ds).2) =
          .ok (srv', evs) ∧
      serveAll uriEnv stubOps heartbeatCrcExtra (fun _ => .other 0 (by decide))
        (fun _ => zeroUninit) d ds =
          .ok (⟨(receiveAll heartbeatCrcExtra d.parse ds).1, srv',
            d.calls + (receiveAll heartbeatCrcExtra d.parse ds).2.length⟩, evs) ∧
      StreamsOk srv'.streams :=
  have hok : StreamsOk [⟨1, false, [⟨[⟨1280, 720⟩]⟩], none⟩] := streamsOk_of_unselected (by decide)
  have h := daemon_serves_any_traffic uriEnv stubOps heartbeatCrcExtra
    (fun _ => .other 0 (by decide)) (fun _ => zeroUninit) ⟨.idle, testServer _ StdMap.empty, 0⟩
    hok [(gcsAddr, encodeFrame heartbeatCrcExtra gcsHeartbeat)]
  ⟨hok, h⟩

/-! ## §4 — a selection and a request on the wire -/

/-- **A selection and a request on the wire.** From an idle parser, one peer sends the frame of
a `SET_VIDEO_STREAM_SETTINGS` and then the frame of a `REQUEST_VIDEO_STREAM_INFORMATION`, cut into
datagrams anywhere. Say the settings pick a stream whose id is nonzero and no other stream's, and
ask for a nonzero size `W×H` the stream advertises; and the request asks for that id and passes
the filter. Then serving the datagrams calls the handler twice and leaves the parser idle and the
stream selected at `W×H`. The one packet sent goes to the peer and reports `W×H`, with the URI
of the suffix `?width=W&height=H`. -/
theorem select_then_request_on_wire (d : Daemon Comp σ) (hidle : d.parse = .idle) {i : Nat}
    {s : Stream} (hs : d.srv.streams[i]? = some s) (h0 : s.id ≠ 0)
    (huniq : ∀ j t, d.srv.streams[j]? = some t → t.id = s.id → j = i)
    {m₁ m₂ : RawMessage} {st : SetVideoStreamSettings} {cmd : CommandLong}
    (hd₁ : decode m₁ = .setVideoStreamSettings st) (hd₂ : decode m₂ = .commandLong cmd)
    (hpick : st.cameraId = s.id) (hH : st.resolutionH ≠ 0) (hV : st.resolutionV ≠ 0)
    (hadv : ⟨st.resolutionH.toUInt32, st.resolutionV.toUInt32⟩ ∈ s.frameSizes)
    (hf : passesFilter d.srv cmd) (hcmd : cmd.command = mavCmdRequestVideoStreamInformation)
    (hp1 : cmd.param1.toUInt32 = s.id.toUInt32) (hp2 : cmd.param2.toUInt32 = 1)
    {b : SockAddr} {ds : List (SockAddr × List UInt8)} (hb : ∀ x ∈ ds, x.1 = b)
    (hbytes : ds.flatMap Prod.snd = encodeFrame crcExtra m₁ ++ encodeFrame crcExtra m₂) :
    serveAll env ops crcExtra decode stack d ds =
      .ok (⟨.idle, handleCameraSetVideoStreamSettings d.srv st, d.calls + 2⟩,
        [.send b (streamInformation env (handleCameraSetVideoStreamSettings d.srv st)
          (newSelection st i s) ⟨st.resolutionH.toUInt32, st.resolutionV.toUInt32⟩
          ("?width=" ++ toString st.resolutionH.toNat ++ "&height=" ++
            toString st.resolutionV.toNat))]) ∧
      (handleCameraSetVideoStreamSettings d.srv st).streams[i]? = some (newSelection st i s) := by
  -- the parser hands over the two messages with the peer's address
  have hrecv : receiveAll crcExtra d.parse ds = (.idle, [(b, m₁), (b, m₂)]) := by
    rw [hidle]
    exact @receiveAll_one_peer crcExtra ds [m₁, m₂] b hb (by simpa using hbytes)
  -- the settings select the stream
  have h₁ : handleMavlinkMessage env ops d.srv (stack d.calls) b (.setVideoStreamSettings st) =
      .ok (handleCameraSetVideoStreamSettings d.srv st, []) := rfl
  have hsel : (handleCameraSetVideoStreamSettings d.srv st).streams[i]? =
      some (newSelection st i s) := by
    rw [handleCameraSetVideoStreamSettings, hpick, lastStreamWithId_of_unique hs huniq]
    simp [hs]
  -- the request reports the selection
  have h₂ := handleMavlinkMessage_request_selected env ops hsel h0
    (unique_of_ids (handleMavlinkMessage_ids env ops h₁) huniq) hH hV hadv (stack (d.calls + 1)) b
    (by rwa [passesFilter, (handleMavlinkMessage_sameConfig env ops h₁).systemId]) hcmd hp1 hp2
  refine ⟨?_, hsel⟩
  rw [serveAll_eq, hrecv]
  simp only [handlerCalls_cons, handlerCalls_nil, hd₁, hd₂, handleAll, h₁, h₂]
  rfl

/-- The selection of `640×480` for stream `1`, then the request for it, the request's frame cut
after its third byte into a second datagram. -/
theorem select_then_request_on_wire_split :
    let s1 : Stream := ⟨1, false, [⟨[⟨640, 480⟩, ⟨1280, 720⟩]⟩], none⟩
    let m₁ : RawMessage := ⟨0, 255, 190, 270, [], by decide, by decide⟩
    let m₂ : RawMessage := ⟨1, 255, 190, 76, [], by decide, by decide⟩
    let decode : RawMessage → MavlinkMessage := fun m =>
      if m.msgid = 270 then .setVideoStreamSettings ⟨1, 100, 1, 640, 480⟩
      else .commandLong ⟨1, 100, mavCmdRequestVideoStreamInformation, CFloat.one, CFloat.one⟩
    let srv := testServer [s1, ⟨2, false, [⟨[⟨320, 240⟩]⟩], none⟩] StdMap.empty
    let ds := [(gcsAddr, encodeFrame heartbeatCrcExtra m₁ ++ (encodeFrame heartbeatCrcExtra m₂).take 3),
      (gcsAddr, (encodeFrame heartbeatCrcExtra m₂).drop 3)]
    serveAll uriEnv stubOps heartbeatCrcExtra decode (fun _ => zeroUninit) ⟨.idle, srv, 0⟩ ds =
        .ok (⟨.idle, handleCameraSetVideoStreamSettings srv ⟨1, 100, 1, 640, 480⟩, 2⟩,
          [.send gcsAddr (streamInformation uriEnv
            (handleCameraSetVideoStreamSettings srv ⟨1, 100, 1, 640, 480⟩)
            (newSelection ⟨1, 100, 1, 640, 480⟩ 0 s1) ⟨640, 480⟩ "?width=640&height=480")]) ∧
      (handleCameraSetVideoStreamSettings srv ⟨1, 100, 1, 640, 480⟩).streams[0]? =
        some (newSelection ⟨1, 100, 1, 640, 480⟩ 0 s1) := by
  intro s1 m₁ m₂ decode srv ds
  have huniq : ∀ j t, srv.streams[j]? = some t → t.id = s1.id → j = 0 := fun j t ht hid => by
    rcases j with _ | _ | j
    · rfl
    · cases ht; exact absurd hid (by decide)
    · cases ht
  have hbytes : ds.flatMap Prod.snd =
      encodeFrame heartbeatCrcExtra m₁ ++ encodeFrame heartbeatCrcExtra m₂ := by
    simp only [ds, List.flatMap_cons, List.flatMap_nil, List.append_nil, List.append_assoc,
      List.take_append_drop]
  have hb : ∀ x ∈ ds, x.1 = gcsAddr := by simp [ds]
  have hd₁ : decode m₁ = .setVideoStreamSettings ⟨1, 100, 1, 640, 480⟩ := rfl
  have hd₂ : decode m₂ =
      .commandLong ⟨1, 100, mavCmdRequestVideoStreamInformation, CFloat.one, CFloat.one⟩ := rfl
  have h := select_then_request_on_wire uriEnv stubOps heartbeatCrcExtra decode (fun _ => zeroUninit)
    ⟨.idle, srv, 0⟩ rfl (i := 0) (s := s1) rfl (by decide) huniq hd₁ hd₂ rfl
    (by decide) (by decide) (by decide) (by decide) rfl (by decide) (by decide) hb hbytes
  exact h


/-! ## §5 — acknowledgements on the wire -/

theorem handlerCalls_flatMap (f : SockAddr → MavlinkMessage → List (Event Comp)) :
    ∀ (n : Nat) (ms : List (SockAddr × RawMessage)),
      (handlerCalls decode stack n ms).flatMap (fun c => f c.2.1 c.2.2) =
        ms.flatMap fun p => f p.1 (decode p.2)
  | _, [] => rfl
  | n, e :: ms => by
    simp only [handlerCalls_cons, List.flatMap_cons, handlerCalls_flatMap f (n + 1) ms]

/-- **Every request on the wire is acknowledged once, and nothing else is.** From streams in the
selection invariant, and with every send succeeding, any datagrams from any peers are served, and
the `COMMAND_ACK`s sent are, in order, exactly those owed to the messages the shared parser
completes, each to the source of the datagram that completed it. When one peer's frames reach an
idle parser, cut into datagrams anywhere, those are the peer's own messages. -/
theorem requests_acked_once_on_wire (d : Daemon Comp σ) (hok : StreamsOk d.srv.streams)
    (hsend : ∀ a p, env.udpWrite a p = true) (ds : List (SockAddr × List UInt8)) :
    ∃ d' evs, serveAll env ops crcExtra decode stack d ds = .ok (d', evs) ∧
      evs.filter Event.isCommandAck =
        (receiveAll crcExtra d.parse ds).2.flatMap (fun p => expectedAck d.srv p.1 (decode p.2)) ∧
      ∀ (b : SockAddr) (ms : List RawMessage), d.parse = .idle → (∀ x ∈ ds, x.1 = b) →
        ds.flatMap Prod.snd = ms.flatMap (encodeFrame crcExtra) →
        evs.filter Event.isCommandAck = ms.flatMap fun m => expectedAck d.srv b (decode m) := by
  obtain ⟨srv', evs, h, -⟩ := handleAll_ok env ops d.srv
    (handlerCalls decode stack d.calls (receiveAll crcExtra d.parse ds).2) hok
  have hacks : evs.filter Event.isCommandAck =
      (receiveAll crcExtra d.parse ds).2.flatMap (fun p => expectedAck d.srv p.1 (decode p.2)) := by
    rw [handleAll_acks hsend h, handlerCalls_flatMap]
  refine ⟨_, evs, by rw [serveAll_eq, h]; rfl, hacks, fun b ms hidle hb hbytes => ?_⟩
  rw [hacks, hidle, receiveAll_one_peer crcExtra hb hbytes, List.flatMap_map]

theorem requests_acked_once_on_wire_heartbeat :
    let s : Stream := ⟨1, false, [⟨[⟨1280, 720⟩]⟩], none⟩
    let d : Daemon Nat Unit := ⟨.idle, testServer [s] StdMap.empty, 0⟩
    let ds := [(gcsAddr, encodeFrame heartbeatCrcExtra gcsHeartbeat)]
    StreamsOk d.srv.streams ∧ (∀ a p, uriEnv.udpWrite a p = true) ∧ ∃ d' evs,
      serveAll uriEnv stubOps heartbeatCrcExtra (fun _ => .other 0 (by decide))
        (fun _ => zeroUninit) d ds = .ok (d', evs) ∧
      evs.filter Event.isCommandAck = (receiveAll heartbeatCrcExtra d.parse ds).2.flatMap
        (fun p => expectedAck d.srv p.1 ((fun _ => .other 0 (by decide) : RawMessage → MavlinkMessage) p.2)) ∧
      ∀ (b : SockAddr) (ms : List RawMessage), d.parse = .idle → (∀ x ∈ ds, x.1 = b) →
        ds.flatMap Prod.snd = ms.flatMap (encodeFrame heartbeatCrcExtra) →
        evs.filter Event.isCommandAck = ms.flatMap fun m =>
          expectedAck d.srv b ((fun _ => .other 0 (by decide) : RawMessage → MavlinkMessage) m) :=
  have hok : StreamsOk [⟨1, false, [⟨[⟨1280, 720⟩]⟩], none⟩] := streamsOk_of_unselected (by decide)
  have hsend : ∀ a p, uriEnv.udpWrite a p = true := fun _ _ => rfl
  ⟨hok, hsend, requests_acked_once_on_wire uriEnv stubOps heartbeatCrcExtra
    (fun _ => .other 0 (by decide)) (fun _ => zeroUninit) ⟨.idle, testServer _ StdMap.empty, 0⟩
    hok hsend [(gcsAddr, encodeFrame heartbeatCrcExtra gcsHeartbeat)]⟩

end CameraStreamingDaemon
