import CameraStreamingDaemon.StreamRequest

/-!
# CameraStreamingDaemon.Dispatch — what `_handle_mavlink_message` does over every run.

§1 gives each handler its spec lemma. §2 inverts one dispatch step: a message leaves the
streams alone unless it is a `SET_VIDEO_STREAM_SETTINGS`, which rewrites the selection of one
stream, the last one with its `camera_id` (`handleMavlinkMessage_streams`). §3 carries the
selection invariant `StreamsOk` over runs: every step keeps it, and with it no
`REQUEST_VIDEO_STREAM_INFORMATION` dereferences a bad pointer, so a whole run of messages of
any kinds never faults (`selections_stay_in_own_stream`). §4 is the acknowledgement of the
three request commands (`request_command_acked_once`), and §5 the target filter, which only
`COMMAND_LONG` passes through. §6 is the frame of a step and of a run: the registry and the
configuration stay, and every event goes to the source of the message that caused it
(`handleAll_frame`). §7 counts acknowledgements over a run: exactly the `COMMAND_ACK`s the
request commands are owed, in order, and none for any other message (`handleAll_acks`).
-/

namespace CameraStreamingDaemon

variable {Comp σ : Type} (env : Env) (ops : CameraComponentOps Comp σ)

/-! ## §1 — handler spec lemmas -/

/-- A fold that remembers the last element passing `p` ends on the seed or on such an element. -/
theorem foldl_last_mem {α β : Type} {p : α → Prop} [DecidablePred p] {g : α → β}
    {init : Option β} {r : β} :
    ∀ {l : List α}, l.foldl (fun acc e => if p e then some (g e) else acc) init = some r →
      init = some r ∨ ∃ e ∈ l, p e ∧ g e = r
  | [], h => .inl h
  | e :: l, h => by
    rw [List.foldl_cons] at h
    rcases foldl_last_mem h with h | ⟨e', he', hp, rfl⟩
    · by_cases hp : p e
      · simp only [hp, if_true, Option.some.injEq] at h
        exact .inr ⟨e, List.mem_cons_self _ _, hp, h⟩
      · simp only [hp] at h
        exact .inl h
    · exact .inr ⟨e', List.mem_cons_of_mem _ he', hp, rfl⟩

/-- The stream `_handle_camera_set_video_stream_settings` picks has the requested id. -/
theorem lastStreamWithId_spec {cameraId : UInt8} {streams : List Stream} {i : Nat}
    (h : lastStreamWithId cameraId streams = some i) :
    ∃ s, streams[i]? = some s ∧ s.id = cameraId := by
  rcases foldl_last_mem h with h | ⟨⟨j, s⟩, hm, hp, rfl⟩
  · cases h
  · exact ⟨s, List.mem_enum_iff_getElem?.mp hm, hp⟩

/-- `_handle_camera_set_video_stream_settings` rewrites the selection of one stream, the last
one with the requested id, and nothing else; or, with no such stream, changes nothing. -/
theorem handleCameraSetVideoStreamSettings_streams (srv : MavlinkServer Comp σ)
    (settings : SetVideoStreamSettings) :
    (handleCameraSetVideoStreamSettings srv settings).streams = srv.streams ∨
      ∃ i s, srv.streams[i]? = some s ∧ s.id = settings.cameraId ∧
        (handleCameraSetVideoStreamSettings srv settings).streams =
          srv.streams.modify (fun t => { t with
            selFrameSize := (newSelection settings i s).selFrameSize }) i := by
  unfold handleCameraSetVideoStreamSettings
  split
  · exact .inl rfl
  · next i hi =>
    obtain ⟨s, hs, hid⟩ := lastStreamWithId_spec hi
    refine .inr ⟨i, s, hs, hid, List.ext_getElem? fun j => ?_⟩
    simp only [List.getElem?_modify]
    by_cases hj : i = j
    · subst hj; simp [hs, newSelection]
    · simp [hj]

theorem handleParamExtSet_streams (srv : MavlinkServer Comp σ) (u : Uninit) (addr : SockAddr)
    (req : ParamExtSet) : (handleParamExtSet ops srv u addr req).1.streams = srv.streams := by
  unfold handleParamExtSet; split <;> rfl

/-! ## §2 — one dispatch step -/

/-- The branches of a `COMMAND_LONG`: dropped or unknown (no event), one of the three request
handlers, or the video-stream request; none of them changes the state. -/
theorem handleMavlinkMessage_commandLong_eq (srv : MavlinkServer Comp σ) (u : Uninit)
    (addr : SockAddr) (cmd : CommandLong) :
    (∃ evs, (evs = [] ∨ ∃ reply, evs = handleRequest env srv addr cmd reply) ∧
      handleMavlinkMessage env ops srv u addr (.commandLong cmd) = .ok (srv, evs)) ∨
    handleMavlinkMessage env ops srv u addr (.commandLong cmd) =
      (handleCameraVideoStreamRequest env srv addr cmd.param1.toUInt32
        cmd.param2.toUInt32).map (srv, ·) := by
  simp only [handleMavlinkMessage]
  split
  · exact .inl ⟨[], .inl rfl, rfl⟩       -- filtered out
  split
  · exact .inl ⟨_, .inr ⟨_, rfl⟩, rfl⟩  -- `REQUEST_CAMERA_INFORMATION`
  split
  · exact .inr rfl                       -- `REQUEST_VIDEO_STREAM_INFORMATION`
  split
  · exact .inl ⟨_, .inr ⟨_, rfl⟩, rfl⟩  -- `REQUEST_CAMERA_SETTINGS`
  split
  · exact .inl ⟨_, .inr ⟨_, rfl⟩, rfl⟩  -- `REQUEST_STORAGE_INFORMATION`
  · exact .inl ⟨[], .inl rfl, rfl⟩       -- another command

/-- What a `COMMAND_LONG` step can do: nothing, one of the three request handlers, or the
video-stream request; the state stays as it was. -/
theorem handleMavlinkMessage_commandLong {srv srv' : MavlinkServer Comp σ} {u : Uninit}
    {addr : SockAddr} {cmd : CommandLong} {evs : List (Event Comp)}
    (h : handleMavlinkMessage env ops srv u addr (.commandLong cmd) = .ok (srv', evs)) :
    srv' = srv ∧ (evs = [] ∨ (∃ reply, evs = handleRequest env srv addr cmd reply) ∨
      handleCameraVideoStreamRequest env srv addr cmd.param1.toUInt32 cmd.param2.toUInt32 =
        .ok evs) := by
  rcases handleMavlinkMessage_commandLong_eq env ops srv u addr cmd with ⟨evs', hevs, h'⟩ | h' <;>
    rw [h'] at h
  · cases h
    exact ⟨rfl, hevs.imp_right .inl⟩
  · obtain ⟨evs', hv, he⟩ := map_eq_ok h
    cases he
    exact ⟨rfl, .inr (.inr hv)⟩

/-- **One dispatch step.** Only a `SET_VIDEO_STREAM_SETTINGS` and a `PARAM_EXT_SET` change the
state: the first through `_handle_camera_set_video_stream_settings`, the second through the
component's `setParam`. -/
theorem handleMavlinkMessage_cases {srv srv' : MavlinkServer Comp σ} {u : Uninit}
    {addr : SockAddr} {m : MavlinkMessage} {evs : List (Event Comp)}
    (h : handleMavlinkMessage env ops srv u addr m = .ok (srv', evs)) :
    (∃ st, m = .setVideoStreamSettings st ∧ srv' = handleCameraSetVideoStreamSettings srv st) ∨
    (∃ req, m = .paramExtSet req ∧ srv' = (handleParamExtSet ops srv u addr req).1) ∨
    srv' = srv := by
  cases m with
  | commandLong cmd => exact .inr (.inr (handleMavlinkMessage_commandLong env ops h).1)
  | setVideoStreamSettings st => cases h; exact .inl ⟨st, rfl, rfl⟩
  | paramExtSet req =>
    simp only [handleMavlinkMessage] at h
    exact .inr (.inl ⟨req, rfl, (congrArg Prod.fst (Except.ok.inj h)).symm⟩)
  | _ => cases h; exact .inr (.inr rfl)

/-- Only a `SET_VIDEO_STREAM_SETTINGS` changes the streams, and only the selection of the one
stream it picks, whose id is its `camera_id`. -/
theorem handleMavlinkMessage_streams {srv srv' : MavlinkServer Comp σ} {u : Uninit}
    {addr : SockAddr} {m : MavlinkMessage} {evs : List (Event Comp)}
    (h : handleMavlinkMessage env ops srv u addr m = .ok (srv', evs)) :
    srv'.streams = srv.streams ∨
      ∃ st i s, m = .setVideoStreamSettings st ∧ srv.streams[i]? = some s ∧
        s.id = st.cameraId ∧ srv'.streams = srv.streams.modify (fun t => { t with
          selFrameSize := (newSelection st i s).selFrameSize }) i := by
  rcases handleMavlinkMessage_cases env ops h with ⟨st, rfl, rfl⟩ | ⟨req, rfl, rfl⟩ | rfl
  · rcases handleCameraSetVideoStreamSettings_streams srv st with h | ⟨i, s, hs, hid, h⟩
    · exact .inl h
    · exact .inr ⟨st, i, s, rfl, hs, hid, h⟩
  · exact .inl (handleParamExtSet_streams ops srv u addr req)
  · exact .inl rfl

/-! ## §3 — runs: the selection invariant -/

/-- **Every dispatch step keeps the invariant.** -/
theorem handleMavlinkMessage_streamsOk {srv srv' : MavlinkServer Comp σ} {u : Uninit}
    {addr : SockAddr} {m : MavlinkMessage} {evs : List (Event Comp)} (hok : StreamsOk srv.streams)
    (h : handleMavlinkMessage env ops srv u addr m = .ok (srv', evs)) : StreamsOk srv'.streams := by
  rcases handleMavlinkMessage_streams env ops h with h | ⟨st, i, s, -, hs, -, h⟩ <;> rw [h]
  · exact hok
  · exact streamsOk_modify hok hs (newSelection_valid st i s)

/-- Under the invariant no message faults: only the stream request dereferences, and it finds its
pointers valid. -/
theorem handleMavlinkMessage_ok {srv : MavlinkServer Comp σ} (u : Uninit) (addr : SockAddr)
    (m : MavlinkMessage) (hok : StreamsOk srv.streams) :
    ∃ r, handleMavlinkMessage env ops srv u addr m = .ok r := by
  cases m with
  | commandLong cmd =>
    rcases handleMavlinkMessage_commandLong_eq env ops srv u addr cmd with ⟨_, -, h⟩ | h <;>
      rw [h]
    · exact ⟨_, rfl⟩
    · exact exists_ok_map (handleCameraVideoStreamRequest_ok env addr _ _ hok)
  | _ => exact ⟨_, rfl⟩

/-- A run of `_handle_mavlink_message` over inbound messages, each with the stack contents it
meets and its sender's address; the events of the steps in order, and the first fault ends the
run. -/
def handleAll (srv : MavlinkServer Comp σ) :
    List (Uninit × SockAddr × MavlinkMessage) → Except Fault (MavlinkServer Comp σ × List (Event Comp))
  | [] => .ok (srv, [])
  | (u, addr, m) :: ms =>
    match handleMavlinkMessage env ops srv u addr m with
    | .error e => .error e
    | .ok (srv', evs) => (handleAll srv' ms).map fun (srv'', evs') => (srv'', evs ++ evs')

/-- **Every run keeps the invariant**, and so never faults. -/
theorem handleAll_ok :
    ∀ (srv : MavlinkServer Comp σ) (ms : List (Uninit × SockAddr × MavlinkMessage)),
      StreamsOk srv.streams →
        ∃ srv' evs, handleAll env ops srv ms = .ok (srv', evs) ∧ StreamsOk srv'.streams
  | srv, [], hok => ⟨srv, [], rfl, hok⟩
  | srv, (u, addr, m) :: ms, hok => by
    obtain ⟨⟨srv₁, evs₁⟩, h₁⟩ := handleMavlinkMessage_ok env ops u addr m hok
    obtain ⟨srv₂, evs₂, h₂, hok₂⟩ :=
      handleAll_ok srv₁ ms (handleMavlinkMessage_streamsOk env ops hok h₁)
    exact ⟨srv₂, evs₁ ++ evs₂, by simp only [handleAll, h₁, h₂]; rfl, hok₂⟩

/-- **Selections stay in their own stream.** From streams that advertise sizes and hold valid
selections, every run of messages of any kinds succeeds, with no dereference of a bad frame-size
pointer, and ends in a state where each selection is null or targets a size of its own stream;
from there the next message also succeeds, and changes the streams only if it is a
`SET_VIDEO_STREAM_SETTINGS`, then only the selection of one stream, whose id is its `camera_id`. -/
theorem selections_stay_in_own_stream (srv : MavlinkServer Comp σ) (hok : StreamsOk srv.streams)
    (ms : List (Uninit × SockAddr × MavlinkMessage)) :
    ∃ srv₁ evs₁, handleAll env ops srv ms = .ok (srv₁, evs₁) ∧ StreamsOk srv₁.streams ∧
      ∀ u addr m, ∃ srv₂ evs₂, handleMavlinkMessage env ops srv₁ u addr m = .ok (srv₂, evs₂) ∧
        (srv₂.streams = srv₁.streams ∨
          ∃ st i s, m = .setVideoStreamSettings st ∧ srv₁.streams[i]? = some s ∧
            s.id = st.cameraId ∧ srv₂.streams = srv₁.streams.modify (fun t => { t with
              selFrameSize := (newSelection st i s).selFrameSize }) i) := by
  obtain ⟨srv₁, evs₁, h₁, hok₁⟩ := handleAll_ok env ops srv ms hok
  refine ⟨srv₁, evs₁, h₁, hok₁, fun u addr m => ?_⟩
  obtain ⟨⟨srv₂, evs₂⟩, h₂⟩ := handleMavlinkMessage_ok env ops u addr m hok₁
  exact ⟨srv₂, evs₂, h₂, handleMavlinkMessage_streams env ops h₂⟩

theorem selections_stay_in_own_stream_unselected :
    let s : Stream := ⟨1, false, [⟨[⟨1024, 768⟩, ⟨1280, 720⟩]⟩], none⟩
    StreamsOk [s] ∧ ∃ srv₁ evs₁,
      handleAll uriEnv stubOps (testServer [s] StdMap.empty)
        [(zeroUninit, gcsAddr, .setVideoStreamSettings ⟨2, 0, 1, 1280, 1024⟩)] = .ok (srv₁, evs₁) ∧
      StreamsOk srv₁.streams :=
  have hok : StreamsOk [⟨1, false, [⟨[⟨1024, 768⟩, ⟨1280, 720⟩]⟩], none⟩] :=
    streamsOk_of_unselected (by decide)
  ⟨hok, (selections_stay_in_own_stream uriEnv stubOps _ hok _).imp
    fun _ => Exists.imp fun _ ⟨h, hok₁, _⟩ => ⟨h, hok₁⟩⟩

/-! ## §4 — acknowledging the three request commands -/

/-- **One acknowledgement per request.** With every send succeeding and a reply that is not itself
an ack, the shared shape of the three request handlers sends exactly one `COMMAND_ACK`: to the
sender, for the command, and accepted unless `param1` is one and no component is bound at the
target. -/
theorem handleRequest_acks (srv : MavlinkServer Comp σ) (addr : SockAddr) (cmd : CommandLong)
    {reply : Comp → MavlinkPayload} (hsend : ∀ a p, env.udpWrite a p = true)
    (hreply : ∀ c, (reply c).isCommandAck = false) :
    (handleRequest env srv addr cmd reply).filter Event.isCommandAck =
      sendAck srv addr cmd.command cmd.targetComponent.toNat (!cmd.param1.eqOne ||
        (getCameraComponent srv.compIdToObj cmd.targetComponent.toNat).isSome) := by
  unfold handleRequest
  cases hp : cmd.param1.eqOne
  · rfl
  · cases hc : getCameraComponent srv.compIdToObj cmd.targetComponent.toNat <;>
      simp [hsend, sendAck, List.filter_cons, hreply]

/-- The three request commands, as `_handle_mavlink_message` tells them apart. -/
def IsRequestCommand (command : UInt16) : Prop :=
  command = mavCmdRequestCameraInformation ∨ command = mavCmdRequestCameraSettings ∨
    command = mavCmdRequestStorageInformation

instance (command : UInt16) : Decidable (IsRequestCommand command) :=
  inferInstanceAs (Decidable (_ ∨ _))

/-- **Each request command is acknowledged once.** A `REQUEST_CAMERA_INFORMATION`,
`REQUEST_CAMERA_SETTINGS` or `REQUEST_STORAGE_INFORMATION` that passes the target filter, with
every send succeeding, leaves the state alone and sends exactly one `COMMAND_ACK`, to the sender
and for that command. It is accepted exactly when `param1` is not one or a camera component is
bound at `target_component`: with `param1 != 1` the handlers ack success without a lookup. -/
theorem request_command_acked_once (srv : MavlinkServer Comp σ) (u : Uninit) (addr : SockAddr)
    (cmd : CommandLong) (hsend : ∀ a p, env.udpWrite a p = true)
    (hcmd : IsRequestCommand cmd.command) (hf : passesFilter srv cmd) :
    ∃ evs, handleMavlinkMessage env ops srv u addr (.commandLong cmd) = .ok (srv, evs) ∧
      evs.filter Event.isCommandAck = [.send addr ⟨srv.systemId, cmd.targetComponent.toNat,
        .commandAck cmd.command (if !cmd.param1.eqOne ||
          (getCameraComponent srv.compIdToObj cmd.targetComponent.toNat).isSome
          then .accepted else .failed) 255⟩] := by
  rcases hcmd with h | h | h <;>
    exact ⟨_, by simp only [handleMavlinkMessage, h, hf]; rfl,
      handleRequest_acks env srv addr cmd hsend (by intro; rfl)⟩

theorem request_command_acked_once_bound :
    let srv := testServer [] (StdMap.empty.insert 100 (some 7))
    let cmd : CommandLong := ⟨1, 100, mavCmdRequestCameraInformation, CFloat.one, CFloat.zero⟩
    IsRequestCommand cmd.command ∧ passesFilter srv cmd ∧
      ∃ evs, handleMavlinkMessage uriEnv stubOps srv zeroUninit gcsAddr (.commandLong cmd) =
        .ok (srv, evs) ∧
        evs.filter Event.isCommandAck = [.send gcsAddr ⟨1, 100, .commandAck 521 .accepted 255⟩] :=
  ⟨by decide, by decide, request_command_acked_once uriEnv stubOps _ zeroUninit gcsAddr _
    (fun _ _ => rfl) (by decide) (by decide)⟩

/-- A `REQUEST_CAMERA_INFORMATION` with `param1 = 0` to component `100` of a server with no
component bound passes the filter and is acknowledged as accepted. -/
theorem request_acked_accepted_without_component :
    let srv := testServer [] StdMap.empty
    let cmd : CommandLong := ⟨1, 100, mavCmdRequestCameraInformation, CFloat.zero, CFloat.zero⟩
    passesFilter srv cmd ∧ getCameraComponent srv.compIdToObj 100 = none ∧
      handleMavlinkMessage uriEnv stubOps srv zeroUninit gcsAddr (.commandLong cmd) =
        .ok (srv, [.send gcsAddr ⟨1, 100, .commandAck 521 .accepted 255⟩]) :=
  ⟨by decide, rfl, rfl⟩

/-! ## §5 — the target filter -/

/-- The dispatcher's only addressing check: a `COMMAND_LONG` that fails the filter is dropped,
with no send and no change. -/
theorem handleMavlinkMessage_filtered (srv : MavlinkServer Comp σ) (u : Uninit) (addr : SockAddr)
    {cmd : CommandLong} (hf : ¬ passesFilter srv cmd) :
    handleMavlinkMessage env ops srv u addr (.commandLong cmd) = .ok (srv, []) := by
  simp only [handleMavlinkMessage, if_pos hf]

/-- The failing input of the addressing law: on a server of system `1` whose stream `1`
advertises `640×480` and whose component `7` is bound at `100`, a `SET_VIDEO_STREAM_SETTINGS` for
system `2` selects a frame size for stream `1`, and a `PARAM_EXT_SET` for system `2` calls
component `7`'s `setParam` and sends an ack. -/
theorem messages_for_other_system_handled :
    let srv : MavlinkServer Nat Unit :=
      testServer [⟨1, false, [⟨[⟨640, 480⟩]⟩], none⟩] (StdMap.empty.insert 100 (some 7))
    let settings : SetVideoStreamSettings := ⟨2, 100, 1, 640, 480⟩
    let req : ParamExtSet := ⟨2, 100, strncpy 16 (cStr "brightness"), strncpy 128 (cStr "64"), 1⟩
    (handleMavlinkMessage uriEnv stubOps srv zeroUninit gcsAddr
        (.setVideoStreamSettings settings)).map (fun r => (r.1.streams.map Stream.selFrameSize, r.2)) =
      .ok ([some ⟨0, 0, 0⟩], []) ∧
    (handleMavlinkMessage uriEnv stubOps srv zeroUninit gcsAddr (.paramExtSet req)).map Prod.snd =
      .ok [.setParam 7 req.paramId req.paramValue 1, .send gcsAddr ⟨1, 100, .paramExtAck
        ⟨strncpy 16 req.paramId.bytes, strncpy 128 req.paramValue.bytes, 1, .accepted⟩⟩] :=
  ⟨rfl, rfl⟩

/-! ## §6 — what no step changes: the reply address and the configuration -/

section Frame

theorem sendAck_sentTo (srv : MavlinkServer Comp σ) (addr : SockAddr) (cmd : UInt16)
    (compId : Int) (success : Bool) : ∀ e ∈ sendAck srv addr cmd compId success, e.SentTo addr := by
  simp [sendAck, Event.SentTo]

theorem handleRequest_sentTo (srv : MavlinkServer Comp σ) (addr : SockAddr) (cmd : CommandLong)
    (reply : Comp → MavlinkPayload) :
    ∀ e ∈ handleRequest env srv addr cmd reply, e.SentTo addr := by
  unfold handleRequest
  split_ifs
  · exact sendAck_sentTo srv addr _ _ _
  · split
    · exact sendAck_sentTo srv addr _ _ _
    · dsimp only
      split_ifs
      · simpa [Event.SentTo] using sendAck_sentTo srv addr _ _ _
      · simp [Event.SentTo]

/-- Every event of one dispatch step is addressed to the datagram's source. -/
theorem handleMavlinkMessage_sentTo {srv srv' : MavlinkServer Comp σ} {u : Uninit}
    {addr : SockAddr} {m : MavlinkMessage} {evs : List (Event Comp)}
    (h : handleMavlinkMessage env ops srv u addr m = .ok (srv', evs)) :
    ∀ e ∈ evs, e.SentTo addr := by
  cases m with
  | commandLong cmd =>
    obtain ⟨-, rfl | ⟨reply, rfl⟩ | hv⟩ := handleMavlinkMessage_commandLong env ops h
    · simp
    · exact handleRequest_sentTo env srv addr cmd reply
    · intro e he
      obtain ⟨_, _, _, _, _, _, _, rfl⟩ := handleCameraVideoStreamRequest_sends env hv e he
      rfl
  | setVideoStreamSettings st => cases h; simp
  | paramExtRequestRead req =>
    cases h
    unfold handleParamExtRequestRead
    split <;> simp [Event.SentTo]
  | paramExtRequestList req =>
    cases h
    unfold handleParamExtRequestList
    split
    · simp
    · intro e he
      obtain ⟨_, _, rfl⟩ := List.mem_map.mp he
      rfl
  | paramExtSet req =>
    simp only [handleMavlinkMessage] at h
    obtain rfl := (congrArg Prod.snd (Except.ok.inj h)).symm
    unfold handleParamExtSet
    split <;> simp [Event.SentTo]
  | other => cases h; simp

/-- **Every reply goes back to the sender.** Each send a message causes, whatever its kind and
whatever the state, is addressed to the datagram's source. -/
theorem replies_go_to_sender {srv srv' : MavlinkServer Comp σ} {u : Uninit} {addr : SockAddr}
    {m : MavlinkMessage} {evs : List (Event Comp)}
    (h : handleMavlinkMessage env ops srv u addr m = .ok (srv', evs)) :
    ∀ e ∈ evs, e.SentTo addr :=
  handleMavlinkMessage_sentTo env ops h

theorem replies_go_to_sender_param_set :
    let srv : MavlinkServer Nat Unit := testServer [] (StdMap.empty.insert 100 (some 7))
    let req : ParamExtSet := ⟨1, 100, strncpy 16 (cStr "brightness"), strncpy 128 (cStr "64"), 1⟩
    let evs : List (Event Nat) := [.setParam 7 req.paramId req.paramValue 1, .send gcsAddr
      ⟨1, 100, .paramExtAck ⟨strncpy 16 req.paramId.bytes, strncpy 128 req.paramValue.bytes, 1,
        .accepted⟩⟩]
    handleMavlinkMessage uriEnv stubOps srv zeroUninit gcsAddr (.paramExtSet req) = .ok (srv, evs) ∧
      ∀ e ∈ evs, e.SentTo gcsAddr := by
  intro srv req evs
  have h : handleMavlinkMessage uriEnv stubOps srv zeroUninit gcsAddr (.paramExtSet req) =
      .ok (srv, evs) := rfl
  exact ⟨h, replies_go_to_sender uriEnv stubOps h⟩

/-- What no message changes: the registry, the ids and the addresses the server was
configured with. -/
structure SameConfig (srv srv' : MavlinkServer Comp σ) : Prop where
  compIdToObj : srv'.compIdToObj = srv.compIdToObj
  systemId : srv'.systemId = srv.systemId
  compId : srv'.compId = srv.compId
  broadcastAddr : srv'.broadcastAddr = srv.broadcastAddr
  rtspServerAddr : srv'.rtspServerAddr = srv.rtspServerAddr

theorem SameConfig.refl (srv : MavlinkServer Comp σ) : SameConfig srv srv :=
  ⟨rfl, rfl, rfl, rfl, rfl⟩

theorem SameConfig.trans {a b c : MavlinkServer Comp σ} (h₁ : SameConfig a b)
    (h₂ : SameConfig b c) : SameConfig a c :=
  ⟨h₂.compIdToObj.trans h₁.compIdToObj, h₂.systemId.trans h₁.systemId,
    h₂.compId.trans h₁.compId, h₂.broadcastAddr.trans h₁.broadcastAddr,
    h₂.rtspServerAddr.trans h₁.rtspServerAddr⟩

theorem handleMavlinkMessage_sameConfig {srv srv' : MavlinkServer Comp σ} {u : Uninit}
    {addr : SockAddr} {m : MavlinkMessage} {evs : List (Event Comp)}
    (h : handleMavlinkMessage env ops srv u addr m = .ok (srv', evs)) : SameConfig srv srv' := by
  rcases handleMavlinkMessage_cases env ops h with ⟨st, -, rfl⟩ | ⟨req, -, rfl⟩ | rfl
  · unfold handleCameraSetVideoStreamSettings
    split <;> exact ⟨rfl, rfl, rfl, rfl, rfl⟩
  · unfold handleParamExtSet
    split <;> exact ⟨rfl, rfl, rfl, rfl, rfl⟩
  · exact SameConfig.refl _

/-- What a run changes and where it sends: the configuration stays, and every event goes to the
source of one of the run's messages. -/
theorem handleAll_frame :
    ∀ {srv srv' : MavlinkServer Comp σ} {ms : List (Uninit × SockAddr × MavlinkMessage)}
      {evs : List (Event Comp)}, handleAll env ops srv ms = .ok (srv', evs) →
        SameConfig srv srv' ∧ ∀ e ∈ evs, ∃ c ∈ ms, e.SentTo c.2.1
  | srv, _, [], _, h => by cases h; exact ⟨SameConfig.refl srv, fun _ he => absurd he (List.not_mem_nil _)⟩
  | srv, srv', (u, addr, m) :: ms, evs, h => by
    simp only [handleAll] at h
    split at h
    · cases h
    · next srv₁ evs₁ h₁ =>
      obtain ⟨⟨srv₂, evs₂⟩, h₂, he⟩ := map_eq_ok h
      cases he
      obtain ⟨hcfg, hsent⟩ := handleAll_frame h₂
      refine ⟨(handleMavlinkMessage_sameConfig env ops h₁).trans hcfg, fun e he => ?_⟩
      rcases List.mem_append.mp he with he | he
      · exact ⟨(u, addr, m), List.mem_cons_self _ _, handleMavlinkMessage_sentTo env ops h₁ e he⟩
      · obtain ⟨c, hc, hs⟩ := hsent e he
        exact ⟨c, List.mem_cons_of_mem _ hc, hs⟩

/-- **The configuration is constant.** Over every run of messages, `_handle_mavlink_message`
changes neither the registry nor the system id, component id, broadcast address or RTSP server
address: those change only through the lifecycle calls. -/
theorem config_constant_over_runs :
    ∀ {srv srv' : MavlinkServer Comp σ} {ms : List (Uninit × SockAddr × MavlinkMessage)}
      {evs : List (Event Comp)}, handleAll env ops srv ms = .ok (srv', evs) → SameConfig srv srv' :=
  fun h => (handleAll_frame env ops h).1

theorem config_constant_over_runs_settings :
    let srv := testServer [⟨1, false, [⟨[⟨640, 480⟩]⟩], none⟩] (StdMap.empty.insert 100 (some 7))
    SameConfig srv (handleCameraSetVideoStreamSettings srv ⟨2, 100, 1, 640, 480⟩) :=
  @config_constant_over_runs Nat Unit uriEnv stubOps _ _
    [(zeroUninit, gcsAddr, .setVideoStreamSettings ⟨2, 100, 1, 640, 480⟩)] [] rfl

end Frame


/-! ## §7 — acknowledgements over whole runs -/

section Acks

variable {env ops}

/-- The `COMMAND_ACK`s the dispatcher owes a message from `addr`: the one of `handleRequest` for
a `COMMAND_LONG` that passes the target filter with one of the three request commands, accepted
unless it asks for the reply (`param1 = 1`) of an unbound component; none for anything else. -/
def expectedAck (srv : MavlinkServer Comp σ) (addr : SockAddr) : MavlinkMessage → List (Event Comp)
  | .commandLong cmd =>
    if passesFilter srv cmd ∧ IsRequestCommand cmd.command then
      sendAck srv addr cmd.command cmd.targetComponent.toNat (!cmd.param1.eqOne ||
        (getCameraComponent srv.compIdToObj cmd.targetComponent.toNat).isSome)
    else []
  | _ => []

theorem expectedAck_congr {srv srv' : MavlinkServer Comp σ} (h : SameConfig srv srv')
    (addr : SockAddr) (m : MavlinkMessage) : expectedAck srv' addr m = expectedAck srv addr m := by
  cases m <;> simp [expectedAck, passesFilter, sendAck, h.systemId, h.compIdToObj]

theorem handleParamExtRequestRead_acks (srv : MavlinkServer Comp σ) (u : Uninit) (addr : SockAddr)
    (req : ParamExtRequestRead) :
    (handleParamExtRequestRead ops srv u addr req).filter Event.isCommandAck = [] := by
  unfold handleParamExtRequestRead
  split
  · rfl
  · dsimp only
    split_ifs <;> rfl

theorem handleParamExtRequestList_acks (srv : MavlinkServer Comp σ) (addr : SockAddr)
    (req : ParamExtRequestList) :
    (handleParamExtRequestList ops srv addr req).filter Event.isCommandAck = [] := by
  unfold handleParamExtRequestList
  split
  · rfl
  · rw [List.filter_eq_nil_iff]
    rintro _ he
    obtain ⟨⟨_, _, _⟩, -, rfl⟩ := List.mem_map.mp he
    exact Bool.false_ne_true

theorem handleParamExtSet_acks (srv : MavlinkServer Comp σ) (u : Uninit) (addr : SockAddr)
    (req : ParamExtSet) : (handleParamExtSet ops srv u addr req).2.filter Event.isCommandAck = [] := by
  unfold handleParamExtSet
  split <;> rfl

theorem handleCameraVideoStreamRequest_acks {srv : MavlinkServer Comp σ} {addr : SockAddr}
    {cameraId action : UInt32} {evs : List (Event Comp)}
    (h : handleCameraVideoStreamRequest env srv addr cameraId action = .ok evs) :
    evs.filter Event.isCommandAck = [] :=
  List.filter_eq_nil_iff.mpr fun e he => by
    obtain ⟨i, s, -, -, fs, q, -, rfl⟩ := handleCameraVideoStreamRequest_sends env h e he
    exact Bool.false_ne_true

/-- **One step acknowledges what it owes.** With every send succeeding, the `COMMAND_ACK`s of
one dispatch step are exactly those `expectedAck` owes its message. -/
theorem handleMavlinkMessage_acks {srv srv' : MavlinkServer Comp σ} {u : Uninit} {addr : SockAddr}
    {m : MavlinkMessage} {evs : List (Event Comp)} (hsend : ∀ a p, env.udpWrite a p = true)
    (h : handleMavlinkMessage env ops srv u addr m = .ok (srv', evs)) :
    evs.filter Event.isCommandAck = expectedAck srv addr m := by
  cases m with
  | commandLong cmd =>
    have hreq (reply : Comp → MavlinkPayload) (hr : ∀ c, (reply c).isCommandAck = false)
        (hf : passesFilter srv cmd) (hc : IsRequestCommand cmd.command) :
        (handleRequest env srv addr cmd reply).filter Event.isCommandAck =
          expectedAck srv addr (.commandLong cmd) := by
      rw [handleRequest_acks env srv addr cmd hsend hr, expectedAck, if_pos ⟨hf, hc⟩]
    have hnone (hc : ¬ IsRequestCommand cmd.command) : expectedAck srv addr (.commandLong cmd) = [] :=
      if_neg fun h => hc h.2
    simp only [handleMavlinkMessage] at h
    split_ifs at h with hf h₁ h₂ h₃ h₄ <;> try (cases h)
    · exact hreq _ (fun _ => rfl) hf (.inl h₁)                    -- `REQUEST_CAMERA_INFORMATION`
    · obtain ⟨evs', h', he⟩ := map_eq_ok h                        -- `REQUEST_VIDEO_STREAM_INFORMATION`
      cases he
      rw [handleCameraVideoStreamRequest_acks h', hnone (by rw [IsRequestCommand, h₂]; decide)]
    · exact hreq _ (fun _ => rfl) hf (.inr (.inl h₃))             -- `REQUEST_CAMERA_SETTINGS`
    · exact hreq _ (fun _ => rfl) hf (.inr (.inr h₄))             -- `REQUEST_STORAGE_INFORMATION`
    · exact (hnone fun hc => by rcases hc with hc | hc | hc <;> contradiction).symm  -- another command
    · exact (if_neg fun h => hf h.1).symm                         -- filtered out
  | setVideoStreamSettings st => cases h; rfl
  | paramExtRequestRead req => cases h; exact handleParamExtRequestRead_acks srv u addr req
  | paramExtRequestList req => cases h; exact handleParamExtRequestList_acks srv addr req
  | paramExtSet req =>
    have hevs := congrArg Prod.snd (Except.ok.inj h)
    subst hevs
    exact handleParamExtSet_acks srv u addr req
  | other _ _ => cases h; rfl

/-- **No acknowledgement is lost or duplicated over a run.** With every send succeeding, the
`COMMAND_ACK`s of a whole run are, in order, exactly those its messages are owed: one per request
command that passes the filter, to its sender, and none for anything else. -/
theorem handleAll_acks (hsend : ∀ a p, env.udpWrite a p = true) :
    ∀ {srv srv' : MavlinkServer Comp σ} {ms : List (Uninit × SockAddr × MavlinkMessage)}
      {evs : List (Event Comp)}, handleAll env ops srv ms = .ok (srv', evs) →
        evs.filter Event.isCommandAck = ms.flatMap fun c => expectedAck srv c.2.1 c.2.2
  | srv, _, [], _, h => by cases h; rfl
  | srv, srv', (u, addr, m) :: ms, evs, h => by
    simp only [handleAll] at h
    split at h
    · cases h
    · next srv₁ evs₁ h₁ =>
      obtain ⟨⟨srv₂, evs₂⟩, h₂, he⟩ := map_eq_ok h
      cases he
      have hcfg := handleMavlinkMessage_sameConfig env ops h₁
      simp only [List.filter_append, handleMavlinkMessage_acks hsend h₁, handleAll_acks hsend h₂,
        List.flatMap_cons, expectedAck_congr hcfg]

end Acks

end CameraStreamingDaemon
