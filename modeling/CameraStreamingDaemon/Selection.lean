import CameraStreamingDaemon.Dispatch

/-!
# CameraStreamingDaemon.Selection — what a run leaves selected, and what a request then reports.

Only `_handle_camera_set_video_stream_settings` writes a selection. It writes the selection of the
last stream with the requested id, and computes it from that stream's formats alone; no handler
changes a stream's id or formats. §1 turns this into the last-writer view of the streams: after
any run of messages of any kinds, the stream at each position carries the selection that the
last `SET_VIDEO_STREAM_SETTINGS` picking that position computes, or the one it started with, and
nothing else in the run matters (`handleAll_selections`).

§2 composes a run with `_handle_camera_video_stream_request`. When the last settings for a stream
ask for a size the stream advertises, a `REQUEST_VIDEO_STREAM_INFORMATION` for the stream's id
reports that size, with the URI built from the suffix `?width=W&height=H` of it
(`selected_size_reported`).
-/

namespace CameraStreamingDaemon

/-! ## §1 — the last writer wins -/

/-- The settings a message applies to the stream at position `i`: those of a
`SET_VIDEO_STREAM_SETTINGS` whose `camera_id` picks that position. -/
def settingsFor (streams : List Stream) (i : Nat) : MavlinkMessage → Option SetVideoStreamSettings
  | .setVideoStreamSettings st =>
    if lastStreamWithId st.cameraId streams = some i then some st else none
  | _ => none

/-- The settings of the last message of a run that picks position `i`. -/
def lastSettingsFor (streams : List Stream) (i : Nat) (ms : List MavlinkMessage) :
    Option SetVideoStreamSettings :=
  (ms.filterMap (settingsFor streams i)).getLast?

/-- The stream `s` at position `i` once the settings `st`, if any, are applied. -/
def applySettings (i : Nat) (s : Stream) : Option SetVideoStreamSettings → Stream
  | none => s
  | some st => newSelection st i s

@[simp] theorem applySettings_id (i : Nat) (s : Stream) (o : Option SetVideoStreamSettings) :
    (applySettings i s o).id = s.id := by
  cases o <;> rfl

/-- A selection is computed from the stream's formats, so a later one overrides an earlier. -/
theorem applySettings_applySettings (i : Nat) (s : Stream) (o o' : Option SetVideoStreamSettings) :
    applySettings i (applySettings i s o) o' = applySettings i s (o'.or o) := by
  cases o' <;> cases o <;> rfl

theorem lastSettingsFor_cons (streams : List Stream) (i : Nat) (m : MavlinkMessage)
    (ms : List MavlinkMessage) :
    lastSettingsFor streams i (m :: ms) =
      (lastSettingsFor streams i ms).or (settingsFor streams i m) := by
  unfold lastSettingsFor
  cases h : settingsFor streams i m with
  | none => simp [List.filterMap_cons_none h]
  | some st =>
    rw [List.filterMap_cons_some h, List.getLast?_cons]
    cases (List.filterMap (settingsFor streams i) ms).getLast? <;> rfl

/-- Which stream a `camera_id` picks depends only on the streams' ids. -/
theorem lastStreamWithId_congr {streams streams' : List Stream}
    (h : streams.map Stream.id = streams'.map Stream.id) (cameraId : UInt8) :
    lastStreamWithId cameraId streams = lastStreamWithId cameraId streams' := by
  have key : ∀ l : List Stream, lastStreamWithId cameraId l =
      (l.map Stream.id).enum.foldl (fun acc e => if e.2 = cameraId then some e.1 else acc) none := by
    intro l
    simp only [lastStreamWithId, List.enum_map, List.foldl_map]
    rfl
  rw [key, key, h]

theorem lastSettingsFor_congr {streams streams' : List Stream}
    (h : streams.map Stream.id = streams'.map Stream.id) (i : Nat) (ms : List MavlinkMessage) :
    lastSettingsFor streams i ms = lastSettingsFor streams' i ms := by
  have : settingsFor streams i = settingsFor streams' i := by
    funext m
    cases m <;> simp only [settingsFor, lastStreamWithId_congr h]
  rw [lastSettingsFor, lastSettingsFor, this]

/-- A fold that remembers the last element passing `p` ends on some element once its seed is
one, or once some element passes. -/
theorem foldl_last_isSome {α β : Type} {p : α → Prop} [DecidablePred p] {g : α → β} :
    ∀ {l : List α} {init : Option β}, (init.isSome ∨ ∃ e ∈ l, p e) →
      (l.foldl (fun acc e => if p e then some (g e) else acc) init).isSome
  | [], _, h => h.resolve_right fun ⟨_, he, _⟩ => absurd he (List.not_mem_nil _)
  | e :: l, init, h => by
    rw [List.foldl_cons]
    refine foldl_last_isSome ?_
    by_cases hp : p e
    · simp only [hp, if_true, Option.isSome_some, true_or]
    · simp only [hp, if_false]
      rcases h with h | ⟨e', he', hpe'⟩
      · exact .inl h
      · exact .inr ⟨e', (List.mem_cons.mp he').resolve_left (fun h => hp (h ▸ hpe')), hpe'⟩

/-- The `camera_id` of a stream whose id no other stream has picks that stream. -/
theorem lastStreamWithId_of_unique {streams : List Stream} {i : Nat} {s : Stream}
    (hs : streams[i]? = some s) (huniq : ∀ j t, streams[j]? = some t → t.id = s.id → j = i) :
    lastStreamWithId s.id streams = some i := by
  have hsome : (lastStreamWithId s.id streams).isSome :=
    foldl_last_isSome (.inr ⟨(i, s), List.mem_enum_iff_getElem?.mpr hs, rfl⟩)
  obtain ⟨j, hj⟩ := Option.isSome_iff_exists.mp hsome
  obtain ⟨t, ht, hid⟩ := lastStreamWithId_spec hj
  rw [hj, huniq j t ht hid]

/-- An id that one position alone holds stays so when every stream keeps its id. -/
theorem unique_of_ids {streams streams' : List Stream}
    (h : streams'.map Stream.id = streams.map Stream.id) {i : Nat} {id : UInt8}
    (huniq : ∀ j t, streams[j]? = some t → t.id = id → j = i) :
    ∀ j t, streams'[j]? = some t → t.id = id → j = i := fun j t ht hid => by
  have hj : (streams.map Stream.id)[j]? = some id := by
    rw [← h, List.getElem?_map, ht]; exact congrArg some hid
  obtain ⟨t₀, ht₀, hid₀⟩ := Option.map_eq_some'.mp (List.getElem?_map _ _ _ ▸ hj)
  exact huniq j t₀ ht₀ hid₀

section Runs

variable {Comp σ : Type} (env : Env) (ops : CameraComponentOps Comp σ)

/-- **One step, position by position.** A message leaves the stream at position `i` as it was,
unless it is a `SET_VIDEO_STREAM_SETTINGS` that picks `i`, which gives it its selection. -/
theorem handleMavlinkMessage_selection {srv srv' : MavlinkServer Comp σ} {u : Uninit}
    {addr : SockAddr} {m : MavlinkMessage} {evs : List (Event Comp)}
    (h : handleMavlinkMessage env ops srv u addr m = .ok (srv', evs)) (i : Nat) :
    srv'.streams[i]? =
      srv.streams[i]?.map fun s => applySettings i s (settingsFor srv.streams i m) := by
  cases m with
  | setVideoStreamSettings st =>
    cases h
    unfold handleCameraSetVideoStreamSettings settingsFor
    cases hl : lastStreamWithId st.cameraId srv.streams with
    | none => simp [hl, applySettings]
    | some j =>
      by_cases hj : j = i
      · subst hj; simp [hl, applySettings]
      · simp [hl, hj, applySettings]
  | commandLong cmd =>
    rw [(handleMavlinkMessage_commandLong env ops h).1]
    simp [settingsFor, applySettings]
  | paramExtSet req =>
    simp only [handleMavlinkMessage, Except.ok.injEq, Prod.ext_iff] at h
    rw [← h.1, handleParamExtSet_streams]
    simp [settingsFor, applySettings]
  | _ => cases h; simp [settingsFor, applySettings]

/-- No message changes a stream's id. -/
theorem handleMavlinkMessage_ids {srv srv' : MavlinkServer Comp σ} {u : Uninit}
    {addr : SockAddr} {m : MavlinkMessage} {evs : List (Event Comp)}
    (h : handleMavlinkMessage env ops srv u addr m = .ok (srv', evs)) :
    srv'.streams.map Stream.id = srv.streams.map Stream.id :=
  List.ext_getElem? fun i => by
    simp [List.getElem?_map, handleMavlinkMessage_selection env ops h i, Option.map_map,
      Function.comp_def]

/-- **The last writer wins.** After any run of messages of any kinds, the stream at each position
is the one it was, with the selection of the last `SET_VIDEO_STREAM_SETTINGS` of the run that
picks that position, or its own selection when none does. -/
theorem handleAll_selections :
    ∀ {srv srv' : MavlinkServer Comp σ} {ms : List (Uninit × SockAddr × MavlinkMessage)}
      {evs : List (Event Comp)}, handleAll env ops srv ms = .ok (srv', evs) → ∀ i,
        srv'.streams[i]? = srv.streams[i]?.map fun s =>
          applySettings i s (lastSettingsFor srv.streams i (ms.map fun c => c.2.2))
  | srv, _, [], _, h, i => by cases h; simp [lastSettingsFor, applySettings]
  | srv, srv', (u, addr, m) :: ms, evs, h, i => by
    simp only [handleAll] at h
    split at h
    · cases h
    · next srv₁ evs₁ h₁ =>
      obtain ⟨⟨srv₂, evs₂⟩, h₂, he⟩ := map_eq_ok h
      cases he
      rw [handleAll_selections h₂ i, handleMavlinkMessage_selection env ops h₁ i, Option.map_map,
        lastSettingsFor_congr (handleMavlinkMessage_ids env ops h₁)]
      simp only [List.map_cons, lastSettingsFor_cons, Function.comp_def, applySettings_applySettings]

/-- No run changes a stream's id. -/
theorem handleAll_ids {srv srv' : MavlinkServer Comp σ}
    {ms : List (Uninit × SockAddr × MavlinkMessage)} {evs : List (Event Comp)}
    (h : handleAll env ops srv ms = .ok (srv', evs)) :
    srv'.streams.map Stream.id = srv.streams.map Stream.id :=
  List.ext_getElem? fun i => by
    simp [List.getElem?_map, handleAll_selections env ops h i, Option.map_map, Function.comp_def]

end Runs

/-- Three settings over two streams: the first stream ends with the last of its two selections,
`640×480`, and the second with its own. -/
theorem handleAll_selections_interleaved :
    let s1 : Stream := ⟨1, false, [⟨[⟨640, 480⟩, ⟨1280, 720⟩]⟩], none⟩
    let s2 : Stream := ⟨2, false, [⟨[⟨320, 240⟩]⟩], none⟩
    let ms : List (Uninit × SockAddr × MavlinkMessage) :=
      [(zeroUninit, gcsAddr, .setVideoStreamSettings ⟨1, 100, 1, 1280, 720⟩),
       (zeroUninit, gcsAddr, .setVideoStreamSettings ⟨1, 100, 2, 320, 240⟩),
       (zeroUninit, gcsAddr, .setVideoStreamSettings ⟨1, 100, 1, 640, 480⟩)]
    let srv' := testServer [{ s1 with selFrameSize := some ⟨0, 0, 0⟩ },
      { s2 with selFrameSize := some ⟨1, 0, 0⟩ }] StdMap.empty
    handleAll uriEnv stubOps (testServer [s1, s2] StdMap.empty) ms = .ok (srv', []) ∧
      srv'.streams[0]? = [s1, s2][0]?.map fun s =>
        applySettings 0 s (lastSettingsFor [s1, s2] 0 (ms.map fun c => c.2.2)) := by
  intro s1 s2 ms srv'
  have h : handleAll uriEnv stubOps (testServer [s1, s2] StdMap.empty) ms = .ok (srv', []) := rfl
  exact ⟨h, handleAll_selections uriEnv stubOps h 0⟩

/-! ## §2 — a selection, then a request -/

theorem u8_toUInt32_inj {a b : UInt8} (h : a.toUInt32 = b.toUInt32) : a = b :=
  UInt8.toNat.inj (congrArg UInt32.toNat h)

/-- A request covers exactly the streams with its `camera_id`: when that id is one stream's own,
nonzero and shared with no other, the loop over all streams is the loop over that stream. -/
theorem videoStreamLoop_enum_only {Comp σ : Type} (env : Env) (srv : MavlinkServer Comp σ)
    (addr : SockAddr) (query : String) {i : Nat} {s : Stream} {id : UInt8}
    (hs : srv.streams[i]? = some s) (h0 : id ≠ 0)
    (huniq : ∀ j t, srv.streams[j]? = some t → t.id = id → j = i) :
    videoStreamLoop env srv addr id.toUInt32 query srv.streams.enum =
      videoStreamLoop env srv addr id.toUInt32 query [(i, s)] := by
  refine videoStreamLoop_only env srv addr _ (i, s) _ query
    ((pairwise_fst_lt_enumFrom 0 srv.streams).imp fun h => ne_of_apply_ne Prod.fst (Nat.ne_of_lt h))
    (List.mem_enum_iff_getElem?.mpr hs) fun ⟨j, t⟩ hp hc => ?_
  have ht : srv.streams[j]? = some t := List.mem_enum_iff_getElem?.mp hp
  have hid : t.id = id :=
    hc.elim (fun hc => absurd (u8_toUInt32_inj (b := 0) hc) h0) fun hc => (u8_toUInt32_inj hc).symm
  obtain rfl := huniq j t ht hid
  rw [hs, Option.some.injEq] at ht
  rw [ht]

section Report

variable {Comp σ : Type} (env : Env) (ops : CameraComponentOps Comp σ)

/-- A request for the id of a stream that carries a selection of an advertised nonzero size
`W×H`, its id nonzero and no other stream's: one `VIDEO_STREAM_INFORMATION` of `W×H`, with the
URI of the suffix `?width=W&height=H`. -/
theorem handleMavlinkMessage_request_selected {srv : MavlinkServer Comp σ} {i : Nat}
    {s : Stream} {st : SetVideoStreamSettings} (hs : srv.streams[i]? = some (newSelection st i s))
    (h0 : s.id ≠ 0) (huniq : ∀ j t, srv.streams[j]? = some t → t.id = s.id → j = i)
    (hH : st.resolutionH ≠ 0) (hV : st.resolutionV ≠ 0)
    (hadv : ⟨st.resolutionH.toUInt32, st.resolutionV.toUInt32⟩ ∈ s.frameSizes)
    (u : Uninit) (addr : SockAddr) {cmd : CommandLong} (hf : passesFilter srv cmd)
    (hcmd : cmd.command = mavCmdRequestVideoStreamInformation)
    (hp1 : cmd.param1.toUInt32 = s.id.toUInt32) (hp2 : cmd.param2.toUInt32 = 1) :
    handleMavlinkMessage env ops srv u addr (.commandLong cmd) =
      .ok (srv, [.send addr (streamInformation env srv (newSelection st i s)
        ⟨st.resolutionH.toUInt32, st.resolutionV.toUInt32⟩
        ("?width=" ++ toString st.resolutionH.toNat ++ "&height=" ++
          toString st.resolutionV.toNat))]) := by
  -- the selection points to the first advertised `W×H`
  obtain ⟨r, hr, hfind, -⟩ := @findBestFrameSize_first_exact i s _ _ hadv
  have hsel : (newSelection st i s).selFrameSize = some r := by
    simp only [newSelection, hH, hV, or_self, if_false, hfind]
  have hrep : reportedFrameSize srv.streams i (newSelection st i s) =
      some ⟨st.resolutionH.toUInt32, st.resolutionV.toUInt32⟩ := by
    simp only [reportedFrameSize, hsel, Option.some_orElse, Option.some_bind]
    exact deref_of_mem_frameSizesOf hs hr
  -- the suffix of a `uint16_t` size fits the buffer
  obtain ⟨hq, hlen⟩ := @snprintfQuery_of_lt st.resolutionH.toUInt32 st.resolutionV.toUInt32
    (lt_of_lt_of_le st.resolutionH.toBitVec.isLt (by norm_num))
    (lt_of_lt_of_le st.resolutionV.toBitVec.isLt (by norm_num))
  have hupd : updateQuery (newSelection st i s) ⟨st.resolutionH.toUInt32, st.resolutionV.toUInt32⟩
      "" = snprintfQuery st.resolutionH.toUInt32 st.resolutionV.toUInt32 := by
    simp only [updateQuery, hsel, Option.isSome_some, if_true]
  -- the dispatcher routes the command to the request's loop, which covers one stream
  simp only [handleMavlinkMessage, hf, not_true_eq_false, if_false, hcmd]
  rw [if_neg (by decide), if_pos trivial, handleCameraVideoStreamRequest, hp2, if_neg (by decide),
    hp1, @videoStreamLoop_enum_only _ _ env srv addr "" i _ s.id hs h0 huniq,
    videoStreamLoop_single env srv addr
      (.inr (show s.id.toUInt32 = (newSelection st i s).id.toUInt32 from rfl)) hrep
      (by rw [hupd, hq]; omega), hupd, hq]
  rfl

/-- **What is selected is what is reported.** Take any run of messages of any kinds, and a
stream at position `i` whose id is nonzero and no other stream's. Say the last
`SET_VIDEO_STREAM_SETTINGS` of the run that picks the stream asks for a nonzero size `W×H`, and
the stream advertises it. Then a `REQUEST_VIDEO_STREAM_INFORMATION` for the stream's id that
passes the filter, from any address after the run, is answered with one
`VIDEO_STREAM_INFORMATION` to that address. It reports `W×H` and the URI built from the suffix
`?width=W&height=H`, and the state stays. -/
theorem selected_size_reported {srv srv' : MavlinkServer Comp σ}
    {ms : List (Uninit × SockAddr × MavlinkMessage)} {evs : List (Event Comp)}
    (hrun : handleAll env ops srv ms = .ok (srv', evs)) {i : Nat} {s : Stream}
    (hs : srv.streams[i]? = some s) (h0 : s.id ≠ 0)
    (huniq : ∀ j t, srv.streams[j]? = some t → t.id = s.id → j = i)
    {st : SetVideoStreamSettings}
    (hlast : lastSettingsFor srv.streams i (ms.map fun c => c.2.2) = some st)
    (hH : st.resolutionH ≠ 0) (hV : st.resolutionV ≠ 0)
    (hadv : ⟨st.resolutionH.toUInt32, st.resolutionV.toUInt32⟩ ∈ s.frameSizes)
    (u : Uninit) (addr : SockAddr) {cmd : CommandLong} (hf : passesFilter srv cmd)
    (hcmd : cmd.command = mavCmdRequestVideoStreamInformation)
    (hp1 : cmd.param1.toUInt32 = s.id.toUInt32) (hp2 : cmd.param2.toUInt32 = 1) :
    handleMavlinkMessage env ops srv' u addr (.commandLong cmd) =
      .ok (srv', [.send addr (streamInformation env srv' (newSelection st i s)
        ⟨st.resolutionH.toUInt32, st.resolutionV.toUInt32⟩
        ("?width=" ++ toString st.resolutionH.toNat ++ "&height=" ++
          toString st.resolutionV.toNat))]) := by
  -- after the run the stream carries the last selection, and the ids and the filter stay
  have hs' : srv'.streams[i]? = some (newSelection st i s) := by
    rw [handleAll_selections env ops hrun i, hs, hlast]; rfl
  have hf' : passesFilter srv' cmd := by
    rwa [passesFilter, (handleAll_frame env ops hrun).1.systemId]
  exact handleMavlinkMessage_request_selected env ops hs' h0
    (unique_of_ids (handleAll_ids env ops hrun) huniq) hH hV hadv u addr hf' hcmd hp1 hp2

end Report

/-- The interleaved run above, then a request for stream `1`: it reports `640×480`, the last
size selected for it, with the suffix `?width=640&height=480`. -/
theorem selected_size_reported_interleaved :
    let s1 : Stream := ⟨1, false, [⟨[⟨640, 480⟩, ⟨1280, 720⟩]⟩], none⟩
    let s2 : Stream := ⟨2, false, [⟨[⟨320, 240⟩]⟩], none⟩
    let srv' := testServer [{ s1 with selFrameSize := some ⟨0, 0, 0⟩ },
      { s2 with selFrameSize := some ⟨1, 0, 0⟩ }] StdMap.empty
    handleMavlinkMessage uriEnv stubOps srv' zeroUninit gcsAddr
        (.commandLong ⟨1, 100, mavCmdRequestVideoStreamInformation, CFloat.one, CFloat.one⟩) =
      .ok (srv', [.send gcsAddr (streamInformation uriEnv srv' (newSelection ⟨1, 100, 1, 640, 480⟩ 0 s1)
        ⟨640, 480⟩ "?width=640&height=480")]) := by
  intro s1 s2 srv'
  have huniq : ∀ j t, [s1, s2][j]? = some t → t.id = s1.id → j = 0 := fun j t ht hid => by
    rcases j with _ | _ | j
    · rfl
    · cases ht; exact absurd hid (by decide)
    · cases ht
  let ms : List (Uninit × SockAddr × MavlinkMessage) :=
    [(zeroUninit, gcsAddr, .setVideoStreamSettings ⟨1, 100, 1, 1280, 720⟩),
     (zeroUninit, gcsAddr, .setVideoStreamSettings ⟨1, 100, 2, 320, 240⟩),
     (zeroUninit, gcsAddr, .setVideoStreamSettings ⟨1, 100, 1, 640, 480⟩)]
  have hrun : handleAll uriEnv stubOps (testServer [s1, s2] StdMap.empty) ms = .ok (srv', []) := rfl
  have hs : (testServer [s1, s2] StdMap.empty).streams[0]? = some s1 := rfl
  have hlast : lastSettingsFor [s1, s2] 0 (ms.map fun c => c.2.2) = some ⟨1, 100, 1, 640, 480⟩ := rfl
  exact selected_size_reported uriEnv stubOps hrun hs (by decide) huniq hlast (by decide) (by decide)
    (by decide) zeroUninit gcsAddr (by decide) rfl (by decide) (by decide)

end CameraStreamingDaemon
