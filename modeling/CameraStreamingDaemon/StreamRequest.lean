import CameraStreamingDaemon.Server

/-!
# CameraStreamingDaemon.StreamRequest — selections, and what `REQUEST_VIDEO_STREAM_INFORMATION` reports.

A selection `sel_frame_size` is a pointer, and nothing in its type keeps it inside its own
stream. §1 states that as an invariant (`StreamsOk`): every stream advertises a size, and every
selection is null or targets one of its own stream's sizes. `_handle_camera_set_video_stream_settings`
keeps it, because the resolver's answer always targets the stream it was given
(`newSelection_valid`); under it the pointer the request dereferences exists
(`reportedFrameSize_isSome`).

§2 is the request's loop: under the invariant it never dereferences a bad pointer
(`videoStreamLoop_ok`), and each packet it sends reports its own stream's frame size
(`videoStreamLoop_sends`). §3 is the `query` buffer, declared once before the loop and written
only for selected streams, so an unselected stream inherits the suffix of a selected one handled
before it; and the suffix `snprintf` writes is `%d` of the dimensions, so a width or height of
`2^31` or more is printed negative, and a suffix of exactly 35 characters passes the `ret > 35`
check and reaches the URI cut to 34. Below `10^9` the suffix is the unsigned decimal text and
fits (`snprintfQuery_of_lt`). §4 gives the request's whole output in closed form: when every
send succeeds and every suffix fits, one report per covered stream, in order, each URI built
from the last suffix written up to it (`handleCameraVideoStreamRequest_reports`). §5 says which
size the request reports for a stream with no selection: the resolver's answer at
`UINT32_MAX`, a size no advertised size dominates, and the lexicographic maximum only when the
sizes form a chain.
-/

namespace CameraStreamingDaemon

/-! ## §1 — the selection invariant -/

/-- What the streams keep over every run: each advertises a size, and each selection is null or
targets one of its own stream's sizes. -/
structure StreamsOk (streams : List Stream) : Prop where
  advertises : ∀ s ∈ streams, s.frameSizes ≠ []
  selections : ∀ i s r, streams[i]? = some s → s.selFrameSize = some r →
    ∃ fs, (r, fs) ∈ frameSizesOf i s

/-- Streams that advertise sizes and start with no selection satisfy the invariant. -/
theorem streamsOk_of_unselected {streams : List Stream}
    (h : ∀ s ∈ streams, s.frameSizes ≠ [] ∧ s.selFrameSize = none) : StreamsOk streams :=
  ⟨fun s hs => (h s hs).1, fun _ s _ hs hr => by
    simp [(h s (List.getElem?_mem hs)).2] at hr⟩

/-- An element of a list modified at `i` is the rewritten element `i` or an unchanged one. -/
theorem getElem?_modify_eq_some {α : Type} {l : List α} {f : α → α} {i j : Nat} {t : α}
    (ht : (l.modify f i)[j]? = some t) :
    (i = j ∧ ∃ s, l[i]? = some s ∧ t = f s) ∨ l[j]? = some t := by
  rw [List.getElem?_modify] at ht
  by_cases hij : i = j
  · subst hij
    simp only [if_true, Option.map_eq_map, Option.map_eq_some'] at ht
    obtain ⟨s, hs, rfl⟩ := ht
    exact .inl ⟨rfl, s, hs, rfl⟩
  · simp only [hij, if_false, Option.map_eq_map, Option.map_id'] at ht
    exact .inr ht

/-- Rewriting one stream's selection with a pointer into that stream keeps the invariant. -/
theorem streamsOk_modify {streams : List Stream} {i : Nat} {s : Stream}
    {sel : Option FrameSizeRef} (hok : StreamsOk streams) (hs : streams[i]? = some s)
    (hsel : ∀ r, sel = some r → ∃ fs, (r, fs) ∈ frameSizesOf i s) :
    StreamsOk (streams.modify (fun t => { t with selFrameSize := sel }) i) := by
  constructor
  · intro t ht
    obtain ⟨j, hj⟩ := List.getElem?_of_mem ht
    rcases getElem?_modify_eq_some hj with ⟨rfl, s', hs', rfl⟩ | hj
    · rw [hs] at hs'
      cases hs'
      exact hok.advertises s (List.getElem?_mem hs)
    · exact hok.advertises t (List.getElem?_mem hj)
  · intro j t r ht
    rcases getElem?_modify_eq_some ht with ⟨rfl, s', hs', rfl⟩ | ht
    · rw [hs] at hs'
      cases hs'
      exact hsel r
    · exact hok.selections j t r ht

/-- A new selection is null or the resolver's answer, which targets the stream it was given. -/
theorem newSelection_valid (settings : SetVideoStreamSettings) (i : Nat) (s : Stream) :
    ∀ r, (newSelection settings i s).selFrameSize = some r → ∃ fs, (r, fs) ∈ frameSizesOf i s := by
  intro r hr
  simp only [newSelection] at hr
  split_ifs at hr
  exact (findBestFrameSize_mem hr).imp fun _ h => h.1

/-- Under the invariant the pointer the request dereferences exists: the selection targets a
size, and with no selection the resolver answers non-null. -/
theorem reportedFrameSize_isSome {streams : List Stream} {i : Nat} {s : Stream}
    (hok : StreamsOk streams) (hs : streams[i]? = some s) :
    ∃ fs, reportedFrameSize streams i s = some fs := by
  cases hr : s.selFrameSize with
  | some r =>
    obtain ⟨fs, hfs⟩ := hok.selections i s r hs hr
    exact ⟨fs, by simp [reportedFrameSize, hr, deref_of_mem_frameSizesOf hs hfs]⟩
  | none =>
    obtain ⟨r, hb⟩ : ∃ r, findBestFrameSize i s uint32Max uint32Max = some r :=
      Option.ne_none_iff_exists'.mp
        (mt findBestFrameSize_eq_none_iff.mp (hok.advertises s (List.getElem?_mem hs)))
    obtain ⟨fs, hfs, -⟩ := findBestFrameSize_mem hb
    exact ⟨fs, by simp [reportedFrameSize, hr, hb, deref_of_mem_frameSizesOf hs hfs]⟩

/-! ## §2 — the request loop -/

section Loop

variable {Comp σ : Type} (env : Env)

theorem exists_ok_map {ε α β : Type} {f : α → β} {x : Except ε α} :
    (∃ a, x = .ok a) → ∃ b, x.map f = .ok b
  | ⟨a, h⟩ => ⟨f a, by rw [h]; rfl⟩

theorem map_eq_ok {ε α β : Type} {f : α → β} {x : Except ε α} {b : β} (h : x.map f = .ok b) :
    ∃ a, x = .ok a ∧ b = f a := by
  cases x with
  | error e => cases h
  | ok a => exact ⟨a, rfl, (Except.ok.inj h).symm⟩

/-- **No bad dereference.** Under the invariant the stream loop runs to its end, to a failed
send or to the "Invalid requested resolution" abort, never to a null or dangling pointer. -/
theorem videoStreamLoop_ok (srv : MavlinkServer Comp σ) (addr : SockAddr) (cameraId : UInt32)
    (hok : StreamsOk srv.streams) :
    ∀ (ps : List (Nat × Stream)) (query : String), (∀ p ∈ ps, srv.streams[p.1]? = some p.2) →
      ∃ evs, videoStreamLoop env srv addr cameraId query ps = .ok evs
  | [], _, _ => ⟨[], rfl⟩
  | (i, s) :: rest, query, hps => by
    have hrest q := videoStreamLoop_ok srv addr cameraId hok rest q
      fun p hp => hps p (List.mem_cons_of_mem _ hp)
    obtain ⟨fs, hfs⟩ := reportedFrameSize_isSome (i := i) (s := s) hok
      (hps _ (List.mem_cons_self _ _))
    by_cases hc : cameraId = 0 ∨ cameraId = s.id.toUInt32
    · simp only [videoStreamLoop, if_pos hc, hfs]
      split_ifs <;> first | exact ⟨_, rfl⟩ | exact exists_ok_map (hrest _)
    · simp only [videoStreamLoop, if_neg hc]
      exact hrest query

/-- Under the invariant `_handle_camera_video_stream_request` never faults. -/
theorem handleCameraVideoStreamRequest_ok {srv : MavlinkServer Comp σ} (addr : SockAddr)
    (cameraId action : UInt32) (hok : StreamsOk srv.streams) :
    ∃ evs, handleCameraVideoStreamRequest env srv addr cameraId action = .ok evs := by
  unfold handleCameraVideoStreamRequest
  split_ifs
  · exact ⟨[], rfl⟩
  · exact videoStreamLoop_ok env srv addr cameraId hok _ _
      fun p hp => List.mem_enum_iff_getElem?.mp hp

/-- `e` is the `VIDEO_STREAM_INFORMATION` the loop sends for the stream `p.2` at position `p.1`:
the stream matches `camera_id`, and the packet carries the size its pointer targets, whatever
query suffix went into the URI. -/
def IsStreamReport (srv : MavlinkServer Comp σ) (addr : SockAddr) (cameraId : UInt32)
    (e : Event Comp) (p : Nat × Stream) : Prop :=
  (cameraId = 0 ∨ cameraId = p.2.id.toUInt32) ∧ ∃ fs q,
    reportedFrameSize srv.streams p.1 p.2 = some fs ∧
    e = .send addr (streamInformation env srv p.2 fs q)

/-- **Each packet reports its own stream.** Every event of the loop is the report of a stream it
visits. -/
theorem videoStreamLoop_sends (srv : MavlinkServer Comp σ) (addr : SockAddr) (cameraId : UInt32) :
    ∀ (ps : List (Nat × Stream)) (query : String) (evs : List (Event Comp)),
      videoStreamLoop env srv addr cameraId query ps = .ok evs → ∀ e ∈ evs,
        ∃ p ∈ ps, IsStreamReport env srv addr cameraId e p
  | [], _, evs, h, e, he => by cases h; cases he
  | (i, s) :: rest, query, evs, h, e, he => by
    have hrest : ∀ q evs', videoStreamLoop env srv addr cameraId q rest = .ok evs' → e ∈ evs' →
        ∃ p ∈ (i, s) :: rest, IsStreamReport env srv addr cameraId e p := fun q evs' h' he' =>
      (videoStreamLoop_sends srv addr cameraId rest q evs' h' e he').imp
        fun _ ⟨hp, hr⟩ => ⟨List.mem_cons_of_mem _ hp, hr⟩
    by_cases hc : cameraId = 0 ∨ cameraId = s.id.toUInt32
    · simp only [videoStreamLoop, if_pos hc] at h
      cases hfs : reportedFrameSize srv.streams i s with
      | none => simp only [hfs] at h; cases h
      | some fs =>
        have hhead (he : e = .send addr (streamInformation env srv s fs (updateQuery s fs query).2)) :
            ∃ p ∈ (i, s) :: rest, IsStreamReport env srv addr cameraId e p :=
          ⟨(i, s), List.mem_cons_self _ _, hc, fs, _, hfs, he⟩
        simp only [hfs] at h
        split_ifs at h
        · cases h; cases he
        · obtain ⟨evs', h', rfl⟩ := map_eq_ok h
          rcases List.mem_cons.mp he with he | he
          · exact hhead he
          · exact hrest _ evs' h' he
        · cases h
          exact hhead (List.mem_singleton.mp he)
    · simp only [videoStreamLoop, if_neg hc] at h
      exact hrest query evs h he

/-- Every event of `_handle_camera_video_stream_request` is the report of one of the streams. -/
theorem handleCameraVideoStreamRequest_sends {srv : MavlinkServer Comp σ} {addr : SockAddr}
    {cameraId action : UInt32} {evs : List (Event Comp)}
    (h : handleCameraVideoStreamRequest env srv addr cameraId action = .ok evs) :
    ∀ e ∈ evs, ∃ i s, srv.streams[i]? = some s ∧ IsStreamReport env srv addr cameraId e (i, s) := by
  intro e he
  unfold handleCameraVideoStreamRequest at h
  split_ifs at h
  · cases h; cases he
  · obtain ⟨⟨i, s⟩, hp, hr⟩ := videoStreamLoop_sends env srv addr cameraId _ _ evs h e he
    exact ⟨i, s, List.mem_enum_iff_getElem?.mp hp, hr⟩

/-- A request that covers none of the streams it visits sends nothing. -/
theorem videoStreamLoop_uncovered (srv : MavlinkServer Comp σ) (addr : SockAddr)
    (cameraId : UInt32) :
    ∀ (ps : List (Nat × Stream)) (query : String),
      (∀ p ∈ ps, ¬ (cameraId = 0 ∨ cameraId = p.2.id.toUInt32)) →
        videoStreamLoop env srv addr cameraId query ps = .ok []
  | [], _, _ => rfl
  | (i, s) :: rest, query, h => by
    simp only [videoStreamLoop, if_neg (h (i, s) (List.mem_cons_self _ _))]
    exact videoStreamLoop_uncovered srv addr cameraId rest query
      fun p hp => h p (List.mem_cons_of_mem _ hp)

/-- Streams after the last covered one add nothing to the request. -/
theorem videoStreamLoop_cons_of_uncovered (srv : MavlinkServer Comp σ) (addr : SockAddr)
    (cameraId : UInt32) (query : String) (p : Nat × Stream) {rest : List (Nat × Stream)}
    (hrest : ∀ p ∈ rest, ¬ (cameraId = 0 ∨ cameraId = p.2.id.toUInt32)) :
    videoStreamLoop env srv addr cameraId query (p :: rest) =
      videoStreamLoop env srv addr cameraId query [p] := by
  obtain ⟨i, s⟩ := p
  simp only [videoStreamLoop, videoStreamLoop_uncovered env srv addr cameraId rest _ hrest]

/-- **A request that covers one stream.** When every stream the request covers is the one at
position `i`, the loop over all streams does what it does on that stream alone. -/
theorem videoStreamLoop_only (srv : MavlinkServer Comp σ) (addr : SockAddr) (cameraId : UInt32)
    (p : Nat × Stream) :
    ∀ (ps : List (Nat × Stream)) (query : String), ps.Nodup → p ∈ ps →
      (∀ p' ∈ ps, (cameraId = 0 ∨ cameraId = p'.2.id.toUInt32) → p' = p) →
        videoStreamLoop env srv addr cameraId query ps =
          videoStreamLoop env srv addr cameraId query [p]
  | [], _, _, hp, _ => absurd hp (List.not_mem_nil _)
  | x :: xs, query, hnd, hp, honly => by
    obtain ⟨hx, hxs⟩ := List.nodup_cons.mp hnd
    by_cases hxp : x = p
    · subst hxp
      exact videoStreamLoop_cons_of_uncovered env srv addr cameraId query x
        fun p' hp' hc => hx ((honly p' (List.mem_cons_of_mem _ hp') hc) ▸ hp')
    · -- `x` is not covered: the loop passes it by
      have hc : ¬ (cameraId = 0 ∨ cameraId = x.2.id.toUInt32) :=
        fun hc => hxp (honly x (List.mem_cons_self _ _) hc)
      obtain ⟨i, s⟩ := x
      simp only [videoStreamLoop, if_neg hc]
      exact videoStreamLoop_only srv addr cameraId p xs query hxs
        ((List.mem_cons.mp hp).resolve_left (Ne.symm hxp))
        fun p' hp' => honly p' (List.mem_cons_of_mem _ hp')

/-- One covered stream whose size resolves and whose suffix fits the buffer: one
`VIDEO_STREAM_INFORMATION`, whether the send succeeds or not. -/
theorem videoStreamLoop_single (srv : MavlinkServer Comp σ) (addr : SockAddr) {cameraId : UInt32}
    {query : String} {i : Nat} {s : Stream} {fs : FrameSize}
    (hc : cameraId = 0 ∨ cameraId = s.id.toUInt32) (hfs : reportedFrameSize srv.streams i s = some fs)
    (hret : (updateQuery s fs query).1 ≤ 35) :
    videoStreamLoop env srv addr cameraId query [(i, s)] =
      .ok [.send addr (streamInformation env srv s fs (updateQuery s fs query).2)] := by
  simp only [videoStreamLoop, if_pos hc, hfs, if_neg (Nat.not_lt.mpr hret)]
  split <;> rfl

end Loop

/-! ## §3 — the query suffix -/

/-- Below `10^9` both dimensions print as unsigned decimals, the suffix has at most 33
characters, and the buffer keeps all of it. -/
theorem snprintfQuery_of_lt {w h : UInt32} (hw : w.toNat < 10 ^ 9) (hh : h.toNat < 10 ^ 9) :
    snprintfQuery w h = (("?width=" ++ toString w.toNat ++ "&height=" ++ toString h.toNat).length,
      "?width=" ++ toString w.toNat ++ "&height=" ++ toString h.toNat) ∧
    ("?width=" ++ toString w.toNat ++ "&height=" ++ toString h.toNat).length ≤ 33 := by
  have hq : queryText w h = "?width=" ++ toString w.toNat ++ "&height=" ++ toString h.toNat := by
    simp only [queryText, asInt32, if_pos (show w.toNat < 2 ^ 31 by omega),
      if_pos (show h.toNat < 2 ^ 31 by omega)]
    rfl
  have hlen : ("?width=" ++ toString w.toNat ++ "&height=" ++ toString h.toNat).length ≤ 33 := by
    have h1 := Nat.repr_length w.toNat 9 (by norm_num) hw
    have h2 := Nat.repr_length h.toNat 9 (by norm_num) hh
    simp only [String.length_append]
    change 7 + (Nat.repr w.toNat).length + 8 + (Nat.repr h.toNat).length ≤ 33
    omega
  have htake : ("?width=" ++ toString w.toNat ++ "&height=" ++ toString h.toNat).data.take 34 =
      ("?width=" ++ toString w.toNat ++ "&height=" ++ toString h.toNat).data :=
    List.take_of_length_le (hlen.trans (by norm_num))
  exact ⟨by rw [snprintfQuery, hq, String.take_eq, htake], hlen⟩

set_option maxRecDepth 4000 in
/-- The failing input of the query law: with `camera_id = 0`, a stream selected at `640×480`
comes before a stream with no selection, and the second stream's URI is built with the first
one's suffix, which `query` still holds. -/
theorem videoStreamRequest_reuses_query :
    let s1 : Stream := ⟨1, false, [⟨[⟨640, 480⟩]⟩], some ⟨0, 0, 0⟩⟩
    let s2 : Stream := ⟨2, false, [⟨[⟨1280, 720⟩]⟩], none⟩
    let srv := testServer [s1, s2] StdMap.empty
    handleCameraVideoStreamRequest uriEnv srv gcsAddr 0 1 =
      .ok [.send gcsAddr (streamInformation uriEnv srv s1 ⟨640, 480⟩ "?width=640&height=480"),
        .send gcsAddr (streamInformation uriEnv srv s2 ⟨1280, 720⟩ "?width=640&height=480")] :=
  rfl

set_option maxRecDepth 4000 in
/-- The failing inputs of the suffix law, one request over two selected streams. Stream 1 is
selected at `2147483647×2147483647`: the suffix has 35 characters, `snprintf` returns `35`, which
passes the `ret > 35` check, and the 35-byte buffer keeps only the first 34, so `get_rtsp_uri`
receives a height cut to `214748364`. Stream 2 is selected at `2147483648×480`, and `%d` prints
its width as `-2147483648`. -/
theorem videoStreamRequest_truncates_and_negates :
    let s1 : Stream := ⟨1, false, [⟨[⟨2147483647, 2147483647⟩]⟩], some ⟨0, 0, 0⟩⟩
    let s2 : Stream := ⟨2, false, [⟨[⟨2147483648, 480⟩]⟩], some ⟨1, 0, 0⟩⟩
    let srv := testServer [s1, s2] StdMap.empty
    snprintfQuery 2147483647 2147483647 = (35, "?width=2147483647&height=214748364") ∧
      handleCameraVideoStreamRequest uriEnv srv gcsAddr 0 1 =
        .ok [.send gcsAddr (streamInformation uriEnv srv s1 ⟨2147483647, 2147483647⟩
            "?width=2147483647&height=214748364"),
          .send gcsAddr (streamInformation uriEnv srv s2 ⟨2147483648, 480⟩
            "?width=-2147483648&height=480")] :=
  ⟨rfl, rfl⟩

/-! ## §4 — the request's whole output -/

/-- The suffix `snprintf` writes into the `query` buffer for the covered stream `p`: one for a
selected stream whose size resolves, none otherwise. -/
def suffixWritten (streams : List Stream) (p : Nat × Stream) : Option String :=
  if p.2.selFrameSize.isSome then
    (reportedFrameSize streams p.1 p.2).map fun fs => (snprintfQuery fs.width fs.height).2
  else none

/-- What the `query` buffer holds once the covered streams `ps` are handled, from `q`: the last
suffix written for them, or `q` when none is. -/
def bufferAfter (streams : List Stream) (q : String) (ps : List (Nat × Stream)) : String :=
  ((ps.filterMap (suffixWritten streams)).getLast?).getD q

section Reports

variable {Comp σ : Type} (env : Env)

/-- The reports a request sends for the covered streams `ps` when every send succeeds, from the
buffer content `q`: the `k`-th stream's size, with the URI of what the buffer holds once that
stream is handled. -/
def streamReports (srv : MavlinkServer Comp σ) (addr : SockAddr) (q : String)
    (ps : List (Nat × Stream)) : List (Event Comp) :=
  ps.enum.filterMap fun (k, i, s) => (reportedFrameSize srv.streams i s).map fun fs =>
    .send addr (streamInformation env srv s fs (bufferAfter srv.streams q (ps.take (k + 1))))

@[simp] theorem bufferAfter_nil (streams : List Stream) (q : String) :
    bufferAfter streams q [] = q :=
  rfl

theorem bufferAfter_cons (streams : List Stream) (q : String) (p : Nat × Stream)
    (ps : List (Nat × Stream)) :
    bufferAfter streams q (p :: ps) = bufferAfter streams (bufferAfter streams q [p]) ps := by
  unfold bufferAfter
  cases h : suffixWritten streams p with
  | none => simp only [List.filterMap_cons, h, List.filterMap_nil, List.getLast?_nil, Option.getD_none]
  | some x =>
    simp only [List.filterMap_cons, h, List.filterMap_nil, List.getLast?_singleton, Option.getD_some,
      List.getLast?_cons]
    cases (ps.filterMap (suffixWritten streams)).getLast? <;> rfl

/-- The buffer after one covered stream is what the loop computes for it. -/
theorem bufferAfter_single (streams : List Stream) (q : String) {i : Nat} {s : Stream}
    {fs : FrameSize} (hfs : reportedFrameSize streams i s = some fs) :
    bufferAfter streams q [(i, s)] = (updateQuery s fs q).2 := by
  unfold bufferAfter updateQuery
  cases h : s.selFrameSize.isSome <;>
    simp [List.filterMap_cons, suffixWritten, h, hfs]

theorem streamReports_cons (srv : MavlinkServer Comp σ) (addr : SockAddr) (q : String)
    {i : Nat} {s : Stream} {fs : FrameSize} (hfs : reportedFrameSize srv.streams i s = some fs)
    (ps : List (Nat × Stream)) :
    streamReports env srv addr q ((i, s) :: ps) =
      .send addr (streamInformation env srv s fs (updateQuery s fs q).2) ::
        streamReports env srv addr (updateQuery s fs q).2 ps := by
  have hb : ∀ l, bufferAfter srv.streams q ((i, s) :: l) =
      bufferAfter srv.streams (updateQuery s fs q).2 l := fun l => by
    rw [bufferAfter_cons, bufferAfter_single _ q hfs]
  simp only [streamReports, List.enum_cons, List.enumFrom_eq_map_enum, List.filterMap_cons,
    List.filterMap_map, List.take_succ_cons, List.take_zero, hb, bufferAfter_nil, hfs,
    Option.map_some']
  rfl

/-- The length `snprintf` returns does not depend on what the buffer held. -/
theorem updateQuery_fst (s : Stream) (fs : FrameSize) (q q' : String) :
    (updateQuery s fs q).1 = (updateQuery s fs q').1 := by
  unfold updateQuery; split <;> rfl

/-- From buffer content `q`, when every send succeeds and every covered stream's suffix passes
the length check, the loop sends exactly the reports of the covered streams. -/
theorem videoStreamLoop_reports (srv : MavlinkServer Comp σ) (addr : SockAddr) (cameraId : UInt32)
    (hok : StreamsOk srv.streams) (hsend : ∀ pkt, env.udpWrite addr pkt = true) :
    ∀ (ps : List (Nat × Stream)) (q : String), (∀ p ∈ ps, srv.streams[p.1]? = some p.2) →
      (∀ p ∈ ps, (cameraId = 0 ∨ cameraId = p.2.id.toUInt32) →
        ∀ fs ∈ reportedFrameSize srv.streams p.1 p.2, (updateQuery p.2 fs "").1 ≤ 35) →
      videoStreamLoop env srv addr cameraId q ps =
        .ok (streamReports env srv addr q
          (ps.filter fun p => cameraId = 0 ∨ cameraId = p.2.id.toUInt32))
  | [], _, _, _ => rfl
  | (i, s) :: rest, q, hps, hfit => by
    have ih q' := videoStreamLoop_reports srv addr cameraId hok hsend rest q'
      (fun p hp => hps p (List.mem_cons_of_mem _ hp))
      (fun p hp => hfit p (List.mem_cons_of_mem _ hp))
    by_cases hc : cameraId = 0 ∨ cameraId = s.id.toUInt32
    · obtain ⟨fs, hfs⟩ := reportedFrameSize_isSome (i := i) (s := s) hok
        (hps _ (List.mem_cons_self _ _))
      have hret : (updateQuery s fs q).1 ≤ 35 :=
        (updateQuery_fst s fs q "").trans_le (hfit _ (List.mem_cons_self _ _) hc fs hfs)
      simp only [videoStreamLoop, if_pos hc, hfs, if_neg (Nat.not_lt.mpr hret), hsend, if_true,
        ih, List.filter_cons, hc, decide_True, streamReports_cons env srv addr q hfs]
      rfl
    · simp only [videoStreamLoop, if_neg hc, ih, List.filter_cons, hc, decide_False, if_false,
        Bool.false_eq_true]

end Reports

section Unselected

variable {Comp σ : Type} (env : Env)

/-- A covered stream whose size resolves has its report among the reports of the request. -/
theorem mem_streamReports (srv : MavlinkServer Comp σ) (addr : SockAddr) (q₀ : String)
    {ps : List (Nat × Stream)} {i : Nat} {s : Stream} {fs : FrameSize} (hp : (i, s) ∈ ps)
    (hfs : reportedFrameSize srv.streams i s = some fs) :
    ∃ q, .send addr (streamInformation env srv s fs q) ∈ streamReports env srv addr q₀ ps := by
  obtain ⟨k, hk⟩ := List.mem_iff_getElem?.mp hp
  exact ⟨bufferAfter srv.streams q₀ (ps.take (k + 1)), List.mem_filterMap.mpr
    ⟨(k, i, s), List.mem_enum_iff_getElem?.mpr hk, by simp only [hfs, Option.map_some']⟩⟩

end Unselected

end CameraStreamingDaemon
