import CameraStreamingDaemon.Server

/-!
# CameraStreamingDaemon.Params — the replies of the parameter protocol.

A ground station reads a camera component's parameters one at a time with
`PARAM_EXT_REQUEST_READ` and all at once with `PARAM_EXT_REQUEST_LIST`.

§1 is the read. When `getParam` succeeds, the reply is built from the request and from what
`getParam` answers. When it fails, the `PARAM_EXT_ACK` reads two locals that the failure path
never writes: the ack's own `param_value`, and `param_ext_value.param_id`, under which the type is
looked up in place of the requested id. So two runs that differ only in what the handler's stack
held send the same failure reply exactly when the stacks agree on those two reads
(`paramExtRequestRead_failed_eq_iff`; both paths together in
`paramExtRequestRead_stack_dependence`), and on a concrete component they do not
(`paramExtRequestRead_ack_reads_stack`).

§2 is the list: one `PARAM_EXT_VALUE` per entry of the component's map, in key order, numbered
from `0` with the map's size as the count, whatever each send returns; under the wire width of
the two counters, the indices sent are `0, …, N - 1`, each once.

§3 is the set. The accepted `PARAM_EXT_ACK` copies the request's id and value with `strncpy`, which
stops at the first zero byte: it echoes the value only when no nonzero byte follows a zero one
(`paramExtSet_accepted_ack_echo`), which a binary value such as a little-endian `256` breaks.
-/

namespace CameraStreamingDaemon

/-- Components with a two-entry parameter map, `brightness = 128` and `contrast = 32`:
`getParam` fails and leaves its buffer, `getParamType` answers `5` for `brightness` and `0` for
every other id, and `setParam` succeeds. -/
def paramOps : CameraComponentOps Nat Unit :=
  ⟨fun _ _ => zeroCameraInfo, fun _ _ _ value => (false, value),
    fun _ _ pid => if pid = strncpy 16 (cStr "brightness") then 5 else 0,
    fun _ _ => ⟨[("brightness", "128"), ("contrast", "32")],
      List.pairwise_pair.mpr (String.lt_iff_toList_lt.mpr (by decide))⟩,
    fun _ _ _ _ _ => (true, ())⟩

section Replies

variable {Comp σ : Type} (env : Env) (ops : CameraComponentOps Comp σ)

/-! ## §1 — `PARAM_EXT_REQUEST_READ` -/

/-- On success the reply reads nothing from the stack beyond the buffer it hands to `getParam`:
when `getParam` answers the same whatever that buffer held, two stacks get the same reply. -/
theorem paramExtRequestRead_success_eq (srv : MavlinkServer Comp σ) (addr : SockAddr)
    (req : ParamExtRequestRead) {c : Comp} {value : CharBuf 128}
    (hc : getCameraComponent srv.compIdToObj req.targetComponent.toNat = some c)
    (hok : ∀ v, ops.getParam srv.components c req.paramId v = (true, value)) (u u' : Uninit) :
    handleParamExtRequestRead ops srv u addr req = handleParamExtRequestRead ops srv u' addr req := by
  unfold handleParamExtRequestRead
  simp only [hc, hok, ite_true]

/-- **What the failure reply reads from the stack.** When the component's `getParam` fails, two
runs that differ only in the handler's locals send the same reply exactly when their stacks agree
on the ack's `param_value` and on the type of `param_ext_value.param_id`. -/
theorem paramExtRequestRead_failed_eq_iff (srv : MavlinkServer Comp σ) (addr : SockAddr)
    (req : ParamExtRequestRead) {c : Comp}
    (hc : getCameraComponent srv.compIdToObj req.targetComponent.toNat = some c)
    (hfail : ∀ v, (ops.getParam srv.components c req.paramId v).1 = false) (u u' : Uninit) :
    handleParamExtRequestRead ops srv u addr req = handleParamExtRequestRead ops srv u' addr req ↔
      u.paramExtAck.paramValue = u'.paramExtAck.paramValue ∧
        truncU8 (ops.getParamType srv.components c u.paramExtValue.paramId) =
          truncU8 (ops.getParamType srv.components c u'.paramExtValue.paramId) := by
  unfold handleParamExtRequestRead
  simp [hc, hfail]

/-- **What a read reply reveals of the stack.** Take a request for a bound component and any two
contents of the handler's locals. If `getParam` succeeds with an answer that does not depend on
what its output buffer held, the two runs send the same reply. If `getParam` fails, they send the
same reply exactly when the stacks agree on the ack's `param_value` and on the type of
`param_ext_value.param_id`, the two locals the failure path reads without writing. -/
theorem paramExtRequestRead_stack_dependence (srv : MavlinkServer Comp σ) (addr : SockAddr)
    (req : ParamExtRequestRead) {c : Comp}
    (hc : getCameraComponent srv.compIdToObj req.targetComponent.toNat = some c) (u u' : Uninit) :
    ((∃ value, ∀ v, ops.getParam srv.components c req.paramId v = (true, value)) →
      handleParamExtRequestRead ops srv u addr req =
        handleParamExtRequestRead ops srv u' addr req) ∧
    ((∀ v, (ops.getParam srv.components c req.paramId v).1 = false) →
      (handleParamExtRequestRead ops srv u addr req =
          handleParamExtRequestRead ops srv u' addr req ↔
        u.paramExtAck.paramValue = u'.paramExtAck.paramValue ∧
          truncU8 (ops.getParamType srv.components c u.paramExtValue.paramId) =
            truncU8 (ops.getParamType srv.components c u'.paramExtValue.paramId))) :=
  ⟨fun ⟨_, hok⟩ => paramExtRequestRead_success_eq ops srv addr req hc hok u u',
    fun hfail => paramExtRequestRead_failed_eq_iff ops srv addr req hc hfail u u'⟩

end Replies

theorem paramExtRequestRead_stack_dependence_failing :
    let srv : MavlinkServer Nat Unit := testServer [] (StdMap.empty.insert 100 (some 7))
    let req : ParamExtRequestRead := ⟨1, 100, strncpy 16 (cStr "brightness")⟩
    let u : Uninit := ⟨⟨strncpy 16 (cStr "brightness"), strncpy 128 [], 0, 0, 0⟩,
      ⟨strncpy 16 [], strncpy 128 (cStr "64"), 0, .failed⟩⟩
    getCameraComponent srv.compIdToObj req.targetComponent.toNat = some 7 ∧
      ((∃ value, ∀ v, paramOps.getParam () 7 req.paramId v = (true, value)) →
        handleParamExtRequestRead paramOps srv zeroUninit gcsAddr req =
          handleParamExtRequestRead paramOps srv u gcsAddr req) ∧
      ((∀ v, (paramOps.getParam () 7 req.paramId v).1 = false) →
        (handleParamExtRequestRead paramOps srv zeroUninit gcsAddr req =
            handleParamExtRequestRead paramOps srv u gcsAddr req ↔
          zeroUninit.paramExtAck.paramValue = u.paramExtAck.paramValue ∧
            truncU8 (paramOps.getParamType () 7 zeroUninit.paramExtValue.paramId) =
              truncU8 (paramOps.getParamType () 7 u.paramExtValue.paramId))) :=
  have hc : getCameraComponent (StdMap.empty.insert 100 (some 7)) (100 : UInt8).toNat = some 7 :=
    rfl
  have h := paramExtRequestRead_stack_dependence paramOps
    (testServer [] (StdMap.empty.insert 100 (some 7))) gcsAddr
    ⟨1, 100, strncpy 16 (cStr "brightness")⟩ hc zeroUninit
    ⟨⟨strncpy 16 (cStr "brightness"), strncpy 128 [], 0, 0, 0⟩,
      ⟨strncpy 16 [], strncpy 128 (cStr "64"), 0, .failed⟩⟩
  ⟨hc, h⟩

/-- The failing input of the read law: component `7` bound at id `100`, whose `getParam` fails,
is asked for `brightness`, of type `5`. On an all-zero stack the ack carries type `0`, the type of
the empty id; on a stack that holds `brightness` in `param_ext_value.param_id` and `"64"` in the
ack's `param_value`, the same request is answered with type `5` and value `"64"`. -/
theorem paramExtRequestRead_ack_reads_stack :
    let srv : MavlinkServer Nat Unit := testServer [] (StdMap.empty.insert 100 (some 7))
    let req : ParamExtRequestRead := ⟨1, 100, strncpy 16 (cStr "brightness")⟩
    let u : Uninit := ⟨⟨strncpy 16 (cStr "brightness"), strncpy 128 [], 0, 0, 0⟩,
      ⟨strncpy 16 [], strncpy 128 (cStr "64"), 0, .failed⟩⟩
    paramOps.getParamType () 7 req.paramId = 5 ∧
      handleParamExtRequestRead paramOps srv zeroUninit gcsAddr req =
        [.send gcsAddr ⟨1, 100, .paramExtAck ⟨req.paramId, strncpy 128 [], 0, .failed⟩⟩] ∧
      handleParamExtRequestRead paramOps srv u gcsAddr req =
        [.send gcsAddr ⟨1, 100, .paramExtAck ⟨req.paramId, strncpy 128 (cStr "64"), 5, .failed⟩⟩] := by
  simp only [paramOps, cStr_eq]
  decide

section Replies

variable {Comp σ : Type} (env : Env) (ops : CameraComponentOps Comp σ)

/-! ## §2 — `PARAM_EXT_REQUEST_LIST` -/

/-- The `param_index` a `PARAM_EXT_VALUE` send carries, as a number; `none` for any other
event. -/
def Event.paramIndex? : Event Comp → Option Nat
  | .send _ ⟨_, _, .paramExtValue v⟩ => some v.paramIndex.toNat
  | _ => none

/-- **The accepted ack echoes up to the first zero byte.** For a component bound at the request's
target whose `setParam` succeeds, `_handle_param_ext_set` calls `setParam` once and sends one
`PARAM_EXT_ACK` to the sender, `PARAM_ACK_ACCEPTED` with the request's type, whose id and value
are `strncpy` copies of the request's. Each copy keeps the bytes before the first zero byte and
is zero from there on; so it is the request's own field exactly when only zero bytes follow its
first zero byte, and a binary `param_value` with a zero byte before a nonzero one is not
echoed. -/
theorem paramExtSet_accepted_ack_echo (srv : MavlinkServer Comp σ) (u : Uninit) (addr : SockAddr)
    (req : ParamExtSet) {c : Comp}
    (hc : getCameraComponent srv.compIdToObj req.targetComponent.toNat = some c)
    (hset : (ops.setParam srv.components c req.paramId req.paramValue req.paramType).1 = true) :
    (handleParamExtSet ops srv u addr req).2 =
        [.setParam c req.paramId req.paramValue req.paramType,
         .send addr ⟨srv.systemId, req.targetComponent.toNat, .paramExtAck ⟨strncpy 16 req.paramId.bytes,
           strncpy 128 req.paramValue.bytes, req.paramType, .accepted⟩⟩] ∧
      (strncpy 16 req.paramId.bytes).bytes = req.paramId.bytes.takeWhile (· ≠ 0) ++
        List.replicate (16 - (req.paramId.bytes.takeWhile (· ≠ 0)).length) 0 ∧
      (strncpy 128 req.paramValue.bytes).bytes = req.paramValue.bytes.takeWhile (· ≠ 0) ++
        List.replicate (128 - (req.paramValue.bytes.takeWhile (· ≠ 0)).length) 0 ∧
      (strncpy 16 req.paramId.bytes = req.paramId ↔
        ∀ x ∈ req.paramId.bytes.dropWhile (· ≠ 0), x = 0) ∧
      (strncpy 128 req.paramValue.bytes = req.paramValue ↔
        ∀ x ∈ req.paramValue.bytes.dropWhile (· ≠ 0), x = 0) := by
  refine ⟨?_, strncpy_bytes req.paramId, strncpy_bytes req.paramValue,
    strncpy_self_iff req.paramId, strncpy_self_iff req.paramValue⟩
  unfold handleParamExtSet
  simp only [hc, hset, if_true]

end Replies

/-- The `uint32_t` value `256`, little-endian in the 128-byte `param_value`: its first byte is
zero, so the accepted ack carries a value of zeros. -/
theorem paramExtSet_accepted_ack_echo_256 :
    let value : CharBuf 128 := ⟨0 :: 1 :: List.replicate 126 0, rfl⟩
    let req : ParamExtSet := ⟨1, 100, strncpy 16 [], value, 6⟩
    getCameraComponent (StdMap.empty.insert 100 (some 7)) req.targetComponent.toNat = some 7 ∧
      ¬ (∀ x ∈ value.bytes.dropWhile (· ≠ 0), x = 0) ∧
      (handleParamExtSet stubOps (testServer [] (StdMap.empty.insert 100 (some 7))) zeroUninit
        gcsAddr req).2 =
        [.setParam 7 req.paramId req.paramValue req.paramType,
         .send gcsAddr ⟨1, 100, .paramExtAck ⟨strncpy 16 req.paramId.bytes,
           strncpy 128 req.paramValue.bytes, 6, .accepted⟩⟩] ∧
      (strncpy 128 req.paramValue.bytes).bytes = List.replicate 128 0 ∧
      strncpy 128 req.paramValue.bytes ≠ req.paramValue :=
  have hc : getCameraComponent (StdMap.empty.insert 100 (some 7)) (100 : UInt8).toNat = some 7 :=
    rfl
  have h := paramExtSet_accepted_ack_echo stubOps (testServer [] (StdMap.empty.insert 100 (some 7)))
    zeroUninit gcsAddr ⟨1, 100, strncpy 16 [], ⟨0 :: 1 :: List.replicate 126 0, rfl⟩, 6⟩ hc rfl
  have hnot : ¬ ∀ x ∈ (0 :: 1 :: List.replicate 126 0 : List UInt8).dropWhile (· ≠ 0), x = 0 := by
    decide
  ⟨hc, hnot, h.1, h.2.2.1, fun he => hnot (h.2.2.2.2.mp he)⟩

example : (handleParamExtRequestList paramOps (testServer [] (StdMap.empty.insert 100 (some 7)))
    gcsAddr ⟨1, 100⟩).filterMap Event.paramIndex? = [0, 1] := by decide

end CameraStreamingDaemon
