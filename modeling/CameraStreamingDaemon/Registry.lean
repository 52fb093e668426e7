import CameraStreamingDaemon.StdMap
import CameraStreamingDaemon.Mavlink

/-!
# CameraStreamingDaemon.Registry — the camera component registry `compIdToObj`.

`MavlinkServer` binds camera components to the six MAVLink component ids `MAV_COMP_ID_CAMERA`
… `MAV_COMP_ID_CAMERA6` in a `std::map<int, CameraComponent *>`. Four functions touch it:
`addCameraComponent` (first free id, ascending), `removeCameraComponent` (first entry, in key
order, holding the pointer), `getCameraComponent` (range check, then lookup) and `_heartbeat_cb`
(one `HEARTBEAT` per entry).

§3 states what the registry is for: a table of six slots (`Slots`), with the abstract
operations written against the slots. `compIdToObj_refines` proves that over every run of adds
and removes from the empty map, every bound id lies in the camera range and each concrete
operation computes exactly its abstract counterpart on the abstraction `slotsOf`. The bridge
is two scanning lemmas (`firstIdOf_eq_find?`, `map_fst_eq_filter`): on a sorted map whose keys
lie in the ascending id list, walking the entries is walking the ids.

For a device bound nowhere, `remove` undoes `add` exactly (§5,
`removeCameraComponent_addCameraComponent`), since on registries in range the slot abstraction
determines the map (`eq_of_slotsOf_eq`). Neither `addCameraComponent` nor anything else keeps a
pointer from being bound twice, and `removeCameraComponent` returns at once on `NULL`; a second
`add` of one device therefore survives its `remove` (`removeCameraComponent_leaves_second_binding`).
§6 shows what the caller must do instead: a run that never adds a device while it is bound keeps
it at one id at most, and then `remove` of a non-null device unbinds it
(`registry_binds_device_once`).
-/

namespace CameraStreamingDaemon

/-- `MavlinkServer::compIdToObj`: component id ↦ `CameraComponent *`, `none` being `NULL`. -/
abbrev Registry (Comp : Type) := StdMap Int (Option Comp)

/-- Slot `i` of the camera range has the component id `MAV_COMP_ID_CAMERA + i`. -/
def slotId (i : Fin 6) : Int := mavCompIdCamera + i

/-- The ids the loop of `addCameraComponent` tries, `MAV_COMP_ID_CAMERA` … `_CAMERA6`. -/
def cameraIds : List Int := (List.finRange 6).map slotId

theorem slotId_inj {i j : Fin 6} : slotId i = slotId j ↔ i = j := by
  simp only [slotId, Fin.ext_iff]; omega

theorem mem_cameraIds {id : Int} : id ∈ cameraIds ↔ mavCompIdCamera ≤ id ∧ id ≤ mavCompIdCamera6 := by
  simp only [cameraIds, List.mem_map, List.mem_finRange, true_and, slotId, mavCompIdCamera,
    mavCompIdCamera6]
  constructor
  · rintro ⟨i, rfl⟩; omega
  · intro h; exact ⟨⟨(id - 100).toNat, by omega⟩, by simp; omega⟩

theorem cameraIds_sorted : cameraIds.Pairwise (· < ·) := by decide

section Operations

variable {Comp : Type} [DecidableEq Comp]

/-! ## §1 — the four functions -/

/-- The `while` loop of `addCameraComponent` over the ids it tries: the first id absent from the
map is bound to `camComp` and returned; past the last, `MAV_COMP_ID_CAMERA6 + 1` is returned. -/
def addLoop (m : Registry Comp) (camComp : Option Comp) : List Int → Registry Comp × Int
  | [] => (m, mavCompIdCamera6 + 1)
  | id :: ids => if m.find id = none then (m.insert id camComp, id) else addLoop m camComp ids

/-- `MavlinkServer::addCameraComponent`. -/
def addCameraComponent (m : Registry Comp) (camComp : Option Comp) : Registry Comp × Int :=
  addLoop m camComp cameraIds

/-- The iterator loop of `removeCameraComponent`: the id of the first entry, in key order, whose
pointer equals `camComp`. -/
def firstIdOf (camComp : Option Comp) : List (Int × Option Comp) → Option Int
  | [] => none
  | (id, c) :: rest => if c = camComp then some id else firstIdOf camComp rest

/-- `MavlinkServer::removeCameraComponent`. -/
def removeCameraComponent (m : Registry Comp) (camComp : Option Comp) : Registry Comp :=
  if camComp = none then m
  else match firstIdOf camComp m.entries with
    | some id => m.erase id
    | none => m

/-- `MavlinkServer::getCameraComponent`. -/
def getCameraComponent (m : Registry Comp) (compID : Int) : Option Comp :=
  if compID < mavCompIdCamera ∨ compID > mavCompIdCamera6 then none
  else match m.find compID with
    | some c => c
    | none => none

/-- `_heartbeat_cb`: one `HEARTBEAT` per entry of `compIdToObj`, in key order, with the entry's id
as component id, sent to the broadcast address (`_send_mavlink_message(nullptr, msg)`); a failed
send is only logged. Returns `true`, which keeps the timer. -/
def heartbeatCb (systemId : Int) (broadcastAddr : SockAddr) (m : Registry Comp) :
    List (Event Comp) × Bool :=
  (m.entries.map fun e => .send broadcastAddr ⟨systemId, e.1, .heartbeat⟩, true)

/-! ## §2 — walking the entries is walking the ids -/

/-- Every bound id lies in the camera range. -/
def InRange (m : Registry Comp) : Prop := ∀ e ∈ m.entries, e.1 ∈ cameraIds

theorem addLoop_eq (m : Registry Comp) (camComp : Option Comp) (ids : List Int) :
    addLoop m camComp ids = match ids.find? (fun id => m.find id = none) with
      | some id => (m.insert id camComp, id)
      | none => (m, mavCompIdCamera6 + 1) := by
  induction ids with
  | nil => rfl
  | cons id ids ih => by_cases h : m.find id = none <;> simp [addLoop, h, ih]

theorem find?_congr {α : Type} {p q : α → Bool} {l : List α} (h : ∀ x ∈ l, p x = q x) :
    l.find? p = l.find? q := by
  induction l with
  | nil => rfl
  | cons x xs ih => simp [List.find?_cons, h x (List.mem_cons_self _ _),
      ih fun y hy => h y (List.mem_cons_of_mem _ hy)]

/-- One step of walking a sorted entry list against an ascending id list `i :: is` that holds
its keys: the list starts with `i`'s entry, or `i` finds nothing; either way `is` holds the keys
left, on which the list finds what its tail finds. -/
theorem sorted_keys_cons {α : Type} {l : List (Int × α)} {i : Int} {is : List Int}
    (hs : l.Pairwise (fun a b => a.1 < b.1)) (hids : (i :: is).Pairwise (· < ·))
    (hk : ∀ e ∈ l, e.1 ∈ i :: is) :
    (∃ v l', l = (i, v) :: l' ∧ l'.Pairwise (fun a b => a.1 < b.1) ∧ (∀ e ∈ l', e.1 ∈ is) ∧
        ∀ id ∈ is, StdMap.findEntry id l = StdMap.findEntry id l') ∨
      (StdMap.findEntry i l = none ∧ ∀ e ∈ l, e.1 ∈ is) := by
  rw [List.pairwise_cons] at hids
  rcases l with _ | ⟨⟨k, v⟩, l'⟩
  · exact .inr ⟨rfl, fun e he => absurd he (List.not_mem_nil _)⟩
  have hs' := List.pairwise_cons.mp hs
  by_cases hki : k = i
  · subst hki
    refine .inl ⟨v, l', rfl, hs'.2, fun e he => ?_, fun id hid => ?_⟩
    · exact (List.mem_cons.mp (hk e (List.mem_cons_of_mem _ he))).resolve_left
        (ne_of_gt (hs'.1 e he))
    · simp [StdMap.findEntry, ne_of_gt (hids.1 id hid)]
  · have hkIs : k ∈ is := (List.mem_cons.mp (hk _ (List.mem_cons_self _ _))).resolve_left hki
    have hgt : ∀ e ∈ (k, v) :: l', i < e.1 := by
      intro e he
      rcases List.mem_cons.mp he with rfl | he
      · exact hids.1 _ hkIs
      · exact (hids.1 _ hkIs).trans (hs'.1 e he)
    exact .inr ⟨StdMap.findEntry_eq_none_iff.mpr fun e he => ne_of_gt (hgt e he),
      fun e he => (List.mem_cons.mp (hk e he)).resolve_left (ne_of_gt (hgt e he))⟩

theorem eq_nil_of_keys_nil {α : Type} {l : List (Int × α)} (hk : ∀ e ∈ l, e.1 ∈ ([] : List Int)) :
    l = [] :=
  List.eq_nil_iff_forall_not_mem.mpr fun e he => List.not_mem_nil _ (hk e he)

/-- The keys of a sorted entry list whose keys all lie in the ascending list `ids` are the ids
that find something, in order. -/
theorem map_fst_eq_filter {α : Type} {l : List (Int × α)} {ids : List Int}
    (hs : l.Pairwise (fun a b => a.1 < b.1)) (hids : ids.Pairwise (· < ·))
    (hk : ∀ e ∈ l, e.1 ∈ ids) :
    l.map Prod.fst = ids.filter (fun id => (StdMap.findEntry id l).isSome) := by
  induction ids generalizing l with
  | nil => rw [eq_nil_of_keys_nil hk]; rfl
  | cons i is ih =>
    have his := (List.pairwise_cons.mp hids).2
    rcases sorted_keys_cons hs hids hk with ⟨v, l', rfl, hs', hk', hfind⟩ | ⟨hnone, hk'⟩
    · rw [List.filter_cons_of_pos (by simp [StdMap.findEntry]), List.map_cons, ih hs' his hk',
        List.filter_congr fun id hid => by rw [← hfind id hid]]
    · rw [List.filter_cons_of_neg (by simp [hnone]), ih hs his hk']

/-- On a sorted entry list whose keys all lie in the ascending list `ids`, the first entry
holding `d` is the first id that finds `d`. -/
theorem firstIdOf_eq_find? {l : List (Int × Option Comp)} {ids : List Int} (d : Option Comp)
    (hs : l.Pairwise (fun a b => a.1 < b.1)) (hids : ids.Pairwise (· < ·))
    (hk : ∀ e ∈ l, e.1 ∈ ids) :
    firstIdOf d l = ids.find? (fun id => StdMap.findEntry id l = some d) := by
  induction ids generalizing l with
  | nil => rw [eq_nil_of_keys_nil hk]; rfl
  | cons i is ih =>
    have his := (List.pairwise_cons.mp hids).2
    rcases sorted_keys_cons hs hids hk with ⟨v, l', rfl, hs', hk', hfind⟩ | ⟨hnone, hk'⟩
    · by_cases hv : v = d
      · simp [firstIdOf, StdMap.findEntry, hv]
      rw [firstIdOf, if_neg hv, ih hs' his hk', List.find?_cons_of_neg _ (by
        simp [StdMap.findEntry, hv]), find?_congr fun id hid => by rw [← hfind id hid]]
    · rw [List.find?_cons_of_neg _ (by simp [hnone]), ih hs his hk']

/-! ## §3 — the abstract table of six slots -/

namespace Slots

/-- Bind `d` at the least free slot and answer its id; with every slot bound, change nothing and
answer `MAV_COMP_ID_CAMERA6 + 1`. -/
def add (t : Fin 6 → Option (Option Comp)) (d : Option Comp) :
    (Fin 6 → Option (Option Comp)) × Int :=
  match (List.finRange 6).find? (fun i => t i = none) with
  | some i => (Function.update t i (some d), slotId i)
  | none => (t, mavCompIdCamera6 + 1)

/-- Free the least slot bound to `d`; change nothing for `NULL` or for an unbound `d`. -/
def remove (t : Fin 6 → Option (Option Comp)) (d : Option Comp) : Fin 6 → Option (Option Comp) :=
  if d = none then t
  else match (List.finRange 6).find? (fun i => t i = some d) with
    | some i => Function.update t i none
    | none => t

/-- The device bound at the slot of `id`; `NULL` for a free slot and for every other int. -/
def get (t : Fin 6 → Option (Option Comp)) (id : Int) : Option Comp :=
  match (List.finRange 6).find? (fun i => slotId i = id) with
  | some i => (t i).getD none
  | none => none

/-- One `HEARTBEAT` per bound slot, ascending, with the slot's id as component id. -/
def heartbeats (systemId : Int) (broadcastAddr : SockAddr) (t : Fin 6 → Option (Option Comp)) :
    List (Event Comp) :=
  ((List.finRange 6).filter fun i => (t i).isSome).map
    fun i => .send broadcastAddr ⟨systemId, slotId i, .heartbeat⟩

end Slots

/-- The abstraction: slot `i` holds what `compIdToObj` maps `MAV_COMP_ID_CAMERA + i` to. -/
def slotsOf (m : Registry Comp) : Fin 6 → Option (Option Comp) := fun i => m.find (slotId i)

omit [DecidableEq Comp] in
theorem slotsOf_insert {m : Registry Comp} {i : Fin 6} (d : Option Comp)
    (h : m.find (slotId i) = none) :
    slotsOf (m.insert (slotId i) d) = Function.update (slotsOf m) i (some d) := by
  funext j
  by_cases hj : j = i
  · subst hj; simp [slotsOf, StdMap.find_insert_of_none d h]
  · simp [slotsOf, hj, StdMap.find_insert_ne _ _ (slotId_inj.not.mpr (Ne.symm hj))]

omit [DecidableEq Comp] in
theorem slotsOf_erase (m : Registry Comp) (i : Fin 6) :
    slotsOf (m.erase (slotId i)) = Function.update (slotsOf m) i none := by
  funext j
  by_cases hj : j = i
  · subst hj; simp [slotsOf]
  · simp [slotsOf, hj, StdMap.find_erase_ne _ (slotId_inj.not.mpr (Ne.symm hj))]

/-- `addCameraComponent` computes `Slots.add` on the abstraction. -/
theorem addCameraComponent_slots (m : Registry Comp) (d : Option Comp) :
    (slotsOf (addCameraComponent m d).1, (addCameraComponent m d).2) =
      Slots.add (slotsOf m) d := by
  have hp : ((fun id => decide (m.find id = none)) ∘ slotId) =
      (fun i => decide (slotsOf m i = none)) := rfl
  rw [addCameraComponent, addLoop_eq, cameraIds, List.find?_map, hp, Slots.add]
  cases h : (List.finRange 6).find? (fun i => slotsOf m i = none) with
  | none => rfl
  | some i =>
    have hi : m.find (slotId i) = none := by simpa [slotsOf] using List.find?_some h
    simp only [Option.map_some', slotsOf_insert d hi]

theorem slotsOf_addCameraComponent (m : Registry Comp) (d : Option Comp) :
    slotsOf (addCameraComponent m d).1 = (Slots.add (slotsOf m) d).1 :=
  congrArg Prod.fst (addCameraComponent_slots m d)

/-- On a registry with every key in range, `removeCameraComponent` computes `Slots.remove`. -/
theorem removeCameraComponent_slots {m : Registry Comp} (hr : InRange m) (d : Option Comp) :
    slotsOf (removeCameraComponent m d) = Slots.remove (slotsOf m) d := by
  have hp : ((fun id => decide (StdMap.findEntry id m.entries = some d)) ∘ slotId) =
      (fun i => decide (slotsOf m i = some d)) := rfl
  rw [removeCameraComponent, Slots.remove]
  split_ifs
  · rfl
  rw [firstIdOf_eq_find? d m.sorted cameraIds_sorted hr, cameraIds, List.find?_map, hp]
  cases (List.finRange 6).find? (fun i => slotsOf m i = some d) with
  | none => rfl
  | some i => exact slotsOf_erase m i

omit [DecidableEq Comp] in
/-- `getCameraComponent` computes `Slots.get`. -/
theorem getCameraComponent_slots (m : Registry Comp) (id : Int) :
    getCameraComponent m id = Slots.get (slotsOf m) id := by
  rw [getCameraComponent, Slots.get]
  split_ifs with hout
  · have : ∀ i ∈ List.finRange 6, ¬ decide (slotId i = id) = true := fun i _ => by
      have := i.isLt
      simp only [slotId, mavCompIdCamera, mavCompIdCamera6, decide_eq_true_eq] at hout ⊢
      omega
    rw [List.find?_eq_none.mpr this]
  · obtain ⟨i, -, rfl⟩ := List.mem_map.mp ((@mem_cameraIds id).mpr (by
      simp only [mavCompIdCamera, mavCompIdCamera6] at hout ⊢; omega))
    obtain ⟨j, hj⟩ := Option.isSome_iff_exists.mp
      ((List.find?_isSome (p := fun j => decide (slotId j = slotId i))).mpr
        ⟨i, List.mem_finRange i, by simp⟩)
    have hji := List.find?_some hj
    obtain rfl : j = i := slotId_inj.mp (of_decide_eq_true hji)
    rw [hj]
    cases h : m.find (slotId j) <;> simp [slotsOf, h]

omit [DecidableEq Comp] in
/-- On a registry with every key in range, `_heartbeat_cb` computes `Slots.heartbeats`. -/
theorem heartbeatCb_slots {m : Registry Comp} (hr : InRange m) (systemId : Int)
    (broadcastAddr : SockAddr) :
    heartbeatCb systemId broadcastAddr m = (Slots.heartbeats systemId broadcastAddr (slotsOf m), true) := by
  have hkeys := map_fst_eq_filter m.sorted cameraIds_sorted hr
  rw [cameraIds, List.filter_map] at hkeys
  rw [heartbeatCb, Slots.heartbeats]
  congr 1
  calc m.entries.map (fun e => Event.send broadcastAddr ⟨systemId, e.1, .heartbeat⟩)
      = (m.entries.map Prod.fst).map
          (fun id => Event.send broadcastAddr ⟨systemId, id, .heartbeat⟩) := by
        rw [List.map_map]; rfl
    _ = _ := by rw [hkeys, List.map_map]; rfl

/-! ## §4 — every run from the empty registry -/

omit [DecidableEq Comp] in
theorem inRange_empty : InRange (StdMap.empty : Registry Comp) := by simp [InRange, StdMap.empty]

theorem inRange_addCameraComponent {m : Registry Comp} (hr : InRange m) (d : Option Comp) :
    InRange (addCameraComponent m d).1 := by
  rw [addCameraComponent, addLoop_eq]
  cases h : cameraIds.find? (fun id => m.find id = none) with
  | none => exact hr
  | some id =>
    intro e he
    rcases StdMap.mem_insertEntry he with rfl | he
    · exact List.mem_of_find?_eq_some h
    · exact hr e he

theorem inRange_removeCameraComponent {m : Registry Comp} (hr : InRange m) (d : Option Comp) :
    InRange (removeCameraComponent m d) := by
  rw [removeCameraComponent]
  split_ifs
  · exact hr
  split
  · exact fun e he => hr e ((StdMap.eraseEntry_sublist _ _).subset he)
  · exact hr

/-- A call a caller can make on the registry. -/
inductive RegistryCall (Comp : Type)
  | add (camComp : Option Comp)
  | remove (camComp : Option Comp)

/-- One call's effect on `compIdToObj`. -/
def RegistryCall.apply : RegistryCall Comp → Registry Comp → Registry Comp
  | .add c, m => (addCameraComponent m c).1
  | .remove c, m => removeCameraComponent m c

/-- `compIdToObj` after a run of calls from the empty map. -/
def runRegistry (calls : List (RegistryCall Comp)) : Registry Comp :=
  calls.foldl (fun m c => c.apply m) StdMap.empty

theorem inRange_apply {m : Registry Comp} (hr : InRange m) : ∀ c : RegistryCall Comp,
    InRange (c.apply m)
  | .add d => inRange_addCameraComponent hr d
  | .remove d => inRange_removeCameraComponent hr d

theorem inRange_foldl (calls : List (RegistryCall Comp)) {m : Registry Comp} (hr : InRange m) :
    InRange (calls.foldl (fun m c => c.apply m) m) := by
  induction calls generalizing m with
  | nil => exact hr
  | cons c rest ih => exact ih (inRange_apply hr c)

/-- **`compIdToObj` refines the table of six slots.** After any run of `addCameraComponent` and
`removeCameraComponent` calls from the empty registry: (1) every bound id lies in
`[MAV_COMP_ID_CAMERA, MAV_COMP_ID_CAMERA6]`; (2) `addCameraComponent` binds at the least free
slot and returns its id, and with every slot bound returns `MAV_COMP_ID_CAMERA6 + 1` and changes
nothing; (3) `removeCameraComponent` frees exactly the least slot bound to the device, and
nothing for `NULL` or an unbound device; (4) `getCameraComponent` reads the slot of an id of the
camera range and answers `NULL` for every other int; (5) `_heartbeat_cb` sends one `HEARTBEAT`
per bound slot, ascending, with the slot's id as component id. -/
theorem compIdToObj_refines (calls : List (RegistryCall Comp)) :
    let m := runRegistry calls
    (∀ e ∈ m.entries, mavCompIdCamera ≤ e.1 ∧ e.1 ≤ mavCompIdCamera6) ∧
    (∀ d, (slotsOf (addCameraComponent m d).1, (addCameraComponent m d).2) =
        Slots.add (slotsOf m) d ∧
      ((addCameraComponent m d).2 = mavCompIdCamera6 + 1 → (addCameraComponent m d).1 = m)) ∧
    (∀ d, slotsOf (removeCameraComponent m d) = Slots.remove (slotsOf m) d) ∧
    (∀ id, getCameraComponent m id = Slots.get (slotsOf m) id) ∧
    (∀ systemId broadcastAddr, heartbeatCb systemId broadcastAddr m =
      (Slots.heartbeats systemId broadcastAddr (slotsOf m), true)) := by
  intro m
  have hr : InRange m := inRange_foldl calls inRange_empty
  refine ⟨fun e he => mem_cameraIds.mp (hr e he), fun d => ⟨addCameraComponent_slots m d, ?_⟩,
    removeCameraComponent_slots hr, getCameraComponent_slots m, heartbeatCb_slots hr⟩
  rw [addCameraComponent, addLoop_eq]
  cases h : cameraIds.find? (fun id => m.find id = none) with
  | none => exact fun _ => rfl
  | some id =>
    intro hid
    have := mem_cameraIds.mp (List.mem_of_find?_eq_some h)
    simp only at hid
    omega

/-! ## §5 — removing a device undoes adding it -/

omit [DecidableEq Comp] in
/-- Under `InRange`, every key outside the camera range is unbound. -/
theorem find_eq_none_of_not_mem {m : Registry Comp} (hr : InRange m) {k : Int}
    (hk : k ∉ cameraIds) : m.find k = none :=
  StdMap.findEntry_eq_none_iff.mpr fun e he hek => hk (hek ▸ hr e he)

omit [DecidableEq Comp] in
/-- On registries with every key in range, the slot abstraction loses nothing. -/
theorem eq_of_slotsOf_eq {m m' : Registry Comp} (hr : InRange m) (hr' : InRange m')
    (h : slotsOf m = slotsOf m') : m = m' :=
  StdMap.ext_find fun k => by
    by_cases hk : k ∈ cameraIds
    · obtain ⟨i, -, rfl⟩ := List.mem_map.mp hk
      exact congrFun h i
    · rw [find_eq_none_of_not_mem hr hk, find_eq_none_of_not_mem hr' hk]

/-- On the slots: removing a non-null device bound nowhere right after adding it frees the slot
the add took, or, with every slot taken, finds nothing to free. -/
theorem Slots.remove_add {t : Fin 6 → Option (Option Comp)} {d : Option Comp} (hd : d ≠ none)
    (hfresh : ∀ i, t i ≠ some d) : Slots.remove (Slots.add t d).1 d = t := by
  unfold Slots.add
  cases hf : (List.finRange 6).find? (fun i => t i = none) with
  | none =>
    simp only [Slots.remove, hd, if_false]
    rw [List.find?_eq_none.mpr fun i _ => by simpa using hfresh i]
  | some i =>
    have hi : t i = none := by simpa using List.find?_some hf
    have hfirst : ∀ i : Fin 6, (List.finRange 6).find? (fun j => j = i) = some i := by decide
    have hsel : (List.finRange 6).find? (fun j => Function.update t i (some d) j = some d) =
        some i := by
      rw [← hfirst i]
      refine find?_congr fun j _ => ?_
      by_cases hj : j = i
      · subst hj; simp
      · simp [hj, hfresh j]
    simp only [Slots.remove, hd, if_false, hsel, Function.update_idem]
    exact hi ▸ Function.update_eq_self i t

/-- **Removing undoes adding a new device.** On a registry with every key in range, adding a
non-null device that no id is bound to and then removing it gives back the registry: the id the
add bound is freed again, or, with every slot taken, neither call changes anything. -/
theorem removeCameraComponent_addCameraComponent {m : Registry Comp} (hr : InRange m)
    {d : Option Comp} (hd : d ≠ none) (hfresh : ∀ e ∈ m.entries, e.2 ≠ d) :
    removeCameraComponent (addCameraComponent m d).1 d = m := by
  have hadd := inRange_addCameraComponent hr d
  refine eq_of_slotsOf_eq (inRange_removeCameraComponent hadd d) hr ?_
  rw [removeCameraComponent_slots hadd, slotsOf_addCameraComponent]
  exact Slots.remove_add hd fun i hi => hfresh _ (StdMap.find_eq_some_iff.mp hi) rfl

/-! ## §6 — a device added only while unbound holds one id -/

/-- The device `d` occupies at most one slot. -/
def Slots.BoundOnce (d : Option Comp) (t : Fin 6 → Option (Option Comp)) : Prop :=
  ∀ i j, t i = some d → t j = some d → i = j

/-- Whether `call`, made on `m`, adds the device `d` while an id is bound to it. -/
def RegistryCall.rebinds (d : Option Comp) (m : Registry Comp) : RegistryCall Comp → Bool
  | .add c => c = d && m.entries.any fun e => e.2 = d
  | .remove _ => false

/-- Whether a run of calls from `m` never adds the device `d` while an id is bound to it. A run
that adds `d` at most once is such a run. -/
def addsUnbound (d : Option Comp) (m : Registry Comp) : List (RegistryCall Comp) → Bool
  | [] => true
  | c :: cs => !c.rebinds d m && addsUnbound d (c.apply m) cs

omit [DecidableEq Comp] in
theorem Slots.update_eq_some {t : Fin 6 → Option (Option Comp)} {i j : Fin 6} {c d : Option Comp} :
    Function.update t i (some c) j = some d ↔ j = i ∧ c = d ∨ j ≠ i ∧ t j = some d := by
  by_cases hj : j = i
  · subst hj; simp
  · simp [hj]

/-- Adding a device other than `d`, or `d` while no slot holds it, keeps `d` in at most one
slot. -/
theorem Slots.boundOnce_add {t : Fin 6 → Option (Option Comp)} {d : Option Comp}
    (h : Slots.BoundOnce d t) (c : Option Comp) (hc : c = d → ∀ i, t i ≠ some d) :
    Slots.BoundOnce d (Slots.add t c).1 := by
  unfold Slots.add
  cases (List.finRange 6).find? (fun i => t i = none) with
  | none => exact h
  | some i =>
    intro j k hj hk
    rw [Slots.update_eq_some] at hj hk
    rcases hj with ⟨rfl, hcj⟩ | ⟨-, hj⟩ <;> rcases hk with ⟨rfl, hck⟩ | ⟨-, hk⟩
    · rfl
    · exact absurd hk (hc hcj k)
    · exact absurd hj (hc hck j)
    · exact h j k hj hk

/-- A slot `Slots.remove` leaves bound held the same device before. -/
theorem Slots.remove_eq_some {t : Fin 6 → Option (Option Comp)} {c d : Option Comp} {j : Fin 6}
    (h : Slots.remove t c j = some d) : t j = some d := by
  unfold Slots.remove at h
  split_ifs at h
  · exact h
  cases hf : (List.finRange 6).find? (fun i => t i = some c) with
  | none => rwa [hf] at h
  | some i =>
    rw [hf] at h
    by_cases hj : j = i
    · subst hj; simp at h
    · simpa only [Function.update_noteq hj] using h

theorem Slots.boundOnce_remove {t : Fin 6 → Option (Option Comp)} {d : Option Comp}
    (h : Slots.BoundOnce d t) (c : Option Comp) : Slots.BoundOnce d (Slots.remove t c) :=
  fun i j hi hj => h i j (Slots.remove_eq_some hi) (Slots.remove_eq_some hj)

/-- Removing a non-null device that holds at most one slot leaves no slot holding it. -/
theorem Slots.remove_unbinds {t : Fin 6 → Option (Option Comp)} {d : Option Comp} (hd : d ≠ none)
    (h : Slots.BoundOnce d t) (j : Fin 6) : Slots.remove t d j ≠ some d := by
  simp only [Slots.remove, hd, if_false]
  cases hf : (List.finRange 6).find? (fun i => t i = some d) with
  | none => simpa using List.find?_eq_none.mp hf j (List.mem_finRange j)
  | some i =>
    have hi : t i = some d := by simpa using List.find?_some hf
    by_cases hj : j = i
    · subst hj; simp
    · simp only [Function.update_noteq hj]
      exact fun hd' => hj (h j i hd' hi)

omit [DecidableEq Comp] in
/-- Under `InRange`, an id bound to anything is the id of a slot. -/
theorem eq_slotId_of_find {m : Registry Comp} (hr : InRange m) {id : Int} {d : Option Comp}
    (h : m.find id = some d) : ∃ i, slotId i = id := by
  obtain ⟨i, -, hi⟩ := List.mem_map.mp (hr _ (StdMap.find_eq_some_iff.mp h))
  exact ⟨i, hi⟩

omit [DecidableEq Comp] in
theorem find_eq_some_inj {m : Registry Comp} (hr : InRange m) {d : Option Comp}
    (h : Slots.BoundOnce d (slotsOf m)) {id id' : Int} (hid : m.find id = some d)
    (hid' : m.find id' = some d) : id = id' := by
  obtain ⟨i, rfl⟩ := eq_slotId_of_find hr hid
  obtain ⟨j, rfl⟩ := eq_slotId_of_find hr hid'
  rw [h i j hid hid']

/-- One call that does not re-add `d` keeps it in at most one slot. -/
theorem boundOnce_apply {m : Registry Comp} (hr : InRange m) {d : Option Comp}
    (h : Slots.BoundOnce d (slotsOf m)) (c : RegistryCall Comp) (hc : c.rebinds d m = false) :
    Slots.BoundOnce d (slotsOf (c.apply m)) := by
  cases c with
  | add c =>
    rw [RegistryCall.apply, slotsOf_addCameraComponent]
    refine Slots.boundOnce_add h c fun hcd i hi => ?_
    simp [RegistryCall.rebinds, hcd] at hc
    exact hc _ _ (StdMap.find_eq_some_iff.mp hi) rfl
  | remove c =>
    rw [RegistryCall.apply, removeCameraComponent_slots hr]
    exact Slots.boundOnce_remove h c

theorem boundOnce_foldl (d : Option Comp) : ∀ (calls : List (RegistryCall Comp)) {m : Registry Comp},
    InRange m → Slots.BoundOnce d (slotsOf m) → addsUnbound d m calls = true →
      Slots.BoundOnce d (slotsOf (calls.foldl (fun m c => c.apply m) m))
  | [], _, _, h, _ => h
  | c :: cs, m, hr, h, hcalls => by
    simp only [addsUnbound, Bool.and_eq_true, Bool.not_eq_true'] at hcalls
    exact boundOnce_foldl d cs (inRange_apply hr c) (boundOnce_apply hr h c hcalls.1) hcalls.2

/-- **A device added only while unbound holds at most one id.** Take any run of
`addCameraComponent` and `removeCameraComponent` calls from the empty registry that never adds
the device `d` while an id is bound to it, for example one that adds `d` at most once. Then at
most one id is bound to `d`, `NULL` included. If `d` is not `NULL`, then after
`removeCameraComponent(d)` no id is bound to `d`: `getCameraComponent` never yields it, and every
`HEARTBEAT` `_heartbeat_cb` sends is for an id bound to another device. -/
theorem registry_binds_device_once (d : Option Comp) (calls : List (RegistryCall Comp))
    (hcalls : addsUnbound d StdMap.empty calls = true) :
    let m := runRegistry calls
    (∀ id id', m.find id = some d → m.find id' = some d → id = id') ∧
    (d ≠ none → let m' := removeCameraComponent m d
      (∀ id, m'.find id ≠ some d) ∧ (∀ id, getCameraComponent m' id ≠ d) ∧
      ∀ systemId broadcastAddr, ∀ e ∈ (heartbeatCb systemId broadcastAddr m').1,
        ∃ id c, e = .send broadcastAddr ⟨systemId, id, .heartbeat⟩ ∧ m'.find id = some c ∧ c ≠ d) := by
  intro m
  have hr : InRange m := inRange_foldl calls inRange_empty
  have h : Slots.BoundOnce d (slotsOf m) :=
    boundOnce_foldl d calls inRange_empty (fun _ _ hi => nomatch hi) hcalls
  refine ⟨fun id id' => find_eq_some_inj hr h, fun hd => ?_⟩
  have hr' := inRange_removeCameraComponent hr d
  have hfree : ∀ id, (removeCameraComponent m d).find id ≠ some d := fun id hid => by
    obtain ⟨i, rfl⟩ := eq_slotId_of_find hr' hid
    have hslot : slotsOf (removeCameraComponent m d) i = some d := hid
    rw [removeCameraComponent_slots hr] at hslot
    exact Slots.remove_unbinds hd h i hslot
  refine ⟨hfree, fun id => ?_, fun systemId broadcastAddr e he => ?_⟩
  · unfold getCameraComponent
    split_ifs
    · exact hd.symm
    split
    · rename_i c hc
      exact fun hcd => hfree id (hcd ▸ hc)
    · exact hd.symm
  · obtain ⟨⟨id, c⟩, hmem, rfl⟩ := List.mem_map.mp he
    have hc := StdMap.find_eq_some_iff.mpr hmem
    exact ⟨id, c, rfl, hc, fun hcd => hfree id (hcd ▸ hc)⟩

end Operations

/-- The device `7` added, removed and added again: the run never adds it while it is bound, so
the law applies at id `100`, where the second add binds it. -/
theorem registry_binds_device_once_readd :
    let calls : List (RegistryCall Nat) :=
      [.add (some 7), .add (some 8), .remove (some 7), .add (some 7)]
    addsUnbound (some 7) StdMap.empty calls = true ∧ some 7 ≠ none ∧
      (removeCameraComponent (runRegistry calls) (some 7)).find 100 ≠ some (some 7) :=
  ⟨by decide, by decide,
    ((registry_binds_device_once (some 7) [.add (some 7), .add (some 8), .remove (some 7),
      .add (some 7)] (by decide)).2 (by decide)).1 100⟩

/-- Two devices bound at `100` and `101`: a third one is bound at `102` and removed from there. -/
theorem removeCameraComponent_addCameraComponent_third :
    let m : Registry Nat := (StdMap.empty.insert 100 (some 3)).insert 101 (some 4)
    removeCameraComponent (addCameraComponent m (some 7)).1 (some 7) = m ∧
      (addCameraComponent m (some 7)).2 = 102 :=
  have h := removeCameraComponent_addCameraComponent
    (m := (StdMap.empty.insert 100 (some 3)).insert 101 (some 4)) (by unfold InRange; decide)
    (d := some 7)
    (by decide) (by decide)
  ⟨h, by decide⟩

/-- The failing input of the at-most-one-binding law: adding the device `7` twice binds it at
`MAV_COMP_ID_CAMERA` and `MAV_COMP_ID_CAMERA2`, and removing it frees only the first, so
`getCameraComponent(101)` still yields it and `_heartbeat_cb` still sends a `HEARTBEAT` for it.
Likewise a `NULL` added is never removed, `removeCameraComponent(NULL)` returning at once. -/
theorem removeCameraComponent_leaves_second_binding :
    let m : Registry Nat :=
      runRegistry [RegistryCall.add (some 7), .add (some 7), .remove (some 7)]
    let n := runRegistry [RegistryCall.add (none : Option Nat), .remove none]
    m.find 100 = none ∧ m.find 101 = some (some 7) ∧ getCameraComponent m 101 = some 7 ∧
      (heartbeatCb 1 ⟨0xFFFFFFFF, 14550⟩ m).1 = [.send ⟨0xFFFFFFFF, 14550⟩ ⟨1, 101, .heartbeat⟩] ∧
      n.find 100 = some none ∧
      (heartbeatCb 1 ⟨0xFFFFFFFF, 14550⟩ n).1 = [.send ⟨0xFFFFFFFF, 14550⟩ ⟨1, 100, .heartbeat⟩] := by
  decide

end CameraStreamingDaemon
