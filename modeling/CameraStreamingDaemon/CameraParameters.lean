import CameraStreamingDaemon.StdMap

/-!
# CameraStreamingDaemon.CameraParameters — the per-camera parameter store.

`CameraParameters` (`src/CameraParameters.cpp`) keeps three `std::map`s: the current value of each
parameter (`paramValue`), one supported value per parameter (`paramValuesSupported`) and the
schema, name ↦ (id, type) (`paramIdType`). Every write goes through the private `set`, which calls
`std::map::insert`; every read of a value goes through `get`, which answers `""` for a missing key.

Because `insert` keeps an existing entry, the store is **first write wins**: a `setParameter` on a
key that already holds a value returns `1` and changes nothing (`setParameter_of_find_eq_some`).
Over any run of calls from construction, the value read back is the value of the *first*
`setParameter` of that key (`getParameter_run`), not the last one. Writes to one key never touch
another (`getParameter_setParameter_ne`).
-/

namespace CameraStreamingDaemon

/-- Modelled from the spec: the `PARAM_ID_*` enumeration of `CameraParameters.h`, which is not
among the sources. The spec (§3) fixes the closed set of names and that name ↔ id is a bijection;
the numeric values are not needed, so the ids stay symbolic. -/
inductive ParamId
  | cameraMode | brightness | contrast | saturation | hue | whiteBalanceMode | gamma | gain
  | powerLineFreqMode | whiteBalanceTemperature | sharpness | backlightCompensation
  | exposureMode | exposureAbsolute | imageSize | imageFormat | pixelFormat | sceneMode
  | videoSize | videoFrameFormat | videoSnapshotSupported
  deriving DecidableEq, Repr

/-- Modelled from the spec: the `PARAM_TYPE_*` enumeration of `CameraParameters.h` (§3 of the
spec: `{UINT8, INT32, UINT32, REAL32}`). -/
inductive ParamType
  | uint8 | int32 | uint32 | real32
  deriving DecidableEq, Repr

/-- The three maps of a `CameraParameters` object. -/
structure CameraParameters where
  paramValuesSupported : StdMap String String
  paramValue : StdMap String String
  paramIdType : StdMap String (ParamId × ParamType)

namespace CameraParameters

/-! ## §1 — the schema table of `initParamIdType` -/

/-- The `(name, id, type)` triples `initParamIdType` passes to `set`, in the source's order;
`WHITE_BALANCE_MODE` is set twice, as in the source. -/
def initParamIdTable : List (String × ParamId × ParamType) :=
  [("camera-mode", .cameraMode, .uint32), ("brightness", .brightness, .uint32),
   ("contrast", .contrast, .uint32), ("saturation", .saturation, .uint32),
   ("hue", .hue, .int32), ("wb-mode", .whiteBalanceMode, .uint32), ("gamma", .gamma, .uint32),
   ("gain", .gain, .uint32), ("power-mode", .powerLineFreqMode, .uint32),
   ("wb-temp", .whiteBalanceTemperature, .uint32), ("sharpness", .sharpness, .uint32),
   ("backlight", .backlightCompensation, .uint32), ("exp-mode", .exposureMode, .uint32),
   ("exp-absolute", .exposureAbsolute, .uint32), ("image-size", .imageSize, .uint32),
   ("image-format", .imageFormat, .uint32), ("pixel-format", .pixelFormat, .uint32),
   ("wb-mode", .whiteBalanceMode, .uint32), ("scene-mode", .sceneMode, .uint32),
   ("video-size", .videoSize, .uint32), ("video-format", .videoFrameFormat, .uint32),
   ("video-snapshot", .videoSnapshotSupported, .uint32)]

/-! ## §2 — the member functions -/

/-- `CameraParameters::set` (both overloads): `pMap.insert(std::make_pair(key, value))`. -/
def set {α : Type} (pMap : StdMap String α) (key : String) (value : α) : StdMap String α :=
  pMap.insert key value

/-- `CameraParameters::get`: the stored value, or `""` when the key is absent. -/
def get (pMap : StdMap String String) (key : String) : String :=
  (pMap.find key).getD ""

/-- `CameraParameters::initParamIdType`. -/
def initParamIdType (p : CameraParameters) : CameraParameters :=
  { p with paramIdType := initParamIdTable.foldl (fun m e => set m e.1 e.2) p.paramIdType }

/-- The constructor `CameraParameters()`: empty maps, then `initParamIdType`. -/
def create : CameraParameters :=
  initParamIdType ⟨StdMap.empty, StdMap.empty, StdMap.empty⟩

/-- `CameraParameters::setParameterSupported`; returns `1`. -/
def setParameterSupported (p : CameraParameters) (key value : String) : CameraParameters × Int :=
  ({ p with paramValuesSupported := set p.paramValuesSupported key value }, 1)

/-- `CameraParameters::setParameter`; returns `1`. -/
def setParameter (p : CameraParameters) (key value : String) : CameraParameters × Int :=
  ({ p with paramValue := set p.paramValue key value }, 1)

/-- `CameraParameters::getParameter`. -/
def getParameter (p : CameraParameters) (key : String) : String :=
  get p.paramValue key

/-- `CameraParameters::getParameterID`; the source's `-1` for an unknown name is `none`. -/
def getParameterID (p : CameraParameters) (param : String) : Option ParamId :=
  (p.paramIdType.find param).map Prod.fst

/-- `CameraParameters::getParameterType`; the source's `-1` for an unknown name is `none`. -/
def getParameterType (p : CameraParameters) (param : String) : Option ParamType :=
  (p.paramIdType.find param).map Prod.snd

/-! ## §3 — the store laws -/

@[simp] theorem setParameter_snd (p : CameraParameters) (key value : String) :
    (p.setParameter key value).2 = 1 := rfl

@[simp] theorem setParameterSupported_snd (p : CameraParameters) (key value : String) :
    (p.setParameterSupported key value).2 = 1 := rfl

@[simp] theorem setParameterSupported_paramValue (p : CameraParameters) (key value : String) :
    (p.setParameterSupported key value).1.paramValue = p.paramValue := rfl

/-- A write to one key leaves every other key's value as it was. -/
theorem getParameter_setParameter_ne (p : CameraParameters) {key key' : String} (value : String)
    (h : key ≠ key') : (p.setParameter key value).1.getParameter key' = p.getParameter key' := by
  simp [setParameter, getParameter, get, set, h]

/-- A write to a key that holds no value stores it. -/
theorem getParameter_setParameter_of_none {p : CameraParameters} {key : String} (value : String)
    (h : p.paramValue.find key = none) : (p.setParameter key value).1.getParameter key = value := by
  simp [setParameter, getParameter, get, set, StdMap.find_insert_of_none value h]

/-- **First write wins.** A write to a key that already holds a value changes nothing at all. -/
theorem setParameter_of_find_eq_some {p : CameraParameters} {key u : String} (value : String)
    (h : p.paramValue.find key = some u) : (p.setParameter key value).1 = p := by
  simp [setParameter, set, StdMap.insert_of_find_eq_some value h]

/-! ## §4 — whole runs of calls -/

/-- The two mutators a caller can invoke on the store. -/
inductive Call
  | setParameter (key value : String)
  | setParameterSupported (key value : String)

/-- One call's effect on the store. -/
def Call.apply : Call → CameraParameters → CameraParameters
  | .setParameter k v, p => (p.setParameter k v).1
  | .setParameterSupported k v, p => (p.setParameterSupported k v).1

/-- The store after a run of calls. -/
def run (p : CameraParameters) (calls : List Call) : CameraParameters :=
  calls.foldl (fun q c => c.apply q) p

/-- The value of the first `setParameter` of `key` in a run, if any. -/
def firstWrite (key : String) : List Call → Option String
  | [] => none
  | .setParameter k v :: rest => if k = key then some v else firstWrite key rest
  | .setParameterSupported _ _ :: rest => firstWrite key rest

/-- The value held under `key` after a run: an existing value is kept, else the run's first
write to `key` lands. -/
theorem find_run (p : CameraParameters) (key : String) (calls : List Call) :
    (run p calls).paramValue.find key = (p.paramValue.find key).or (firstWrite key calls) := by
  induction calls generalizing p with
  | nil => simp [run, firstWrite]
  | cons c rest ih =>
    cases c with
    | setParameterSupported k v => exact ih _
    | setParameter k v =>
      simp only [run, List.foldl_cons, Call.apply] at ih ⊢
      rw [ih]
      by_cases hk : k = key
      · subst hk
        cases h : p.paramValue.find k with
        | none => simp [firstWrite, setParameter, set, StdMap.find_insert_of_none v h]
        | some u => simp [firstWrite, setParameter_of_find_eq_some v h, h]
      · simp [firstWrite, hk, setParameter, set]

/-- **The store over every run from construction.** `getParameter key` reads the value of the
first `setParameter key` of the run (`""` if there is none): later writes to the key are lost. -/
theorem getParameter_run (key : String) (calls : List Call) :
    (run create calls).getParameter key = (firstWrite key calls).getD "" := by
  simp [getParameter, get, find_run, create, initParamIdType]

/-- The failing input of the last-write-wins law: after `brightness` is set to `"64"`, a second
`setParameter("brightness", "128")` returns `1` and `getParameter("brightness")` still reads `"64"`. -/
theorem setParameter_keeps_first_value :
    let p : CameraParameters := (create.setParameter "brightness" "64").1
    (p.setParameter "brightness" "128").2 = 1 ∧
      (p.setParameter "brightness" "128").1.getParameter "brightness" = "64" := by
  have h := getParameter_run "brightness"
    [.setParameter "brightness" "64", .setParameter "brightness" "128"]
  exact ⟨rfl, by simpa [run, Call.apply, firstWrite] using h⟩

end CameraParameters

end CameraStreamingDaemon
