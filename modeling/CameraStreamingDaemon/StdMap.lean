import Mathlib

/-!
# CameraStreamingDaemon.StdMap — `std::map` as a key-sorted entry list.

The daemon keeps its state in `std::map`s: the parameter store of `CameraParameters`
(`map<string, string>`, `map<string, pair<int, int>>`) and the component registry of
`MavlinkServer` (`map<int, CameraComponent *>`). Three behaviours of the container decide the
properties proved later, and the model keeps all three:

* iteration runs in ascending key order (`_heartbeat_cb`, `removeCameraComponent` and
  `_handle_param_ext_request_list` all walk the map from `begin()`);
* a key occurs at most once;
* `insert` does **not** overwrite: inserting a key that is present leaves the map as it was.

`StdMap κ α` carries its entries in iteration order together with the proof that the keys
ascend strictly, so a map with a repeated or misplaced key cannot be built. The entry-list
engine (§1) is proved once, by induction on the list; §2 lifts it to the map operations the
C++ code calls, and callers never unfold the engine again.
-/

namespace CameraStreamingDaemon

/-- A `std::map<κ, α>`: its entries in iteration order, with strictly ascending keys. -/
structure StdMap (κ α : Type) [LinearOrder κ] where
  entries : List (κ × α)
  sorted : entries.Pairwise (fun a b => a.1 < b.1)

namespace StdMap

variable {κ α : Type} [LinearOrder κ]

/-! ## §1 — the entry-list engine -/

/-- The value stored under `k`, scanning the entries in order (`std::map::find`). -/
def findEntry (k : κ) : List (κ × α) → Option α
  | [] => none
  | (k', v) :: rest => if k = k' then some v else findEntry k rest

/-- `std::map::insert`: the entry goes to its sorted place, unless the key is already present,
in which case the entries stay as they were. -/
def insertEntry (k : κ) (v : α) : List (κ × α) → List (κ × α)
  | [] => [(k, v)]
  | (k', v') :: rest =>
    if k < k' then (k, v) :: (k', v') :: rest
    else if k = k' then (k', v') :: rest
    else (k', v') :: insertEntry k v rest

/-- `std::map::erase(key)`. -/
def eraseEntry (k : κ) : List (κ × α) → List (κ × α)
  | [] => []
  | (k', v') :: rest => if k = k' then rest else (k', v') :: eraseEntry k rest

theorem findEntry_eq_none_iff {k : κ} {l : List (κ × α)} :
    findEntry k l = none ↔ ∀ e ∈ l, e.1 ≠ k := by
  induction l with
  | nil => simp [findEntry]
  | cons e rest ih =>
    obtain ⟨k', v⟩ := e
    by_cases h : k = k' <;> simp [findEntry, h, ih, eq_comm, -IsEmpty.forall_iff]

theorem mem_of_findEntry {k : κ} {v : α} {l : List (κ × α)} (h : findEntry k l = some v) :
    (k, v) ∈ l := by
  induction l with
  | nil => simp [findEntry] at h
  | cons e rest ih =>
    obtain ⟨k', v'⟩ := e
    by_cases hk : k = k'
    · subst hk
      simp only [findEntry, if_true, Option.some.injEq] at h
      exact h ▸ List.mem_cons_self _ _
    · simp only [findEntry, hk, if_false] at h
      exact List.mem_cons_of_mem _ (ih h)

/-- On a sorted entry list, `find` returns exactly the value paired with the key. -/
theorem findEntry_eq_some_iff {k : κ} {v : α} {l : List (κ × α)}
    (hs : l.Pairwise (fun a b => a.1 < b.1)) : findEntry k l = some v ↔ (k, v) ∈ l := by
  refine ⟨mem_of_findEntry, fun hm => ?_⟩
  induction l with
  | nil => simp at hm
  | cons e rest ih =>
    obtain ⟨k', v'⟩ := e
    rw [List.pairwise_cons] at hs
    rcases List.mem_cons.mp hm with h | h
    · cases h
      simp [findEntry]
    · have hk : k ≠ k' := (ne_of_lt (hs.1 _ h)).symm
      simp only [findEntry, hk, if_false]
      exact ih hs.2 h

theorem mem_insertEntry {k : κ} {v : α} {e : κ × α} {l : List (κ × α)}
    (h : e ∈ insertEntry k v l) : e = (k, v) ∨ e ∈ l := by
  induction l with
  | nil => simpa [insertEntry] using h
  | cons e' rest ih =>
    obtain ⟨k', v'⟩ := e'
    simp only [insertEntry] at h
    split_ifs at h
    · simpa using h
    · exact .inr h
    · rcases List.mem_cons.mp h with rfl | h
      · exact .inr (List.mem_cons_self _ _)
      · exact (ih h).imp_right (List.mem_cons_of_mem _)

theorem insertEntry_sorted (k : κ) (v : α) {l : List (κ × α)}
    (hs : l.Pairwise (fun a b => a.1 < b.1)) :
    (insertEntry k v l).Pairwise (fun a b => a.1 < b.1) := by
  induction l with
  | nil => simp [insertEntry]
  | cons e rest ih =>
    obtain ⟨k', v'⟩ := e
    rw [List.pairwise_cons] at hs
    simp only [insertEntry]
    split_ifs with hlt heq
    · refine List.Pairwise.cons (fun e he => ?_) (List.Pairwise.cons hs.1 hs.2)
      rcases List.mem_cons.mp he with rfl | he
      · exact hlt
      · exact hlt.trans (hs.1 e he)
    · exact List.Pairwise.cons hs.1 hs.2
    · have hgt : k' < k := lt_of_le_of_ne (not_lt.mp hlt) (Ne.symm heq)
      refine List.Pairwise.cons (fun e he => ?_) (ih hs.2)
      rcases mem_insertEntry he with rfl | he
      · exact hgt
      · exact hs.1 e he

/-- Inserting an absent key makes it findable with the inserted value. -/
theorem findEntry_insertEntry_of_none {k : κ} {v : α} {l : List (κ × α)}
    (h : findEntry k l = none) : findEntry k (insertEntry k v l) = some v := by
  induction l with
  | nil => simp [insertEntry, findEntry]
  | cons e rest ih =>
    obtain ⟨k', v'⟩ := e
    by_cases hk : k = k'
    · simp [findEntry, hk] at h
    · simp only [findEntry, hk, if_false] at h
      by_cases hlt : k < k' <;> simp [insertEntry, findEntry, hlt, hk, ih h]

/-- Inserting one key does not change what any other key finds. -/
theorem findEntry_insertEntry_ne {k k' : κ} (v : α) (l : List (κ × α)) (h : k ≠ k') :
    findEntry k' (insertEntry k v l) = findEntry k' l := by
  induction l with
  | nil => simp [insertEntry, findEntry, Ne.symm h]
  | cons e rest ih =>
    obtain ⟨k'', v''⟩ := e
    simp only [insertEntry]
    split_ifs with hlt heq
    · simp [findEntry, Ne.symm h]
    · rfl
    · simp only [findEntry, ih]

/-- On a sorted list, `insert` of a key that is present changes nothing. -/
theorem insertEntry_eq_self {k : κ} {u : α} (v : α) {l : List (κ × α)}
    (hs : l.Pairwise (fun a b => a.1 < b.1)) (h : findEntry k l = some u) :
    insertEntry k v l = l := by
  induction l with
  | nil => simp [findEntry] at h
  | cons e rest ih =>
    obtain ⟨k', v'⟩ := e
    rw [List.pairwise_cons] at hs
    by_cases hk : k = k'
    · simp [insertEntry, hk]
    · simp only [findEntry, hk, if_false] at h
      have hgt : k' < k := hs.1 _ (mem_of_findEntry h)
      simp [insertEntry, hk, not_lt.mpr hgt.le, ih hs.2 h]

theorem eraseEntry_sublist (k : κ) (l : List (κ × α)) : (eraseEntry k l).Sublist l := by
  induction l with
  | nil => exact List.Sublist.slnil
  | cons e rest ih =>
    obtain ⟨k', v'⟩ := e
    simp only [eraseEntry]
    split_ifs
    · exact List.sublist_cons_self _ _
    · exact ih.cons₂ _

theorem findEntry_eraseEntry_ne {k k' : κ} (l : List (κ × α)) (h : k ≠ k') :
    findEntry k' (eraseEntry k l) = findEntry k' l := by
  induction l with
  | nil => rfl
  | cons e rest ih =>
    obtain ⟨k'', v''⟩ := e
    simp only [eraseEntry]
    split_ifs with hk
    · subst hk
      simp [findEntry, Ne.symm h]
    · simp only [findEntry, ih]

/-- On a sorted list, an erased key is no longer found. -/
theorem findEntry_eraseEntry_self (k : κ) {l : List (κ × α)}
    (hs : l.Pairwise (fun a b => a.1 < b.1)) : findEntry k (eraseEntry k l) = none := by
  induction l with
  | nil => rfl
  | cons e rest ih =>
    obtain ⟨k', v'⟩ := e
    rw [List.pairwise_cons] at hs
    by_cases hk : k = k'
    · subst hk
      rw [eraseEntry, if_pos rfl, findEntry_eq_none_iff]
      exact fun e he => (ne_of_lt (hs.1 e he)).symm
    · simp [eraseEntry, findEntry, hk, ih hs.2]

/-! ## §2 — the map operations -/

/-- The empty map (a default-constructed `std::map`). -/
def empty : StdMap κ α := ⟨[], List.Pairwise.nil⟩

/-- `std::map::find`, with `none` for `end()`. -/
def find (m : StdMap κ α) (k : κ) : Option α := findEntry k m.entries

/-- `std::map::insert(std::make_pair(k, v))`. -/
def insert (m : StdMap κ α) (k : κ) (v : α) : StdMap κ α :=
  ⟨insertEntry k v m.entries, insertEntry_sorted k v m.sorted⟩

/-- `std::map::erase(key)`. -/
def erase (m : StdMap κ α) (k : κ) : StdMap κ α :=
  ⟨eraseEntry k m.entries, m.sorted.sublist (eraseEntry_sublist k _)⟩

/-- `std::map::size`. -/
def size (m : StdMap κ α) : Nat := m.entries.length

@[ext]
theorem ext {m m' : StdMap κ α} (h : m.entries = m'.entries) : m = m' := by
  cases m; cases m'; subst h; rfl

@[simp] theorem find_empty (k : κ) : (empty : StdMap κ α).find k = none := rfl

theorem find_eq_some_iff {m : StdMap κ α} {k : κ} {v : α} :
    m.find k = some v ↔ (k, v) ∈ m.entries :=
  findEntry_eq_some_iff m.sorted

/-- A map is determined by its lookups: two maps that `find` the same value under every key are
equal, since sorted entries with the same members are the same list. -/
theorem ext_find {m m' : StdMap κ α} (h : ∀ k, m.find k = m'.find k) : m = m' := by
  have hmem : ∀ e, e ∈ m.entries ↔ e ∈ m'.entries := fun ⟨k, v⟩ => by
    rw [← find_eq_some_iff, ← find_eq_some_iff, h]
  have hnd : ∀ {l : List (κ × α)}, l.Pairwise (fun a b => a.1 < b.1) → l.Nodup :=
    fun hs => hs.imp fun hlt => ne_of_apply_ne Prod.fst (ne_of_lt hlt)
  haveI : IsAntisymm (κ × α) (fun a b => a.1 < b.1) :=
    ⟨fun _ _ h h' => absurd (h.trans h') (lt_irrefl _)⟩
  exact ext (List.eq_of_perm_of_sorted
    ((List.perm_ext_iff_of_nodup (hnd m.sorted) (hnd m'.sorted)).mpr hmem) m.sorted m'.sorted)

@[simp] theorem find_insert_ne (m : StdMap κ α) {k k' : κ} (v : α) (h : k ≠ k') :
    (m.insert k v).find k' = m.find k' :=
  findEntry_insertEntry_ne v _ h

theorem find_insert_of_none {m : StdMap κ α} {k : κ} (v : α) (h : m.find k = none) :
    (m.insert k v).find k = some v :=
  findEntry_insertEntry_of_none h

/-- **`insert` never overwrites.** Inserting a key that is present leaves the map unchanged. -/
theorem insert_of_find_eq_some {m : StdMap κ α} {k : κ} {u : α} (v : α) (h : m.find k = some u) :
    m.insert k v = m :=
  ext (insertEntry_eq_self v m.sorted h)

/-- What a key finds after an `insert`: the old value if there was one, the new one otherwise. -/
theorem find_insert_self (m : StdMap κ α) (k : κ) (v : α) :
    (m.insert k v).find k = some ((m.find k).getD v) := by
  cases h : m.find k with
  | none => exact find_insert_of_none v h
  | some u => rw [insert_of_find_eq_some v h, h]; rfl

@[simp] theorem find_erase_self (m : StdMap κ α) (k : κ) : (m.erase k).find k = none :=
  findEntry_eraseEntry_self k m.sorted

@[simp] theorem find_erase_ne (m : StdMap κ α) {k k' : κ} (h : k ≠ k') :
    (m.erase k).find k' = m.find k' :=
  findEntry_eraseEntry_ne _ h

end StdMap

end CameraStreamingDaemon
