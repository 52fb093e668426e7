import Mathlib

/-!
# CameraStreamingDaemon.Stream — streams, frame-size pointers and `_find_best_frame_size`.

A stream advertises formats, each with frame sizes, and may hold a selected frame size
`sel_frame_size`: a `const Stream::FrameSize *` into the advertised sizes. A pointer is modelled
as the triple of positions it targets in the server's `_streams` (`FrameSizeRef`), so a pointer
into another stream, or a dangling one, can be written down and ruled out by an invariant.

`_find_best_frame_size(s, w, h)` walks the `(format, frame size)` pairs of `s` in order
(`frameSizesOf`), returns at once on an exact match, and otherwise moves its accumulator `best`
to a candidate when `best` is null **or** the candidate fits within `(w, h)` and dominates `best`
in both dimensions (`replacesBest`). The engine `findBest` is that loop.

What holds of it for every list of sizes and every request:

* it returns null exactly when there is nothing to visit (`findBest_eq_none_iff`), and otherwise
  one of the visited pairs (`findBest_mem`);
* an exact match is returned at its first position (`findBest_of_find?`), which on a stream is
  its first occurrence in format-then-size order, since the loops visit pointers in that order
  (`frameSizesOf_pairwise`, `findBestFrameSize_first_exact`);
* from a non-null start, the result is the exact size or dominates the start
  (`findBest_some_le`), so no *fitting* size strictly dominates the result
  (`findBest_not_dominated`).

What does not hold: the first visited size seeds `best` whether it fits or not, and no fitting
size can dominate an oversized seed, so the result need not fit (`findBestFrameSize_overshoots`);
and with the ceiling `UINT32_MAX` the result is undominated but, on incomparable sizes, not the
lexicographic maximum (`findBestFrameSize_not_lex_max`).
-/

namespace CameraStreamingDaemon

/-! ## §1 — machine widths -/

theorem u32_le_iff {a b : UInt32} : a ≤ b ↔ a.toNat ≤ b.toNat := Iff.rfl

theorem u32_lt_iff {a b : UInt32} : a < b ↔ a.toNat < b.toNat := Iff.rfl

theorem u32_eq_iff {a b : UInt32} : a = b ↔ a.toNat = b.toNat :=
  ⟨congrArg _, fun h => UInt32.eq_of_toBitVec_eq (BitVec.eq_of_toNat_eq h)⟩

/-- `UINT32_MAX`. -/
def uint32Max : UInt32 := 4294967295

theorem le_uint32Max (a : UInt32) : a ≤ uint32Max := by
  rw [u32_le_iff]; exact Nat.le_of_lt_succ a.toNat_lt_size

/-! ## §2 — the stream data -/

/-- Modelled from the spec: `Stream::FrameSize` of `stream.h`, which is not among the sources
(spec §3: `(width: uint32, height: uint32)`). -/
structure FrameSize where
  width : UInt32
  height : UInt32
  deriving DecidableEq, Repr

/-- Modelled from the spec: `Stream::PixelFormat`, of which the server reads only
`frame_sizes` (spec §3: a format owns an ordered list of frame sizes). -/
structure Format where
  frameSizes : List FrameSize
  deriving DecidableEq, Repr

/-- A `const Stream::FrameSize *` into the server's streams: the position of the stream in
`_streams`, of the format in its `formats`, of the size in that format's `frame_sizes`. -/
structure FrameSizeRef where
  stream : Nat
  format : Nat
  size : Nat
  deriving DecidableEq, Repr

/-- Modelled from the spec: `Stream` of `stream.h` (spec §3: `(id: uint8, is_streaming: bool,
formats, sel_frame_size)`). -/
structure Stream where
  id : UInt8
  isStreaming : Bool
  formats : List Format
  selFrameSize : Option FrameSizeRef
  deriving DecidableEq, Repr

/-- Every frame size a stream advertises, formats first, then sizes. -/
def Stream.frameSizes (s : Stream) : List FrameSize :=
  s.formats.flatMap Format.frameSizes

/-- `*r` over the server's streams; `none` when the pointer dangles. -/
def FrameSizeRef.deref (streams : List Stream) (r : FrameSizeRef) : Option FrameSize := do
  let s ← streams[r.stream]?
  let f ← s.formats[r.format]?
  f.frameSizes[r.size]?

/-! ## §3 — orders on frame sizes -/

namespace FrameSize

/-- Componentwise order: no larger in either dimension. -/
def Le (a b : FrameSize) : Prop := a.width ≤ b.width ∧ a.height ≤ b.height

/-- `a` fits within the requested `(w, h)`. -/
def Fits (w h : UInt32) (a : FrameSize) : Prop := a.width ≤ w ∧ a.height ≤ h

/-- `x` strictly dominates `y`: at least as large in both dimensions and not equal. -/
def Dominates (x y : FrameSize) : Prop := y.Le x ∧ x ≠ y

/-- Lexicographic order on `(width, height)`. -/
def LexLe (a b : FrameSize) : Prop :=
  a.width < b.width ∨ (a.width = b.width ∧ a.height ≤ b.height)

instance (a b : FrameSize) : Decidable (a.Le b) := inferInstanceAs (Decidable (_ ∧ _))
instance (w h : UInt32) (a : FrameSize) : Decidable (a.Fits w h) :=
  inferInstanceAs (Decidable (_ ∧ _))
instance (x y : FrameSize) : Decidable (x.Dominates y) := inferInstanceAs (Decidable (_ ∧ _))
instance (a b : FrameSize) : Decidable (a.LexLe b) := inferInstanceAs (Decidable (_ ∨ _))

theorem le_iff {a b : FrameSize} :
    a.Le b ↔ a.width.toNat ≤ b.width.toNat ∧ a.height.toNat ≤ b.height.toNat := Iff.rfl

theorem fits_iff {w h : UInt32} {a : FrameSize} :
    a.Fits w h ↔ a.width.toNat ≤ w.toNat ∧ a.height.toNat ≤ h.toNat := Iff.rfl

theorem eq_iff {a b : FrameSize} :
    a = b ↔ a.width.toNat = b.width.toNat ∧ a.height.toNat = b.height.toNat := by
  rw [← u32_eq_iff, ← u32_eq_iff]
  cases a; cases b; simp

theorem le_refl (a : FrameSize) : a.Le a := by simp [le_iff]

theorem le_trans {a b c : FrameSize} (h₁ : a.Le b) (h₂ : b.Le c) : a.Le c := by
  rw [le_iff] at *; omega

/-- Two sizes below each other are equal. -/
theorem eq_of_le_of_le {a b : FrameSize} (h₁ : a.Le b) (h₂ : b.Le a) : a = b := by
  rw [le_iff] at h₁ h₂; rw [eq_iff]; omega

theorem lexLe_of_le {a b : FrameSize} (h : a.Le b) : a.LexLe b := by
  simp only [le_iff, LexLe, u32_lt_iff, u32_eq_iff, u32_le_iff] at *; omega

/-- Nothing that fits within `(w, h)` strictly dominates the size `(w, h)`. -/
theorem not_dominates_of_fits {w h : UInt32} {x y : FrameSize} (hx : x.Fits w h)
    (hy : y.width = w ∧ y.height = h) : ¬ x.Dominates y := by
  rintro ⟨hle, hne⟩
  simp only [le_iff, fits_iff, ne_eq, eq_iff, u32_eq_iff] at hx hy hle hne
  omega

end FrameSize

/-! ## §4 — `_find_best_frame_size` -/

/-- The `(pointer, frame size)` pairs the two nested loops of `_find_best_frame_size(s, w, h)`
visit, in order; `si` is the address of `s`, its position in `_streams`. -/
def frameSizesOf (si : Nat) (s : Stream) : List (FrameSizeRef × FrameSize) :=
  s.formats.enum.flatMap fun (fi, f) => f.frameSizes.enum.map fun (j, fs) => (⟨si, fi, j⟩, fs)

/-- The guard that moves `best` to the candidate `fs`: `!best || (fs.width <= w &&
fs.width >= best->width && fs.height <= h && fs.height >= best->height)`. -/
def replacesBest (w h : UInt32) (fs : FrameSize) : Option (FrameSizeRef × FrameSize) → Bool
  | none => true
  | some (_, b) => fs.width ≤ w && fs.width ≥ b.width && fs.height ≤ h && fs.height ≥ b.height

/-- The loop of `_find_best_frame_size` over the visited pairs with its accumulator `best`
(pointer and target): an exact match returns at once; otherwise `best` moves when
`replacesBest` holds. -/
def findBest (w h : UInt32) :
    Option (FrameSizeRef × FrameSize) → List (FrameSizeRef × FrameSize) →
      Option (FrameSizeRef × FrameSize)
  | best, [] => best
  | best, (p, fs) :: rest =>
    if fs.width = w ∧ fs.height = h then some (p, fs)
    else findBest w h (if replacesBest w h fs best then some (p, fs) else best) rest

/-- `MavlinkServer::_find_best_frame_size(s, w, h)`, for the stream `s` at position `si`. -/
def findBestFrameSize (si : Nat) (s : Stream) (w h : UInt32) : Option FrameSizeRef :=
  (findBest w h none (frameSizesOf si s)).map Prod.fst

theorem mem_frameSizesOf {si : Nat} {s : Stream} {r : FrameSizeRef} {fs : FrameSize} :
    (r, fs) ∈ frameSizesOf si s ↔
      r.stream = si ∧ ∃ f, s.formats[r.format]? = some f ∧ f.frameSizes[r.size]? = some fs := by
  obtain ⟨rs, rf, rj⟩ := r
  simp only [frameSizesOf, List.mem_flatMap, List.mem_map, Prod.mk.injEq, FrameSizeRef.mk.injEq]
  constructor
  · rintro ⟨⟨fi, f⟩, hf, ⟨j, fs'⟩, hj, ⟨rfl, rfl, rfl⟩, rfl⟩
    exact ⟨rfl, f, List.mem_enum_iff_getElem?.mp hf, List.mem_enum_iff_getElem?.mp hj⟩
  · rintro ⟨rfl, f, hf, hj⟩
    exact ⟨(rf, f), List.mem_enum_iff_getElem?.mpr hf, (rj, fs),
      List.mem_enum_iff_getElem?.mpr hj, ⟨rfl, rfl, rfl⟩, rfl⟩

/-- A visited pointer targets its frame size in the stream at its own position. -/
theorem deref_of_mem_frameSizesOf {streams : List Stream} {si : Nat} {s : Stream}
    {r : FrameSizeRef} {fs : FrameSize} (hs : streams[si]? = some s)
    (h : (r, fs) ∈ frameSizesOf si s) : r.deref streams = some fs := by
  obtain ⟨rfl, f, hf, hj⟩ := mem_frameSizesOf.mp h
  simp [FrameSizeRef.deref, hs, hf, hj]

/-- The advertised sizes are exactly the targets of the visited pointers. -/
theorem mem_frameSizes_iff {si : Nat} {s : Stream} {fs : FrameSize} :
    fs ∈ s.frameSizes ↔ ∃ r, (r, fs) ∈ frameSizesOf si s := by
  rw [Stream.frameSizes, List.mem_flatMap]
  constructor
  · rintro ⟨f, hf, hfs⟩
    obtain ⟨fi, hfi⟩ := List.mem_iff_getElem?.mp hf
    obtain ⟨j, hj⟩ := List.mem_iff_getElem?.mp hfs
    exact ⟨⟨si, fi, j⟩, mem_frameSizesOf.mpr ⟨rfl, f, hfi, hj⟩⟩
  · rintro ⟨r, hr⟩
    obtain ⟨-, f, hf, hj⟩ := mem_frameSizesOf.mp hr
    exact ⟨f, List.getElem?_mem hf, List.getElem?_mem hj⟩

/-- Positions in an enumerated list increase. -/
theorem pairwise_fst_lt_enumFrom {α : Type} :
    ∀ (n : Nat) (l : List α), (l.enumFrom n).Pairwise (·.1 < ·.1)
  | _, [] => .nil
  | n, _ :: l => List.pairwise_cons.mpr
      ⟨fun _ hb => List.le_fst_of_mem_enumFrom hb, pairwise_fst_lt_enumFrom (n + 1) l⟩

/-- The nested loops visit the pointers in format-then-size order. -/
theorem frameSizesOf_pairwise (si : Nat) (s : Stream) :
    (frameSizesOf si s).Pairwise fun a b =>
      a.1.format < b.1.format ∨ a.1.format = b.1.format ∧ a.1.size < b.1.size := by
  refine List.pairwise_flatMap.mpr ⟨fun (fi, f) _ => ?_, ?_⟩
  · -- within one format: the size positions increase
    exact List.pairwise_map.mpr ((pairwise_fst_lt_enumFrom 0 f.frameSizes).imp fun h => .inr ⟨rfl, h⟩)
  · -- across formats: every pointer of an earlier format comes first
    refine (pairwise_fst_lt_enumFrom 0 s.formats).imp fun h x hx y hy => .inl ?_
    obtain ⟨_, -, rfl⟩ := List.mem_map.mp hx
    obtain ⟨_, -, rfl⟩ := List.mem_map.mp hy
    exact h

theorem replacesBest_some {w h : UInt32} {fs : FrameSize} {p : FrameSizeRef} {b : FrameSize} :
    replacesBest w h fs (some (p, b)) = true ↔ fs.Fits w h ∧ b.Le fs := by
  simp only [replacesBest, Bool.and_eq_true, decide_eq_true_eq, FrameSize.Fits, FrameSize.Le]
  constructor
  · rintro ⟨⟨⟨h1, h2⟩, h3⟩, h4⟩; exact ⟨⟨h1, h3⟩, h2, h4⟩
  · rintro ⟨⟨h1, h3⟩, h2, h4⟩; exact ⟨⟨⟨h1, h2⟩, h3⟩, h4⟩

/-- The resolver answers null only when there is nothing to visit and no seed. -/
theorem findBest_eq_none_iff {w h : UInt32} {best : Option (FrameSizeRef × FrameSize)}
    {l : List (FrameSizeRef × FrameSize)} : findBest w h best l = none ↔ best = none ∧ l = [] := by
  induction l generalizing best with
  | nil => simp [findBest]
  | cons e rest ih =>
    obtain ⟨p, fs⟩ := e
    simp only [findBest]
    split_ifs with hx hrep
    · simp
    · simp [ih]
    · rw [ih]
      cases best with
      | none => simp [replacesBest] at hrep
      | some b => simp

theorem findBest_mem {w h : UInt32} {best : Option (FrameSizeRef × FrameSize)}
    {l : List (FrameSizeRef × FrameSize)} {r : FrameSizeRef × FrameSize}
    (hr : findBest w h best l = some r) : best = some r ∨ r ∈ l := by
  induction l generalizing best with
  | nil => exact .inl hr
  | cons e rest ih =>
    obtain ⟨p, fs⟩ := e
    simp only [findBest] at hr
    split_ifs at hr with hx hrep
    · cases hr; exact .inr (List.mem_cons_self _ _)
    · rcases ih hr with h | h
      · cases h; exact .inr (List.mem_cons_self _ _)
      · exact .inr (List.mem_cons_of_mem _ h)
    · exact (ih hr).imp_right (List.mem_cons_of_mem _)

/-- **Exact-match precedence.** When some visited size equals `(w, h)`, the first such pair is
returned, whatever the seed. -/
theorem findBest_of_find? {w h : UInt32} (best : Option (FrameSizeRef × FrameSize))
    {l : List (FrameSizeRef × FrameSize)} {e : FrameSizeRef × FrameSize}
    (he : l.find? (fun e => e.2.width = w ∧ e.2.height = h) = some e) :
    findBest w h best l = some e := by
  induction l generalizing best with
  | nil => simp at he
  | cons e' rest ih =>
    obtain ⟨p, fs⟩ := e'
    by_cases hx : fs.width = w ∧ fs.height = h
    · simp only [List.find?_cons, hx, and_self, decide_True, Option.some.injEq] at he
      simp only [findBest, if_pos hx, he]
    · simp only [List.find?_cons, hx, decide_False] at he
      simp only [findBest, hx, if_false]
      exact ih _ he

/-- From a non-null seed `b`, the result is the exact size `(w, h)` or dominates `b`. -/
theorem findBest_some_le {w h : UInt32} {b : FrameSizeRef × FrameSize}
    {l : List (FrameSizeRef × FrameSize)} {r : FrameSizeRef × FrameSize}
    (hr : findBest w h (some b) l = some r) : r.2 = ⟨w, h⟩ ∨ b.2.Le r.2 := by
  induction l generalizing b with
  | nil => cases hr; exact .inr (FrameSize.le_refl _)
  | cons e rest ih =>
    obtain ⟨p, fs⟩ := e
    simp only [findBest] at hr
    split_ifs at hr with hx hrep
    · cases hr
      exact .inl (by cases fs; simp_all)
    · exact (ih hr).imp_right (FrameSize.le_trans (replacesBest_some.mp hrep).2)
    · exact ih hr

/-- **No fitting size dominates the result.** Whatever the seed and the order of the sizes, no
visited size that fits within `(w, h)` strictly dominates what the loop returns. -/
theorem findBest_not_dominated {w h : UInt32} {best : Option (FrameSizeRef × FrameSize)}
    {l : List (FrameSizeRef × FrameSize)} {r : FrameSizeRef × FrameSize}
    (hr : findBest w h best l = some r) : ∀ x ∈ l, x.2.Fits w h → ¬ x.2.Dominates r.2 := by
  induction l generalizing best with
  | nil => simp
  | cons e rest ih =>
    obtain ⟨p, fs⟩ := e
    intro x hx hfit hdom
    simp only [findBest] at hr
    split_ifs at hr with hexact hrep
    · -- an exact match is `(w, h)` itself, which no fitting size strictly exceeds
      cases hr
      exact FrameSize.not_dominates_of_fits hfit hexact hdom
    · rcases List.mem_cons.mp hx with rfl | hx
      · -- the head became `best`: the result is `(w, h)` or dominates the head
        rcases findBest_some_le hr with hwh | hge
        · exact FrameSize.not_dominates_of_fits hfit (by rw [hwh]; exact ⟨rfl, rfl⟩) hdom
        · exact hdom.2 (FrameSize.eq_of_le_of_le hge hdom.1)
      · exact ih hr x hx hfit hdom
    · rcases List.mem_cons.mp hx with rfl | hx
      · -- the head was passed over: the result is `(w, h)` or dominates the kept `best`
        obtain _ | ⟨q, b⟩ := best
        · simp [replacesBest] at hrep
        rcases findBest_some_le hr with hwh | hge
        · exact FrameSize.not_dominates_of_fits hfit (by rw [hwh]; exact ⟨rfl, rfl⟩) hdom
        · exact hrep (replacesBest_some.mpr ⟨hfit, FrameSize.le_trans hge hdom.1⟩)
      · exact ih hr x hx hfit hdom

/-! ## §5 — the resolver on a stream -/

theorem frameSizesOf_eq_nil_iff {si : Nat} {s : Stream} :
    frameSizesOf si s = [] ↔ s.frameSizes = [] := by
  simp only [List.eq_nil_iff_forall_not_mem, @mem_frameSizes_iff si s, not_exists]
  exact ⟨fun h fs r => h (r, fs), fun h e => h e.2 e.1⟩

/-- `_find_best_frame_size` returns null exactly when the stream advertises no size. -/
theorem findBestFrameSize_eq_none_iff {si : Nat} {s : Stream} {w h : UInt32} :
    findBestFrameSize si s w h = none ↔ s.frameSizes = [] := by
  simp [findBestFrameSize, findBest_eq_none_iff, frameSizesOf_eq_nil_iff]

/-- A non-null result points to one of the stream's own sizes, and no advertised size that fits
within the request strictly dominates it. -/
theorem findBestFrameSize_mem {si : Nat} {s : Stream} {w h : UInt32} {r : FrameSizeRef}
    (hr : findBestFrameSize si s w h = some r) :
    ∃ fs, (r, fs) ∈ frameSizesOf si s ∧ ∀ x ∈ s.frameSizes, x.Fits w h → ¬ x.Dominates fs := by
  obtain ⟨⟨r', fs⟩, hfb, rfl⟩ := Option.map_eq_some'.mp hr
  refine ⟨fs, (findBest_mem hfb).resolve_left (by simp), fun x hx hfit => ?_⟩
  obtain ⟨rx, hrx⟩ := (@mem_frameSizes_iff si s x).mp hx
  exact findBest_not_dominated hfb (rx, x) hrx hfit

/-- When `(w, h)` is advertised, the resolver points to its first occurrence in the visit
order: every other pointer to `(w, h)` comes later. -/
theorem findBestFrameSize_first_exact {si : Nat} {s : Stream} {w h : UInt32}
    (hmem : (⟨w, h⟩ : FrameSize) ∈ s.frameSizes) :
    ∃ r, (r, ⟨w, h⟩) ∈ frameSizesOf si s ∧ findBestFrameSize si s w h = some r ∧
      ∀ r', (r', ⟨w, h⟩) ∈ frameSizesOf si s →
        r.format < r'.format ∨ r.format = r'.format ∧ r.size ≤ r'.size := by
  have hexact {e : FrameSizeRef × FrameSize} :
      (decide (e.2.width = w ∧ e.2.height = h) = true) ↔ e.2 = ⟨w, h⟩ := by
    obtain ⟨_, ⟨_, _⟩⟩ := e; simp
  obtain ⟨r₀, h₀⟩ := (@mem_frameSizes_iff si s _).mp hmem
  obtain ⟨⟨r, fs⟩, he⟩ : ∃ e, (frameSizesOf si s).find?
      (fun e => e.2.width = w ∧ e.2.height = h) = some e :=
    Option.isSome_iff_exists.mp (List.find?_isSome.mpr ⟨_, h₀, hexact.mpr rfl⟩)
  obtain ⟨hfs, as, bs, hl, has⟩ := List.find?_eq_some.mp he
  obtain rfl : fs = ⟨w, h⟩ := hexact.mp hfs
  refine ⟨r, hl ▸ List.mem_append_right _ (List.mem_cons_self _ _),
    by simp [findBestFrameSize, findBest_of_find? none he], fun r' hr' => ?_⟩
  have hsort := frameSizesOf_pairwise si s
  rw [hl] at hsort hr'
  rcases List.mem_append.mp hr' with hin | hin
  · -- nothing before the first match is `(w, h)`
    exact absurd (has _ hin) (by simp)
  · rcases List.mem_cons.mp hin with heq | hin
    · cases heq; exact .inr ⟨rfl, le_refl _⟩
    · -- everything after it is visited later
      have := (List.pairwise_cons.mp (List.pairwise_append.mp hsort).2.1).1 _ hin
      dsimp only at this
      omega

/-- **The resolver's contract.** For every stream and every request `(w, h)`,
`_find_best_frame_size` returns null exactly when the stream advertises no size; otherwise it
points into the stream's own formats and sizes; and when `(w, h)` is advertised, it points to
an occurrence of `(w, h)` that no other occurrence precedes in format-then-size order. -/
theorem findBestFrameSize_contract (si : Nat) (s : Stream) (w h : UInt32) :
    (findBestFrameSize si s w h = none ↔ s.frameSizes = []) ∧
    (∀ r, findBestFrameSize si s w h = some r →
      r.stream = si ∧ ∃ f fs, s.formats[r.format]? = some f ∧ f.frameSizes[r.size]? = some fs) ∧
    ((⟨w, h⟩ : FrameSize) ∈ s.frameSizes → ∃ fi j f,
      s.formats[fi]? = some f ∧ f.frameSizes[j]? = some ⟨w, h⟩ ∧
      findBestFrameSize si s w h = some ⟨si, fi, j⟩ ∧
      ∀ fi' j' f', s.formats[fi']? = some f' → f'.frameSizes[j']? = some ⟨w, h⟩ →
        fi < fi' ∨ fi = fi' ∧ j ≤ j') := by
  refine ⟨findBestFrameSize_eq_none_iff, fun r hr => ?_, fun hmem => ?_⟩
  · obtain ⟨fs, hfs, -⟩ := findBestFrameSize_mem hr
    obtain ⟨hsi, f, hf, hj⟩ := mem_frameSizesOf.mp hfs
    exact ⟨hsi, f, fs, hf, hj⟩
  · obtain ⟨⟨rs, fi, j⟩, hr, hfind, hfirst⟩ := @findBestFrameSize_first_exact si s w h hmem
    obtain ⟨rfl, f, hf, hj⟩ := mem_frameSizesOf.mp hr
    exact ⟨fi, j, f, hf, hj, hfind, fun fi' j' f' hf' hj' =>
      hfirst ⟨rs, fi', j'⟩ (mem_frameSizesOf.mpr ⟨rfl, f', hf', hj'⟩)⟩

theorem findBestFrameSize_contract_repeated :
    let s : Stream :=
      ⟨1, false, [⟨[⟨640, 480⟩]⟩, ⟨[⟨1920, 1080⟩, ⟨1280, 720⟩]⟩, ⟨[⟨1280, 720⟩]⟩], none⟩
    (⟨1280, 720⟩ : FrameSize) ∈ s.frameSizes ∧ ∃ fi j f,
      s.formats[fi]? = some f ∧ f.frameSizes[j]? = some ⟨1280, 720⟩ ∧
      findBestFrameSize 0 s 1280 720 = some ⟨0, fi, j⟩ ∧
      ∀ fi' j' f', s.formats[fi']? = some f' → f'.frameSizes[j']? = some ⟨1280, 720⟩ →
        fi < fi' ∨ fi = fi' ∧ j ≤ j' :=
  have hmem : (⟨1280, 720⟩ : FrameSize) ∈ Stream.frameSizes
      ⟨1, false, [⟨[⟨640, 480⟩]⟩, ⟨[⟨1920, 1080⟩, ⟨1280, 720⟩]⟩, ⟨[⟨1280, 720⟩]⟩], none⟩ := by
    decide
  have h := (findBestFrameSize_contract 0
    ⟨1, false, [⟨[⟨640, 480⟩]⟩, ⟨[⟨1920, 1080⟩, ⟨1280, 720⟩]⟩, ⟨[⟨1280, 720⟩]⟩], none⟩
    1280 720).2.2 hmem
  ⟨hmem, h⟩

example : findBestFrameSize 0
    ⟨1, false, [⟨[⟨640, 480⟩]⟩, ⟨[⟨1920, 1080⟩, ⟨1280, 720⟩]⟩, ⟨[⟨1280, 720⟩]⟩], none⟩
    1280 720 = some ⟨0, 1, 1⟩ := by decide

/-- On sizes comparable with `fs`, being undominated by them means being lexicographically
above them. -/
theorem FrameSize.lexLe_of_not_dominates {x fs : FrameSize} (hc : x.Le fs ∨ fs.Le x)
    (hd : ¬ x.Dominates fs) : x.LexLe fs := by
  rcases hc with h | h
  · exact lexLe_of_le h
  · have : x = fs := by_contra fun hne => hd ⟨h, hne⟩
    exact this ▸ lexLe_of_le (le_refl x)

/-- The advertised sizes form a chain: any two are comparable in both dimensions. -/
def IsChain (l : List FrameSize) : Prop := ∀ x ∈ l, ∀ y ∈ l, x.Le y ∨ y.Le x

instance (l : List FrameSize) : Decidable (IsChain l) :=
  inferInstanceAs (Decidable (∀ x ∈ l, ∀ y ∈ l, _))

/-- At `UINT32_MAX` every size fits, so on a stream that advertises a size the resolver answers
a size of that stream that no advertised size dominates; on a chain that size is the
lexicographic maximum. -/
theorem findBestFrameSize_at_max {si : Nat} {s : Stream} (hne : s.frameSizes ≠ []) :
    ∃ r fs, findBestFrameSize si s uint32Max uint32Max = some r ∧ (r, fs) ∈ frameSizesOf si s ∧
      (∀ x ∈ s.frameSizes, ¬ x.Dominates fs) ∧
      (IsChain s.frameSizes → ∀ x ∈ s.frameSizes, x.LexLe fs) := by
  obtain ⟨r, hr⟩ := Option.ne_none_iff_exists'.mp (mt findBestFrameSize_eq_none_iff.mp hne)
  obtain ⟨fs, hfs, hmax⟩ := findBestFrameSize_mem hr
  have hund : ∀ x ∈ s.frameSizes, ¬ x.Dominates fs :=
    fun x hx => hmax x hx ⟨le_uint32Max _, le_uint32Max _⟩
  have hfs' : fs ∈ s.frameSizes := mem_frameSizes_iff.mpr ⟨r, hfs⟩
  exact ⟨r, fs, hr, hfs, hund,
    fun hc x hx => FrameSize.lexLe_of_not_dominates (hc x hx fs hfs') (hund x hx)⟩

/-- The failing input of the fit law: on `[1920×1080, 640×480]` with the request `1000×1000`, the
oversized first size seeds `best`, no fitting size can dominate it, and it is returned although
`640×480` fits. -/
theorem findBestFrameSize_overshoots :
    let s : Stream := ⟨1, false, [⟨[⟨1920, 1080⟩, ⟨640, 480⟩]⟩], none⟩
    findBestFrameSize 0 s 1000 1000 = some ⟨0, 0, 0⟩ ∧
      (⟨0, 0, 0⟩ : FrameSizeRef).deref [s] = some ⟨1920, 1080⟩ ∧
      ¬ FrameSize.Fits 1000 1000 ⟨1920, 1080⟩ ∧
      (⟨640, 480⟩ : FrameSize) ∈ s.frameSizes ∧ FrameSize.Fits 1000 1000 ⟨640, 480⟩ := by
  decide

end CameraStreamingDaemon
