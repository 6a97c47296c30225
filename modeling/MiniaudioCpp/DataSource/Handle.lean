import MiniaudioCpp.DataSource.Source
import MiniaudioCpp.Foundation.Machine

/-!
# Which object the callbacks reach

The callbacks do what the member functions of `T` do, on whatever `T` they are
pointed at: pointed at `mInternalSource`, every run of them is a run of direct
calls on it (`callbacks_simulate`).  miniaudio points them at what the data
source was initialised as, which is the `ma_data_source_base` that `emplace`
made.  So a run on the handle follows `mInternalSource` exactly as long as no
callback asks for a `T` at all (`handle_simulates_iff`).
-/

namespace MiniaudioCpp

open Foundation

variable {σ μ α : Type*}

namespace DataSource

/-! ## The machines -/

/-- The callback calls a member function of `T`. -/
def Touches (T : DataSourceType σ μ) : SourceCallback → Bool
  | .SourceSeek _ => T.Seek.isSome
  | _ => true

/-- What miniaudio passes to the callbacks: the handle, if there is one. -/
def pDataSource (s : DataSourceState σ α) : Option SourceAddress :=
  s.self.resource_.map .element

variable (T : DataSourceType σ μ) (ma_channel_map_init_standard : StandardChannelMap)

/-- A callback on a fixed pointer. -/
def callbackStep (pDataSource : SourceAddress) (s : DataSourceState σ α)
    (callback : SourceCallback) : Option (DataSourceState σ α × SourceAnswer μ) :=
  invoke T ma_channel_map_init_standard pDataSource s callback

/-- A callback as miniaudio makes it, on the handle. -/
def handleStep (s : DataSourceState σ α) (callback : SourceCallback) :
    Option (DataSourceState σ α × SourceAnswer μ) :=
  (pDataSource s).bind fun pDataSource =>
    callbackStep T ma_channel_map_init_standard pDataSource s callback

/-- The same call made directly on a `T`; what it answers is put into the words
of the callbacks. -/
def directStep (x : σ) : SourceCallback → Option (σ × SourceAnswer μ)
  | .SourceRead pFramesOut frameCount pFramesRead =>
      let (outcome, x) := T.Read pFramesOut frameCount x
      some (x, readAnswer pFramesRead outcome)
  | .SourceSeek frameIndex =>
      match T.Seek with
      | none => some (x, .result .notImplemented)
      | some Seek =>
          let (answer, x) := Seek frameIndex x
          some (x, .result (if answer then .success else .error))
  | .SourceGetDataFormat pFormat pChannels pSampleRate pChannelMap channelMapCap =>
      let (stored, x) := getDataFormat T ma_channel_map_init_standard pChannelMap channelMapCap x
      some (x, formatAnswer pFormat pChannels pSampleRate stored)
  | .SourceGetCursor =>
      T.GetCursor.map fun GetCursor => ((GetCursor x).2, .position .success (GetCursor x).1)
  | .SourceGetLength =>
      T.GetLength.map fun GetLength => ((GetLength x).2, .position .success (GetLength x).1)
  | .SourceSetLooping isLooping =>
      T.SetLooping.map fun SetLooping => (SetLooping isLooping x, .result .success)

/-! ## On `mInternalSource` -/

section

variable {T : DataSourceType σ μ} {ma_channel_map_init_standard : StandardChannelMap}
  {s s' : DataSourceState σ α}

/-- A callback that is pointed at `mInternalSource` makes the direct call. -/
theorem callbackStep_mInternalSource (callback : SourceCallback) :
    callbackStep T ma_channel_map_init_standard .mInternalSource s callback =
      (directStep T ma_channel_map_init_standard s.self.mInternalSource callback).map
        fun (x, answer) => (putSource s x .mInternalSource, answer) := by
  cases callback with
  | SourceRead pFramesOut frameCount pFramesRead => rfl
  | SourceSeek frameIndex =>
      simp only [callbackStep, invoke, SourceSeek, directStep]
      cases T.Seek with
      | none => rfl
      | some Seek => rfl
  | SourceGetDataFormat pFormat pChannels pSampleRate pChannelMap channelMapCap => rfl
  | SourceGetCursor =>
      simp only [callbackStep, invoke, SourceGetCursor, sourceGetPosition, directStep]
      cases T.GetCursor with
      | none => rfl
      | some GetCursor => rfl
  | SourceGetLength =>
      simp only [callbackStep, invoke, SourceGetLength, sourceGetPosition, directStep]
      cases T.GetLength with
      | none => rfl
      | some GetLength => rfl
  | SourceSetLooping isLooping =>
      simp only [callbackStep, invoke, SourceSetLooping, directStep]
      cases T.SetLooping with
      | none => rfl
      | some SetLooping => rfl

/-- Pointed at `mInternalSource`, every run of callbacks is a run of direct
calls. -/
theorem callbacks_simulate {calls : List SourceCallback} {answers : List (SourceAnswer μ)}
    (hrun : run (callbackStep T ma_channel_map_init_standard .mInternalSource) s calls =
      some (s', answers)) :
    run (directStep T ma_channel_map_init_standard) s.self.mInternalSource calls =
      some (s'.self.mInternalSource, answers) := by
  have hstep : ∀ (s : DataSourceState σ α) x callback answer s', s.self.mInternalSource = x →
      callbackStep T ma_channel_map_init_standard .mInternalSource s callback =
        some (s', answer) →
      ∃ x', directStep T ma_channel_map_init_standard x callback = some (x', answer) ∧
        s'.self.mInternalSource = x' := by
    rintro s x callback answer s' rfl hstep
    rw [callbackStep_mInternalSource, Option.map_eq_some_iff] at hstep
    obtain ⟨⟨x, answer⟩, hdirect, heq⟩ := hstep
    obtain ⟨rfl, rfl⟩ := Prod.mk.inj heq
    exact ⟨x, hdirect, rfl⟩
  obtain ⟨x, hdirect, rfl⟩ := run_simulates hstep rfl hrun
  exact hdirect

/-! ## On the handle -/

/-- A callback on an element of the heap has a defined effect only if it calls no
member function. -/
theorem callbackStep_element (p : Pointer) (callback : SourceCallback) :
    callbackStep T ma_channel_map_init_standard (.element p) s callback =
      if Touches T callback then none else some (s, .result .notImplemented) := by
  cases callback with
  | SourceRead pFramesOut frameCount pFramesRead => rfl
  | SourceSeek frameIndex =>
      cases hseek : T.Seek <;>
        simp [callbackStep, invoke, SourceSeek, Touches, hseek, callMember, sourceAt]
  | SourceGetDataFormat pFormat pChannels pSampleRate pChannelMap channelMapCap => rfl
  | SourceGetCursor =>
      simp only [callbackStep, invoke, SourceGetCursor, sourceGetPosition, Touches]
      cases T.GetCursor <;> rfl
  | SourceGetLength =>
      simp only [callbackStep, invoke, SourceGetLength, sourceGetPosition, Touches]
      cases T.GetLength <;> rfl
  | SourceSetLooping isLooping =>
      simp only [callbackStep, invoke, SourceSetLooping, Touches]
      cases T.SetLooping <;> rfl

/-- After an `Init` that returns `true` the handle is an element of the heap. -/
theorem pDataSource_of_Init [Inhabited α] {ma_data_source_init : MaInit α}
    {s₀ : DataSourceState σ α} (hinit : Init T ma_data_source_init s₀ = (true, s)) :
    ∃ p, pDataSource s = some (.element p) := by
  rw [Init, CResource.emplace_eq] at hinit
  dsimp only at hinit
  split at hinit
  next => simp at hinit
  next =>
    obtain ⟨_, rfl⟩ := Prod.mk.inj hinit
    exact ⟨_, rfl⟩

/-- The object each callback of a run operates on is `mInternalSource`, and after
each part of the run the answers and the state of `mInternalSource` are those
of the direct calls. -/
structure Simulates (T : DataSourceType σ μ) (ma_channel_map_init_standard : StandardChannelMap)
    (s : DataSourceState σ α) (calls : List SourceCallback) : Prop where
  target : ∀ callback ∈ calls, Touches T callback = true →
    pDataSource s = some .mInternalSource
  runs : ∀ part, part <+: calls → ∃ s' answers,
    run (handleStep T ma_channel_map_init_standard) s part = some (s', answers) ∧
      run (directStep T ma_channel_map_init_standard) s.self.mInternalSource part =
        some (s'.self.mInternalSource, answers)

/-- Callbacks that call no member function of `T`: they answer alike on the handle
and directly, and leave everything as it is. -/
theorem run_untouched {p : Pointer} (hhandle : pDataSource s = some (.element p))
    {calls : List SourceCallback}
    (huntouched : ∀ callback ∈ calls, ¬ Touches T callback = true) :
    ∃ answers, run (handleStep T ma_channel_map_init_standard) s calls = some (s, answers) ∧
      run (directStep T ma_channel_map_init_standard) s.self.mInternalSource calls =
        some (s.self.mInternalSource, answers) := by
  induction calls with
  | nil => exact ⟨[], rfl, rfl⟩
  | cons callback calls ih =>
      rw [List.forall_mem_cons] at huntouched
      obtain ⟨answers, hrun, hdirect⟩ := ih huntouched.2
      have hstep : handleStep T ma_channel_map_init_standard s callback =
          some (s, .result .notImplemented) := by
        rw [handleStep, hhandle, Option.bind_some, callbackStep_element, if_neg huntouched.1]
      have hdirectStep : directStep T ma_channel_map_init_standard s.self.mInternalSource callback =
          some (s.self.mInternalSource, .result .notImplemented) := by
        cases callback with
        | SourceSeek frameIndex =>
            have hnone : T.Seek = none := Option.not_isSome_iff_eq_none.mp huntouched.1
            simp only [directStep, hnone]
        | _ => exact absurd rfl huntouched.1
      exact ⟨_, run_cons_eq_some.mpr ⟨_, _, _, hstep, hrun, rfl⟩,
        run_cons_eq_some.mpr ⟨_, _, _, hdirectStep, hdirect, rfl⟩⟩

end

/-- After an `Init` that returns `true`, a run of callbacks on the handle follows
`mInternalSource` if and only if none of them calls a member function of `T`:
it is empty, or `T` has no `Seek` and it consists of `SourceSeek`. -/
theorem handle_simulates_iff [Inhabited α] (T : DataSourceType σ μ)
    (ma_channel_map_init_standard : StandardChannelMap) {ma_data_source_init : MaInit α}
    {s₀ s : DataSourceState σ α} (hinit : Init T ma_data_source_init s₀ = (true, s))
    (calls : List SourceCallback) :
    Simulates T ma_channel_map_init_standard s calls ↔
      ∀ callback ∈ calls, ¬ Touches T callback = true := by
  obtain ⟨p, hhandle⟩ := pDataSource_of_Init hinit
  constructor
  · -- the handle is an element, and no element is the member
    intro h callback hmem htouches
    have htarget := hhandle.symm.trans (h.target callback hmem htouches)
    exact absurd (Option.some.inj htarget) (by simp)
  · intro huntouched
    refine ⟨fun callback hmem htouches => absurd htouches (huntouched callback hmem), ?_⟩
    intro part hpart
    obtain ⟨answers, hrun, hdirect⟩ := run_untouched hhandle
      (fun callback hmem => huntouched callback (hpart.subset hmem))
    exact ⟨s, answers, hrun, hdirect⟩

/-- A data source that counts: its samples are the frame numbers.  It has no
`Seek`. -/
def counter : DataSourceType UInt64 UInt64 where
  Init := some fun _ => 0
  Read _ frameCount x :=
    (⟨true, (List.range frameCount.toNat).map fun i => x + UInt64.ofNat i, frameCount⟩,
      x + frameCount)
  Seek := none
  GetDataFormat x := (⟨.f32, 1, 48000⟩, x)
  GetCursor := some fun x => (x, x)
  GetLength := none
  SetLooping := none
  GetChannelMap := none

/-- A data source that owns nothing yet. -/
def counterStart : DataSourceState UInt64 Unit := ⟨⟨⟨none⟩, 5⟩, Heap.empty⟩

/-- One `SourceRead` of two frames: `mInternalSource` would answer with them, but
the handle points to the base. -/
theorem handle_reads_base :
    let s := (Init counter (fun x => (.success, x)) counterStart).2
    let calls := [SourceCallback.SourceRead true 2 true]
    (Init counter (fun x => (.success, x)) counterStart).1 = true ∧
      pDataSource s = some (.element 0) ∧
      run (handleStep counter fun _ _ => []) s calls = none ∧
      run (directStep counter fun _ _ => []) s.self.mInternalSource calls =
        some (2, [.read .success [0, 1] (some 2)]) ∧
      ¬ Simulates counter (fun _ _ => []) s calls := by
  intro s calls
  refine ⟨rfl, rfl, rfl, rfl, ?_⟩
  intro h
  have htarget := h.target (.SourceRead true 2 true) (List.mem_singleton_self _) rfl
  exact absurd (Option.some.inj htarget) (by decide)

/-- Two `SourceSeek` on a type without `Seek`. -/
theorem handle_simulates_seeks :
    let s := (Init counter (fun x => (.success, x)) counterStart).2
    let calls := [SourceCallback.SourceSeek 3, .SourceSeek 0]
    Simulates counter (fun _ _ => []) s calls ↔
      ∀ callback ∈ calls, ¬ Touches counter callback = true := by
  intro s calls
  have hinit : Init counter (fun x => (.success, x)) counterStart = (true, s) := rfl
  exact handle_simulates_iff counter (fun _ _ => []) hinit calls

end DataSource

end MiniaudioCpp
