import MiniaudioCpp.VFS.Callbacks

/-!
# Open modes

`Write` is not implemented and asserts that it is never reached, so `Open` must
turn down every mode with the write bit.  It compares the mode with the write
bit alone, and so a mode with another bit beside it gets through.

The client here respects the modes: it reads and writes only through handles
that it opened for that.  Its runs keep clear of the assertion exactly as long
as each `Open` with the write bit is turned down for another reason, or asks
for nothing else (`write_unreached_iff`).
-/

namespace MiniaudioCpp.VFS

open Foundation

variable {ρ : Type*} {R : StreamReader ρ}

/-- `MA_OPEN_MODE_READ`. -/
def MA_OPEN_MODE_READ : UInt32 := 1

/-! ## The client -/

/-- The VFS, and the mode that each handle was opened with. -/
structure Opened (ρ : Type*) where
  state : State ρ
  modes : ℕ → UInt32

namespace Opened

/-- No file was opened yet. -/
def empty : Opened ρ := ⟨State.empty, fun _ => 0⟩

/-- The handle is open, with this bit in its mode. -/
def openedWith (t : Opened ρ) (file : Option ℕ) (bit : UInt32) : Bool :=
  file.any fun file => (t.state.files.get? file).isSome && t.modes file &&& bit != 0

/-- The calls of a client that respects the modes. -/
def respects (t : Opened ρ) : Call ρ → Bool
  | .Read file .. => t.openedWith file MA_OPEN_MODE_READ
  | .Write file => t.openedWith file MA_OPEN_MODE_WRITE
  | _ => true

end Opened

/-- The modes after a call that was answered. -/
def modesAfter (modes : ℕ → UInt32) : Call ρ → Answer → ℕ → UInt32
  | .Open _ _ openMode _, .opened .success (some file) => Function.update modes file openMode
  | _, _ => modes

/-- One call of the client. -/
def modeStep (R : StreamReader ρ) (t : Opened ρ) (call : Call ρ) : Option (Opened ρ × Answer) :=
  if t.respects call then
    (vfsStep R t.state call).map fun (s, answer) => (⟨s, modesAfter t.modes call answer⟩, answer)
  else none

/-! ## The promise and the condition -/

/-- `Write` does not assert, and `Open` does not succeed with the write bit. -/
structure WriteUnreached (_ : Opened ρ) (call : Call ρ) (answer : Answer) (_ : Opened ρ) :
    Prop where
  not_asserted : ∀ file result, call = .Write file → answer ≠ .asserted result
  not_opened : ∀ vfs pFilePath openMode pFile file, call = .Open vfs pFilePath openMode pFile →
    openMode &&& MA_OPEN_MODE_WRITE ≠ 0 → answer ≠ .opened .success file

/-- An `Open` with the write bit asks for nothing else, or it has a null
pointer, or the client has no reader for it. -/
def WriteBitAlone (_ : Opened ρ) (call : Call ρ) (_ : Answer) (_ : Opened ρ) : Prop :=
  match call with
  | .Open vfs pFilePath openMode pFile =>
      openMode &&& MA_OPEN_MODE_WRITE ≠ 0 →
        openMode = MA_OPEN_MODE_WRITE ∨ pFile = false ∨
          pFilePath.bind vfs.onCreateReader = none
  | _ => True

/-! ## One call -/

/-- When `Open` succeeds. -/
theorem Open_succeeds_iff (vfs : VFS ρ) (pFilePath : Option String) (openMode : UInt32)
    (pFile : Bool) (s : State ρ) :
    (∃ file, (Callbacks.Open vfs pFilePath openMode pFile s).2 = .opened .success file) ↔
      ¬ (openMode = MA_OPEN_MODE_WRITE ∨ pFile = false ∨
        pFilePath.bind vfs.onCreateReader = none) := by
  unfold Callbacks.Open
  cases pFilePath with
  | none => simp
  | some path =>
      cases pFile with
      | false => simp
      | true =>
          by_cases hmode : openMode = MA_OPEN_MODE_WRITE
          · simp [hmode]
          · cases hreader : vfs.onCreateReader path <;> simp [hmode, hreader]

/-- No handle was opened with the write bit. -/
def NoneForWriting (t : Opened ρ) : Prop := ∀ file, t.modes file &&& MA_OPEN_MODE_WRITE = 0

variable {t t' : Opened ρ} {call : Call ρ} {answer : Answer}

/-- What a call of the client is. -/
theorem modeStep_eq_some (hstep : modeStep R t call = some (t', answer)) :
    t.respects call = true ∧ vfsStep R t.state call = some (t'.state, answer) ∧
      t'.modes = modesAfter t.modes call answer := by
  unfold modeStep at hstep
  split at hstep
  · obtain ⟨⟨s, answer'⟩, hvfs, heq⟩ := Option.map_eq_some_iff.mp hstep
    obtain ⟨rfl, rfl⟩ := Prod.mk.inj heq
    exact ⟨‹_›, hvfs, rfl⟩
  · simp at hstep

/-- As long as no handle is open for writing, a client that respects the modes
does not write. -/
theorem NoneForWriting.ne_write (h : NoneForWriting t) (hrespects : t.respects call = true)
    (file : Option ℕ) : call ≠ .Write file := by
  rintro rfl
  cases file with
  | none => simp [Opened.respects, Opened.openedWith] at hrespects
  | some handle => simp [Opened.respects, Opened.openedWith, h handle] at hrespects

theorem writeUnreached_iff (h : NoneForWriting t)
    (hstep : modeStep R t call = some (t', answer)) :
    WriteUnreached t call answer t' ↔ WriteBitAlone t call answer t' := by
  obtain ⟨hrespects, hvfs, _⟩ := modeStep_eq_some hstep
  have hwrite := h.ne_write hrespects
  cases call with
  | Open vfs pFilePath openMode pFile =>
      have hanswer : (Callbacks.Open vfs pFilePath openMode pFile t.state).2 = answer :=
        congrArg Prod.snd (Option.some.inj hvfs)
      have hsucceeds := Open_succeeds_iff vfs pFilePath openMode pFile t.state
      rw [hanswer] at hsucceeds
      constructor
      · intro hunreached hbit
        by_contra hrefused
        obtain ⟨file, hfile⟩ := hsucceeds.mpr hrefused
        exact hunreached.not_opened vfs pFilePath openMode pFile file rfl hbit hfile
      · intro halone
        refine ⟨fun file _ heq => absurd heq (hwrite file), ?_⟩
        intro vfs' pFilePath' openMode' pFile' file heq hbit hopened
        obtain ⟨rfl, rfl, rfl, rfl⟩ := Call.Open.inj heq
        exact hsucceeds.mp ⟨file, hopened⟩ (halone hbit)
  | _ =>
      -- no call but `Open` bears on the promise
      refine iff_of_true ⟨fun file _ heq => absurd heq (hwrite file), ?_⟩ trivial
      exact fun _ _ _ _ _ heq => absurd heq (by simp)

theorem NoneForWriting.step (h : NoneForWriting t)
    (hstep : modeStep R t call = some (t', answer)) (hunreached : WriteUnreached t call answer t') :
    NoneForWriting t' := by
  obtain ⟨_, _, hmodes⟩ := modeStep_eq_some hstep
  intro handle
  rw [hmodes]
  unfold modesAfter
  split
  · -- the `Open` succeeded, so its mode is without the bit
    rename_i vfs pFilePath openMode pFile file _ _
    by_cases hhandle : handle = file
    · subst hhandle
      rw [Function.update_self]
      by_contra hbit
      exact hunreached.not_opened vfs pFilePath openMode pFile _ rfl hbit rfl
    · rw [Function.update_of_ne hhandle]
      exact h handle
  · exact h handle

/-! ## Runs -/

/-- A run of a client that respects the modes keeps clear of the assertion in
`Write` if and only if each `Open` with the write bit is for writing alone, or
is turned down anyway. -/
theorem write_unreached_iff (R : StreamReader ρ) (calls : List (Call ρ)) :
    Along (modeStep R) WriteUnreached Opened.empty calls ↔
      Along (modeStep R) WriteBitAlone Opened.empty calls := by
  have hempty : NoneForWriting (Opened.empty : Opened ρ) := fun _ => UInt32.zero_and
  refine along_iff_along ?_ calls hempty
  intro t call answer t' h hstep
  exact ⟨writeUnreached_iff h hstep, h.step hstep⟩

/-- Both bits: `Open` succeeds, and the client may write. -/
theorem write_reached :
    let calls := [.Open (memoryVFS [1, 2, 3]) (some "a") 3 true, .Write (some 0)]
    (run (modeStep MemoryReader.reader) Opened.empty calls).map Prod.snd =
        some [.opened .success (some 0), .asserted .notImplemented] ∧
      ¬ Along (modeStep MemoryReader.reader) WriteUnreached Opened.empty calls := by
  intro calls
  refine ⟨rfl, ?_⟩
  intro h
  exact ((h _ _ rfl).2 _ _ rfl).1.not_asserted (some 0) .notImplemented rfl rfl

end MiniaudioCpp.VFS
