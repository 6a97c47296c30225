import MiniaudioCpp.Foundation.Slots
import MiniaudioCpp.VFS.Callbacks

/-!
# Handles and readers

The account of readers.  The slots are the handles, each holding the reader of
its file; the invariant `Accounted` says that no reader is in two slots, that
the live readers are those in some slot, and that a reader was deleted once if
it was created and is not live, and never otherwise.

`vfsStep_cases` is all that a callback can do to the state: nothing, a new
file, a call on the reader of one open file, or the deletion of one.  Every
invariant of the VFS is derived from it.
-/

namespace MiniaudioCpp.VFS

open Foundation

variable {ρ : Type*} {R : StreamReader ρ} {s s' : State ρ} {call : Call ρ} {answer : Answer}

/-! ## What a callback can do -/

/-- `Open` makes a new file and answers with its handle, or it does nothing and
answers an error. -/
theorem Open_cases (vfs : VFS ρ) (pFilePath : Option String) (openMode : UInt32) (pFile : Bool)
    (s : State ρ) :
    (∃ result, result ≠ .success ∧
        Callbacks.Open vfs pFilePath openMode pFile s = (s, .opened result none)) ∨
      ∃ path reader, pFilePath = some path ∧ vfs.onCreateReader path = some reader ∧
        Callbacks.Open vfs pFilePath openMode pFile s =
          (s.newFile reader (vfs.onGetFileSize path), .opened .success (some s.files.size)) := by
  unfold Callbacks.Open
  cases pFilePath with
  | none => exact Or.inl ⟨.invalidArgs, by decide, rfl⟩
  | some path =>
      dsimp only
      split
      · exact Or.inl ⟨.invalidArgs, by decide, rfl⟩
      split
      · exact Or.inl ⟨.notImplemented, by decide, rfl⟩
      cases hreader : vfs.onCreateReader path with
      | none => exact Or.inl ⟨.error, by decide, rfl⟩
      | some reader => exact Or.inr ⟨path, reader, rfl, hreader, rfl⟩

/-- All that a callback can do to the state. -/
theorem vfsStep_cases (hstep : vfsStep R s call = some (s', answer)) :
    s' = s ∨ (∃ reader size, s' = s.newFile reader size) ∨
      (∃ file f reader reader', s.deref file = some (f, reader) ∧
        s' = s.setReader f.Reader reader') ∨
      ∃ file f, s.files.get? file = some f ∧ s' = s.deleteFile file f := by
  cases call with
  | Open vfs pFilePath openMode pFile =>
      rw [vfsStep, Option.some.injEq] at hstep
      rcases Open_cases vfs pFilePath openMode pFile s with ⟨_, _, heq⟩ | ⟨_, reader, _, _, heq⟩
      · rw [heq, Prod.mk.injEq] at hstep
        exact Or.inl hstep.1.symm
      · rw [heq, Prod.mk.injEq] at hstep
        exact Or.inr (Or.inl ⟨reader, _, hstep.1.symm⟩)
  | OpenW =>
      simp only [vfsStep, Callbacks.OpenW, Option.some.injEq, Prod.mk.injEq] at hstep
      exact Or.inl hstep.1.symm
  | Close file =>
      cases file with
      | none =>
          simp only [vfsStep, Callbacks.Close, Option.some.injEq, Prod.mk.injEq] at hstep
          exact Or.inl hstep.1.symm
      | some file =>
          simp only [vfsStep, Callbacks.Close, Option.map_eq_some_iff, Prod.mk.injEq] at hstep
          obtain ⟨f, hf, rfl, _⟩ := hstep
          exact Or.inr (Or.inr (Or.inr ⟨file, f, hf, rfl⟩))
  | Read file pDst sizeInBytes pBytesRead =>
      cases file with
      | none =>
          simp only [vfsStep, Callbacks.Read, Option.some.injEq, Prod.mk.injEq] at hstep
          exact Or.inl hstep.1.symm
      | some file =>
          -- a null `pDst` is turned down before the handle is looked at
          simp only [vfsStep, Callbacks.Read] at hstep
          split at hstep
          · simp only [Option.some.injEq, Prod.mk.injEq] at hstep
            exact Or.inl hstep.1.symm
          · simp only [Option.map_eq_some_iff, Prod.mk.injEq, Prod.exists] at hstep
            obtain ⟨f, reader, hderef, rfl, _⟩ := hstep
            exact Or.inr (Or.inr (Or.inl ⟨file, f, reader, _, hderef, rfl⟩))
  | Write file =>
      simp only [vfsStep, Callbacks.Write, Option.some.injEq, Prod.mk.injEq] at hstep
      exact Or.inl hstep.1.symm
  | Seek file offset origin =>
      cases file with
      | none =>
          simp only [vfsStep, Callbacks.Seek, Option.some.injEq, Prod.mk.injEq] at hstep
          exact Or.inl hstep.1.symm
      | some file =>
          simp only [vfsStep, Callbacks.Seek, Option.map_eq_some_iff, Prod.mk.injEq,
            Prod.exists] at hstep
          obtain ⟨f, reader, hderef, rfl, _⟩ := hstep
          exact Or.inr (Or.inr (Or.inl ⟨file, f, reader, _, hderef, rfl⟩))
  | Tell file pCursor =>
      cases file with
      | none =>
          simp only [vfsStep, Callbacks.Tell, Option.some.injEq, Prod.mk.injEq] at hstep
          exact Or.inl hstep.1.symm
      | some file =>
          simp only [vfsStep, Callbacks.Tell] at hstep
          split at hstep
          · simp only [Option.some.injEq, Prod.mk.injEq] at hstep
            exact Or.inl hstep.1.symm
          · simp only [Option.map_eq_some_iff, Prod.mk.injEq, Prod.exists] at hstep
            obtain ⟨_, _, _, rfl, _⟩ := hstep
            exact Or.inl rfl
  | Info file pInfo =>
      cases file with
      | none =>
          simp only [vfsStep, Callbacks.Info, Option.some.injEq, Prod.mk.injEq] at hstep
          exact Or.inl hstep.1.symm
      | some file =>
          simp only [vfsStep, Callbacks.Info] at hstep
          split at hstep
          · simp only [Option.some.injEq, Prod.mk.injEq] at hstep
            exact Or.inl hstep.1.symm
          · simp only [Option.map_eq_some_iff, Prod.mk.injEq] at hstep
            obtain ⟨_, _, rfl, _⟩ := hstep
            exact Or.inl rfl

/-! ## The account of readers -/

namespace State

/-- The reader that each open handle holds. -/
def slots (s : State ρ) (file : ℕ) : Option ℕ := (s.files.get? file).map VFSFile.Reader

/-- The slots, the live readers and the deleted readers agree. -/
structure Accounted (s : State ρ) : Prop where
  exclusive : Exclusive s.slots
  live : ∀ p, (∃ reader, s.readers.get? p = some reader) ↔ Holds s.slots p
  deleted_of_live : ∀ p, Holds s.slots p → s.deleted.count p = 0
  deleted_of_dead : ∀ p, p < s.readers.size → ¬ Holds s.slots p → s.deleted.count p = 1
  unborn : ∀ p, s.readers.size ≤ p → s.deleted.count p = 0

theorem slots_of_get? {file : ℕ} {f : VFSFile} (h : s.files.get? file = some f) :
    s.slots file = some f.Reader := by
  rw [slots, h, Option.map_some]

theorem slots_newFile (s : State ρ) (reader : ρ) (size : UInt64) :
    (s.newFile reader size).slots = Function.update s.slots s.files.size (some s.readers.size) := by
  funext file
  by_cases hfile : file = s.files.size
  · subst hfile
    simp [slots, newFile]
  · simp [slots, newFile, Arena.get?_alloc, hfile]

theorem slots_deleteFile (s : State ρ) (file : ℕ) (f : VFSFile) :
    (s.deleteFile file f).slots = Function.update s.slots file none := by
  funext other
  by_cases hother : other = file
  · subst hother
    simp [slots, deleteFile, Arena.get?_free]
  · simp [slots, deleteFile, Arena.get?_free, hother]

namespace Accounted

theorem empty : (State.empty : State ρ).Accounted where
  exclusive := Exclusive.of_forall_eq_none fun _ => by simp [slots, State.empty]
  live p := by simp [State.empty, Holds, slots]
  deleted_of_live p _ := rfl
  deleted_of_dead p hp _ := absurd hp (by simp [State.empty])
  unborn p _ := rfl

theorem lt_size_of_holds (h : s.Accounted) {p : ℕ} (hp : Holds s.slots p) : p < s.readers.size := by
  obtain ⟨reader, hreader⟩ := (h.live p).mpr hp
  exact Arena.lt_size_of_get? hreader

/-- A fresh reader goes into a fresh slot. -/
theorem newFile (h : s.Accounted) (reader : ρ) (size : UInt64) :
    (s.newFile reader size).Accounted := by
  have hfresh : ¬ Holds s.slots s.readers.size := fun hp =>
    absurd (h.lt_size_of_holds hp) (Nat.lt_irrefl _)
  have hslot : s.slots s.files.size = none := by
    simp [slots, Arena.get?_of_size_le (Nat.le_refl _)]
  have hholds := slots_newFile s reader size ▸ holds_fill hslot s.readers.size
  have hsize : (s.newFile reader size).readers.size = s.readers.size + 1 := Arena.size_alloc ..
  refine ⟨?_, fun p => ?_, fun p hp => ?_, fun p hp hnot => ?_, fun p hp => ?_⟩
  · rw [slots_newFile]
    exact h.exclusive.fill s.files.size hfresh
  · rw [hholds p, ← h.live p]
    show (∃ x, (s.readers.alloc reader).get? p = some x) ↔ _
    rw [Arena.get?_alloc]
    by_cases hp : p = s.readers.size <;> simp [hp]
  · rcases (hholds p).mp hp with rfl | hold
    · exact h.unborn _ (Nat.le_refl _)
    · exact h.deleted_of_live p hold
  · rw [hholds p, not_or] at hnot
    exact h.deleted_of_dead p (by omega) hnot.2
  · exact h.unborn p (by omega)

/-- A call on a reader moves nothing. -/
theorem setReader (h : s.Accounted) {p : ℕ} {reader : ρ} (hp : s.readers.get? p = some reader)
    (reader' : ρ) : (s.setReader p reader').Accounted := by
  have hlt := Arena.lt_size_of_get? hp
  refine ⟨h.exclusive, fun q => ?_, h.deleted_of_live, fun q hq => ?_, fun q hq => ?_⟩
  · show (∃ x, (s.readers.put p reader').get? q = some x) ↔ Holds s.slots q
    rw [← h.live q, Arena.get?_put hlt]
    by_cases hq : q = p
    · subst hq
      simp [hp]
    · simp [hq]
  · exact h.deleted_of_dead q (by simpa [State.setReader] using hq)
  · exact h.unborn q (by simpa [State.setReader] using hq)

/-- A closed handle leaves its slot, and its reader is deleted: nobody else
holds it. -/
theorem deleteFile (h : s.Accounted) {file : ℕ} {f : VFSFile} (hf : s.files.get? file = some f) :
    (s.deleteFile file f).Accounted := by
  have hslot := slots_of_get? hf
  have hholds : ∀ p, Holds (s.deleteFile file f).slots p ↔ Holds s.slots p ∧ p ≠ f.Reader := by
    intro p
    rw [slots_deleteFile, h.exclusive.holds_clear, hslot, ne_eq, ne_eq, Option.some.injEq,
      eq_comm (a := p)]
  have hcount : ∀ p, (s.deleteFile file f).deleted.count p =
      s.deleted.count p + if f.Reader = p then 1 else 0 := by
    intro p
    show (s.deleted ++ [f.Reader]).count p = _
    rw [List.count_append, List.count_singleton]
    simp
  have hsize : (s.deleteFile file f).readers.size = s.readers.size := Arena.size_free ..
  have hreader := h.lt_size_of_holds ⟨file, hslot⟩
  refine ⟨?_, fun p => ?_, fun p hp => ?_, fun p hp hnot => ?_, fun p hp => ?_⟩
  · rw [slots_deleteFile]
    exact h.exclusive.clear file
  · rw [hholds p, ← h.live p]
    show (∃ x, (s.readers.free f.Reader).get? p = some x) ↔ _
    rw [Arena.get?_free]
    by_cases hp : p = f.Reader <;> simp [hp]
  · obtain ⟨hold, hne⟩ := (hholds p).mp hp
    rw [hcount p, h.deleted_of_live p hold, if_neg (Ne.symm hne)]
  · -- the reader of this handle dies now, any other one was dead before
    rw [hcount p]
    by_cases hp' : f.Reader = p
    · rw [if_pos hp', h.deleted_of_live p ⟨file, hp' ▸ hslot⟩]
    · rw [if_neg hp', h.deleted_of_dead p (hsize ▸ hp)]
      exact fun hold => hnot ((hholds p).mpr ⟨hold, Ne.symm hp'⟩)
  · rw [hcount p, h.unborn p (hsize ▸ hp), if_neg (by omega)]

end Accounted

end State

theorem vfsStep_accounted (h : s.Accounted) (hstep : vfsStep R s call = some (s', answer)) :
    s'.Accounted := by
  rcases vfsStep_cases hstep with rfl | ⟨reader, size, rfl⟩ | ⟨_, _, _, reader', hderef, rfl⟩ |
    ⟨_, _, hf, rfl⟩
  · exact h
  · exact h.newFile reader size
  · exact h.setReader (State.deref_eq_some.mp hderef).2 reader'
  · exact h.deleteFile hf

/-! ## The correspondence -/

/-- Readers against handles, at one point of a run. -/
structure Correspondence (s : State ρ) : Prop where
  /-- The live readers are those of the open handles. -/
  live_iff : ∀ p, (∃ reader, s.readers.get? p = some reader) ↔
    ∃ file f, s.files.get? file = some f ∧ f.Reader = p
  /-- No reader is in two handles. -/
  one_handle : ∀ file file' f f', s.files.get? file = some f → s.files.get? file' = some f' →
    f.Reader = f'.Reader → file = file'
  /-- With the last handle closed, each reader ever created was deleted once. -/
  all_deleted : (∀ file, s.files.get? file = none) →
    ∀ p, p < s.readers.size → s.deleted.count p = 1

/-- An `Open` that does not succeed changes nothing and writes nothing. -/
def FailedOpenIsNoOp (s : State ρ) : Call ρ → Answer → State ρ → Prop
  | .Open .., answer, s' => ∃ result pFile, answer = .opened result pFile ∧
      (result ≠ .success → s' = s ∧ pFile = none)
  | _, _, _ => True

theorem State.Accounted.correspondence (h : s.Accounted) : Correspondence s where
  live_iff p := by
    rw [h.live p]
    simp [Holds, State.slots, Option.map_eq_some_iff]
  one_handle file file' f f' hf hf' heq :=
    h.exclusive file file' f.Reader (State.slots_of_get? hf) (heq ▸ State.slots_of_get? hf')
  all_deleted hclosed p hp := by
    apply h.deleted_of_dead p hp
    rintro ⟨file, hfile⟩
    simp [State.slots, hclosed file] at hfile

theorem failedOpenIsNoOp (hstep : vfsStep R s call = some (s', answer)) :
    FailedOpenIsNoOp s call answer s' := by
  cases call with
  | Open vfs pFilePath openMode pFile =>
      rw [vfsStep, Option.some.injEq] at hstep
      rcases Open_cases vfs pFilePath openMode pFile s with ⟨result, _, heq⟩ | ⟨_, _, _, _, heq⟩
      · rw [heq, Prod.mk.injEq] at hstep
        obtain ⟨rfl, rfl⟩ := hstep
        exact ⟨result, none, rfl, fun _ => ⟨rfl, rfl⟩⟩
      · rw [heq, Prod.mk.injEq] at hstep
        exact ⟨.success, _, hstep.2.symm, fun hne => absurd rfl hne⟩
  | _ => trivial

theorem correspondence_of_run {calls : List (Call ρ)} {answers : List Answer}
    (hrun : run (vfsStep R) State.empty calls = some (s, answers)) : Correspondence s := by
  have haccounted : s.Accounted :=
    run_invariant (fun _ _ _ _ h hstep => vfsStep_accounted h hstep) State.Accounted.empty hrun
  exact haccounted.correspondence

theorem failedOpenIsNoOp_along (s : State ρ) (calls : List (Call ρ)) :
    Along (vfsStep R) FailedOpenIsNoOp s calls := by
  have hstep : ∀ s call answer s', True → vfsStep R s call = some (s', answer) →
      FailedOpenIsNoOp s call answer s' ∧ True :=
    fun s call answer s' _ hstep => ⟨failedOpenIsNoOp hstep, trivial⟩
  exact along_of_invariant hstep calls trivial

/-- Handles and readers correspond after every run, and an `Open` that fails on
the way is a no-op.  A step is a whole callback here; the code of the callbacks,
in which a reader is made before its file, does the same (`exec_code`), and
`code_corresponds` is this for that code. -/
theorem handles_correspond {calls : List (Call ρ)} {answers : List Answer}
    (hrun : run (vfsStep R) State.empty calls = some (s, answers)) :
    Correspondence s ∧ Along (vfsStep R) FailedOpenIsNoOp State.empty calls :=
  ⟨correspondence_of_run hrun, failedOpenIsNoOp_along State.empty calls⟩

/-- Two files, an `Open` that fails between them, and both closed. -/
theorem handles_correspond_two :
    let calls := [.Open (memoryVFS [1, 2, 3]) (some "a") 1 true, .Open ⟨fun _ => none, fun _ => 0⟩
      (some "b") 1 true, .Open (memoryVFS []) (some "c") 1 true, .Read (some 0) true 2 true,
      .Close (some 1), .Close (some 0)]
    let s : State MemoryReader := ⟨⟨[none, none]⟩, ⟨[none, none]⟩, [1, 0]⟩
    run (vfsStep MemoryReader.reader) State.empty calls =
        some (s, [.opened .success (some 0), .opened .error none, .opened .success (some 1),
          .read .success [1, 2] (some 2), .result .success, .result .success]) ∧
      Correspondence s ∧
      Along (vfsStep MemoryReader.reader) FailedOpenIsNoOp State.empty calls := by
  intro calls s
  have hrun : run (vfsStep MemoryReader.reader) State.empty calls =
      some (s, [.opened .success (some 0), .opened .error none, .opened .success (some 1),
        .read .success [1, 2] (some 2), .result .success, .result .success]) := rfl
  exact ⟨hrun, handles_correspond hrun⟩

end MiniaudioCpp.VFS
