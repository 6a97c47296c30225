import MiniaudioCpp.Foundation.Tracking
import MiniaudioCpp.VFS.Threads
import Mathlib.Data.Sum.Basic

/-!
# Every interleaving of the VFS callbacks is one of instant calls

A handle that is passed to a call is nobody else's until the call returns, and
neither is its reader, since no reader is in two handles.  So what a call reads
of them at its first step still holds at its last.  A reader that `Open` has
made and not yet put into a file is known to that call alone; its address is the
note of the thread.

The readers of the two machines need not have the same addresses: two threads
that open files may create the readers in one order and the files in the other.
A handle looks alike in the two where it has the same size and a reader in the
same state (`View`).
-/

namespace MiniaudioCpp.VFS

open Foundation

variable {ρ : Type*} {R : StreamReader ρ}

/-! ## Handles in the two machines -/

/-- What a handle is: its file with the reader, the size and the reader that the
instant machine has for it, and the entry of the clients' account. -/
@[ext] structure View (ρ : Type*) where
  file : Option VFSFile
  reader : Option ρ
  instant : Option (UInt64 × ρ)
  held : Option Bool

/-- What a handle is. -/
def View.of (s t : State ρ) (account : Account) (file : ℕ) : View ρ where
  file := s.files.get? file
  reader := (s.deref file).map Prod.snd
  instant := t.opened file
  held := account file

/-- An open file. -/
def View.opened (vfsFile : VFSFile) (reader : ρ) (held : Option Bool) : View ρ :=
  ⟨some vfsFile, some reader, some (vfsFile.FileSize, reader), held⟩

/-- A handle that no call is working on. -/
def View.Settled (view : View ρ) : Prop :=
  view = ⟨none, none, none, none⟩ ∨ ∃ vfsFile reader, view = .opened vfsFile reader (some false)

/-- The handles of a call: the one passed to it, and the one it will return. -/
def Uses (call : Call ρ) (here : Call ρ ⊕ Option Answer) (file : ℕ) : Prop :=
  call.file = some file ∨ here = .inr (some (.opened .success (some file)))

section View

variable {s t : State ρ} {account : Account} {file : ℕ} {vfsFile : VFSFile} {reader : ρ}
  {held : Option Bool}

/-- An open file, in each machine. -/
theorem View.of_eq_opened_iff :
    View.of s t account file = .opened vfsFile reader held ↔
      s.deref file = some (vfsFile, reader) ∧
        (∃ vfsFile', vfsFile'.FileSize = vfsFile.FileSize ∧
          t.deref file = some (vfsFile', reader)) ∧
        account file = held := by
  rw [View.ext_iff]
  simp only [View.of, View.opened, State.opened, Option.map_eq_some_iff, Prod.exists,
    Prod.mk.injEq]
  constructor
  · rintro ⟨hfile, ⟨vfsFile', reader', hderef, rfl⟩,
      ⟨vfsFile'', reader'', hinstant, hsize, rfl⟩, rfl⟩
    obtain ⟨hfile', -⟩ := State.deref_eq_some.mp hderef
    obtain rfl : vfsFile = vfsFile' := Option.some.inj (hfile.symm.trans hfile')
    exact ⟨hderef, ⟨vfsFile'', hsize, hinstant⟩, rfl⟩
  · rintro ⟨hderef, ⟨vfsFile', hsize, hinstant⟩, rfl⟩
    exact ⟨(State.deref_eq_some.mp hderef).1, ⟨vfsFile, reader, hderef, rfl⟩,
      ⟨vfsFile', reader, hinstant, hsize, rfl⟩, rfl⟩

end View

/-! ## The stages of a call -/

section

variable (R : StreamReader ρ)

/-- Where a call can be: its code, what it is for the instant machine, and the
reader that it has made. -/
inductive Stage (view : ℕ → View ρ) (own : Option ρ) :
    Call ρ → CallbackCode ρ → Call ρ ⊕ Option Answer → Option ℕ → Prop
  | ended {call : Call ρ} {answer : Answer}
      (hopened : ∀ result file, answer ≠ .opened result (some file))
      (hclose : ∀ file, call ≠ .Close (some file))
      (hview : ∀ file, call.file = some file →
        ∃ vfsFile reader, view file = .opened vfsFile reader (some true)) :
      Stage view own call (.ret (some answer)) (.inr (some answer)) none
  | create {vfs : VFS ρ} {path : String} {openMode : UInt32} {reader : ρ}
      (hmode : openMode ≠ MA_OPEN_MODE_WRITE) (hreader : vfs.onCreateReader path = some reader) :
      Stage view own (.Open vfs (some path) openMode true)
        (Callback.createReader reader fun p =>
          Callback.newFile ⟨p, vfs.onGetFileSize path⟩ fun file =>
            .ret (some (.opened .success (some file))))
        (.inl (.Open vfs (some path) openMode true)) none
  | created {vfs : VFS ρ} {path : String} {openMode : UInt32} {reader : ρ} {p : ℕ}
      (hmode : openMode ≠ MA_OPEN_MODE_WRITE) (hreader : vfs.onCreateReader path = some reader)
      (hown : own = some reader) :
      Stage view own (.Open vfs (some path) openMode true)
        (Callback.newFile ⟨p, vfs.onGetFileSize path⟩ fun file =>
          .ret (some (.opened .success (some file))))
        (.inl (.Open vfs (some path) openMode true)) (some p)
  | opened {vfs : VFS ρ} {path : Option String} {openMode : UInt32} {pFile : Bool} {file : ℕ}
      {vfsFile : VFSFile} {reader : ρ} (hview : view file = .opened vfsFile reader none) :
      Stage view own (.Open vfs path openMode pFile)
        (.ret (some (.opened .success (some file))))
        (.inr (some (.opened .success (some file)))) none
  | load {call : Call ρ} {file : ℕ} {vfsFile : VFSFile} {reader : ρ}
      (hcall : call.file = some file) (hacts : ∀ answer, call.code R ≠ .ret answer)
      (hview : view file = .opened vfsFile reader (some true)) :
      Stage view own call (call.code R) (.inl call) none
  | readPosition {file : ℕ} {sizeInBytes : UInt64} {pBytesRead : Bool} {vfsFile : VFSFile}
      {reader : ρ} (hview : view file = .opened vfsFile reader (some true)) :
      Stage view own (.Read (some file) true sizeInBytes pBytesRead)
        (Callback.getStreamPosition R vfsFile.Reader (Read.data R sizeInBytes pBytesRead vfsFile))
        (.inl (.Read (some file) true sizeInBytes pBytesRead)) none
  | readData {file : ℕ} {sizeInBytes : UInt64} {pBytesRead : Bool} {vfsFile : VFSFile}
      {reader : ρ} (hview : view file = .opened vfsFile reader (some true)) :
      Stage view own (.Read (some file) true sizeInBytes pBytesRead)
        (Read.data R sizeInBytes pBytesRead vfsFile (R.GetStreamPosition reader))
        (.inl (.Read (some file) true sizeInBytes pBytesRead)) none
  | seekPosition {file : ℕ} {offset : Int64} {vfsFile : VFSFile} {reader : ρ}
      (hview : view file = .opened vfsFile reader (some true)) :
      Stage view own (.Seek (some file) offset .current)
        (Callback.getStreamPosition R vfsFile.Reader fun position =>
          Seek.set R vfsFile (position + offset.toUInt64))
        (.inl (.Seek (some file) offset .current)) none
  | seekSet {file : ℕ} {offset : Int64} {origin : MaSeekOrigin} {vfsFile : VFSFile} {reader : ρ}
      (hview : view file = .opened vfsFile reader (some true)) :
      Stage view own (.Seek (some file) offset origin)
        (Seek.set R vfsFile
          (Callbacks.seekPosition vfsFile.FileSize (R.GetStreamPosition reader) offset origin))
        (.inl (.Seek (some file) offset origin)) none
  | tell {file : ℕ} {vfsFile : VFSFile} {reader : ρ}
      (hview : view file = .opened vfsFile reader (some true)) :
      Stage view own (.Tell (some file) true)
        (Callback.getStreamPosition R vfsFile.Reader fun position =>
          .ret (some (.told .success (some position.toInt64))))
        (.inl (.Tell (some file) true)) none
  | delete {file : ℕ} {vfsFile : VFSFile} {reader : ρ}
      (hview : view file = .opened vfsFile reader (some true)) :
      Stage view own (.Close (some file))
        (Callback.deleteReader vfsFile.Reader
          (Callback.deleteFile file (.ret (some (.result .success)))))
        (.inl (.Close (some file))) none
  | deleted {file : ℕ} {vfsFile : VFSFile}
      (hview : view file = ⟨some vfsFile, none, none, some true⟩) :
      Stage view own (.Close (some file))
        (Callback.deleteFile file (.ret (some (.result .success))))
        (.inr (some (.result .success))) none
  | closed {file : ℕ} (hview : view file = ⟨none, none, none, some true⟩) :
      Stage view own (.Close (some file)) (.ret (some (.result .success)))
        (.inr (some (.result .success))) none

end

section Stages

variable {view view' : ℕ → View ρ} {own : Option ρ} {call : Call ρ} {code : CallbackCode ρ}
  {here : Call ρ ⊕ Option Answer} {made : Option ℕ}

/-- A stage is about the handles of the call, and no others. -/
theorem Stage.congr (h : Stage R view own call code here made)
    (hview : ∀ file, Uses call here file → view' file = view file) :
    Stage R view' own call code here made := by
  cases h with
  | ended hopened hclose hopen =>
      refine .ended hopened hclose fun file hfile => ?_
      rw [hview file (Or.inl hfile)]
      exact hopen file hfile
  | create hmode hreader => exact .create hmode hreader
  | created hmode hreader hown => exact .created hmode hreader hown
  | opened hfile => exact .opened ((hview _ (Or.inr rfl)).trans hfile)
  | load hcall hacts hfile => exact .load hcall hacts ((hview _ (Or.inl hcall)).trans hfile)
  | readPosition hfile => exact .readPosition ((hview _ (Or.inl rfl)).trans hfile)
  | readData hfile => exact .readData ((hview _ (Or.inl rfl)).trans hfile)
  | seekPosition hfile => exact .seekPosition ((hview _ (Or.inl rfl)).trans hfile)
  | seekSet hfile => exact .seekSet ((hview _ (Or.inl rfl)).trans hfile)
  | tell hfile => exact .tell ((hview _ (Or.inl rfl)).trans hfile)
  | delete hfile => exact .delete ((hview _ (Or.inl rfl)).trans hfile)
  | deleted hfile => exact .deleted ((hview _ (Or.inl rfl)).trans hfile)
  | closed hfile => exact .closed ((hview _ (Or.inl rfl)).trans hfile)

/-- A handle that a call has is not for a client to pass. -/
theorem Stage.busy (h : Stage R view own call code here made) {file : ℕ}
    (huses : Uses call here file) : (view file).held ≠ some false := by
  have hopen : ∀ {vfsFile reader held}, view file = .opened vfsFile reader held →
      held ≠ some false → (view file).held ≠ some false := by
    rintro vfsFile reader held hview hheld
    rwa [hview]
  cases h with
  | ended hopened hclose hview =>
      rcases huses with hfile | hfile
      · obtain ⟨vfsFile, reader, hview⟩ := hview file hfile
        exact hopen hview (by simp)
      · simp only [Sum.inr.injEq, Option.some.injEq] at hfile
        exact absurd hfile (hopened _ _)
  | create => simp [Uses, Call.file] at huses
  | created => simp [Uses, Call.file] at huses
  | opened hview =>
      obtain rfl : _ = file := by simpa [Uses, Call.file] using huses
      exact hopen hview (by simp)
  | load hcall _ hview =>
      obtain rfl : _ = file := by simpa [Uses, hcall] using huses
      exact hopen hview (by simp)
  | readPosition hview | readData hview | seekPosition hview | seekSet hview | tell hview
  | delete hview =>
      obtain rfl : _ = file := by simpa [Uses, Call.file] using huses
      exact hopen hview (by simp)
  | deleted hview | closed hview =>
      obtain rfl : _ = file := by simpa [Uses, Call.file] using huses
      rw [hview]
      simp

end Stages

/-! ## Who has the readers -/

section Custody

variable {ι : Type*}

/-- The readers by those who have them: the files, and the calls of `Open` that
have made one. -/
def named (s : State ρ) (made : ι → Option ℕ) : ℕ ⊕ ι → Option ℕ := Sum.elim s.slots made

/-- No reader is in two hands, each live one is in some, and those that are not
live were deleted once. -/
structure Custody (s : State ρ) (made : ι → Option ℕ) : Prop where
  exclusive : Exclusive (named s made)
  live : ∀ p reader, s.readers.get? p = some reader → Holds (named s made) p
  bounded : ∀ p, Holds (named s made) p → p < s.readers.size
  deleted : ∀ p, s.deleted.count p =
    if p < s.readers.size ∧ s.readers.get? p = none then 1 else 0

namespace Custody

variable {s : State ρ} {made : ι → Option ℕ} {file p : ℕ} {reader : ρ}

theorem empty : Custody (State.empty : State ρ) fun _ : ι => none where
  exclusive := Exclusive.of_forall_eq_none fun
    | .inl _ => by simp [named, State.slots, State.empty]
    | .inr _ => rfl
  live p reader hreader := by simp [State.empty] at hreader
  bounded := by
    rintro p ⟨_ | _, hp⟩
    · simp [named, State.slots, State.empty] at hp
    · simp [named] at hp
  deleted p := by simp [State.empty]

theorem lt_size_of_slots (h : Custody s made) (hslot : s.slots file = some p) :
    p < s.readers.size := h.bounded p ⟨.inl file, hslot⟩

theorem lt_size_of_made (h : Custody s made) {i : ι} (hmade : made i = some p) :
    p < s.readers.size := h.bounded p ⟨.inr i, hmade⟩

/-- The reader of a file is in no other. -/
theorem slots_ne (h : Custody s made) (hslot : s.slots file = some p) {other : ℕ}
    (hother : other ≠ file) : s.slots other ≠ some p := fun hslot' =>
  hother (Sum.inl.inj (h.exclusive (.inl other) (.inl file) p hslot' hslot))

/-- The reader of a file is none that a call has made. -/
theorem made_ne (h : Custody s made) (hslot : s.slots file = some p) (i : ι) :
    made i ≠ some p := fun hmade =>
  Sum.inl_ne_inr (h.exclusive (.inl file) (.inr i) p hslot hmade)

/-- A call on a reader. -/
theorem setReader (h : Custody s made) (hreader : s.readers.get? p = some reader) (reader' : ρ) :
    Custody (s.setReader p reader') made := by
  have hlt := Arena.lt_size_of_get? hreader
  have hget : ∀ q, (s.readers.put p reader').get? q = none ↔ s.readers.get? q = none := by
    intro q
    rw [Arena.get?_put hlt]
    by_cases hq : q = p
    · simp [hq, hreader]
    · rw [if_neg hq]
  refine ⟨h.exclusive, fun q reader'' hq => ?_, fun q hq => ?_, fun q => ?_⟩
  · have hlive : s.readers.get? q ≠ none := fun hnone => by
      have hdead : (s.setReader p reader').readers.get? q = none := (hget q).mpr hnone
      simp [hdead] at hq
    obtain ⟨old, hold⟩ := Option.ne_none_iff_exists'.mp hlive
    exact h.live q old hold
  · show q < (s.readers.put p reader').size
    rw [Arena.size_put]
    exact h.bounded q hq
  · show s.deleted.count q =
      if q < (s.readers.put p reader').size ∧ (s.readers.put p reader').get? q = none then 1 else 0
    rw [h.deleted q, Arena.size_put]
    exact if_congr (and_congr_right' (hget q).symm) rfl rfl

/-- `delete Reader`. -/
theorem deleteReader (h : Custody s made) (hreader : s.readers.get? p = some reader) :
    Custody (s.deleteReader p) made := by
  refine ⟨h.exclusive, fun q reader' hq => ?_, fun q hq => ?_, fun q => ?_⟩
  · change (s.readers.free p).get? q = some reader' at hq
    rw [Arena.get?_free] at hq
    split at hq
    · simp at hq
    · exact h.live q reader' hq
  · show q < (s.readers.free p).size
    rw [Arena.size_free]
    exact h.bounded q hq
  · show (s.deleted ++ [p]).count q =
      if q < (s.readers.free p).size ∧ (s.readers.free p).get? q = none then 1 else 0
    rw [List.count_append, h.deleted q, Arena.size_free, Arena.get?_free]
    by_cases hq : q = p
    · subst hq
      simp [hreader, Arena.lt_size_of_get? hreader]
    · simp [hq, Ne.symm hq]

variable [DecidableEq ι]

/-- A thread has made a reader. -/
theorem createReader (h : Custody s made) {i : ι} (hidle : made i = none) (reader : ρ) :
    Custody (s.createReader reader) (Function.update made i (some s.readers.size)) := by
  have hnamed : named (s.createReader reader) (Function.update made i (some s.readers.size)) =
      Function.update (named s made) (.inr i) (some s.readers.size) :=
    Sum.update_elim_inr.symm
  have hfresh : ¬ Holds (named s made) s.readers.size := fun hholds =>
    Nat.lt_irrefl _ (h.bounded _ hholds)
  have hempty : named s made (.inr i) = none := hidle
  have hsize : (s.createReader reader).readers.size = s.readers.size + 1 := Arena.size_alloc ..
  refine ⟨?_, fun q reader' hq => ?_, fun q hq => ?_, fun q => ?_⟩
  · rw [hnamed]
    exact h.exclusive.fill _ hfresh
  · rw [hnamed, holds_fill hempty]
    change (s.readers.alloc reader).get? q = some reader' at hq
    rw [Arena.get?_alloc] at hq
    split at hq
    · exact Or.inl ‹_›
    · exact Or.inr (h.live q reader' hq)
  · rw [hnamed, holds_fill hempty] at hq
    rw [hsize]
    rcases hq with rfl | hq
    · exact Nat.lt_succ_self _
    · exact Nat.lt_succ_of_lt (h.bounded q hq)
  · rw [hsize]
    show s.deleted.count q =
      if q < s.readers.size + 1 ∧ (s.readers.alloc reader).get? q = none then 1 else 0
    rw [h.deleted q, Arena.get?_alloc]
    by_cases hq : q = s.readers.size
    · simp [hq]
    · simp only [if_neg hq]
      exact if_congr (and_congr_left' (by omega)) rfl rfl

/-- The reader of a thread goes into a new file. -/
theorem createFile (h : Custody s made) {i : ι} (hmade : made i = some p) (FileSize : UInt64) :
    Custody (s.createFile ⟨p, FileSize⟩) (Function.update made i none) := by
  have hempty : s.slots s.files.size = none := by
    simp [State.slots, Arena.get?_of_size_le (Nat.le_refl _)]
  have hnamed : named (s.createFile ⟨p, FileSize⟩) (Function.update made i none) =
      named s made ∘ Equiv.swap (.inl s.files.size) (.inr i) := by
    rw [← update_swap]
    show Sum.elim (s.createFile ⟨p, FileSize⟩).slots (Function.update made i none) =
      Function.update (Function.update (Sum.elim s.slots made) (.inl s.files.size) (made i))
        (.inr i) (s.slots s.files.size)
    rw [Sum.update_elim_inl, Sum.update_elim_inr, State.slots_createFile, hmade, hempty]
  refine ⟨?_, fun q reader hq => ?_, fun q hq => ?_, h.deleted⟩
  · rw [hnamed]
    exact h.exclusive.permute _
  · rw [hnamed, holds_permute]
    exact h.live q reader hq
  · rw [hnamed, holds_permute] at hq
    exact h.bounded q hq

/-- A file whose reader was deleted goes. -/
theorem freeFile (h : Custody s made) (hslot : s.slots file = some p)
    (hdead : s.readers.get? p = none) : Custody (s.freeFile file) made := by
  have hnamed : named (s.freeFile file) made =
      Function.update (named s made) (.inl file) none := by
    rw [named, State.slots_freeFile]
    exact Sum.update_elim_inl.symm
  refine ⟨?_, fun q reader hq => ?_, fun q hq => ?_, h.deleted⟩
  · rw [hnamed]
    exact h.exclusive.clear _
  · rw [hnamed, h.exclusive.holds_clear]
    refine ⟨h.live q reader hq, fun hq' => ?_⟩
    obtain rfl : p = q := Option.some.inj (hslot.symm.trans hq')
    exact absurd (hdead.symm.trans hq) (by simp)
  · rw [hnamed, h.exclusive.holds_clear] at hq
    exact h.bounded q hq.1

omit [DecidableEq ι] in
/-- Where no call has a reader and each file's is live, the readers are those of
the files. -/
theorem accounted (h : Custody s fun _ : ι => none)
    (hopen : ∀ file p, s.slots file = some p → ∃ reader, s.readers.get? p = some reader) :
    s.Accounted := by
  have hlive : ∀ p, (∃ reader, s.readers.get? p = some reader) ↔ Holds s.slots p := by
    intro p
    constructor
    · rintro ⟨reader, hreader⟩
      obtain ⟨file | i, hp⟩ := h.live p reader hreader
      · exact ⟨file, hp⟩
      · simp [named] at hp
    · rintro ⟨file, hp⟩
      exact hopen file p hp
  refine ⟨fun file file' p hp hp' => ?_, hlive, fun p hp => ?_, fun p hp hnot => ?_,
    fun p hp => ?_⟩
  · exact Sum.inl.inj (h.exclusive (.inl file) (.inl file') p hp hp')
  · obtain ⟨reader, hreader⟩ := (hlive p).mpr hp
    rw [h.deleted p, hreader]
    simp
  · have hdead : s.readers.get? p = none :=
      Option.eq_none_iff_forall_not_mem.mpr fun reader hreader =>
        hnot ((hlive p).mp ⟨reader, hreader⟩)
    rw [h.deleted p, if_pos ⟨hp, hdead⟩]
  · rw [h.deleted p, if_neg fun hlt => absurd hlt.1 (by omega)]

end Custody

end Custody

/-! ## One step of one call -/

/-- How the callbacks are followed.  The note of a thread is the reader that it
has made. -/
def tracking (R : StreamReader ρ) :
    Tracking (State ρ) (State ρ) Account (CallbackCode ρ) (Call ρ) (Option Answer) ℕ (View ρ)
      (Option ℕ) (Option ρ) where
  view := View.of
  Settled := View.Settled
  Free view := view.held = some false
  Born s file := file < s.files.size
  Uses := Uses
  own s made := made.bind s.readers.get?
  blank := none
  Stage := Stage R

/-- The machines have the same handles, and in each the readers are accounted
for. -/
structure Shared {ι : Type*} (s t : State ρ) (made : ι → Option ℕ) : Prop where
  size : s.files.size = t.files.size
  custody : Custody s made
  accounted : t.Accounted

section Advance

variable {ι : Type*} [DecidableEq ι]

/-- The instant machine and the note of the thread can follow a step of its
call. -/
def Followed (R : StreamReader ρ) (account : Account) (call : Call ρ) (s t : State ρ)
    (made : ι → Option ℕ) (i : ι) (here : Call ρ ⊕ Option Answer) (s' : State ρ)
    (code' : CallbackCode ρ) : Prop :=
  ∃ t' here' made', (tracking R).Advance (instantCall R) account call s t here s' code' t' here'
      made' ∧
    Shared s' t' (Function.update made i made') ∧
    ∀ k, k ≠ i → (tracking R).own s' (made k) = (tracking R).own s (made k)

variable {account : Account} {call : Call ρ} {s s' t t' : State ρ} {made : ι → Option ℕ} {i : ι}
  {here here' : Call ρ ⊕ Option Answer} {code' : CallbackCode ρ} {file : ℕ} {vfsFile : VFSFile}
  {reader : ρ}

/-- A handle looks as before where both machines have left it alone. -/
theorem View.of_congr (hfile : s'.files.get? file = s.files.get? file)
    (hderef : s'.deref file = s.deref file) (hinstant : t'.deref file = t.deref file) :
    View.of s' t' account file = View.of s t account file := by
  rw [View.of, View.of, State.opened, State.opened, hfile, hderef, hinstant]

theorem uses_call {j : ℕ} : Uses call (.inl call) j ↔ call.file = some j := by
  simp [Uses]

theorem uses_answer {answer : Answer}
    (hopened : ∀ result file, answer ≠ .opened result (some file)) {j : ℕ} :
    Uses call (.inr (some answer)) j ↔ call.file = some j := by
  simp [Uses, hopened]

/-- A step of a call on an open file: it touches no other handle, and no reader
that a thread has made. -/
theorem Followed.of_file (hidle : made i = none) (hfile : call.file = some file)
    (hserved : (t' = t ∧ here' = here) ∨
      here = .inl call ∧ ∃ answer, here' = .inr (some answer) ∧
        (∀ result file, answer ≠ .opened result (some file)) ∧
        vfsStep R t call = some (t', answer))
    (hstage : Stage R (View.of s' t' account) none call code' here' none)
    (hframe : ∀ j, j ≠ file → View.of s' t' account j = View.of s t account j)
    (hsize : s'.files.size = s.files.size) (hshared : Shared s' t' made)
    (hmade : ∀ k p, made k = some p → s'.readers.get? p = s.readers.get? p) :
    Followed R account call s t made i here s' code' := by
  have hsame : ∀ j, Uses call here' j ↔ Uses call here j := by
    intro j
    rcases hserved with ⟨_, rfl⟩ | ⟨rfl, answer, rfl, hopened, _⟩
    · exact Iff.rfl
    · rw [uses_answer hopened, uses_call]
  refine ⟨t', here', none, ⟨?_, hstage, fun j hj => hframe j ?_, fun j hj => (hsame j).mpr hj,
    fun j hj => Or.inl ((hsame j).mp hj), fun j hj => ?_⟩, ?_, fun k _ => ?_⟩
  · rcases hserved with hstill | ⟨hcall, answer, hanswer, _, hstep⟩
    · exact Or.inl hstill
    · exact Or.inr ⟨hcall, some answer, hanswer, by rw [instantCall, hstep]; rfl⟩
  · rintro rfl
    exact hj (Or.inl hfile)
  · exact Nat.lt_of_lt_of_eq hj hsize.symm
  · rwa [← hidle, Function.update_eq_self]
  · cases hk : made k with
    | none => rfl
    | some p => exact hmade k p hk

/-- A step that only looks at the file. -/
theorem Followed.stays (h : Shared s t made) (hidle : made i = none)
    (hfile : call.file = some file)
    (hstage : Stage R (View.of s t account) none call code' here none) :
    Followed R account call s t made i here s code' :=
  .of_file hidle hfile (Or.inl ⟨rfl, rfl⟩) hstage (fun _ _ => rfl) rfl h fun _ _ _ => rfl

/-- The end of a call that only looks at the file. -/
theorem Followed.looks (h : Shared s t made) (hidle : made i = none)
    (hfile : call.file = some file) (hclose : ∀ file, call ≠ .Close (some file))
    (hview : View.of s t account file = .opened vfsFile reader (some true)) {answer : Answer}
    (hopened : ∀ result file, answer ≠ .opened result (some file))
    (hstep : vfsStep R t call = some (t, answer)) :
    Followed R account call s t made i (.inl call) s (.ret (some answer)) := by
  refine .of_file hidle hfile (Or.inr ⟨rfl, answer, rfl, hopened, hstep⟩)
    (.ended hopened hclose fun file' hfile' => ?_) (fun _ _ => rfl) rfl h fun _ _ _ => rfl
  obtain rfl := Option.some.inj (hfile.symm.trans hfile')
  exact ⟨vfsFile, reader, hview⟩

/-- The end of a call that moves the reader of the file. -/
theorem Followed.moves (h : Shared s t made) (hidle : made i = none)
    (hfile : call.file = some file) (hclose : ∀ file, call ≠ .Close (some file))
    (hview : View.of s t account file = .opened vfsFile reader (some true)) {answer : Answer}
    (hopened : ∀ result file, answer ≠ .opened result (some file)) {reader' : ρ}
    (hstep : ∀ vfsFile', vfsFile'.FileSize = vfsFile.FileSize →
      t.deref file = some (vfsFile', reader) →
        vfsStep R t call = some (t.setReader vfsFile'.Reader reader', answer)) :
    Followed R account call s t made i (.inl call) (s.setReader vfsFile.Reader reader')
      (.ret (some answer)) := by
  obtain ⟨hderef, ⟨vfsFile', hsize, hinstant⟩, hheld⟩ := View.of_eq_opened_iff.mp hview
  obtain ⟨hget, hreader⟩ := State.deref_eq_some.mp hderef
  obtain ⟨hget', hreader'⟩ := State.deref_eq_some.mp hinstant
  have hslot := State.slots_of_get? hget
  have hslot' := State.slots_of_get? hget'
  refine .of_file hidle hfile (Or.inr ⟨rfl, answer, rfl, hopened, hstep vfsFile' hsize hinstant⟩)
    (.ended hopened hclose fun file' hfile' => ?_) (fun j hj => View.of_congr rfl ?_ ?_) rfl
    ⟨h.size, h.custody.setReader hreader reader', h.accounted.setReader hreader' reader'⟩
    fun k p hk => ?_
  · obtain rfl := Option.some.inj (hfile.symm.trans hfile')
    exact ⟨vfsFile, reader', View.of_eq_opened_iff.mpr ⟨State.deref_setReader_self hderef reader',
      ⟨vfsFile', hsize, State.deref_setReader_self hinstant reader'⟩, hheld⟩⟩
  · exact State.deref_setReader_of_slots_ne (Arena.lt_size_of_get? hreader)
      (h.custody.slots_ne hslot hj) reader'
  · refine State.deref_setReader_of_slots_ne (Arena.lt_size_of_get? hreader')
      (fun hother => hj ?_) reader'
    exact h.accounted.exclusive j file vfsFile'.Reader hother hslot'
  · refine Arena.get?_put_of_ne (Arena.lt_size_of_get? hreader) ?_ reader'
    rintro rfl
    exact h.custody.made_ne hslot k hk

/-- `delete Reader` of a file that is closed.  The instant machine closes it. -/
theorem Followed.deletes (h : Shared s t made) (hidle : made i = none)
    (hview : View.of s t account file = .opened vfsFile reader (some true)) :
    Followed R account (.Close (some file)) s t made i (.inl (.Close (some file)))
      (s.deleteReader vfsFile.Reader)
      (Callback.deleteFile file (.ret (some (.result .success)))) := by
  obtain ⟨hderef, ⟨vfsFile', hsize, hinstant⟩, hheld⟩ := View.of_eq_opened_iff.mp hview
  obtain ⟨hget, hreader⟩ := State.deref_eq_some.mp hderef
  obtain ⟨hget', hreader'⟩ := State.deref_eq_some.mp hinstant
  have hslot := State.slots_of_get? hget
  have hslot' := State.slots_of_get? hget'
  have hstep : vfsStep R t (.Close (some file)) =
      some (t.deleteFile file vfsFile', .result .success) := by
    simp [vfsStep, Callbacks.Close, hget']
  refine .of_file hidle rfl (Or.inr ⟨rfl, .result .success, rfl, by simp, hstep⟩)
    (.deleted (View.ext hget ?_ ?_ hheld))
    (fun j hj => View.of_congr rfl ?_ ?_) rfl
    ⟨h.size.trans (Arena.size_free ..).symm, h.custody.deleteReader hreader,
      h.accounted.deleteFile hget'⟩ fun k p hk => ?_
  · simp [View.of, State.deref, State.deleteReader, hget, Arena.get?_free]
  · simp [View.of, State.opened, State.deref, State.deleteFile, Arena.get?_free]
  · exact State.deref_deleteReader (h.custody.slots_ne hslot hj)
  · exact State.deref_deleteFile_of_slots_ne hj fun hother =>
      hj (h.accounted.exclusive j file vfsFile'.Reader hother hslot')
  · show (s.readers.free vfsFile.Reader).get? p = s.readers.get? p
    rw [Arena.get?_free, if_neg]
    rintro rfl
    exact h.custody.made_ne hslot k hk

/-- The file of a reader that was deleted goes. -/
theorem Followed.frees (h : Shared s t made) (hidle : made i = none)
    (hview : View.of s t account file = ⟨some vfsFile, none, none, some true⟩) :
    Followed R account (.Close (some file)) s t made i (.inr (some (.result .success)))
      (s.freeFile file) (.ret (some (.result .success))) := by
  have hget : s.files.get? file = some vfsFile := congrArg View.file hview
  have hdead : s.readers.get? vfsFile.Reader = none := by
    have hnone : (s.deref file).map Prod.snd = none := congrArg View.reader hview
    simpa [State.deref, hget] using hnone
  have hinstant := congrArg View.instant hview
  have hheld := congrArg View.held hview
  refine .of_file hidle rfl (Or.inl ⟨rfl, rfl⟩) (.closed (View.ext ?_ ?_ hinstant hheld))
    (fun j hj => View.of_congr (State.get?_freeFile_of_ne hj) (State.deref_freeFile hj) rfl)
    (Arena.size_free ..)
    ⟨(Arena.size_free ..).trans h.size, h.custody.freeFile (State.slots_of_get? hget) hdead,
      h.accounted⟩ fun _ _ _ => rfl
  · simp [View.of, State.freeFile, Arena.get?_free]
  · simp [View.of, State.deref, State.freeFile, Arena.get?_free]

variable {vfs : VFS ρ} {path : String} {openMode : UInt32}

/-- `Open` has made a reader. -/
theorem Followed.creates (h : Shared s t made) (hidle : made i = none)
    (hmode : openMode ≠ MA_OPEN_MODE_WRITE) (hreader : vfs.onCreateReader path = some reader) :
    Followed R account (.Open vfs (some path) openMode true) s t made i
      (.inl (.Open vfs (some path) openMode true)) (s.createReader reader)
      (Callback.newFile ⟨s.readers.size, vfs.onGetFileSize path⟩ fun file =>
        .ret (some (.opened .success (some file)))) := by
  refine ⟨t, _, some s.readers.size, ⟨Or.inl ⟨rfl, rfl⟩, .created hmode hreader ?_,
    fun j _ => View.of_congr rfl ?_ rfl, fun _ hj => hj, fun _ hj => Or.inl hj, fun _ hj => hj⟩,
    ⟨h.size, h.custody.createReader hidle reader, h.accounted⟩, fun k _ => ?_⟩
  · exact Arena.get?_alloc_self ..
  · exact State.deref_createReader (fun q hq => h.custody.lt_size_of_slots hq) reader
  · cases hk : made k with
    | none => rfl
    | some p =>
        show (s.readers.alloc reader).get? p = s.readers.get? p
        rw [Arena.get?_alloc, if_neg (Nat.ne_of_lt (h.custody.lt_size_of_made hk))]

/-- `Open` puts the reader into a file.  The instant machine opens it. -/
theorem Followed.opens (h : Shared s t made) {p : ℕ} (hmade : made i = some p)
    (hown : s.readers.get? p = some reader) (hmode : openMode ≠ MA_OPEN_MODE_WRITE)
    (hreader : vfs.onCreateReader path = some reader) (hheld : account s.files.size = none) :
    Followed R account (.Open vfs (some path) openMode true) s t made i
      (.inl (.Open vfs (some path) openMode true)) (s.createFile ⟨p, vfs.onGetFileSize path⟩)
      (.ret (some (.opened .success (some s.files.size)))) := by
  have hstep : instantCall R t (.Open vfs (some path) openMode true) =
      some (t.newFile reader (vfs.onGetFileSize path),
        some (.opened .success (some s.files.size))) := by
    simp [instantCall, vfsStep, Callbacks.Open, hmode, hreader, h.size]
  have hself : (s.createFile ⟨p, vfs.onGetFileSize path⟩).deref s.files.size =
      some (⟨p, vfs.onGetFileSize path⟩, reader) :=
    State.deref_eq_some.mpr ⟨Arena.get?_alloc_self .., hown⟩
  have hview : View.of (s.createFile ⟨p, vfs.onGetFileSize path⟩)
      (t.newFile reader (vfs.onGetFileSize path)) account s.files.size =
        .opened ⟨p, vfs.onGetFileSize path⟩ reader none := by
    refine View.of_eq_opened_iff.mpr ⟨hself, ⟨⟨t.readers.size, _⟩, rfl, ?_⟩, hheld⟩
    rw [h.size]
    exact State.deref_newFile_self ..
  refine ⟨_, _, none, ⟨Or.inr ⟨rfl, _, rfl, hstep⟩, .opened hview, fun j hj => ?_, fun j hj => ?_,
    fun j hj => ?_, fun j hj => ?_⟩,
    ⟨?_, h.custody.createFile hmade _, h.accounted.newFile reader _⟩, fun _ _ => rfl⟩
  · have hne : j ≠ s.files.size := fun heq => hj (heq ▸ Or.inr rfl)
    exact View.of_congr (State.get?_createFile_of_ne hne _) (State.deref_createFile hne _)
      (State.deref_newFile_of_ne (fun q hq => h.accounted.lt_size_of_holds ⟨j, hq⟩)
        (h.size ▸ hne) reader _)
  · simp [tracking, Uses, Call.file] at hj
  · obtain rfl : s.files.size = j := by simpa [tracking, Uses, Call.file] using hj
    exact Or.inr ⟨Nat.lt_irrefl _,
      Nat.lt_of_lt_of_eq (Nat.lt_succ_self _) (Arena.size_alloc ..).symm⟩
  · exact Nat.lt_of_lt_of_eq (Nat.lt_succ_of_lt hj) (Arena.size_alloc ..).symm
  · exact (Arena.size_alloc ..).trans ((congrArg (· + 1) h.size).trans (Arena.size_alloc ..).symm)

/-! ### The first action of code -/

theorem loadFile_act {effect : State ρ → State ρ} {next : State ρ → CallbackCode ρ}
    {after : VFSFile → CallbackCode ρ} (hfile : s.files.get? file = some vfsFile)
    (hcode : Callback.loadFile file after = .act effect next) :
    effect s = s ∧ next s = after vfsFile := by
  obtain ⟨rfl, rfl⟩ := Code.act.inj hcode
  simp [hfile]

theorem callReader_act {β : Type*} {effect : State ρ → State ρ} {next : State ρ → CallbackCode ρ}
    {p : ℕ} {f : ρ → β × ρ} {after : β → CallbackCode ρ} (hreader : s.readers.get? p = some reader)
    (hcode : Callback.callReader p f after = .act effect next) :
    effect s = s.setReader p (f reader).2 ∧ next s = after (f reader).1 := by
  obtain ⟨rfl, rfl⟩ := Code.act.inj hcode
  simp [hreader]

theorem getStreamPosition_act {effect : State ρ → State ρ} {next : State ρ → CallbackCode ρ}
    {p : ℕ} {after : UInt64 → CallbackCode ρ} (hreader : s.readers.get? p = some reader)
    (hcode : Callback.getStreamPosition R p after = .act effect next) :
    effect s = s ∧ next s = after (R.GetStreamPosition reader) := by
  obtain ⟨heffect, hnext⟩ := callReader_act hreader hcode
  exact ⟨heffect.trans (State.setReader_self hreader), hnext⟩

/-- What the members of an open file are. -/
theorem View.opened_get? (hview : View.of s t account file = .opened vfsFile reader (some true)) :
    s.files.get? file = some vfsFile ∧ s.readers.get? vfsFile.Reader = some reader :=
  State.deref_eq_some.mp (View.of_eq_opened_iff.mp hview).1

/-- A call looks at the file that it was passed. -/
theorem Stage.advance_load (h : Shared s t made) (hidle : made i = none)
    (hcall : call.file = some file) (hacts : ∀ answer, call.code R ≠ .ret answer)
    (hview : View.of s t account file = .opened vfsFile reader (some true))
    {effect : State ρ → State ρ} {next : State ρ → CallbackCode ρ}
    (hcode : call.code R = .act effect next) :
    Followed R account call s t made i (.inl call) (effect s) (next s) := by
  obtain ⟨hget, _⟩ := View.opened_get? hview
  cases call with
  | Open | OpenW => simp [Call.file] at hcall
  | Write => exact absurd rfl (hacts _)
  | Close passed =>
      obtain rfl : passed = some file := hcall
      obtain ⟨heffect, hnext⟩ := loadFile_act hget hcode
      rw [heffect, hnext]
      exact .stays h hidle rfl (.delete hview)
  | Read passed pDst sizeInBytes pBytesRead =>
      obtain rfl : passed = some file := hcall
      cases pDst with
      | false => exact absurd rfl (hacts _)
      | true =>
          obtain ⟨heffect, hnext⟩ := loadFile_act hget hcode
          rw [heffect, hnext]
          exact .stays h hidle rfl (.readPosition hview)
  | Seek passed offset origin =>
      obtain rfl : passed = some file := hcall
      obtain ⟨heffect, hnext⟩ := loadFile_act hget hcode
      rw [heffect, hnext]
      cases origin with
      | current => exact .stays h hidle rfl (.seekPosition hview)
      | start | endOfFile | other => exact .stays h hidle rfl (.seekSet hview)
  | Tell passed pCursor =>
      obtain rfl : passed = some file := hcall
      cases pCursor with
      | false => exact absurd rfl (hacts _)
      | true =>
          obtain ⟨heffect, hnext⟩ := loadFile_act hget hcode
          rw [heffect, hnext]
          exact .stays h hidle rfl (.tell hview)
  | Info passed pInfo =>
      obtain rfl : passed = some file := hcall
      cases pInfo with
      | false => exact absurd rfl (hacts _)
      | true =>
          obtain ⟨heffect, hnext⟩ := loadFile_act hget hcode
          rw [heffect, hnext]
          -- the size is a member that no call changes
          obtain ⟨_, ⟨vfsFile', hsize, hinstant⟩, _⟩ := View.of_eq_opened_iff.mp hview
          refine .looks h hidle rfl (by simp) hview (by simp) ?_
          simp [vfsStep, Callbacks.Info, (State.deref_eq_some.mp hinstant).1, hsize]

/-- Each action of the code leads to a next stage. -/
theorem Stage.advance {own : Option ρ} {code : CallbackCode ρ} {note : Option ℕ}
    (hstage : Stage R (View.of s t account) own call code here note) (h : Shared s t made)
    (hnote : made i = note) (hown : note.bind s.readers.get? = own)
    (hheld : account s.files.size = none) {effect : State ρ → State ρ}
    {next : State ρ → CallbackCode ρ} (hcode : code = .act effect next) :
    Followed R account call s t made i here (effect s) (next s) := by
  cases hstage with
  | ended | opened | closed => cases hcode
  | create hmode hreader =>
      obtain ⟨rfl, rfl⟩ := Code.act.inj hcode
      exact .creates h hnote hmode hreader
  | created hmode hreader hmade =>
      obtain ⟨rfl, rfl⟩ := Code.act.inj hcode
      exact .opens h hnote (hown.trans hmade) hmode hreader hheld
  | load hcall hacts hview => exact advance_load h hnote hcall hacts hview hcode
  | readPosition hview =>
      obtain ⟨heffect, hnext⟩ := getStreamPosition_act (View.opened_get? hview).2 hcode
      rw [heffect, hnext]
      exact .stays h hnote rfl (.readData hview)
  | readData hview =>
      rw [Read.data] at hcode
      obtain ⟨heffect, hnext⟩ := callReader_act (View.opened_get? hview).2 hcode
      rw [heffect, hnext]
      refine .moves h hnote rfl (by simp) hview (by simp) fun vfsFile' hsize hinstant => ?_
      simp [vfsStep, Callbacks.Read, hinstant, hsize]
  | seekPosition hview =>
      obtain ⟨heffect, hnext⟩ := getStreamPosition_act (View.opened_get? hview).2 hcode
      rw [heffect, hnext]
      exact .stays h hnote rfl (.seekSet hview)
  | seekSet hview =>
      rw [Seek.set, Callback.setStreamPosition] at hcode
      obtain ⟨heffect, hnext⟩ := callReader_act (View.opened_get? hview).2 hcode
      rw [heffect, hnext]
      refine .moves h hnote rfl (by simp) hview (by simp) fun vfsFile' hsize hinstant => ?_
      simp [vfsStep, Callbacks.Seek, hinstant, hsize]
  | tell hview =>
      obtain ⟨heffect, hnext⟩ := getStreamPosition_act (View.opened_get? hview).2 hcode
      rw [heffect, hnext]
      obtain ⟨_, ⟨vfsFile', hsize, hinstant⟩, _⟩ := View.of_eq_opened_iff.mp hview
      refine .looks h hnote rfl (by simp) hview (by simp) ?_
      simp [vfsStep, Callbacks.Tell, hinstant]
  | delete hview =>
      obtain ⟨rfl, rfl⟩ := Code.act.inj hcode
      exact .deletes h hnote hview
  | deleted hview =>
      obtain ⟨rfl, rfl⟩ := Code.act.inj hcode
      exact .frees h hnote hview

end Advance

/-! ## A call is made, and returns -/

section Call

variable {ι : Type*} {account : Account} {call : Call ρ} {s t : State ρ} {made : ι → Option ℕ}
  {here : Call ρ ⊕ Option Answer} {file : ℕ}

/-- A call is over at once, or it looks at the file that it was passed, or it
makes a reader. -/
theorem Call.code_cases (R : StreamReader ρ) (call : Call ρ) :
    (∃ answer, call.code R = .ret (some answer) ∧
        (∀ result file, answer ≠ .opened result (some file)) ∧
        ∀ file, call ≠ .Close (some file)) ∨
      (∃ file, call.file = some file ∧ ∀ answer, call.code R ≠ .ret answer) ∨
      ∃ vfs path openMode reader, call = .Open vfs (some path) openMode true ∧
        openMode ≠ MA_OPEN_MODE_WRITE ∧ vfs.onCreateReader path = some reader := by
  cases call with
  | Open vfs pFilePath openMode pFile =>
      cases pFilePath with
      | none => exact Or.inl ⟨_, rfl, by simp, by simp⟩
      | some path =>
          cases pFile with
          | false => exact Or.inl ⟨_, rfl, by simp, by simp⟩
          | true =>
              by_cases hmode : openMode = MA_OPEN_MODE_WRITE
              · refine Or.inl ⟨.opened .notImplemented none, ?_, by simp, by simp⟩
                simp [Call.code, Open.code, hmode]
              · cases hreader : vfs.onCreateReader path with
                | none =>
                    refine Or.inl ⟨.opened .error none, ?_, by simp, by simp⟩
                    simp [Call.code, Open.code, hmode, hreader]
                | some reader =>
                    exact Or.inr (Or.inr ⟨vfs, path, openMode, reader, rfl, hmode, hreader⟩)
  | OpenW | Write => exact Or.inl ⟨_, rfl, by simp, by simp⟩
  | Close file | Seek file offset origin =>
      cases file with
      | none => exact Or.inl ⟨_, rfl, by simp, by simp⟩
      | some file => exact Or.inr (Or.inl ⟨file, rfl, fun _ hret => by cases hret⟩)
  | Read file pDst _ _ | Tell file pDst | Info file pDst =>
      cases file with
      | none => exact Or.inl ⟨_, rfl, by simp, by simp⟩
      | some file =>
          cases pDst with
          | false => exact Or.inl ⟨_, rfl, by simp, by simp⟩
          | true => exact Or.inr (Or.inl ⟨file, rfl, fun _ hret => by cases hret⟩)

/-- A call that is over at once is that for the instant machine. -/
theorem vfsStep_of_code_ret {answer : Answer} (hcode : call.code R = .ret (some answer)) :
    vfsStep R t call = some (t, answer) := by
  rw [exec_code, hcode]
  rfl

theorem may_eq_true_iff :
    client.may account call = true ↔ ∀ file, call.file = some file → account file = some false := by
  simp [client, Option.all_eq_true]

/-- Where a call that is allowed starts. -/
theorem begins (hmay : client.may account call = true)
    (hsettled : ∀ file, account file = some false → (View.of s t account file).Settled) :
    ∃ here, (tracking R).Begins (instantCall R) (call.code R) account
      (client.called account call) s t call here := by
  have hpassed : ∀ file, call.file = some file → account file = some false ∧ file < s.files.size ∧
      ∃ vfsFile reader,
        View.of s t (client.called account call) file = .opened vfsFile reader (some true) := by
    intro file hfile
    have hheld := may_eq_true_iff.mp hmay file hfile
    rcases hsettled file hheld with hnone | ⟨vfsFile, reader, hview⟩
    · simp [View.of, hheld] at hnone
    · obtain ⟨hderef, hinstant, _⟩ := View.of_eq_opened_iff.mp hview
      refine ⟨hheld, Arena.lt_size_of_get? (State.deref_eq_some.mp hderef).1, vfsFile, reader,
        View.of_eq_opened_iff.mpr ⟨hderef, hinstant, ?_⟩⟩
      simp [client, hfile, hheld]
  have hframe : ∀ file, call.file ≠ some file →
      View.of s t (client.called account call) file = View.of s t account file := by
    intro file hfile
    cases hcall : call.file with
    | none => simp [View.of, client, hcall]
    | some passed =>
        have hne : file ≠ passed := by
          rintro rfl
          exact hfile hcall
        simp [View.of, client, hcall, Function.update_of_ne hne]
  rcases Call.code_cases R call with ⟨answer, hcode, hopened, hclose⟩ | ⟨file, hfile, hacts⟩ |
    ⟨vfs, path, openMode, reader, rfl, hmode, hreader⟩
  · refine ⟨.inr (some answer), Or.inr ⟨_, rfl, ?_⟩, ?_, fun j hj => hframe j ?_, fun j hj => ?_⟩
    · rw [instantCall, vfsStep_of_code_ret hcode]
      rfl
    · rw [hcode]
      exact .ended hopened hclose fun file hfile => (hpassed file hfile).2.2
    · exact fun hfile => hj ((uses_answer hopened).mpr hfile)
    · obtain ⟨hheld, hborn, _⟩ := hpassed j ((uses_answer hopened).mp hj)
      exact ⟨hheld, hborn⟩
  · obtain ⟨_, _, vfsFile, reader, hview⟩ := hpassed file hfile
    refine ⟨.inl call, Or.inl rfl, .load hfile hacts hview, fun j hj => hframe j ?_,
      fun j hj => ?_⟩
    · exact fun hfile => hj (uses_call.mpr hfile)
    · obtain ⟨hheld, hborn, _⟩ := hpassed j (uses_call.mp hj)
      exact ⟨hheld, hborn⟩
  · refine ⟨.inl _, Or.inl rfl, ?_, fun j _ => hframe j (by simp [Call.file]), fun j hj => ?_⟩
    · have hcode : Call.code R (.Open vfs (some path) openMode true) =
          Callback.createReader reader fun p =>
            Callback.newFile ⟨p, vfs.onGetFileSize path⟩ fun file =>
              .ret (some (.opened .success (some file))) := by
        simp [Call.code, Open.code, hmode, hreader]
      rw [hcode]
      exact .create hmode hreader
    · simp [tracking, Uses, Call.file] at hj

/-- A call that neither opened nor closed gives back the handle that it was
passed. -/
theorem returned_ended (account : Account) {answer : Answer}
    (hopened : ∀ result file, answer ≠ .opened result (some file))
    (hclose : ∀ file, call ≠ .Close (some file)) (j : ℕ) :
    account.returned call (some answer) j =
      if call.file = some j then (account j).map fun _ => false else account j := by
  have hreturned : account.returned call (some answer) =
      call.file.elim account fun file =>
        Function.update account file ((account file).map fun _ => false) := by
    unfold Account.returned
    split
    · rename_i hanswer
      exact absurd (Option.some.inj hanswer) (hopened _ _)
    · exact absurd rfl (hclose _)
    · split
      · rename_i hnone
        rw [hnone, Option.elim_none]
      · rename_i hsome
        rw [hsome, Option.elim_some]
  rw [hreturned]
  cases hfile : call.file with
  | none => simp
  | some file =>
      by_cases hj : j = file
      · simp [hj]
      · simp [Function.update_of_ne hj, Ne.symm hj]

/-- A call hands back what it had. -/
theorem Stage.handsBack {own : Option ρ} {note : Option ℕ} {answer : Option Answer}
    {code : CallbackCode ρ}
    (h : Stage R (View.of s t account) own call code here note) (hcode : code = .ret answer) :
    (tracking R).HandsBack account (client.returned account call answer) s t call here answer
      note := by
  cases h with
  | @ended _ answer' hopened hclose hview =>
      obtain rfl := Code.ret.inj hcode
      have hreturned := returned_ended account hopened hclose
      refine ⟨rfl, rfl, fun j hj => Or.inr ?_, fun j hj => ?_⟩
      · have hfile := (uses_answer hopened).mp hj
        obtain ⟨vfsFile, reader, hopen⟩ := hview j hfile
        obtain ⟨hderef, hinstant, hheld⟩ := View.of_eq_opened_iff.mp hopen
        refine ⟨vfsFile, reader, View.of_eq_opened_iff.mpr ⟨hderef, hinstant, ?_⟩⟩
        show account.returned call (some answer') j = some false
        rw [hreturned j, if_pos hfile, hheld]
        rfl
      · have hfile : call.file ≠ some j := fun hfile => hj ((uses_answer hopened).mpr hfile)
        show View.of s t (account.returned call (some answer')) j = View.of s t account j
        rw [View.of, View.of, hreturned j, if_neg hfile]
  | @opened _ _ _ _ file _ _ hview =>
      obtain rfl := Code.ret.inj hcode
      obtain ⟨hderef, hinstant, _⟩ := View.of_eq_opened_iff.mp hview
      refine ⟨rfl, rfl, fun j hj => Or.inr ?_, fun j hj => ?_⟩
      · obtain rfl : file = j := by simpa [tracking, Uses, Call.file] using hj
        exact ⟨_, _, View.of_eq_opened_iff.mpr ⟨hderef, hinstant, Function.update_self ..⟩⟩
      · have hne : j ≠ file := fun heq => hj (heq ▸ Or.inr rfl)
        simp [tracking, View.of, client, Account.returned, Function.update_of_ne hne]
  | @closed file hview =>
      obtain rfl := Code.ret.inj hcode
      refine ⟨rfl, rfl, fun j hj => Or.inl ?_, fun j hj => ?_⟩
      · obtain rfl : file = j := by simpa [tracking, Uses, Call.file] using hj
        have hgone := congrArg View.file hview
        have hreader := congrArg View.reader hview
        have hinstant := congrArg View.instant hview
        exact View.ext hgone hreader hinstant (Function.update_self ..)
      · have hne : j ≠ file := fun heq => hj (heq ▸ Or.inl rfl)
        simp [tracking, View.of, client, Account.returned, Function.update_of_ne hne]
  | create | created | readPosition | readData | seekPosition | seekSet | tell | delete
  | deleted => cases hcode
  | load _ hacts => exact absurd hcode (hacts _)

end Call

/-! ## Runs -/

section Runs

variable {ι : Type*} [DecidableEq ι]

/-- The code of the callbacks can be followed. -/
theorem sound (R : StreamReader ρ) :
    (tracking R).Sound (codeOperation (Call.code R)) (instantCall R) client (Shared (ι := ι)) where
  congr h hview := Stage.congr h hview
  busy h huses := Stage.busy h huses
  begins _ hmay hsettled := begins hmay hsettled
  advance := by
    intro account s s' t made i call code code' here h hunborn hstage hact
    obtain ⟨effect, next, rfl, rfl, rfl⟩ := codeOperation_act_eq_some.mp hact
    have hheld : account s.files.size = none := by
      have hfile : s.files.get? s.files.size = none := Arena.get?_of_size_le (Nat.le_refl _)
      rcases hunborn s.files.size (Nat.lt_irrefl _) with hnone | ⟨_, _, hopen⟩
      · exact congrArg View.held hnone
      · exact absurd (hfile.symm.trans (congrArg View.file hopen)) (by simp [View.opened])
    exact Stage.advance hstage h rfl rfl hheld rfl
  handsBack h hresult := Stage.handsBack h (codeOperation_result_eq_some.mp hresult)

/-- A callback that runs at one instant has an answer. -/
theorem instantCall_answer {s s' : State ρ} {call : Call ρ} {answer : Option Answer}
    (h : instantCall R s call = some (s', answer)) : answer ≠ none := by
  simp only [instantCall, Option.map_eq_some_iff, Prod.exists, Prod.mk.injEq] at h
  obtain ⟨_, answer', _, _, rfl⟩ := h
  exact Option.some_ne_none answer'

omit [DecidableEq ι] in
/-- Where no call is under way, the files are those of the instant machine, and
the readers are those of the files. -/
theorem eq_of_quiet {c : Running ι ρ} {a : Instant ι ρ} {made : ι → Option ℕ}
    (h : (tracking R).Simulates Shared c a made) (hquiet : c.Quiet) :
    a.Quiet ∧ Correspondence c.state ∧
      ∀ file, a.state.opened file = c.state.opened file ∧
        c.account file = (c.state.opened file).map fun _ => false := by
  obtain ⟨haquiet, hsettled, hshared⟩ := h.of_quiet hquiet
  refine ⟨haquiet, ?_, fun file => ?_⟩
  · refine (hshared.custody.accounted fun file p hp => ?_).correspondence
    rcases hsettled file with hnone | ⟨vfsFile, reader, hopen⟩
    · have hfile : c.state.files.get? file = none := congrArg View.file hnone
      simp [State.slots, hfile] at hp
    · obtain ⟨hget, hreader⟩ :=
        State.deref_eq_some.mp (View.of_eq_opened_iff.mp hopen).1
      obtain rfl : vfsFile.Reader = p :=
        Option.some.inj ((State.slots_of_get? hget).symm.trans hp)
      exact ⟨reader, hreader⟩
  · rcases hsettled file with hnone | ⟨vfsFile, reader, hopen⟩
    · have hfile : c.state.files.get? file = none := congrArg View.file hnone
      have hclosed : c.state.opened file = none := by simp [State.opened, State.deref, hfile]
      rw [hclosed]
      exact ⟨congrArg View.instant hnone, congrArg View.held hnone⟩
    · obtain ⟨hderef, ⟨vfsFile', hsize, hinstant⟩, hheld⟩ := View.of_eq_opened_iff.mp hopen
      simp [State.opened, hderef, hinstant, hsize, hheld]

/-- Every interleaving is matched by one of the instant machine. -/
theorem exists_instant_run {schedule : List (Foundation.Event ι (Call ρ))} {last : Running ι ρ}
    {marks : List (Option (Mark ι (Call ρ) (Option Answer)))}
    (hrun : run (callbackStep R) (Threads.idle State.empty fun _ => none) schedule =
      some (last, marks)) :
    ∃ events marks' a, run (instantStep R) (Threads.idle State.empty fun _ => none) events =
        some (a, marks') ∧
      history marks' = history marks ∧
      (last.Quiet → a.Quiet ∧ Correspondence last.state ∧
        ∀ file, a.state.opened file = last.state.opened file ∧
          last.account file = (last.state.opened file).map fun _ => false) := by
  have hsettled : ∀ file,
      (View.of (State.empty : State ρ) State.empty (fun _ => none) file).Settled := fun file =>
    Or.inl (View.ext (Arena.get?_empty file) rfl rfl rfl)
  obtain ⟨events, marks', a, hinstant, hhistory, made, h⟩ :=
    (sound (ι := ι) R).exists_instant_run hsettled ⟨rfl, .empty, .empty⟩ hrun
  exact ⟨events, marks', a, hinstant, hhistory, eq_of_quiet h⟩

/-- Whatever a number of threads see of the callbacks, they see of callbacks
that run at one instant each, between the call and its return; and none of them
uses a file or a reader that is gone.  Where no call is under way, the handles
are those of the instant calls, and the readers correspond to them. -/
theorem vfs_linearizable (R : StreamReader ρ) (schedule : List (Foundation.Event ι (Call ρ)))
    {last : Running ι ρ} {marks : List (Option (Mark ι (Call ρ) (Option Answer)))}
    (hrun : run (callbackStep R) (Threads.idle State.empty fun _ => none) schedule =
      some (last, marks)) :
    (∀ i, .returned i none ∉ history marks) ∧
      ∃ events marks' a, run (instantStep R) (Threads.idle State.empty fun _ => none) events =
          some (a, marks') ∧
        history marks' = history marks ∧
        (last.Quiet → a.Quiet ∧ Correspondence last.state ∧
          ∀ file, a.state.opened file = last.state.opened file ∧
            last.account file = (last.state.opened file).map fun _ => false) := by
  obtain ⟨events, marks', a, hinstant, hhistory, hquiet⟩ := exists_instant_run hrun
  refine ⟨fun i hreturned => ?_, events, marks', a, hinstant, hhistory, hquiet⟩
  rw [← hhistory] at hreturned
  exact answer_of_returned_mem (fun _ _ _ _ hstep => instantCall_answer hstep) hinstant hreturned
    rfl

/-- Two threads open files at once: the reader of the first is made first, its
file is made last. -/
theorem vfs_linearizable_two_threads :
    let schedule : List (Foundation.Event (Fin 2) (Call MemoryReader)) :=
      [.call 0 (.Open (memoryVFS [1, 2, 3]) (some "a") 1 true), .act 0,
        .call 1 (.Open (memoryVFS [4]) (some "b") 1 true), .act 1, .act 1, .act 0, .ret 1,
        .call 1 (.Read (some 0) true 2 true), .act 1, .ret 0, .act 1, .act 1, .ret 1]
    ∃ last marks, run (callbackStep MemoryReader.reader)
        (Threads.idle State.empty fun _ => none) schedule = some (last, marks) ∧
      last.state.slots 0 = some 1 ∧
      (history marks)[5]? = some (.returned 1 (some (.read .atEnd [4] (some 1)))) ∧
      (∀ i, .returned i none ∉ history marks) ∧
      ∃ events marks' a, run (instantStep MemoryReader.reader)
          (Threads.idle State.empty fun _ => none) events = some (a, marks') ∧
        history marks' = history marks ∧
        (last.Quiet → a.Quiet ∧ Correspondence last.state ∧
          ∀ file, a.state.opened file = last.state.opened file ∧
            last.account file = (last.state.opened file).map fun _ => false) := by
  intro schedule
  exact ⟨_, _, rfl, rfl, rfl, vfs_linearizable MemoryReader.reader schedule rfl⟩

end Runs

end MiniaudioCpp.VFS
