import MiniaudioCpp.VFS.Callbacks

/-!
# What `Read` reports

`Read` takes the smaller of what is asked for and `FileSize - position`, a
subtraction of unsigned words.  As long as the position is within the file that
is what is left, and `Read` reports what the reader delivers (`read_within`).
Past the end the subtraction wraps, and `Read` reports bytes that nobody wrote
(`read_past_end`).

Only `Seek` can leave the file, so a run of `Read` and `Seek` is right
throughout exactly when each `Seek` lands within the file
(`reads_right_iff_seeks_within`).
-/

namespace MiniaudioCpp.VFS

open Foundation

variable {ρ : Type*} {R : StreamReader ρ} {content : ρ → List UInt8}

/-- The exact integer target of a `Seek`. -/
def seekTarget (FileSize position : ℕ) (offset : ℤ) : MaSeekOrigin → ℤ
  | .start => offset
  | .current => position + offset
  | .endOfFile => FileSize + offset
  | .other _ => offset

/-- The position that `Seek` sets is the target mod `2 ^ 64`. -/
theorem toNat_seekPosition (FileSize position : UInt64) (offset : Int64) (origin : MaSeekOrigin) :
    ((Callbacks.seekPosition FileSize position offset origin).toNat : ℤ) =
      seekTarget FileSize.toNat position.toNat offset.toInt origin % 2 ^ 64 := by
  cases origin with
  | start => exact toNat_toUInt64 offset
  | current => exact toNat_add_toUInt64 position offset
  | endOfFile => exact toNat_add_toUInt64 FileSize offset
  | other value => exact toNat_toUInt64 offset

/-! ## `Read` within the file -/

section Within

variable {FileSize : UInt64} {reader : ρ}

/-- What `Read` asks of the reader, within the file. -/
theorem toNat_toRead (hwithin : (R.GetStreamPosition reader).toNat ≤ FileSize.toNat) (n : UInt64) :
    (min n (FileSize - R.GetStreamPosition reader)).toNat =
      min n.toNat (FileSize.toNat - (R.GetStreamPosition reader).toNat) := by
  rw [UInt64.toNat_min, toNat_sub_of_le hwithin]

/-- Within the file, `Read` delivers the next bytes, asks for as many as it
delivers, and asks for fewer than it was asked exactly when fewer are left. -/
theorem read_within (hlawful : R.Lawful content)
    (hsize : (content reader).length = FileSize.toNat)
    (hwithin : (R.GetStreamPosition reader).toNat ≤ FileSize.toNat) (n : UInt64) :
    let toRead := min n (FileSize - R.GetStreamPosition reader)
    (R.ReadData toRead reader).1 = (R.cursor content reader).next n.toNat ∧
      toRead.toNat = ((R.cursor content reader).next n.toNat).length ∧
      (toRead ≠ n ↔ (R.cursor content reader).remaining < n.toNat) ∧
      R.cursor content (R.ReadData toRead reader).2 =
        (R.cursor content reader).advance n.toNat := by
  intro toRead
  have htoRead : toRead.toNat = min n.toNat (R.cursor content reader).remaining := by
    rw [toNat_toRead hwithin n, Cursor.remaining, StreamReader.cursor, hsize]
  have hnext : (R.cursor content reader).next toRead.toNat =
      (R.cursor content reader).next n.toNat := by
    rw [htoRead, Cursor.next_min_remaining]
  have hlt : (content reader).length < 2 ^ 64 := hsize ▸ FileSize.toNat_lt
  refine ⟨?_, ?_, ?_, ?_⟩
  · rw [hlawful.data_read, hnext]
  · rw [Cursor.length_next, htoRead]
  · rw [ne_eq, ← UInt64.toNat_inj, htoRead]
    omega
  · rw [hlawful.cursor_read hlt, Cursor.advance, Cursor.advance, hnext]

/-- Past the end, `Read` asks for bytes whenever it is asked for some, and the
reader delivers none. -/
theorem read_past_end (hlawful : R.Lawful content)
    (hsize : (content reader).length = FileSize.toNat)
    (hpast : FileSize.toNat < (R.GetStreamPosition reader).toNat) {n : UInt64} (hn : n ≠ 0) :
    let toRead := min n (FileSize - R.GetStreamPosition reader)
    (R.ReadData toRead reader).1 = [] ∧ toRead ≠ 0 := by
  intro toRead
  have hwrap := toNat_sub_of_lt hpast
  have hposition := (R.GetStreamPosition reader).toNat_lt
  constructor
  · rw [hlawful.data_read]
    refine Cursor.next_of_length_le ?_ _
    show (content reader).length ≤ (R.GetStreamPosition reader).toNat
    omega
  · rw [ne_eq, ← UInt64.toNat_inj] at hn ⊢
    rw [UInt64.toNat_min, hwrap]
    rw [UInt64.toNat_zero] at hn ⊢
    omega

end Within

/-! ## Runs of `Read` and `Seek` on one file -/

/-- The calls on an open file, with pointers that are not null except perhaps
`pBytesRead`. -/
inductive FileCall
  | Read (sizeInBytes : UInt64) (pBytesRead : Bool)
  | Seek (offset : Int64) (origin : MaSeekOrigin)
  deriving DecidableEq, Repr

/-- The callback on the handle `file`. -/
def FileCall.on (file : ℕ) : FileCall → Call ρ
  | .Read sizeInBytes pBytesRead => .Read (some file) true sizeInBytes pBytesRead
  | .Seek offset origin => .Seek (some file) offset origin

/-- One call on the handle `file`. -/
def fileStep (R : StreamReader ρ) (file : ℕ) (s : State ρ) (call : FileCall) :
    Option (State ρ × Answer) :=
  vfsStep R s (call.on file)

/-- The call answers what it should: it reports the bytes that the reader
delivered, no more than what is left, and `MA_AT_END` when that is too few. -/
def ReportsDelivered (f : VFSFile) (position : ℕ) : FileCall → Answer → Prop
  | .Read n pBytesRead, .read result data reported =>
      (pBytesRead = true → ∃ k, reported = some k ∧ k.toNat = data.length) ∧
        data.length ≤ f.FileSize.toNat - position ∧
        (f.FileSize.toNat - position < n.toNat → result = .atEnd)
  | .Read .., _ => False
  | .Seek .., _ => True

/-- `FileSize - GetStreamPosition()` does not wrap. -/
def NoWrap (R : StreamReader ρ) (f : VFSFile) (reader : ρ) : Prop :=
  ((f.FileSize - R.GetStreamPosition reader).toNat : ℤ) =
    (f.FileSize.toNat : ℤ) - (R.GetStreamPosition reader).toNat

/-- A call that is right: it answers what it should, and in the state it leaves
the subtraction does not wrap. -/
def ReadsRight (R : StreamReader ρ) (file : ℕ) (s : State ρ) (call : FileCall) (answer : Answer)
    (s' : State ρ) : Prop :=
  (∀ f reader, s.deref file = some (f, reader) →
      ReportsDelivered f (R.GetStreamPosition reader).toNat call answer) ∧
    ∀ f reader, s'.deref file = some (f, reader) → NoWrap R f reader

/-- If the call is a `Seek`, its target mod `2 ^ 64` is within the file. -/
def SeeksWithin (R : StreamReader ρ) (file : ℕ) (s : State ρ) (call : FileCall) (_ : Answer)
    (_ : State ρ) : Prop :=
  ∀ f reader, s.deref file = some (f, reader) → ∀ offset origin, call = .Seek offset origin →
    seekTarget f.FileSize.toNat (R.GetStreamPosition reader).toNat offset.toInt origin % 2 ^ 64 ≤
      f.FileSize.toNat

theorem noWrap_iff (f : VFSFile) (reader : ρ) :
    NoWrap R f reader ↔ (R.GetStreamPosition reader).toNat ≤ f.FileSize.toNat := by
  unfold NoWrap
  constructor
  · intro hnowrap
    omega
  · intro hle
    rw [toNat_sub_of_le hle]
    omega

/-- The file is open, over a reader that holds as many bytes as it says, with
the position within them. -/
def OpenWithin (R : StreamReader ρ) (content : ρ → List UInt8) (file : ℕ) (s : State ρ) : Prop :=
  ∃ f reader, s.deref file = some (f, reader) ∧ (content reader).length = f.FileSize.toNat ∧
    (R.GetStreamPosition reader).toNat ≤ f.FileSize.toNat

/-- What a call does to an open file: its reader is another one afterwards, and
the answer is `Read`'s or `Seek`'s. -/
theorem fileStep_eq {file : ℕ} {s : State ρ} {f : VFSFile} {reader : ρ}
    (hderef : s.deref file = some (f, reader)) (call : FileCall) :
    fileStep R file s call = some (match call with
      | .Read n pBytesRead =>
          let toRead := min n (f.FileSize - R.GetStreamPosition reader)
          (s.setReader f.Reader (R.ReadData toRead reader).2,
            .read (if toRead ≠ n then .atEnd else .success) (R.ReadData toRead reader).1
              (if pBytesRead then some toRead else none))
      | .Seek offset origin =>
          (s.setReader f.Reader (R.SetStreamPosition
            (Callbacks.seekPosition f.FileSize (R.GetStreamPosition reader) offset origin) reader),
            .result .success)) := by
  cases call <;> simp [fileStep, FileCall.on, vfsStep, Callbacks.Read, Callbacks.Seek, hderef]

/-- One call on a file that is open within its bounds: it is right exactly when
it does not seek past the end. -/
theorem readsRight_iff (hlawful : R.Lawful content) {file : ℕ} {s s' : State ρ} {call : FileCall}
    {answer : Answer} (hopen : OpenWithin R content file s)
    (hstep : fileStep R file s call = some (s', answer)) :
    ReadsRight R file s call answer s' ↔ SeeksWithin R file s call answer s' := by
  obtain ⟨f, reader, hderef, hsize, hwithin⟩ := hopen
  rw [fileStep_eq hderef] at hstep
  cases call with
  | Read n pBytesRead =>
      simp only [Option.some.injEq, Prod.mk.injEq] at hstep
      obtain ⟨rfl, rfl⟩ := hstep
      -- within the file a `Read` is right, and it is no `Seek`
      obtain ⟨hdata, hcount, hend, hcursor⟩ := read_within hlawful hsize hwithin n
      refine iff_of_true ⟨?_, ?_⟩ ?_
      · intro f' reader' hderef'
        obtain ⟨rfl, rfl⟩ := Prod.mk.inj (Option.some.inj (hderef.symm.trans hderef'))
        refine ⟨fun hreport => ⟨_, by rw [if_pos hreport], by rw [hcount, hdata]⟩, ?_, ?_⟩
        · rw [hdata, Cursor.length_next, Cursor.remaining, StreamReader.cursor, hsize]
          exact Nat.min_le_right ..
        · intro hfew
          refine if_pos (hend.mpr ?_)
          rwa [Cursor.remaining, StreamReader.cursor, hsize]
      · intro f' reader' hderef'
        rw [State.deref_setReader_self hderef, Option.some.injEq, Prod.mk.injEq] at hderef'
        obtain ⟨rfl, rfl⟩ := hderef'
        have hposition := Cursor.position_advance_le (c := R.cursor content reader)
          (by rwa [StreamReader.cursor, hsize]) n.toNat
        rw [← hcursor] at hposition
        rw [noWrap_iff, ← hsize]
        exact hposition
      · intro _ _ _ offset origin heq
        exact absurd heq (by simp)
  | Seek offset origin =>
      simp only [Option.some.injEq, Prod.mk.injEq] at hstep
      obtain ⟨rfl, rfl⟩ := hstep
      -- a `Seek` answers nothing wrong itself: it is the next position that counts
      have hposition := toNat_seekPosition f.FileSize (R.GetStreamPosition reader) offset origin
      constructor
      · rintro ⟨_, hnowrap⟩ f' reader' hderef' offset' origin' heq
        obtain ⟨rfl, rfl⟩ := Prod.mk.inj (Option.some.inj (hderef.symm.trans hderef'))
        obtain ⟨rfl, rfl⟩ := FileCall.Seek.inj heq
        have hle := (noWrap_iff _ _).mp (hnowrap f _ (State.deref_setReader_self hderef _))
        rw [hlawful.position_set] at hle
        omega
      · intro hwithin'
        have hle := hwithin' f reader hderef offset origin rfl
        refine ⟨fun _ _ _ => trivial, ?_⟩
        intro f' reader' hderef'
        rw [State.deref_setReader_self hderef, Option.some.injEq, Prod.mk.injEq] at hderef'
        obtain ⟨rfl, rfl⟩ := hderef'
        rw [noWrap_iff, hlawful.position_set]
        omega

/-- A right call leaves the file open within its bounds. -/
theorem openWithin_step (hlawful : R.Lawful content) {file : ℕ} {s s' : State ρ} {call : FileCall}
    {answer : Answer} (hopen : OpenWithin R content file s)
    (hstep : fileStep R file s call = some (s', answer))
    (hright : ReadsRight R file s call answer s') : OpenWithin R content file s' := by
  obtain ⟨f, reader, hderef, hsize, _⟩ := hopen
  rw [fileStep_eq hderef] at hstep
  cases call with
  | Read n pBytesRead =>
      simp only [Option.some.injEq, Prod.mk.injEq] at hstep
      obtain ⟨rfl, _⟩ := hstep
      have hderef' := State.deref_setReader_self hderef
        (R.ReadData (min n (f.FileSize - R.GetStreamPosition reader)) reader).2
      exact ⟨f, _, hderef', hlawful.content_read _ reader ▸ hsize,
        (noWrap_iff _ _).mp (hright.2 _ _ hderef')⟩
  | Seek offset origin =>
      simp only [Option.some.injEq, Prod.mk.injEq] at hstep
      obtain ⟨rfl, _⟩ := hstep
      have hderef' := State.deref_setReader_self hderef (R.SetStreamPosition
        (Callbacks.seekPosition f.FileSize (R.GetStreamPosition reader) offset origin) reader)
      exact ⟨f, _, hderef', hlawful.content_set _ reader ▸ hsize,
        (noWrap_iff _ _).mp (hright.2 _ _ hderef')⟩

/-- No call on an open file gets stuck. -/
theorem fileStep_run {file : ℕ} {s : State ρ} {f : VFSFile} {reader : ρ}
    (hderef : s.deref file = some (f, reader)) (calls : List FileCall) :
    ∃ last, run (fileStep R file) s calls = some last := by
  induction calls generalizing s reader with
  | nil => exact ⟨_, rfl⟩
  | cons call calls ih =>
      have hstep := fileStep_eq (R := R) hderef call
      cases call with
      | Read n pBytesRead =>
          obtain ⟨last, hlast⟩ := ih (State.deref_setReader_self hderef _)
          exact ⟨_, run_cons_eq_some.mpr ⟨_, _, _, hstep, hlast, rfl⟩⟩
      | Seek offset origin =>
          obtain ⟨last, hlast⟩ := ih (State.deref_setReader_self hderef _)
          exact ⟨_, run_cons_eq_some.mpr ⟨_, _, _, hstep, hlast, rfl⟩⟩

/-- What `Open` leaves behind when it succeeds. -/
theorem deref_of_Open {vfs : VFS ρ} {path : String} {openMode : UInt32} {s s' : State ρ}
    {file : ℕ} {reader : ρ} (hreader : vfs.onCreateReader path = some reader)
    (hopen : Callbacks.Open vfs (some path) openMode true s =
      (s', .opened .success (some file))) :
    ∃ f, s'.deref file = some (f, reader) ∧ f.FileSize = vfs.onGetFileSize path := by
  unfold Callbacks.Open at hopen
  dsimp only at hopen
  split at hopen
  · simp at hopen
  split at hopen
  · simp at hopen
  rw [hreader] at hopen
  simp only [Prod.mk.injEq, Answer.opened.injEq, Option.some.injEq] at hopen
  obtain ⟨rfl, _, rfl⟩ := hopen
  exact ⟨_, State.deref_newFile_self s reader (vfs.onGetFileSize path), rfl⟩

/-- The subtraction does not wrap in the first state, and every call is right. -/
def AllReadsRight (R : StreamReader ρ) (file : ℕ) (s : State ρ) (calls : List FileCall) : Prop :=
  (∀ f reader, s.deref file = some (f, reader) → NoWrap R f reader) ∧
    Along (fileStep R file) (ReadsRight R file) s calls

/-- On a file that `Open` opened over a reader of as many bytes as it says,
every run of `Read` and `Seek` goes through, and it is right throughout if and
only if the reader starts within the file and each `Seek` lands within it. -/
theorem reads_right_iff_seeks_within (hlawful : R.Lawful content) {vfs : VFS ρ} {path : String}
    {openMode : UInt32} {s₀ s : State ρ} {file : ℕ} {reader : ρ}
    (hreader : vfs.onCreateReader path = some reader)
    (hsize : (content reader).length = (vfs.onGetFileSize path).toNat)
    (hopen : Callbacks.Open vfs (some path) openMode true s₀ = (s, .opened .success (some file)))
    (calls : List FileCall) :
    (∃ last, run (fileStep R file) s calls = some last) ∧
      (AllReadsRight R file s calls ↔
        (R.GetStreamPosition reader).toNat ≤ (vfs.onGetFileSize path).toNat ∧
          Along (fileStep R file) (SeeksWithin R file) s calls) := by
  obtain ⟨f, hderef, hFileSize⟩ := deref_of_Open hreader hopen
  refine ⟨fileStep_run hderef calls, ?_⟩
  rw [← hFileSize] at hsize ⊢
  have hfirst : (∀ f reader, s.deref file = some (f, reader) → NoWrap R f reader) ↔
      (R.GetStreamPosition reader).toNat ≤ f.FileSize.toNat := by
    rw [← noWrap_iff]
    constructor
    · exact fun hnowrap => hnowrap f reader hderef
    · intro hnowrap f' reader' hderef'
      obtain ⟨rfl, rfl⟩ := Prod.mk.inj (Option.some.inj (hderef.symm.trans hderef'))
      exact hnowrap
  unfold AllReadsRight
  rw [hfirst]
  refine and_congr_right fun hwithin => ?_
  have hinv : OpenWithin R content file s := ⟨f, reader, hderef, hsize, hwithin⟩
  refine along_iff_along ?_ calls hinv
  intro s call answer s' hinv hstep
  exact ⟨readsRight_iff hlawful hinv hstep, openWithin_step hlawful hinv hstep⟩

/-- Three bytes, and a `Seek` to the tenth: the `Read` after it reports five. -/
theorem reads_right_past_end :
    let s := (Callbacks.Open (memoryVFS [1, 2, 3]) (some "a") 1 true State.empty).1
    let calls := [.Seek 10 .start, .Read 5 true]
    ((run (fileStep MemoryReader.reader 0) s calls).map Prod.snd =
        some [.result .success, .read .success [] (some 5)]) ∧
      ¬ AllReadsRight MemoryReader.reader 0 s calls := by
  intro s calls
  refine ⟨rfl, ?_⟩
  rintro ⟨_, halong⟩
  have hseek := (halong _ _ rfl).1.2 ⟨0, 3⟩ ⟨[1, 2, 3], 10⟩ rfl
  exact absurd ((noWrap_iff _ _).mp hseek) (by decide)

/-- Reading three bytes two at a time. -/
theorem reads_right_two_at_a_time :
    let s := (Callbacks.Open (memoryVFS [1, 2, 3]) (some "a") 1 true State.empty).1
    let calls := [.Read 2 true, .Seek (-2) .endOfFile, .Read 5 true]
    (∃ last, run (fileStep MemoryReader.reader 0) s calls = some last) ∧
      (AllReadsRight MemoryReader.reader 0 s calls ↔ 0 ≤ 3 ∧
        Along (fileStep MemoryReader.reader 0) (SeeksWithin MemoryReader.reader 0) s calls) := by
  intro s calls
  have hreader : (memoryVFS [1, 2, 3]).onCreateReader "a" = some ⟨[1, 2, 3], 0⟩ := rfl
  have hopen : Callbacks.Open (memoryVFS [1, 2, 3]) (some "a") 1 true State.empty =
      (s, .opened .success (some 0)) := rfl
  exact reads_right_iff_seeks_within MemoryReader.lawful hreader rfl hopen calls

end MiniaudioCpp.VFS
