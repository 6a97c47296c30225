import MiniaudioCpp.VFS.Handles
import MiniaudioCpp.VFS.ReadBound

/-!
# The VFS refines cursors over byte lists

What a VFS is for: each handle is a file with a cursor.  `referenceFile` says
what such a file answers, in exact arithmetic and with no reader, and
`referenceStep` keeps one for each handle.  Both are defined only where the
client keeps to the rules: pointers are not null, a handle is used between its
`Open` and its `Close`, the reader holds as many bytes as `onGetFileSize` says,
fewer than `2 ^ 63`, and the exact target of a `Seek` is within the file.

`Refines` relates the open files to the reference ones.  One step lemma for each
kind of call carries it over, and then `vfs_refines_files` says that the VFS
gives the same answers over every interleaving, and that the answers of one
handle are those of its own file, whatever is done to the others.
-/

namespace MiniaudioCpp.VFS

open Foundation

variable {ρ : Type*} {R : StreamReader ρ} {content : ρ → List UInt8}

/-! ## The reference files -/

/-- The handle a call is about. -/
def Call.file : Call ρ → Option ℕ
  | .Close file | .Read file .. | .Write file | .Seek file .. | .Tell file _ | .Info file _ => file
  | .Open .. | .OpenW => none

/-- What an open file answers, and the file afterwards; `none` is a closed
file. -/
def referenceFile : Option (Cursor UInt8) → Call ρ → Option (Option (Cursor UInt8) × Answer)
  | some c, .Read (some _) true n pBytesRead =>
      some (some (c.advance n.toNat),
        .read (if c.remaining < n.toNat then .atEnd else .success) (c.next n.toNat)
          (if pBytesRead then some (UInt64.ofNat (c.next n.toNat).length) else none))
  | some c, .Seek (some _) offset origin =>
      let target := seekTarget c.content.length c.position offset.toInt origin
      if 0 ≤ target ∧ target ≤ c.content.length then
        some (some { c with position := target.toNat }, .result .success)
      else none
  | some c, .Tell (some _) true => some (some c, .told .success (some (Int64.ofNat c.position)))
  | some c, .Info (some _) true =>
      some (some c, .info .success (some (UInt64.ofNat c.content.length)))
  | some _, .Close (some _) => some (none, .result .success)
  | _, _ => none

/-- One call on the reference files.  An `Open` that the client or the mode
turns down leaves them as they are. -/
def referenceStep (R : StreamReader ρ) (content : ρ → List UInt8) (files : Arena (Cursor UInt8)) :
    Call ρ → Option (Arena (Cursor UInt8) × Answer)
  | .Open vfs (some path) openMode true =>
      if openMode = MA_OPEN_MODE_WRITE then some (files, .opened .notImplemented none)
      else
        match vfs.onCreateReader path with
        | none => some (files, .opened .error none)
        | some reader =>
            if R.GetStreamPosition reader = 0 ∧
                (content reader).length = (vfs.onGetFileSize path).toNat ∧
                (content reader).length < 2 ^ 63 then
              some (files.alloc ⟨content reader, 0⟩, .opened .success (some files.size))
            else none
  | call =>
      call.file.bind fun file =>
        (referenceFile (files.get? file) call).map fun (c, answer) => (files.update file c, answer)

/-! ## The simulation -/

/-- An open file against its reference. -/
structure FileRefines (R : StreamReader ρ) (content : ρ → List UInt8) (c : Cursor UInt8)
    (f : VFSFile) (reader : ρ) : Prop where
  cursor : R.cursor content reader = c
  size : c.content.length = f.FileSize.toNat
  small : c.content.length < 2 ^ 63
  within : c.position ≤ c.content.length

/-- The open files against the reference files: the same handles, and each
refines its reference. -/
structure Refines (R : StreamReader ρ) (content : ρ → List UInt8) (files : Arena (Cursor UInt8))
    (s : State ρ) : Prop where
  accounted : s.Accounted
  size : files.size = s.files.size
  file : ∀ file c, files.get? file = some c →
    ∃ f reader, s.deref file = some (f, reader) ∧ FileRefines R content c f reader

theorem Refines.empty : Refines R content Arena.empty State.empty where
  accounted := State.Accounted.empty
  size := rfl
  file file c hc := by simp at hc

namespace Refines

variable {files : Arena (Cursor UInt8)} {s : State ρ} {file : ℕ} {c : Cursor UInt8} {f : VFSFile}
  {reader : ρ}

/-- Two handles have two readers. -/
theorem reader_ne (h : Refines R content files s) {other : ℕ} {g : VFSFile} {reader' : ρ}
    (hf : s.deref file = some (f, reader)) (hg : s.deref other = some (g, reader'))
    (hne : file ≠ other) : f.Reader ≠ g.Reader := by
  intro heq
  refine hne (h.accounted.exclusive file other f.Reader ?_ ?_)
  · exact State.slots_of_get? (State.deref_eq_some.mp hf).1
  · exact heq ▸ State.slots_of_get? (State.deref_eq_some.mp hg).1

/-- A new file over a reader at its first byte. -/
theorem newFile (h : Refines R content files s) {filesize : UInt64}
    (hstart : R.GetStreamPosition reader = 0) (hsize : (content reader).length = filesize.toNat)
    (hsmall : (content reader).length < 2 ^ 63) :
    Refines R content (files.alloc ⟨content reader, 0⟩) (s.newFile reader filesize) where
  accounted := h.accounted.newFile reader filesize
  size := by
    show (files.alloc _).size = (s.files.alloc _).size
    rw [Arena.size_alloc, Arena.size_alloc, h.size]
  file file c hc := by
    rw [Arena.get?_alloc] at hc
    split at hc
    next heq =>
      rw [Option.some.injEq] at hc
      subst hc
      refine ⟨_, _, heq ▸ h.size ▸ State.deref_newFile_self s reader filesize, ?_, hsize, hsmall,
        Nat.zero_le _⟩
      rw [StreamReader.cursor, hstart]
      rfl
    next =>
      obtain ⟨f, reader', hderef, hrefines⟩ := h.file file c hc
      exact ⟨f, reader', State.deref_newFile hderef reader filesize, hrefines⟩

/-- A call on the reader of one file that moves its reference along. -/
theorem setReader (h : Refines R content files s) (hc : files.get? file = some c)
    (hderef : s.deref file = some (f, reader)) {c' : Cursor UInt8} {reader' : ρ}
    (hrefines : FileRefines R content c' f reader') :
    Refines R content (files.put file c') (s.setReader f.Reader reader') where
  accounted := h.accounted.setReader (State.deref_eq_some.mp hderef).2 reader'
  size := by rw [Arena.size_put, h.size]; rfl
  file other d hd := by
    rw [Arena.get?_put (Arena.lt_size_of_get? hc)] at hd
    split at hd
    next heq =>
      rw [Option.some.injEq] at hd
      subst hd heq
      exact ⟨f, reader', State.deref_setReader_self hderef reader', hrefines⟩
    next hne =>
      obtain ⟨g, readerOther, hother, hrefinesOther⟩ := h.file other d hd
      have hlt := Arena.lt_size_of_get? (State.deref_eq_some.mp hderef).2
      exact ⟨g, readerOther, State.deref_setReader_of_ne hother (h.reader_ne hother hderef hne) hlt
        reader', hrefinesOther⟩

/-- A closed file takes its reference with it. -/
theorem deleteFile (h : Refines R content files s) (hderef : s.deref file = some (f, reader)) :
    Refines R content (files.free file) (s.deleteFile file f) where
  accounted := h.accounted.deleteFile (State.deref_eq_some.mp hderef).1
  size := by
    show (files.free file).size = (s.files.free file).size
    rw [Arena.size_free, Arena.size_free, h.size]
  file other d hd := by
    rw [Arena.get?_free] at hd
    split at hd
    · simp at hd
    next hne =>
      obtain ⟨g, readerOther, hother, hrefinesOther⟩ := h.file other d hd
      exact ⟨g, readerOther, State.deref_deleteFile_of_ne hother hne
        (h.reader_ne hother hderef hne), hrefinesOther⟩

end Refines

/-! ### What each callback does to one file -/

namespace FileRefines

variable {c : Cursor UInt8} {f : VFSFile} {reader : ρ}

theorem fileSize (h : FileRefines R content c f reader) :
    f.FileSize = UInt64.ofNat c.content.length := by
  rw [h.size, UInt64.ofNat_toNat]

theorem position (h : FileRefines R content c f reader) :
    (R.GetStreamPosition reader).toNat = c.position := by
  rw [← h.cursor]
  rfl

theorem read (hlawful : R.Lawful content) (h : FileRefines R content c f reader) (n : UInt64)
    (pBytesRead : Bool) :
    let toRead := min n (f.FileSize - R.GetStreamPosition reader)
    FileRefines R content (c.advance n.toNat) f (R.ReadData toRead reader).2 ∧
      Answer.read (if toRead ≠ n then .atEnd else .success) (R.ReadData toRead reader).1
          (if pBytesRead then some toRead else none) =
        .read (if c.remaining < n.toNat then .atEnd else .success) (c.next n.toNat)
          (if pBytesRead then some (UInt64.ofNat (c.next n.toNat).length) else none) := by
  intro toRead
  have hsize : (content reader).length = f.FileSize.toNat := by
    rw [← h.size, ← h.cursor]
    rfl
  have hwithin : (R.GetStreamPosition reader).toNat ≤ f.FileSize.toNat := by
    rw [h.position, ← h.size]
    exact h.within
  obtain ⟨hdata, hcount, hend, hcursor⟩ := read_within hlawful hsize hwithin n
  rw [h.cursor] at hdata hcount hend hcursor
  have hreported : toRead = UInt64.ofNat (c.next n.toNat).length := by
    rw [← hcount, UInt64.ofNat_toNat]
  constructor
  · exact ⟨hcursor, h.size, h.small, Cursor.position_advance_le h.within n.toNat⟩
  · rw [hdata, ← hreported]
    simp only [toRead, hend]

theorem seek (hlawful : R.Lawful content) (h : FileRefines R content c f reader) {offset : Int64}
    {origin : MaSeekOrigin}
    (htarget : 0 ≤ seekTarget c.content.length c.position offset.toInt origin ∧
      seekTarget c.content.length c.position offset.toInt origin ≤ c.content.length) :
    FileRefines R content
      { c with position := (seekTarget c.content.length c.position offset.toInt origin).toNat } f
      (R.SetStreamPosition
        (Callbacks.seekPosition f.FileSize (R.GetStreamPosition reader) offset origin) reader) := by
  have hposition := toNat_seekPosition f.FileSize (R.GetStreamPosition reader) offset origin
  rw [← h.size, h.position] at hposition
  have hsmall := h.small
  refine ⟨?_, h.size, h.small, ?_⟩
  · rw [hlawful.cursor_set, ← h.cursor]
    rw [← h.cursor] at hposition htarget hsmall
    apply congrArg (Cursor.mk _)
    omega
  · show (seekTarget _ _ _ _).toNat ≤ c.content.length
    omega

theorem tell (h : FileRefines R content c f reader) :
    (R.GetStreamPosition reader).toInt64 = Int64.ofNat c.position := by
  rw [← h.position]
  exact congrArg Int64.ofUInt64 UInt64.ofNat_toNat.symm

end FileRefines

@[simp] theorem referenceFile_none (call : Call ρ) : referenceFile none call = none := by
  cases call <;> rfl

theorem referenceStep_of_file {files : Arena (Cursor UInt8)} {call : Call ρ} {file : ℕ}
    (hfile : call.file = some file) :
    referenceStep R content files call =
      (referenceFile (files.get? file) call).map fun (c, answer) =>
        (files.update file c, answer) := by
  cases call with
  | Open => simp [Call.file] at hfile
  | OpenW => simp [Call.file] at hfile
  | _ => simp only [referenceStep, hfile, Option.bind_some]

/-- A call on an open file that keeps to the rules. -/
theorem referenceFile_simulates (hlawful : R.Lawful content) {files : Arena (Cursor UInt8)}
    {s : State ρ} {call : Call ρ} {file : ℕ} {c : Cursor UInt8} {c' : Option (Cursor UInt8)}
    {answer : Answer} (h : Refines R content files s) (hfile : call.file = some file)
    (hc : files.get? file = some c) (hstep : referenceFile (some c) call = some (c', answer)) :
    ∃ s', vfsStep R s call = some (s', answer) ∧ Refines R content (files.update file c') s' := by
  obtain ⟨f, reader, hderef, hrefines⟩ := h.file file c hc
  have hget := (State.deref_eq_some.mp hderef).1
  -- a call that leaves the file alone puts the reference back as it was
  have hsame : Refines R content (files.update file (some c)) s := by
    have hput := h.setReader hc hderef hrefines
    rwa [State.setReader_self (State.deref_eq_some.mp hderef).2] at hput
  cases call with
  | Open => simp [Call.file] at hfile
  | OpenW => simp [Call.file] at hfile
  | Write => simp [referenceFile] at hstep
  | Close =>
      simp only [Call.file] at hfile
      subst hfile
      simp only [referenceFile, Option.some.injEq, Prod.mk.injEq] at hstep
      obtain ⟨rfl, rfl⟩ := hstep
      refine ⟨s.deleteFile file f, ?_, h.deleteFile hderef⟩
      simp [vfsStep, Callbacks.Close, hget]
  | Read _ pDst n pBytesRead =>
      simp only [Call.file] at hfile
      subst hfile
      cases pDst with
      | false => simp [referenceFile] at hstep
      | true =>
          simp only [referenceFile, Option.some.injEq, Prod.mk.injEq] at hstep
          obtain ⟨rfl, rfl⟩ := hstep
          obtain ⟨hread, hanswer⟩ := hrefines.read hlawful n pBytesRead
          refine ⟨_, ?_, h.setReader hc hderef hread⟩
          rw [← hanswer]
          simp [vfsStep, Callbacks.Read, hderef]
  | Seek _ offset origin =>
      simp only [Call.file] at hfile
      subst hfile
      simp only [referenceFile, Option.ite_none_right_eq_some, Option.some.injEq,
        Prod.mk.injEq] at hstep
      obtain ⟨htarget, rfl, rfl⟩ := hstep
      refine ⟨_, ?_, h.setReader hc hderef (hrefines.seek hlawful htarget)⟩
      simp [vfsStep, Callbacks.Seek, hderef]
  | Tell _ pCursor =>
      simp only [Call.file] at hfile
      subst hfile
      cases pCursor with
      | false => simp [referenceFile] at hstep
      | true =>
          simp only [referenceFile, Option.some.injEq, Prod.mk.injEq] at hstep
          obtain ⟨rfl, rfl⟩ := hstep
          refine ⟨s, ?_, hsame⟩
          simp [vfsStep, Callbacks.Tell, hderef, hrefines.tell]
  | Info _ pInfo =>
      simp only [Call.file] at hfile
      subst hfile
      cases pInfo with
      | false => simp [referenceFile] at hstep
      | true =>
          simp only [referenceFile, Option.some.injEq, Prod.mk.injEq] at hstep
          obtain ⟨rfl, rfl⟩ := hstep
          refine ⟨s, ?_, hsame⟩
          simp [vfsStep, Callbacks.Info, hget, hrefines.fileSize]

/-- One call that keeps to the rules. -/
theorem referenceStep_simulates (hlawful : R.Lawful content) {files files' : Arena (Cursor UInt8)}
    {s : State ρ} {call : Call ρ} {answer : Answer} (h : Refines R content files s)
    (hstep : referenceStep R content files call = some (files', answer)) :
    ∃ s', vfsStep R s call = some (s', answer) ∧ Refines R content files' s' := by
  cases hfile : call.file with
  | some file =>
      rw [referenceStep_of_file hfile] at hstep
      simp only [Option.map_eq_some_iff, Prod.mk.injEq, Prod.exists] at hstep
      obtain ⟨c', _, hreference, rfl, rfl⟩ := hstep
      cases hc : files.get? file with
      | none => simp [hc] at hreference
      | some c => exact referenceFile_simulates hlawful h hfile hc (hc ▸ hreference)
  | none =>
      -- an `Open`: the other calls without a file break the rules
      unfold referenceStep at hstep
      split at hstep
      next vfs path openMode =>
        unfold vfsStep Callbacks.Open
        dsimp only
        rw [if_neg (by simp)]
        split at hstep
        next hwrite =>
          simp only [Option.some.injEq, Prod.mk.injEq] at hstep
          obtain ⟨rfl, rfl⟩ := hstep
          exact ⟨s, by rw [if_pos hwrite], h⟩
        next hwrite =>
          rw [if_neg hwrite]
          cases hreader : vfs.onCreateReader path with
          | none =>
              simp only [hreader, Option.some.injEq, Prod.mk.injEq] at hstep
              obtain ⟨rfl, rfl⟩ := hstep
              exact ⟨s, rfl, h⟩
          | some reader =>
              simp only [hreader, Option.ite_none_right_eq_some, Option.some.injEq,
                Prod.mk.injEq] at hstep
              obtain ⟨⟨hstart, hsize, hsmall⟩, rfl, rfl⟩ := hstep
              simp only [h.size]
              exact ⟨_, rfl, h.newFile hstart hsize hsmall⟩
      next => simp [hfile] at hstep

/-! ## The answers of one handle -/

/-- The calls on one handle. -/
def Call.isOn (file : ℕ) (call : Call ρ) : Bool := call.file = some file

/-- The bytes that the answers brought. -/
def bytesRead : List Answer → List UInt8
  | [] => []
  | .read _ data _ :: answers => data ++ bytesRead answers
  | _ :: answers => bytesRead answers

/-- A run of reads on a reference file. -/
theorem referenceFile_reads (c : Cursor UInt8) (file : ℕ) (pBytesRead : Bool) (ns : List UInt64) :
    ∃ answers, run (referenceFile (ρ := ρ)) (some c)
        (ns.map fun n => .Read (some file) true n pBytesRead) =
          some (some (c.reads (ns.map UInt64.toNat)).2, answers) ∧
      bytesRead answers = (c.reads (ns.map UInt64.toNat)).1 := by
  induction ns generalizing c with
  | nil => exact ⟨[], rfl, rfl⟩
  | cons n ns ih =>
      obtain ⟨answers, hrun, hbytes⟩ := ih (c.advance n.toNat)
      exact ⟨_, run_cons_eq_some.mpr ⟨_, _, answers, rfl, hrun, rfl⟩,
        congrArg (c.next n.toNat ++ ·) hbytes⟩

/-- What a call does to the reference files: nothing, a new one, or a step of
one that is open. -/
theorem referenceStep_cases {files files' : Arena (Cursor UInt8)} {call : Call ρ} {answer : Answer}
    (hstep : referenceStep R content files call = some (files', answer)) :
    (call.file = none ∧ (files' = files ∨ ∃ c, files' = files.alloc c)) ∨
      ∃ file c c', call.file = some file ∧ files.get? file = some c ∧
        referenceFile (some c) call = some (c', answer) ∧ files' = files.update file c' := by
  cases hfile : call.file with
  | some file =>
      rw [referenceStep_of_file hfile] at hstep
      simp only [Option.map_eq_some_iff, Prod.mk.injEq, Prod.exists] at hstep
      obtain ⟨c', _, hreference, rfl, rfl⟩ := hstep
      cases hc : files.get? file with
      | none => simp [hc] at hreference
      | some c => exact Or.inr ⟨file, c, c', rfl, hc, hc ▸ hreference, rfl⟩
  | none =>
      refine Or.inl ⟨rfl, ?_⟩
      unfold referenceStep at hstep
      split at hstep
      · split at hstep
        · simp only [Option.some.injEq, Prod.mk.injEq] at hstep
          exact Or.inl hstep.1.symm
        split at hstep
        · simp only [Option.some.injEq, Prod.mk.injEq] at hstep
          exact Or.inl hstep.1.symm
        · simp only [Option.ite_none_right_eq_some, Option.some.injEq, Prod.mk.injEq] at hstep
          exact Or.inr ⟨_, hstep.2.1.symm⟩
      · simp [hfile] at hstep

/-- In a run of the reference files, each file that is open at the start goes
through the run of its own calls. -/
theorem referenceStep_project {files files' : Arena (Cursor UInt8)} {calls : List (Call ρ)}
    {answers : List Answer} {file : ℕ} (hfile : file < files.size)
    (hrun : run (referenceStep R content) files calls = some (files', answers)) :
    run referenceFile (files.get? file) (calls.filter (Call.isOn file)) =
      some (files'.get? file, answersTo (Call.isOn file) calls answers) := by
  refine run_project (fun files => file < files.size) (fun files => files.get? file)
    (Call.isOn file) ?_ ?_ ?_ hfile hrun
  · -- a handle is never handed out again
    intro files call answer files' hlt hstep
    rcases referenceStep_cases hstep with ⟨_, rfl | ⟨c, rfl⟩⟩ | ⟨_, _, c', _, _, _, rfl⟩
    · exact hlt
    · rw [Arena.size_alloc]
      exact Nat.lt_succ_of_lt hlt
    · rwa [Arena.size_update]
  · intro files call answer files' hlt hstep hmine
    have hcall : call.file = some file := of_decide_eq_true hmine
    rcases referenceStep_cases hstep with ⟨hnone, _⟩ | ⟨_, c, c', hsome, hc, hfirst, rfl⟩
    · rw [hcall] at hnone
      simp at hnone
    · obtain rfl : file = _ := Option.some.inj (hcall.symm.trans hsome)
      rw [hc, Arena.get?_update hlt, if_pos rfl, hfirst]
  · intro files call answer files' hlt hstep hmine
    have hcall : call.file ≠ some file := of_decide_eq_false hmine
    rcases referenceStep_cases hstep with ⟨_, rfl | ⟨c, rfl⟩⟩ | ⟨other, c, c', hsome, hc, _, rfl⟩
    · rfl
    · rw [Arena.get?_alloc, if_neg (Nat.ne_of_lt hlt)]
    · have hne : file ≠ other := fun heq => hcall (heq ▸ hsome)
      rw [Arena.get?_update (Arena.lt_size_of_get? hc), if_neg hne]

/-! ## The refinement -/

/-- The answers to `calls`, as those of a file with the cursor `c` behind
`file`: they are the answers of that file alone, and if it is only read the
bytes are the next ones from the cursor, in whatever pieces they are read. -/
structure AnswersAsFile (file : ℕ) (c : Cursor UInt8) (calls : List (Call ρ))
    (answers : List Answer) : Prop where
  asFile : ∃ c', run referenceFile (some c) (calls.filter (Call.isOn file)) =
    some (c', answersTo (Call.isOn file) calls answers)
  bytes : ∀ (ns : List UInt64) (pBytesRead : Bool), calls.filter (Call.isOn file) =
      ns.map (fun n => .Read (some file) true n pBytesRead) →
    bytesRead (answersTo (Call.isOn file) calls answers) = c.next (ns.map UInt64.toNat).sum

theorem answersAsFile {files files' : Arena (Cursor UInt8)} {calls : List (Call ρ)}
    {answers : List Answer} {file : ℕ} {c : Cursor UInt8} (hc : files.get? file = some c)
    (hrun : run (referenceStep R content) files calls = some (files', answers)) :
    AnswersAsFile file c calls answers := by
  have hproject := referenceStep_project (Arena.lt_size_of_get? hc) hrun
  rw [hc] at hproject
  refine ⟨⟨_, hproject⟩, ?_⟩
  intro ns pBytesRead hreads
  obtain ⟨answers', hrun', hbytes⟩ := referenceFile_reads (ρ := ρ) c file pBytesRead ns
  rw [hreads, hrun', Option.some.injEq, Prod.mk.injEq] at hproject
  rw [← hproject.2, hbytes, Cursor.reads_eq]

/-- The VFS refines a cursor over a byte list for each handle: over every
interleaving that keeps to the rules it gives the answers of the reference
files, and from any point on each open handle answers as its own file does. -/
theorem vfs_refines_files (hlawful : R.Lawful content) {before after : List (Call ρ)}
    {files : Arena (Cursor UInt8)} {answers : List Answer}
    (hrules : run (referenceStep R content) Arena.empty (before ++ after) = some (files, answers)) :
    (∃ s, run (vfsStep R) State.empty (before ++ after) = some (s, answers) ∧
        Refines R content files s) ∧
      ∃ middle first rest, answers = first ++ rest ∧
        run (referenceStep R content) Arena.empty before = some (middle, first) ∧
        ∀ file c, middle.get? file = some c → AnswersAsFile file c after rest := by
  constructor
  · refine run_simulates ?_ Refines.empty hrules
    intro files s call answer files' h hstep
    obtain ⟨s', hs', h'⟩ := referenceStep_simulates hlawful h hstep
    exact ⟨s', hs', h'⟩
  · obtain ⟨middle, first, rest, hfirst, hrest, rfl⟩ := run_append_eq_some.mp hrules
    exact ⟨middle, first, rest, rfl, hfirst, fun file c hc => answersAsFile hc hrest⟩

/-- Two files read in turns, one of them from its end. -/
theorem vfs_refines_files_two :
    let before := [.Open (memoryVFS [1, 2, 3]) (some "a") 1 true,
      .Open (memoryVFS [4, 5]) (some "b") 1 true]
    let after := [.Read (some 0) true 2 true, .Seek (some 1) (-1) .endOfFile,
      .Read (some 0) true 2 true, .Read (some 1) true 1 true, .Tell (some 1) true]
    let answers := [.opened .success (some 0), .opened .success (some 1),
      .read .success [1, 2] (some 2), .result .success, .read .atEnd [3] (some 1),
      .read .success [5] (some 1), .told .success (some 2)]
    (∃ s, run (vfsStep MemoryReader.reader) State.empty (before ++ after) = some (s, answers) ∧
        Refines MemoryReader.reader MemoryReader.bytes ⟨[some ⟨[1, 2, 3], 3⟩, some ⟨[4, 5], 2⟩]⟩ s) ∧
      ∃ middle first rest, answers = first ++ rest ∧
        run (referenceStep MemoryReader.reader MemoryReader.bytes) Arena.empty before =
          some (middle, first) ∧
        ∀ file c, middle.get? file = some c → AnswersAsFile file c after rest := by
  intro before after answers
  have hrules : run (referenceStep MemoryReader.reader MemoryReader.bytes) Arena.empty
      (before ++ after) = some (⟨[some ⟨[1, 2, 3], 3⟩, some ⟨[4, 5], 2⟩]⟩, answers) := rfl
  exact vfs_refines_files MemoryReader.lawful hrules

end MiniaudioCpp.VFS
