import MiniaudioCpp.Foundation.Cursor
import MiniaudioCpp.Foundation.Words

/-!
# Stream readers

`StreamReader<TReader>` forwards to a reader of the client, so its three
functions are a parameter here.  `Lawful` says what they do: the reader holds a
sequence of bytes that no call changes, setting the position sets it, and
`ReadData` delivers the bytes that exist from the position on and advances by
that many.  Under these laws a reader is a `Cursor`.

`MemoryReader` reads bytes that are in memory.
-/

namespace MiniaudioCpp

open Foundation

/-- The functions of `StreamReader`.  `ReadData` also gives the bytes it wrote
to `destination`, from its start on. -/
structure StreamReader (ρ : Type*) where
  GetStreamPosition : ρ → UInt64
  SetStreamPosition : UInt64 → ρ → ρ
  ReadData : UInt64 → ρ → List UInt8 × ρ

namespace StreamReader

variable {ρ : Type*}

/-- The reader as a cursor over its bytes. -/
def cursor (R : StreamReader ρ) (content : ρ → List UInt8) (r : ρ) : Cursor UInt8 :=
  ⟨content r, (R.GetStreamPosition r).toNat⟩

/-- The reader does what its documentation says. -/
structure Lawful (R : StreamReader ρ) (content : ρ → List UInt8) : Prop where
  position_set : ∀ p r, R.GetStreamPosition (R.SetStreamPosition p r) = p
  content_set : ∀ p r, content (R.SetStreamPosition p r) = content r
  data_read : ∀ n r, (R.ReadData n r).1 = (R.cursor content r).next n.toNat
  position_read : ∀ n r, R.GetStreamPosition (R.ReadData n r).2 =
    R.GetStreamPosition r + UInt64.ofNat (R.ReadData n r).1.length
  content_read : ∀ n r, content (R.ReadData n r).2 = content r

namespace Lawful

variable {R : StreamReader ρ} {content : ρ → List UInt8}

theorem cursor_set (h : R.Lawful content) (p : UInt64) (r : ρ) :
    R.cursor content (R.SetStreamPosition p r) = ⟨content r, p.toNat⟩ := by
  rw [cursor, h.position_set, h.content_set]

/-- `ReadData` advances the cursor: the position does not wrap, since it stays
within the bytes. -/
theorem cursor_read (h : R.Lawful content) {r : ρ} (hsize : (content r).length < 2 ^ 64)
    (n : UInt64) : R.cursor content (R.ReadData n r).2 = (R.cursor content r).advance n.toNat := by
  have hlength := Cursor.length_next (R.cursor content r) n.toNat
  have hposition : (R.GetStreamPosition (R.ReadData n r).2).toNat =
      (R.cursor content r).position + ((R.cursor content r).next n.toNat).length := by
    rw [h.position_read, h.data_read, UInt64.toNat_add, UInt64.toNat_ofNat']
    have hlt := (R.GetStreamPosition r).toNat_lt
    simp only [cursor, Cursor.remaining] at hlength ⊢
    omega
  rw [cursor, h.content_read, hposition]
  rfl

end Lawful

end StreamReader

/-- Bytes in memory, and a position. -/
structure MemoryReader where
  bytes : List UInt8
  position : UInt64 := 0
  deriving DecidableEq, Repr

namespace MemoryReader

/-- The reader of bytes in memory. -/
def reader : StreamReader MemoryReader where
  GetStreamPosition r := r.position
  SetStreamPosition p r := { r with position := p }
  ReadData n r :=
    let data := (r.bytes.drop r.position.toNat).take n.toNat
    (data, { r with position := r.position + UInt64.ofNat data.length })

theorem lawful : reader.Lawful MemoryReader.bytes where
  position_set _ _ := rfl
  content_set _ _ := rfl
  data_read _ _ := rfl
  position_read _ _ := rfl
  content_read _ _ := rfl

end MemoryReader

end MiniaudioCpp
