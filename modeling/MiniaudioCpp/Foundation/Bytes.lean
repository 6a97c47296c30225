import MiniaudioCpp.Foundation.Memory

/-!
# Words in byte memory

A 32-bit word takes four bytes, the lowest first.  Storing one changes those
four bytes and no others, and loading it gives back what was stored.
-/

namespace Foundation

/-- Byte `k` of a word. -/
def byteOf (x : UInt32) (k : ℕ) : UInt8 := UInt8.ofNat (x.toNat / 256 ^ k)

namespace Memory

/-- The word at address `a`. -/
def loadWord (m : Memory UInt8) (a : ℕ) : UInt32 :=
  UInt32.ofNat ((m a).toNat + 256 * (m (a + 1)).toNat + 256 ^ 2 * (m (a + 2)).toNat +
    256 ^ 3 * (m (a + 3)).toNat)

/-- Store a word at address `a`. -/
def storeWord (m : Memory UInt8) (a : ℕ) (x : UInt32) : Memory UInt8 :=
  fun b => if a ≤ b ∧ b < a + 4 then byteOf x (b - a) else m b

theorem storeWord_inside (m : Memory UInt8) (a : ℕ) (x : UInt32) {k : ℕ} (hk : k < 4) :
    m.storeWord a x (a + k) = byteOf x k := by
  rw [storeWord, if_pos (by omega), Nat.add_sub_cancel_left]

theorem storeWord_outside (m : Memory UInt8) (a : ℕ) (x : UInt32) {b : ℕ} (hb : a + 4 ≤ b) :
    m.storeWord a x b = m b :=
  if_neg (by omega)

theorem loadWord_storeWord (m : Memory UInt8) (a : ℕ) (x : UInt32) :
    (m.storeWord a x).loadWord a = x := by
  have hzero : m.storeWord a x a = byteOf x 0 := storeWord_inside m a x (k := 0) (by omega)
  have hx := x.toNat_lt
  rw [loadWord, hzero, storeWord_inside m a x (by omega), storeWord_inside m a x (by omega),
    storeWord_inside m a x (by omega), ← UInt32.toNat_inj, UInt32.toNat_ofNat']
  simp only [byteOf, UInt8.toNat_ofNat']
  omega

/-- Only the four bytes count. -/
theorem loadWord_congr {m m' : Memory UInt8} {a : ℕ} (h : ∀ k, k < 4 → m' (a + k) = m (a + k)) :
    m'.loadWord a = m.loadWord a := by
  have hzero : m' a = m a := h 0 (by omega)
  rw [loadWord, loadWord, hzero, h 1 (by omega), h 2 (by omega), h 3 (by omega)]

end Memory

end Foundation
