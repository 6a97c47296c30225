import MiniaudioCpp.CResource.Runs

/-!
# When `new` throws

`emplace` destroys the old element, and only then makes the new one.  If that
throws, the object is left with the pointer it had, to an element that is gone.
`clear` and `reset` overwrite the pointer; `emplace` gets no chance to.

So a throw does no harm exactly when the object owned nothing
(`throws_safe_iff_empty`).
-/

namespace MiniaudioCpp

open Foundation

variable {α : Type*}

/-- `emplace`, when `new element_type()` throws: the assignment to `resource_`
is not reached. -/
def CResource.emplaceThrows (self : CResource) (heap : Heap α) : CResource × Heap α :=
  (self, self.destruct heap)

/-- A call on the objects, or an `emplace` that throws. -/
inductive ThrowingCall (α : Type*)
  | call (call : OwnerCall α)
  | emplaceThrows (self : ℕ)

/-- What a call hands back, unless it throws. -/
inductive ThrowingAnswer
  | answer (answer : OwnerAnswer)
  | threw
  deriving DecidableEq, Repr

/-- One call. -/
def throwingStep [Inhabited α] (w : World CResource α) :
    ThrowingCall α → Option (World CResource α × ThrowingAnswer)
  | .call call => (ownerStep w call).map fun (w, answer) => (w, .answer answer)
  | .emplaceThrows self => w.member self fun c heap => (.threw, c.emplaceThrows heap)

/-! ## The promise and the condition -/

/-- Ownership is sound after the call, and after a throw the object is empty or
owns a live element that was not uninitialised. -/
structure ThrowSafe (_ : World CResource α) (call : ThrowingCall α) (_ : ThrowingAnswer)
    (w' : World CResource α) : Prop where
  sound : SoundOwnership w'
  left : ∀ self p, call = .emplaceThrows self → w'.slots self = some p →
    (∃ x, w'.heap.cells.get? p = some x) ∧ .uninit p ∉ w'.heap.log ∧ .delete p ∉ w'.heap.log

/-- An `emplace` that throws is one on an empty object. -/
def ThrowsOnEmpty (w : World CResource α) (call : ThrowingCall α) (_ : ThrowingAnswer)
    (_ : World CResource α) : Prop :=
  ∀ self, call = .emplaceThrows self → w.slots self = none

/-! ## One call -/

section Step

variable {w w' : World CResource α} {call : ThrowingCall α} {answer : ThrowingAnswer} {self : ℕ}

/-- On an empty object a throw changes nothing. -/
theorem emplaceThrows_of_empty [Inhabited α] (hempty : w.slots self = none)
    (hstep : throwingStep w (.emplaceThrows self) = some (w', answer)) : w' = w := by
  simp only [throwingStep] at hstep
  obtain ⟨c, hc, rfl, _⟩ := World.member_eq_some.mp hstep
  have hresource : c.resource_ = none := (World.slots_of_get? hc).symm.trans hempty
  simp only [CResource.emplaceThrows, CResource.destruct, hresource]
  rw [Arena.put_self hc]

/-- An object that owned an element is left with the pointer to it, and the
element is gone. -/
theorem emplaceThrows_of_owned [Inhabited α] {p : Pointer} (howned : w.slots self = some p)
    (hstep : throwingStep w (.emplaceThrows self) = some (w', answer)) :
    w'.slots self = some p ∧ w'.heap.cells.get? p = none := by
  simp only [throwingStep] at hstep
  obtain ⟨c, hc, rfl, _⟩ := World.member_eq_some.mp hstep
  have hresource : c.resource_ = some p := (World.slots_of_get? hc).symm.trans howned
  constructor
  · rw [World.slots_of_get? (Arena.get?_put_self (Arena.lt_size_of_get? hc) _)]
    exact hresource
  · simp [CResource.emplaceThrows, CResource.destruct, hresource, Arena.get?_free]

/-- What a call that does not throw does is a step of the unique owner. -/
theorem ownerStep_of_throwingStep [Inhabited α] {call : OwnerCall α}
    (hstep : throwingStep w (.call call) = some (w', answer)) :
    ∃ answer', ownerStep w call = some (w', answer') := by
  obtain ⟨⟨_, answer'⟩, howner, heq⟩ := Option.map_eq_some_iff.mp hstep
  obtain ⟨rfl, _⟩ := Prod.mk.inj heq
  exact ⟨answer', howner⟩

/-- The invariant is kept by each call but a throw on an object that owns an
element; that one leaves a dangling pointer. -/
theorem throwSafe_iff [Inhabited α] (h : OwnerInvariant w)
    (hstep : throwingStep w call = some (w', answer)) :
    (ThrowSafe w call answer w' ↔ ThrowsOnEmpty w call answer w') ∧
      (ThrowSafe w call answer w' → OwnerInvariant w') := by
  cases call with
  | call call =>
      obtain ⟨answer', howner⟩ := ownerStep_of_throwingStep hstep
      have h' : OwnerInvariant w' := h.step howner
      exact ⟨iff_of_true ⟨h'.sound, by simp⟩ (by simp [ThrowsOnEmpty]), fun _ => h'⟩
  | emplaceThrows self =>
      cases hslot : w.slots self with
      | none =>
          obtain rfl := emplaceThrows_of_empty hslot hstep
          refine ⟨iff_of_true ⟨h.sound, ?_⟩ ?_, fun _ => h⟩
          · intro other p heq hp
            obtain rfl := ThrowingCall.emplaceThrows.inj heq
            rw [hslot] at hp
            simp at hp
          · intro other heq
            obtain rfl := ThrowingCall.emplaceThrows.inj heq
            exact hslot
      | some p =>
          obtain ⟨hslot', hgone⟩ := emplaceThrows_of_owned hslot hstep
          have howned : ¬ ThrowsOnEmpty w (.emplaceThrows self) answer w' := by
            intro hempty
            have hnone := hempty self rfl
            rw [hslot] at hnone
            simp at hnone
          have hunsafe : ¬ ThrowSafe w (.emplaceThrows self) answer w' := by
            intro hsafe
            obtain ⟨x, hx⟩ := hsafe.sound.no_dangling self p hslot'
            rw [hgone] at hx
            simp at hx
          exact ⟨iff_of_false hunsafe howned, fun hsafe => absurd hsafe hunsafe⟩

end Step

/-! ## Runs -/

/-- Whatever the calls and the throws among them, every step of a run is safe if
and only if `emplace` throws on empty objects only. -/
theorem throws_safe_iff_empty [Inhabited α] (calls : List (ThrowingCall α)) :
    Along throwingStep ThrowSafe (World.empty : World CResource α) calls ↔
      Along throwingStep ThrowsOnEmpty World.empty calls :=
  along_iff_along (fun _ _ _ _ => throwSafe_iff) calls OwnerInvariant.empty

/-- An object that owns an element, an `emplace` on it that throws, and its
destructor: the element is uninitialised and deleted twice. -/
theorem throw_destroys_twice :
    let calls := [.call .construct, .call (.emplace 0 fun x => (.success, x)),
      .emplaceThrows 0, .call (.destroy 0)]
    ((run throwingStep (World.empty : World CResource ℕ) calls).map fun (w, _) => w.heap.log) =
        some [.new 0, .adopt 0, .init 0 .success, .uninit 0, .delete 0, .uninit 0, .delete 0] ∧
      ¬ Along throwingStep ThrowSafe (World.empty : World CResource ℕ) calls := by
  intro calls
  refine ⟨rfl, ?_⟩
  intro h
  have hsafe := (((h _ _ rfl).2 _ _ rfl).2 _ _ rfl).1
  obtain ⟨x, hx⟩ := hsafe.sound.no_dangling 0 0 rfl
  exact absurd hx (Option.some_ne_none x).symm

end MiniaudioCpp
