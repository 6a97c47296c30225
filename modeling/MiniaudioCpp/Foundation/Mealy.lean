import Mathlib.Data.List.Basic

/-!
# Machines that label the entries of a list

`read s x` is the label that an entry gets in a state, and the state after it.
`labels` are the labels of the entries of a list, one for each, and `after` is
the state at the end.  `select` picks the entries with one label, in order, so a
list is sorted into as many lists as there are labels, and no entry is in two.
-/

namespace Foundation

variable {State α β ℓ : Type*}

/-! ## States and labels -/

section Labels

variable (read : State → α → ℓ × State)

/-- The state after a list. -/
def after (s : State) (xs : List α) : State := xs.foldl (fun s x => (read s x).2) s

/-- The labels of the entries of a list. -/
def labels : State → List α → List ℓ
  | _, [] => []
  | s, x :: xs => (read s x).1 :: labels (read s x).2 xs

@[simp] theorem after_nil (s : State) : after read s [] = s := rfl

@[simp] theorem after_cons (s : State) (x : α) (xs : List α) :
    after read s (x :: xs) = after read (read s x).2 xs := rfl

@[simp] theorem labels_nil (s : State) : labels read s [] = [] := rfl

@[simp] theorem labels_cons (s : State) (x : α) (xs : List α) :
    labels read s (x :: xs) = (read s x).1 :: labels read (read s x).2 xs := rfl

theorem after_append (s : State) (xs ys : List α) :
    after read s (xs ++ ys) = after read (after read s xs) ys :=
  List.foldl_append

theorem labels_append (s : State) (xs ys : List α) :
    labels read s (xs ++ ys) = labels read s xs ++ labels read (after read s xs) ys := by
  induction xs generalizing s with
  | nil => rfl
  | cons x xs ih => simp [ih]

@[simp] theorem length_labels (s : State) (xs : List α) :
    (labels read s xs).length = xs.length := by
  induction xs generalizing s with
  | nil => rfl
  | cons x xs ih => simp [ih]

/-- The label at an index is read in the state after the entries before it. -/
theorem getElem?_labels (s : State) (xs : List α) (i : ℕ) :
    (labels read s xs)[i]? = xs[i]?.map fun x => (read (after read s (xs.take i)) x).1 := by
  induction xs generalizing s i with
  | nil => simp
  | cons x xs ih =>
      cases i with
      | zero => rfl
      | succ i => simp [ih]

theorem after_take_succ (s : State) {xs : List α} {i : ℕ} {x : α} (hx : xs[i]? = some x) :
    after read s (xs.take (i + 1)) = (read (after read s (xs.take i)) x).2 := by
  rw [List.take_add_one, hx, after_append]
  rfl

theorem labels_take_succ (s : State) {xs : List α} {i : ℕ} {x : α} (hx : xs[i]? = some x) :
    labels read s (xs.take (i + 1)) =
      labels read s (xs.take i) ++ [(read (after read s (xs.take i)) x).1] := by
  rw [List.take_add_one, hx, labels_append]
  rfl

/-! ### Labels that repeat -/

variable {Good : State → Prop}

/-- From states where every entry gets the label `l`, and which are not left. -/
theorem labels_eq_replicate {l : ℓ} (hread : ∀ s x, Good s → (read s x).1 = l ∧ Good (read s x).2)
    {s : State} (hs : Good s) (xs : List α) : labels read s xs = List.replicate xs.length l := by
  induction xs generalizing s with
  | nil => rfl
  | cons x xs ih =>
      obtain ⟨hlabel, hnext⟩ := hread s x hs
      rw [labels_cons, hlabel, ih hnext, List.length_cons, List.replicate_succ]

/-- Blocks whose entries all get the label of the block, read one after the
other. -/
theorem labels_flatMap (block : β → List α) (label : β → ℓ)
    (hblock : ∀ s b, Good s →
      labels read s (block b) = List.replicate (block b).length (label b) ∧
        Good (after read s (block b)))
    {s : State} (hs : Good s) (bs : List β) :
    labels read s (bs.flatMap block) =
        bs.flatMap (fun b => List.replicate (block b).length (label b)) ∧
      Good (after read s (bs.flatMap block)) := by
  induction bs generalizing s with
  | nil => exact ⟨rfl, hs⟩
  | cons b bs ih =>
      obtain ⟨hlabels, hnext⟩ := hblock s b hs
      obtain ⟨ihlabels, ihgood⟩ := ih hnext
      rw [List.flatMap_cons, List.flatMap_cons, labels_append, after_append, hlabels, ihlabels]
      exact ⟨rfl, ihgood⟩

end Labels

/-! ## Two machines -/

/-- Two machines give the same labels where a relation of their states, and of
what is still to come, is kept by every pair of entries. -/
theorem labels_eq_of_simulation {State' : Type*} {read : State → α → ℓ × State}
    {read' : State' → β → ℓ × State'} {R : α → β → Prop} (Rel : State → State' → List α → Prop)
    (hstep : ∀ s s' x y xs, R x y → Rel s s' (x :: xs) →
      (read s x).1 = (read' s' y).1 ∧ Rel (read s x).2 (read' s' y).2 xs)
    {xs : List α} {ys : List β} (hxs : List.Forall₂ R xs ys) {s : State} {s' : State'}
    (h : Rel s s' xs) : labels read s xs = labels read' s' ys := by
  induction hxs generalizing s s' with
  | nil => rfl
  | cons hxy _ ih =>
      obtain ⟨hlabel, hnext⟩ := hstep _ _ _ _ _ hxy h
      rw [labels_cons, labels_cons, hlabel, ih hnext]

/-! ## Entries with one label -/

section Select

variable [DecidableEq ℓ]

/-- The entries with the label `l`, in order. -/
def select (l : ℓ) (ls : List ℓ) (xs : List α) : List α :=
  ((ls.zip xs).filter fun entry => entry.1 = l).map Prod.snd

@[simp] theorem select_nil (l : ℓ) (xs : List α) : select l [] xs = [] := rfl

@[simp] theorem select_cons (l l' : ℓ) (ls : List ℓ) (x : α) (xs : List α) :
    select l (l' :: ls) (x :: xs) = if l' = l then x :: select l ls xs else select l ls xs := by
  by_cases hl : l' = l <;> simp [select, hl]

theorem mem_select_iff {l : ℓ} {ls : List ℓ} {xs : List α} {x : α} :
    x ∈ select l ls xs ↔ ∃ i : ℕ, ls[i]? = some l ∧ xs[i]? = some x := by
  simp only [select, List.mem_map, List.mem_filter, Prod.exists, decide_eq_true_eq,
    exists_eq_right]
  rw [List.mem_iff_getElem?]
  exact exists_congr fun i => List.getElem?_zip_eq_some

theorem select_append (l : ℓ) {ls : List ℓ} {xs : List α} (hlength : ls.length = xs.length)
    (ls' : List ℓ) (xs' : List α) :
    select l (ls ++ ls') (xs ++ xs') = select l ls xs ++ select l ls' xs' := by
  unfold select
  rw [List.zip_append hlength, List.filter_append, List.map_append]

theorem select_replicate_self (l : ℓ) (xs : List α) :
    select l (List.replicate xs.length l) xs = xs := by
  induction xs with
  | nil => rfl
  | cons x xs ih => simp [List.replicate_succ, ih]

theorem select_replicate_of_ne {l l' : ℓ} (hne : l' ≠ l) (xs : List α) :
    select l (List.replicate xs.length l') xs = [] := by
  induction xs with
  | nil => rfl
  | cons x xs ih => simp [List.replicate_succ, hne, ih]

/-- Of blocks with one label each, a selection keeps some whole, and no other. -/
theorem select_flatMap (l : ℓ) (block : β → List α) (label : β → ℓ) (bs : List β) :
    select l (bs.flatMap fun b => List.replicate (block b).length (label b)) (bs.flatMap block) =
      (bs.filter fun b => label b = l).flatMap block := by
  induction bs with
  | nil => rfl
  | cons b bs ih =>
      rw [List.flatMap_cons, List.flatMap_cons, select_append l (List.length_replicate ..), ih]
      by_cases hlabel : label b = l
      · rw [List.filter_cons_of_pos (by simpa using hlabel), List.flatMap_cons, hlabel,
          select_replicate_self]
      · rw [List.filter_cons_of_neg (by simpa using hlabel), select_replicate_of_ne hlabel,
          List.nil_append]

/-- Lists that are related entry by entry are still so after a selection. -/
theorem select_forall₂ {R : α → β → Prop} (l : ℓ) {xs : List α} {ys : List β}
    (h : List.Forall₂ R xs ys) (ls : List ℓ) :
    List.Forall₂ R (select l ls xs) (select l ls ys) := by
  induction h generalizing ls with
  | nil =>
      cases ls <;> exact .nil
  | cons hxy _ ih =>
      cases ls with
      | nil => exact .nil
      | cons l' ls =>
          rw [select_cons, select_cons]
          split
          · exact .cons hxy (ih ls)
          · exact ih ls

/-- A selection that is read again, by itself: where a relation between a state
and the state of the second reading is kept, all entries get the same label
again. -/
theorem labels_select (read : State → α → ℓ × State) {l : ℓ} (Rel : State → State → Prop)
    (hkept : ∀ s t x, Rel s t → (read s x).1 = l →
      (read t x).1 = l ∧ Rel (read s x).2 (read t x).2)
    (hpassed : ∀ s t x, Rel s t → (read s x).1 ≠ l → Rel (read s x).2 t)
    {s t : State} (h : Rel s t) (xs : List α) :
    labels read t (select l (labels read s xs) xs) =
        List.replicate (select l (labels read s xs) xs).length l ∧
      Rel (after read s xs) (after read t (select l (labels read s xs) xs)) := by
  induction xs generalizing s t with
  | nil => exact ⟨rfl, h⟩
  | cons x xs ih =>
      rw [labels_cons, select_cons, after_cons]
      by_cases hlabel : (read s x).1 = l
      · obtain ⟨hagain, hnext⟩ := hkept s t x h hlabel
        obtain ⟨ihlabels, ihrel⟩ := ih hnext
        rw [if_pos hlabel, labels_cons, after_cons, hagain, ihlabels]
        exact ⟨rfl, ihrel⟩
      · rw [if_neg hlabel]
        exact ih (hpassed s t x h hlabel)

end Select

end Foundation
