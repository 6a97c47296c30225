import MiniaudioCpp.Build.Reading

/-!
# No token is lost or copied

`split_args` passes each index of its input once, and the round that passes it
puts the token into one of the two results, or into none of them.  The latter
happens at one index at most, that of the first `--` that is not the value of a
flag (`split_args_partitions`).

`Puts` and `TakenAsValue` speak of the states that the loop gets to.  They are
compared with what `read` says of the tokens (`puts_iff`, `takenAsValue_iff`).
-/

namespace MiniaudioCpp.Build

open Foundation

variable {mixed : List String} {i : ℕ}

/-! ## Positions -/

/-- The loop passes the token at `i`, and puts it into `d`. -/
def Puts (mixed : List String) (i : ℕ) (d : Destination) : Prop :=
  ∃ s tok, Reaches (step mixed) .start s ∧ s.i = i ∧ mixed[i]? = some tok ∧
    (body tok s).i = i + 1 ∧ d.Put tok s (body tok s)

/-- The loop passes the token at `i` while it expects a value. -/
def TakenAsValue (mixed : List String) (i : ℕ) : Prop :=
  ∃ s tok, Reaches (step mixed) .start s ∧ s.i = i ∧ mixed[i]? = some tok ∧
    s.expect.isSome ∧ (body tok s).i = i + 1

/-- There is a `--` at `i`, and it is not a value. -/
def IsSeparator (mixed : List String) (i : ℕ) : Prop :=
  mixed[i]? = some "--" ∧ ¬TakenAsValue mixed i

/-- The first separator is at `i`. -/
def FirstSeparator (mixed : List String) (i : ℕ) : Prop :=
  IsSeparator mixed i ∧ ∀ j < i, ¬IsSeparator mixed j

/-- The results are the input, each index in one of them and in the order of the
input, apart from the first separator. -/
structure Partition (mixed : List String) (destinations : List Destination)
    (cfg bld : List String) : Prop where
  length : destinations.length = mixed.length
  puts : ∀ i d, Puts mixed i d ↔ destinations[i]? = some d
  config : cfg = select .config destinations mixed
  build : bld = select .build destinations mixed
  dropped : ∀ i, destinations[i]? = some .dropped ↔ FirstSeparator mixed i
  once : ∀ i j : ℕ, destinations[i]? = some .dropped → destinations[j]? = some .dropped → i = j

/-! ## Rounds that pass a token -/

theorem Destination.Put.unique {d d' : Destination} {tok : String} {s next : Locals}
    (hput : d.Put tok s next) (hput' : d'.Put tok s next) : d = d' := by
  have hne (xs : List String) : xs ≠ xs ++ [tok] := by simp
  cases d <;> cases d' <;>
    first
    | rfl
    | exact absurd (hput.1.symm.trans hput'.1) (hne _)
    | exact absurd (hput'.1.symm.trans hput.1) (hne _)
    | exact absurd (hput.2.symm.trans hput'.2) (hne _)
    | exact absurd (hput'.2.symm.trans hput.2) (hne _)

/-- A round that advances the index passes its token. -/
theorem passes_of_advances {s : Locals} {tok : String} (hi : (body tok s).i = s.i + 1) :
    Passes tok s (body tok s) := by
  rcases body_cases s tok with hpass | ⟨-, -, hbody⟩
  · exact hpass
  · rw [hbody] at hi
    exact absurd hi (Nat.succ_ne_self _).symm

/-- A token is passed while a value is expected exactly when it is taken as
that value. -/
theorem takes_of_advances {s : Locals} {tok : String} (hi : (body tok s).i = s.i + 1) :
    s.mode.takes tok = s.expect.isSome := by
  cases hexpect : s.expect with
  | none => simp [Locals.mode, Mode.takes, hexpect]
  | some waiting =>
      obtain ⟨bucket, flag⟩ := waiting
      by_cases hflag : flag ∈ BUILD_OPTIONAL_NUM
      · cases hint : is_int tok with
        | true => simp [Locals.mode, Mode.takes, hexpect, hflag, hint]
        | false => simp [body, hexpect, hflag, hint] at hi
      · simp [Locals.mode, Mode.takes, hexpect, hflag]

/-- From each state at a token the loop gets to a round that passes it. -/
theorem exists_passes {s : Locals} {tok : String} (hreaches : Reaches (step mixed) .start s)
    (htok : mixed[s.i]? = some tok) :
    ∃ t, Reaches (step mixed) .start t ∧ t.i = s.i ∧ Passes tok t (body tok t) := by
  rcases body_cases s tok with hpass | ⟨-, -, hbody⟩
  · exact ⟨s, hreaches, rfl, hpass⟩
  · have hstep : step mixed s = some { s with expect := none } := by
      rw [step, htok, ← hbody]
      rfl
    exact ⟨_, hreaches.tail hstep, rfl, body_fresh rfl tok⟩

/-- The loop gets to every index. -/
theorem exists_reaches (hi : i ≤ mixed.length) :
    ∃ s, Reaches (step mixed) .start s ∧ s.i = i := by
  induction i with
  | zero => exact ⟨.start, .refl, rfl⟩
  | succ i ih =>
      obtain ⟨s, hreaches, rfl⟩ := ih (Nat.le_of_succ_le hi)
      have htok := List.getElem?_eq_getElem hi
      obtain ⟨t, hreaches', hindex, hpass⟩ := exists_passes hreaches htok
      refine ⟨body mixed[s.i] t, hreaches'.tail ?_, hpass.i.trans (by rw [hindex])⟩
      rw [step, hindex, htok]
      rfl

/-! ## What `read` says of a position -/

theorem getElem?_destinations (mixed : List String) (i : ℕ) :
    (destinations mixed)[i]? = mixed[i]?.map fun tok => (read (modeAt mixed i) tok).1 :=
  getElem?_labels read .start mixed i

theorem puts_iff (mixed : List String) (i : ℕ) (d : Destination) :
    Puts mixed i d ↔ (destinations mixed)[i]? = some d := by
  rw [getElem?_destinations]
  constructor
  · rintro ⟨s, tok, hreaches, rfl, htok, hi, hput⟩
    have hd := (passes_of_advances hi).put.unique hput
    rw [htok, Option.map_some, ← (follows_of_reaches hreaches).read tok htok, hd]
  · intro hlabel
    obtain ⟨tok, htok, rfl⟩ := Option.map_eq_some_iff.mp hlabel
    have hlt := (List.getElem?_eq_some_iff.mp htok).1
    obtain ⟨s, hreaches, rfl⟩ := exists_reaches (Nat.le_of_lt hlt)
    obtain ⟨t, hreaches', hindex, hpass⟩ := exists_passes hreaches htok
    rw [← hindex] at htok ⊢
    refine ⟨t, tok, hreaches', rfl, htok, hpass.i, ?_⟩
    rw [← (follows_of_reaches hreaches').read tok htok]
    exact hpass.put

theorem takenAsValue_iff (mixed : List String) (i : ℕ) :
    TakenAsValue mixed i ↔ ∃ tok, mixed[i]? = some tok ∧ (modeAt mixed i).takes tok := by
  constructor
  · rintro ⟨s, tok, hreaches, rfl, htok, hexpect, hi⟩
    refine ⟨tok, htok, ?_⟩
    rw [← (follows_of_reaches hreaches).takes tok htok, takes_of_advances hi]
    exact hexpect
  · rintro ⟨tok, htok, htakes⟩
    have hlt := (List.getElem?_eq_some_iff.mp htok).1
    obtain ⟨s, hreaches, rfl⟩ := exists_reaches (Nat.le_of_lt hlt)
    obtain ⟨t, hreaches', hindex, hpass⟩ := exists_passes hreaches htok
    rw [← hindex] at htok htakes ⊢
    refine ⟨t, tok, hreaches', rfl, htok, ?_, hpass.i⟩
    rw [← takes_of_advances hpass.i, (follows_of_reaches hreaches').takes tok htok]
    exact htakes

theorem isSeparator_iff (mixed : List String) (i : ℕ) :
    IsSeparator mixed i ↔ mixed[i]? = some "--" ∧ (modeAt mixed i).takes "--" = false := by
  rw [IsSeparator, takenAsValue_iff]
  constructor
  · rintro ⟨htok, hnot⟩
    exact ⟨htok, Bool.eq_false_iff.mpr fun htakes => hnot ⟨_, htok, htakes⟩⟩
  · rintro ⟨htok, htakes⟩
    refine ⟨htok, ?_⟩
    rintro ⟨tok, htok', htakes'⟩
    obtain rfl := Option.some.inj (htok.symm.trans htok')
    rw [htakes] at htakes'
    exact Bool.noConfusion htakes'

/-! ## The separator -/

theorem read_eq_dropped_iff (m : Mode) (tok : String) :
    (read m tok).1 = .dropped ↔ tok = "--" ∧ m.takes tok = false ∧ m.route = .auto := by
  rw [← kind_eq_separator_iff]
  cases htakes : m.takes tok with
  | true =>
      obtain ⟨bucket, hread⟩ := read_of_takes htakes
      rw [hread]
      cases bucket <;> simp [Bucket.destination]
  | false =>
      rw [read_of_not_takes htakes]
      cases kind tok <;> cases m.route <;> simp [readFresh]

/-- The route turns at a separator, and nowhere else. -/
theorem route_read (m : Mode) (tok : String) :
    (read m tok).2.route = .auto ↔ m.route = .auto ∧ ¬(tok = "--" ∧ m.takes tok = false) := by
  rw [← kind_eq_separator_iff]
  cases htakes : m.takes tok with
  | true =>
      obtain ⟨bucket, hread⟩ := read_of_takes htakes
      simp [hread]
  | false =>
      rw [read_of_not_takes htakes]
      cases kind tok <;> cases m.route <;> simp [readFresh]

/-- The route is still `"auto"` as long as there was no separator. -/
theorem route_modeAt (hi : i ≤ mixed.length) :
    (modeAt mixed i).route = .auto ↔ ∀ j < i, ¬IsSeparator mixed j := by
  induction i with
  | zero => simp [modeAt, Mode.start]
  | succ i ih =>
      have htok := List.getElem?_eq_getElem hi
      have hmode : modeAt mixed (i + 1) = (read (modeAt mixed i) mixed[i]).2 :=
        after_take_succ read .start htok
      rw [hmode, route_read, ih (Nat.le_of_succ_le hi)]
      have hseparator : IsSeparator mixed i ↔
          mixed[i] = "--" ∧ (modeAt mixed i).takes mixed[i] = false := by
        rw [isSeparator_iff, htok]
        constructor
        · rintro ⟨htok, htakes⟩
          obtain hdash := Option.some.inj htok
          exact ⟨hdash, hdash ▸ htakes⟩
        · rintro ⟨hdash, htakes⟩
          exact ⟨congrArg some hdash, hdash ▸ htakes⟩
      rw [← hseparator]
      constructor
      · rintro ⟨hbefore, hat⟩ j hj
        rcases Nat.lt_succ_iff_lt_or_eq.mp hj with hlt | rfl
        · exact hbefore j hlt
        · exact hat
      · intro hbefore
        exact ⟨fun j hj => hbefore j (Nat.lt_succ_of_lt hj), hbefore i (Nat.lt_succ_self i)⟩

theorem dropped_iff (mixed : List String) (i : ℕ) :
    (destinations mixed)[i]? = some .dropped ↔ FirstSeparator mixed i := by
  rw [getElem?_destinations, Option.map_eq_some_iff, FirstSeparator, isSeparator_iff]
  constructor
  · rintro ⟨tok, htok, hread⟩
    obtain ⟨rfl, htakes, hroute⟩ := (read_eq_dropped_iff _ _).mp hread
    exact ⟨⟨htok, htakes⟩, (route_modeAt (Nat.le_of_lt (List.getElem?_eq_some_iff.mp htok).1)).mp hroute⟩
  · rintro ⟨⟨htok, htakes⟩, hbefore⟩
    have hroute := (route_modeAt (Nat.le_of_lt (List.getElem?_eq_some_iff.mp htok).1)).mpr hbefore
    exact ⟨_, htok, (read_eq_dropped_iff _ _).mpr ⟨rfl, htakes, hroute⟩⟩

theorem FirstSeparator.unique {j : ℕ} (hi : FirstSeparator mixed i) (hj : FirstSeparator mixed j) :
    i = j := by
  rcases Nat.lt_trichotomy i j with hlt | heq | hlt
  · exact absurd hi.1 (hj.2 i hlt)
  · exact heq
  · exact absurd hj.1 (hi.2 j hlt)

/-- `split_args` ends on every list of tokens, and its results are a partition of
the tokens, but for the first `--` that is not the value of a flag. -/
theorem split_args_partitions (mixed : List String) :
    ∃ cfg bld destinations, Returns mixed (cfg, bld) ∧ Partition mixed destinations cfg bld := by
  refine ⟨_, _, destinations mixed, returns_select mixed, ?_⟩
  exact
    { length := length_labels read .start mixed
      puts := puts_iff mixed
      config := rfl
      build := rfl
      dropped := dropped_iff mixed
      once := fun i j hi hj =>
        ((dropped_iff mixed i).mp hi).unique ((dropped_iff mixed j).mp hj) }

end MiniaudioCpp.Build
