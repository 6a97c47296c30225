import MiniaudioCpp.Build.Kinds
import MiniaudioCpp.Foundation.Mealy

/-!
# Reading the tokens one by one

What `split_args` does with a token depends on what the token is, its `Kind`,
and on the `Mode` it is read in: the route, and what the flag before it waits
for.  `read` is that dependence alone, one token at a time, and the loop of
`split_args` follows it (`returns_select`): it ends, and its results are the
tokens that `read` sends to the configure step and those that it sends to the
build step.
-/

namespace MiniaudioCpp.Build

open Foundation

/-! ## Modes -/

/-- What the flag before a token waits for. -/
inductive Pending
  | nothing
  | number
  | value (bucket : Bucket)
  deriving DecidableEq, Repr

/-- How the next token is read. -/
structure Mode where
  route : Route
  pending : Pending
  deriving DecidableEq, Repr

/-- The mode at the start. -/
def Mode.start : Mode := ⟨.auto, .nothing⟩

/-- Where a token goes. -/
inductive Destination
  | config
  | build
  | dropped
  deriving DecidableEq, Repr

/-- The destination of what goes into a bucket. -/
def Bucket.destination : Bucket → Destination
  | .config => .config
  | .build => .build

/-- A token that is not a value. -/
def readFresh (route : Route) : Kind → Destination × Mode
  | .separator => (if route = .auto then .dropped else .build, ⟨.build, .nothing⟩)
  | .buildValue => (.build, ⟨route, .value .build⟩)
  | .buildNumber => (.build, ⟨route, .number⟩)
  | .buildSwitch => (.build, ⟨route, .nothing⟩)
  | .configValue =>
      if route = .auto then (.config, ⟨.auto, .value .config⟩) else (.build, ⟨.build, .nothing⟩)
  | .setting => (if route = .auto then .config else .build, ⟨route, .nothing⟩)

/-- The token is the value of the flag before it. -/
def Mode.takes (m : Mode) (tok : String) : Bool :=
  match m.pending with
  | .nothing => false
  | .number => is_int tok
  | .value _ => true

/-- One token: where it goes, and how the next one is read. -/
def read (m : Mode) (tok : String) : Destination × Mode :=
  if m.takes tok then
    (match m.pending with
      | .value bucket => bucket.destination
      | _ => .build, ⟨m.route, .nothing⟩)
  else readFresh m.route (kind tok)

theorem read_of_takes {m : Mode} {tok : String} (htakes : m.takes tok = true) :
    ∃ bucket : Bucket, read m tok = (bucket.destination, ⟨m.route, .nothing⟩) := by
  obtain ⟨route, pending⟩ := m
  cases pending with
  | nothing => exact Bool.noConfusion htakes
  | number => exact ⟨.build, if_pos htakes⟩
  | value bucket => exact ⟨bucket, rfl⟩

theorem read_of_not_takes {m : Mode} {tok : String} (htakes : m.takes tok = false) :
    read m tok = readFresh m.route (kind tok) := by
  simp [read, htakes]

/-- Where no configure flag waits for its value, a token is the value of a build
flag, or it is read for what it is. -/
theorem read_cases {m : Mode} (hm : m.pending ≠ .value .config) (tok : String) :
    read m tok = (.build, ⟨m.route, .nothing⟩) ∨ read m tok = readFresh m.route (kind tok) := by
  obtain ⟨route, pending⟩ := m
  cases pending with
  | nothing => exact .inr rfl
  | number =>
      cases hint : is_int tok with
      | true => exact .inl (if_pos hint)
      | false => exact .inr (read_of_not_takes (m := ⟨route, .number⟩) hint)
  | value bucket =>
      cases bucket with
      | config => exact absurd rfl hm
      | build => exact .inl rfl

/-- Behind the separator, where no configure flag waits for its value. -/
structure Mode.InBuild (m : Mode) : Prop where
  route : m.route = .build
  pending : m.pending ≠ .value .config

theorem inBuild_nothing : Mode.InBuild ⟨.build, .nothing⟩ := ⟨rfl, nofun⟩

/-- Behind the separator every token goes to the build step. -/
theorem Mode.InBuild.read {m : Mode} (hm : m.InBuild) (tok : String) :
    (Build.read m tok).1 = .build ∧ (Build.read m tok).2.InBuild := by
  rcases read_cases hm.pending tok with hread | hread
  · rw [hread, hm.route]
    exact ⟨rfl, inBuild_nothing⟩
  · rw [hread, hm.route]
    cases kind tok <;> exact ⟨rfl, rfl, nofun⟩

/-- The mode of the loop. -/
def Locals.mode (s : Locals) : Mode :=
  ⟨s.route,
    match s.expect with
    | none => .nothing
    | some (bucket, flag) => if flag ∈ BUILD_OPTIONAL_NUM then .number else .value bucket⟩

/-! ## One round -/

/-- The token was put into `d`. -/
def Destination.Put (d : Destination) (tok : String) (s s' : Locals) : Prop :=
  match d with
  | .config => s'.cfg = s.cfg ++ [tok] ∧ s'.bld = s.bld
  | .build => s'.cfg = s.cfg ∧ s'.bld = s.bld ++ [tok]
  | .dropped => s'.cfg = s.cfg ∧ s'.bld = s.bld

/-- A round that passes a token. -/
structure Passes (tok : String) (s s' : Locals) : Prop where
  i : s'.i = s.i + 1
  put : (read s.mode tok).1.Put tok s s'
  mode : s'.mode = (read s.mode tok).2

theorem not_mem_optionalNum {tok : String} (htok : tok ∈ BUILD_NEEDS_VALUE) :
    tok ∉ BUILD_OPTIONAL_NUM := by
  simp only [BUILD_NEEDS_VALUE, List.mem_cons, List.not_mem_nil, or_false] at htok
  rcases htok with rfl | rfl | rfl | rfl | rfl <;> decide

/-- With no value expected, a round passes its token. -/
theorem body_fresh {s : Locals} (hexpect : s.expect = none) (tok : String) :
    Passes tok s (body tok s) := by
  obtain ⟨cfg, bld, route, expect, i⟩ := s
  subst hexpect
  suffices h : (body tok ⟨cfg, bld, route, none, i⟩).i = i + 1 ∧
      (readFresh route (kind tok)).1.Put tok ⟨cfg, bld, route, none, i⟩
        (body tok ⟨cfg, bld, route, none, i⟩) ∧
      (body tok ⟨cfg, bld, route, none, i⟩).mode = (readFresh route (kind tok)).2 from
    ⟨h.1, h.2.1, h.2.2⟩
  -- the cases are the branches of the loop, in its order
  by_cases hseparator : tok = "--"
  · subst hseparator
    cases route <;> exact ⟨rfl, ⟨rfl, rfl⟩, rfl⟩
  by_cases hvalue : tok ∈ BUILD_NEEDS_VALUE
  · have hnumber := not_mem_optionalNum hvalue
    simp [body, kind, readFresh, Destination.Put, Locals.mode, hseparator, hvalue, hnumber]
  by_cases hnumber : tok ∈ BUILD_OPTIONAL_NUM
  · simp [body, kind, readFresh, Destination.Put, Locals.mode, hseparator, hvalue, hnumber]
  by_cases hjobs : startswith tok "-j"
  · by_cases hbare : tok = "-j"
    · subst hbare
      exact ⟨rfl, ⟨rfl, rfl⟩, rfl⟩
    · simp [body, kind, readFresh, Destination.Put, Locals.mode, hseparator, hvalue, hnumber, hjobs,
        hbare]
  by_cases hswitch : tok ∈ BUILD_SWITCHES
  · simp [body, kind, readFresh, Destination.Put, Locals.mode, hseparator, hvalue, hnumber, hjobs,
      hswitch]
  by_cases hdefine : (startswith tok "-D" || startswith tok "-U") = true
  · cases route <;> simp [body, kind, readFresh, Destination.Put, Locals.mode, hseparator, hvalue,
      hnumber, hjobs, hswitch, hdefine]
  by_cases hwarning : tok ∈ CONFIG_SWITCHES
  · cases route <;> simp [body, kind, readFresh, Destination.Put, Locals.mode, hseparator, hvalue,
      hnumber, hjobs, hswitch, hdefine, hwarning]
  by_cases hcache : tok ∈ CONFIG_NEEDS_VALUE
  · cases route <;> simp [body, kind, readFresh, Destination.Put, Locals.mode, hseparator, hvalue,
      hnumber, hjobs, hswitch, hdefine, hwarning, hcache]
  · cases route <;> simp [body, kind, readFresh, Destination.Put, Locals.mode, hseparator, hvalue,
      hnumber, hjobs, hswitch, hdefine, hwarning, hcache, DEFAULT_BUCKET]

theorem read_number {tok : String} (htok : is_int tok = false) (route : Route) :
    read ⟨route, .number⟩ tok = read ⟨route, .nothing⟩ tok := by
  simp [read, Mode.takes, htok]

/-- A round passes its token, or the flag before it waits for a number that the
token is not, and the token is looked at again. -/
theorem body_cases (s : Locals) (tok : String) :
    Passes tok s (body tok s) ∨
      s.mode = ⟨s.route, .number⟩ ∧ is_int tok = false ∧ body tok s = { s with expect := none } := by
  cases hexpect : s.expect with
  | none => exact .inl (body_fresh hexpect tok)
  | some waiting =>
      obtain ⟨bucket, flag⟩ := waiting
      by_cases hflag : flag ∈ BUILD_OPTIONAL_NUM
      · have hmode : s.mode = ⟨s.route, .number⟩ := by simp [Locals.mode, hexpect, hflag]
        cases hint : is_int tok with
        | true =>
            have hbody : body tok s =
                { s with bld := s.bld ++ [tok], i := s.i + 1, expect := none } := by
              simp [body, hexpect, hflag, hint]
            have hread : read s.mode tok = (.build, ⟨s.route, .nothing⟩) := by
              simp [hmode, read, Mode.takes, hint]
            rw [hbody]
            exact .inl ⟨rfl, hread ▸ ⟨rfl, rfl⟩, hread ▸ rfl⟩
        | false => exact .inr ⟨hmode, rfl, by simp [body, hexpect, hflag, hint]⟩
      · have hread : read s.mode tok = (bucket.destination, ⟨s.route, .nothing⟩) := by
          simp [Locals.mode, hexpect, hflag, read, Mode.takes]
        left
        cases bucket with
        | config =>
            have hbody : body tok s =
                { s with cfg := s.cfg ++ [tok], expect := none, i := s.i + 1 } := by
              simp [body, hexpect, hflag]
            rw [hbody]
            exact ⟨rfl, hread ▸ ⟨rfl, rfl⟩, hread ▸ rfl⟩
        | build =>
            have hbody : body tok s =
                { s with bld := s.bld ++ [tok], expect := none, i := s.i + 1 } := by
              simp [body, hexpect, hflag]
            rw [hbody]
            exact ⟨rfl, hread ▸ ⟨rfl, rfl⟩, hread ▸ rfl⟩

/-! ## The loop -/

/-- The mode that the token at `i` is read in. -/
def modeAt (mixed : List String) (i : ℕ) : Mode := after read .start (mixed.take i)

/-- Where each token goes. -/
def destinations (mixed : List String) : List Destination := labels read .start mixed

/-- The loop has read the tokens before `i`. -/
structure Follows (mixed : List String) (s : Locals) : Prop where
  i : s.i ≤ mixed.length
  cfg : s.cfg = select .config (destinations (mixed.take s.i)) (mixed.take s.i)
  bld : s.bld = select .build (destinations (mixed.take s.i)) (mixed.take s.i)
  takes : ∀ tok, mixed[s.i]? = some tok → s.mode.takes tok = (modeAt mixed s.i).takes tok
  read : ∀ tok, mixed[s.i]? = some tok → read s.mode tok = Build.read (modeAt mixed s.i) tok

theorem follows_start (mixed : List String) : Follows mixed .start :=
  ⟨Nat.zero_le _, rfl, rfl, fun _ _ => rfl, fun _ _ => rfl⟩

/-- Passing a token that is put into `d` adds it to the selection of `d` alone. -/
theorem Destination.Put.selected {d : Destination} {tok : String} {s next : Locals}
    (hput : d.Put tok s next) :
    next.cfg = s.cfg ++ select .config [d] [tok] ∧ next.bld = s.bld ++ select .build [d] [tok] := by
  cases d with
  | config => exact ⟨hput.1, hput.2.trans (List.append_nil _).symm⟩
  | build => exact ⟨hput.1.trans (List.append_nil _).symm, hput.2⟩
  | dropped => exact ⟨hput.1.trans (List.append_nil _).symm, hput.2.trans (List.append_nil _).symm⟩

theorem Follows.passes {mixed : List String} {s next : Locals} {tok : String}
    (h : Follows mixed s) (htok : mixed[s.i]? = some tok) (hpass : Passes tok s next) :
    Follows mixed next := by
  have hlt : s.i < mixed.length := (List.getElem?_eq_some_iff.mp htok).1
  have htake : mixed.take next.i = mixed.take s.i ++ [tok] := by
    rw [hpass.i, List.take_add_one, htok, Option.toList_some]
  have hread := h.read tok htok
  have hlabels : destinations (mixed.take next.i) =
      destinations (mixed.take s.i) ++ [(Build.read s.mode tok).1] := by
    rw [hpass.i, hread]
    exact labels_take_succ Build.read .start htok
  have hmode : next.mode = modeAt mixed next.i := by
    rw [hpass.mode, hread, hpass.i]
    exact (after_take_succ Build.read .start htok).symm
  have hlength : (destinations (mixed.take s.i)).length = (mixed.take s.i).length :=
    length_labels Build.read .start _
  obtain ⟨hcfg, hbld⟩ := hpass.put.selected
  refine ⟨by rw [hpass.i]; exact hlt, ?_, ?_, ?_, ?_⟩
  · rw [hlabels, htake, select_append _ hlength, ← h.cfg, hcfg]
  · rw [hlabels, htake, select_append _ hlength, ← h.bld, hbld]
  · intro _ _
    rw [hmode]
  · intro _ _
    rw [hmode]

theorem Follows.step {mixed : List String} {s next : Locals} (h : Follows mixed s)
    (hstep : step mixed s = some next) : Follows mixed next := by
  obtain ⟨tok, htok, rfl⟩ := Option.map_eq_some_iff.mp hstep
  rcases body_cases s tok with hpass | ⟨hmode, hint, hbody⟩
  · exact h.passes htok hpass
  · rw [hbody]
    refine ⟨h.i, h.cfg, h.bld, ?_, ?_⟩
    · intro tok' htok'
      obtain rfl : tok = tok' := Option.some.inj (htok.symm.trans htok')
      rw [← h.takes tok htok, hmode]
      exact hint.symm
    · intro tok' htok'
      obtain rfl : tok = tok' := Option.some.inj (htok.symm.trans htok')
      rw [← h.read tok htok, hmode, read_number hint]
      rfl

/-- The loop follows `read` in every state that it gets to. -/
theorem follows_of_reaches {mixed : List String} {s : Locals}
    (hreaches : Reaches (step mixed) .start s) : Follows mixed s :=
  hreaches.invariant (fun _ _ h hstep => h.step hstep) (follows_start mixed)

/-- Two rounds for each token to come, and one more where a value is expected. -/
def potential (mixed : List String) (s : Locals) : ℕ :=
  2 * (mixed.length - s.i) + if s.expect.isSome then 1 else 0

theorem potential_lt {mixed : List String} {s next : Locals} (hstep : step mixed s = some next) :
    potential mixed next < potential mixed s := by
  obtain ⟨tok, htok, rfl⟩ := Option.map_eq_some_iff.mp hstep
  have hlt : s.i < mixed.length := (List.getElem?_eq_some_iff.mp htok).1
  rcases body_cases s tok with hpass | ⟨hmode, -, hbody⟩
  · have hi := hpass.i
    have hone : (if (body tok s).expect.isSome then 1 else 0) ≤ 1 := by split <;> omega
    unfold potential
    omega
  · have hexpect : s.expect.isSome := by
      cases h : s.expect with
      | none => simp [Locals.mode, h] at hmode
      | some _ => rfl
    simp [potential, hbody, hexpect]

/-- The loop ends, and sorts the tokens by their destinations. -/
theorem returns_select (mixed : List String) :
    Returns mixed (select .config (destinations mixed) mixed,
      select .build (destinations mixed) mixed) := by
  obtain ⟨s, hreaches, hend, hloop⟩ :=
    loopUpTo_of_potential (s := .start) (potential mixed) fun _ _ => potential_lt
  have hfollows := follows_of_reaches hreaches
  have hlength : mixed.length ≤ s.i := by
    rw [← List.getElem?_eq_none_iff]
    exact Option.map_eq_none_iff.mp hend
  have htake : mixed.take s.i = mixed := List.take_of_length_le hlength
  intro rounds hrounds
  rw [split_args, hloop rounds (by simpa [potential, Locals.start] using hrounds)]
  simp only [Option.map_some]
  rw [hfollows.cfg, hfollows.bld, htake]

end MiniaudioCpp.Build
