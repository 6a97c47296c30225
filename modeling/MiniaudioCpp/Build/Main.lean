import MiniaudioCpp.Build.Canonical
import MiniaudioCpp.Build.Partition

/-!
# `main`

`main` runs CMake to configure, with the configure arguments that `split_args`
finds, and then to build, if that succeeded and the build arguments name a
configuration.  `argparse` has read the arguments of the wrapper before, and a
command is run by `subprocess.run`: its return code may depend on all commands
run so far.

The build is asked for by any `--config` that is not the value of a `-C`, on
either side of a `--`, and the exit code says whether every command that was
run succeeded (`main_runs`).
-/

namespace MiniaudioCpp.Build

open Foundation

/-- What `argparse` leaves for `main`. -/
structure Namespace where
  generator : String
  build_dir : String
  arch : String
  rest : List String

/-- The arguments that are split: `argparse` keeps a leading `--`. -/
def Namespace.mixed (ns : Namespace) : List String :=
  if ns.rest.head? = some "--" then ns.rest.tail else ns.rest

/-- The configure command. -/
def Namespace.cfg_cmd (ns : Namespace) (config_args : List String) : List String :=
  ["cmake", "-S", ".", "-B", ns.build_dir, "-G", ns.generator] ++
    (if ns.arch ≠ "" then ["-A", ns.arch] else []) ++ config_args

/-- The build command. -/
def Namespace.build_cmd (ns : Namespace) (build_args : List String) : List String :=
  ["cmake", "--build", ns.build_dir] ++ build_args

/-- The commands that were run, in order, and the exit code. -/
structure Outcome where
  commands : List (List String)
  exitCode : ℤ
  deriving DecidableEq, Repr

/-- The commands of `main`.  `returncode` is that of the last one of those run so
far. -/
def runCommands (returncode : List (List String) → ℤ) (ns : Namespace)
    (config_args build_args : List String) : Outcome :=
  let cfg_cmd := ns.cfg_cmd config_args
  let rc := returncode [cfg_cmd]
  if rc ≠ 0 then ⟨[cfg_cmd], rc⟩
  else if "--config" ∈ build_args then
    let build_cmd := ns.build_cmd build_args
    ⟨[cfg_cmd, build_cmd], returncode [cfg_cmd, build_cmd]⟩
  else ⟨[cfg_cmd], 0⟩

/-- `main`; none where so many rounds of the loop are not enough. -/
def main (returncode : List (List String) → ℤ) (rounds : ℕ) (ns : Namespace) : Option Outcome :=
  (split_args rounds ns.mixed).map fun (config_args, build_args) =>
    runCommands returncode ns config_args build_args

/-! ## When it builds -/

/-- The loop passes the token at `i` as the value of a `-C`. -/
def ValueOfCache (mixed : List String) (i : ℕ) : Prop :=
  ∃ s, Reaches (step mixed) .start s ∧ s.i = i ∧ s.expect = some (.config, "-C")

/-- There is a `--config`, and it is not the value of a `-C`. -/
def NamesConfiguration (mixed : List String) : Prop :=
  ∃ i : ℕ, mixed[i]? = some "--config" ∧ ¬ValueOfCache mixed i

theorem valueOfCache_iff {mixed : List String} {i : ℕ} (hi : i ≤ mixed.length) :
    ValueOfCache mixed i ↔ (modeAt mixed i).pending = .value .config := by
  constructor
  · rintro ⟨s, hreaches, rfl, hexpect⟩
    exact (expect_iff hreaches).mp hexpect
  · intro hpending
    obtain ⟨s, hreaches, rfl⟩ := exists_reaches hi
    exact ⟨s, hreaches, rfl, (expect_iff hreaches).mpr hpending⟩

/-- Where a `--config` goes depends only on whether a `-C` waits for its value. -/
theorem read_config_iff (m : Mode) :
    (read m "--config").1 = .build ↔ m.pending ≠ .value .config := by
  constructor
  · intro hbuild hpending
    obtain ⟨route, pending⟩ := m
    obtain rfl : pending = .value .config := hpending
    nomatch hbuild
  · intro hpending
    rcases read_cases hpending "--config" with hread | hread
    · rw [hread]
    · rw [hread]
      rfl

theorem mem_build_iff (mixed : List String) :
    "--config" ∈ select .build (destinations mixed) mixed ↔ NamesConfiguration mixed := by
  rw [mem_select_iff, NamesConfiguration]
  refine exists_congr fun i => ?_
  rw [getElem?_destinations, and_comm]
  refine and_congr_right fun htok => ?_
  have hle := Nat.le_of_lt (List.getElem?_eq_some_iff.mp htok).1
  rw [valueOfCache_iff hle, ← Ne, ← read_config_iff, htok, Option.map_some, Option.some.injEq]

/-! ## What it runs -/

/-- The exit code is zero exactly if each command that was run succeeded. -/
def Outcome.Truthful (returncode : List (List String) → ℤ) (outcome : Outcome) : Prop :=
  outcome.exitCode = 0 ↔ ∀ run, run ≠ [] → run <+: outcome.commands → returncode run = 0

theorem runCommands_cases (returncode : List (List String) → ℤ) (ns : Namespace)
    (cfg bld : List String) :
    (returncode [ns.cfg_cmd cfg] ≠ 0 ∧
        runCommands returncode ns cfg bld =
          ⟨[ns.cfg_cmd cfg], returncode [ns.cfg_cmd cfg]⟩) ∨
      (returncode [ns.cfg_cmd cfg] = 0 ∧ "--config" ∈ bld ∧
        runCommands returncode ns cfg bld =
          ⟨[ns.cfg_cmd cfg, ns.build_cmd bld],
            returncode [ns.cfg_cmd cfg, ns.build_cmd bld]⟩) ∨
      (returncode [ns.cfg_cmd cfg] = 0 ∧ "--config" ∉ bld ∧
        runCommands returncode ns cfg bld = ⟨[ns.cfg_cmd cfg], 0⟩) := by
  by_cases hrc : returncode [ns.cfg_cmd cfg] = 0
  · right
    by_cases hconfig : "--config" ∈ bld
    · exact .inl ⟨hrc, hconfig, by simp [runCommands, hrc, hconfig]⟩
    · exact .inr ⟨hrc, hconfig, by simp [runCommands, hrc, hconfig]⟩
  · exact .inl ⟨hrc, by simp [runCommands, hrc]⟩

theorem truthful_runCommands (returncode : List (List String) → ℤ) (ns : Namespace)
    (cfg bld : List String) : (runCommands returncode ns cfg bld).Truthful returncode := by
  have hone (cmd : List String) (run : List (List String)) :
      run ≠ [] ∧ run <+: [cmd] ↔ run = [cmd] := by
    cases run <;> simp [List.cons_prefix_cons]
  have htwo (cmd cmd' : List String) (run : List (List String)) :
      run ≠ [] ∧ run <+: [cmd, cmd'] ↔ run = [cmd] ∨ run = [cmd, cmd'] := by
    cases run with
    | nil => simp
    | cons _ rest => cases rest <;> simp [List.cons_prefix_cons]
  rw [Outcome.Truthful]
  simp only [← and_imp]
  rcases runCommands_cases returncode ns cfg bld with ⟨-, hrun⟩ | ⟨hrc, -, hrun⟩ | ⟨hrc, -, hrun⟩
  · simp only [hrun, hone, forall_eq]
  · simp only [hrun, htwo, forall_eq_or_imp, forall_eq, hrc, true_and]
  · simp only [hrun, hone, forall_eq, hrc]

/-- `main` configures with the configure arguments.  It builds with the build
arguments if that succeeded and a configuration is named, and its exit code is
zero exactly if each command succeeded. -/
theorem main_runs (returncode : List (List String) → ℤ) (ns : Namespace) :
    ∃ cfg bld outcome,
      Returns ns.mixed (cfg, bld) ∧
      (∀ rounds, 2 * ns.mixed.length ≤ rounds → main returncode rounds ns = some outcome) ∧
      (outcome.commands = [ns.cfg_cmd cfg, ns.build_cmd bld] ↔
        returncode [ns.cfg_cmd cfg] = 0 ∧ NamesConfiguration ns.mixed) ∧
      (outcome.commands = [ns.cfg_cmd cfg] ↔
        ¬(returncode [ns.cfg_cmd cfg] = 0 ∧ NamesConfiguration ns.mixed)) ∧
      outcome.Truthful returncode := by
  have hreturns := returns_select ns.mixed
  have hnames := mem_build_iff ns.mixed
  generalize select .config (destinations ns.mixed) ns.mixed = cfg at hreturns
  generalize select .build (destinations ns.mixed) ns.mixed = bld at hreturns hnames
  refine ⟨cfg, bld, runCommands returncode ns cfg bld, hreturns, fun rounds hrounds => ?_, ?_, ?_,
    truthful_runCommands returncode ns cfg bld⟩
  · rw [main, hreturns rounds hrounds, Option.map_some]
  · rw [← hnames]
    rcases runCommands_cases returncode ns cfg bld with
      ⟨hrc, hrun⟩ | ⟨hrc, hconfig, hrun⟩ | ⟨hrc, hconfig, hrun⟩
    · simp [hrun, hrc]
    · simp [hrun, hrc, hconfig]
    · simp [hrun, hrc, hconfig]
  · rw [← hnames]
    rcases runCommands_cases returncode ns cfg bld with
      ⟨hrc, hrun⟩ | ⟨hrc, hconfig, hrun⟩ | ⟨hrc, hconfig, hrun⟩
    · simp [hrun, hrc]
    · simp [hrun, hrc, hconfig]
    · simp [hrun, hrc, hconfig]

end MiniaudioCpp.Build
