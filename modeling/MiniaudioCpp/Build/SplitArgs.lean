import MiniaudioCpp.Foundation.Loop
import Mathlib.Data.Int.Notation

/-!
# `split_args`

`build/_build_util.py` takes one mixed list of CMake arguments, and `split_args`
sorts it into those of the configure step and those of the build step.  It is
one loop over the tokens.  `expect` holds the flag whose value comes next, and
`route` turns to the build step at the first `--` that is not such a value.

A round of the loop is `body`, on the local variables; the loop ends where
`i` is no longer an index of `mixed`.
-/

namespace MiniaudioCpp.Build

open Foundation

/-! ## Strings of Python -/

/-- `s.startswith(start)`. -/
def startswith (s start : String) : Bool := start.toList.isPrefixOf s.toList

/-- The whitespace that `int` skips. -/
def isspace (c : Char) : Bool :=
  c.toNat ∈ [0x9, 0xa, 0xb, 0xc, 0xd, 0x20, 0x85, 0xa0, 0x1680, 0x2000, 0x2001, 0x2002, 0x2003,
    0x2004, 0x2005, 0x2006, 0x2007, 0x2008, 0x2009, 0x200a, 0x2028, 0x2029, 0x202f, 0x205f, 0x3000]

/-- The zeros of the decimal digits of Unicode; each is followed by its nine
other digits. -/
def decimalZeros : List ℕ :=
  [0x30, 0x660, 0x6f0, 0x7c0, 0x966, 0x9e6, 0xa66, 0xae6, 0xb66, 0xbe6, 0xc66, 0xce6, 0xd66,
    0xde6, 0xe50, 0xed0, 0xf20, 0x1040, 0x1090, 0x17e0, 0x1810, 0x1946, 0x19d0, 0x1a80, 0x1a90,
    0x1b50, 0x1bb0, 0x1c40, 0x1c50, 0xa620, 0xa8d0, 0xa900, 0xa9d0, 0xa9f0, 0xaa50, 0xabf0, 0xff10,
    0x104a0, 0x10d30, 0x11066, 0x110f0, 0x11136, 0x111d0, 0x112f0, 0x11450, 0x114d0, 0x11650,
    0x116c0, 0x11730, 0x118e0, 0x11950, 0x11c50, 0x11d50, 0x11da0, 0x16a60, 0x16ac0, 0x16b50,
    0x1d7ce, 0x1d7d8, 0x1d7e2, 0x1d7ec, 0x1d7f6, 0x1e140, 0x1e2f0, 0x1e950, 0x1fbf0]

/-- The value of a decimal digit. -/
def decimal (c : Char) : Option ℕ :=
  (decimalZeros.find? fun first => first ≤ c.toNat && c.toNat < first + 10).map fun first =>
    c.toNat - first

/-- The digits of a literal: at least one, with single underscores between them,
and whitespace at the end. -/
def digits : List Char → Option (List ℕ)
  | [] => none
  | c :: '_' :: cs => (decimal c).bind fun d => (digits cs).map (d :: ·)
  | c :: cs => (decimal c).bind fun d => if cs.all isspace then some [d] else (digits cs).map (d :: ·)

/-- `sys.get_int_max_str_digits()`. -/
def int_max_str_digits : ℕ := 4300

/-- The value of a literal without its sign. -/
def magnitude (cs : List Char) : Option ℕ :=
  (digits cs).bind fun ds =>
    if ds.length ≤ int_max_str_digits then some (ds.foldl (fun n d => 10 * n + d) 0) else none

/-- `int(s)`; none where it raises a `ValueError`. -/
def int (s : String) : Option ℤ :=
  match s.toList.dropWhile isspace with
  | '+' :: cs => (magnitude cs).map fun n => (n : ℤ)
  | '-' :: cs => (magnitude cs).map fun n => -(n : ℤ)
  | cs => (magnitude cs).map fun n => (n : ℤ)

/-- `is_int`. -/
def is_int (s : String) : Bool := (int s).isSome

/-- A sign, whitespace around it and single underscores between the digits are
fine; a sign alone, a letter, a point and an underscore anywhere else are not. -/
example : ["4", "-1", "+7", " 12 ", "1_000", "007"].all is_int = true ∧
    ["", "-", "--", "x", "4x", "- 1", "1.5", "0x4", "_1", "1_", "1__0"].any is_int = false := by
  decide

/-! ## The tables -/

/-- Build flags that require the next token as a value. -/
def BUILD_NEEDS_VALUE : List String := ["--config", "--target", "--preset", "--toolset", "-t"]

/-- Build flags with an optional numeric next token. -/
def BUILD_OPTIONAL_NUM : List String := ["--parallel"]

/-- Build flags that are simple switches. -/
def BUILD_SWITCHES : List String := ["--clean-first", "--verbose"]

/-- Configure flags that require the next token. -/
def CONFIG_NEEDS_VALUE : List String := ["-C"]

/-- Configure flags that are simple switches. -/
def CONFIG_SWITCHES : List String := ["-Wdev", "-Wno-dev", "-Werror=dev", "-Wno-error=dev"]

/-- `"config"` or `"build"`. -/
inductive Bucket
  | config
  | build
  deriving DecidableEq, Repr

/-- Where a token goes that is in no table. -/
def DEFAULT_BUCKET : Bucket := .config

/-! ## The loop -/

/-- `"auto"` until the first `--`, then `"build"`. -/
inductive Route
  | auto
  | build
  deriving DecidableEq, Repr

/-- The local variables of `split_args`. -/
structure Locals where
  cfg : List String
  bld : List String
  route : Route
  expect : Option (Bucket × String)
  i : ℕ
  deriving DecidableEq, Repr

/-- The local variables before the loop. -/
def Locals.start : Locals := ⟨[], [], .auto, none, 0⟩

/-- One round of the loop, where `mixed[i]` is `tok`. -/
def body (tok : String) (s : Locals) : Locals :=
  match s.expect with
  | some (bucket, flag) =>
      if flag ∈ BUILD_OPTIONAL_NUM then
        -- the token is looked at again when it is not a number
        if is_int tok then { s with bld := s.bld ++ [tok], i := s.i + 1, expect := none }
        else { s with expect := none }
      else if bucket = .build then
        { s with bld := s.bld ++ [tok], expect := none, i := s.i + 1 }
      else { s with cfg := s.cfg ++ [tok], expect := none, i := s.i + 1 }
  | none =>
      if tok = "--" then
        if s.route = .auto then { s with route := .build, i := s.i + 1 }
        else { s with bld := s.bld ++ [tok], i := s.i + 1 }
      else if tok ∈ BUILD_NEEDS_VALUE then
        { s with bld := s.bld ++ [tok], expect := some (.build, tok), i := s.i + 1 }
      else if tok ∈ BUILD_OPTIONAL_NUM then
        { s with bld := s.bld ++ [tok], expect := some (.build, tok), i := s.i + 1 }
      else if startswith tok "-j" then
        if tok = "-j" then
          { s with bld := s.bld ++ [tok], expect := some (.build, tok), i := s.i + 1 }
        else { s with bld := s.bld ++ [tok], i := s.i + 1 }
      else if tok ∈ BUILD_SWITCHES then { s with bld := s.bld ++ [tok], i := s.i + 1 }
      else if s.route = .build then { s with bld := s.bld ++ [tok], i := s.i + 1 }
      else if startswith tok "-D" || startswith tok "-U" then
        { s with cfg := s.cfg ++ [tok], i := s.i + 1 }
      else if tok ∈ CONFIG_SWITCHES then { s with cfg := s.cfg ++ [tok], i := s.i + 1 }
      else if tok ∈ CONFIG_NEEDS_VALUE then
        { s with cfg := s.cfg ++ [tok], expect := some (.config, tok), i := s.i + 1 }
      else if DEFAULT_BUCKET = .build then { s with bld := s.bld ++ [tok], i := s.i + 1 }
      else { s with cfg := s.cfg ++ [tok], i := s.i + 1 }

/-- `while i < len(mixed)`. -/
def step (mixed : List String) (s : Locals) : Option Locals :=
  mixed[s.i]?.map fun tok => body tok s

/-- `split_args`; none where so many rounds of the loop are not enough. -/
def split_args (rounds : ℕ) (mixed : List String) : Option (List String × List String) :=
  (loopUpTo (step mixed) rounds .start).map fun s => (s.cfg, s.bld)

/-- The loop ends, after at most two rounds for each token, and this is the
result. -/
def Returns (mixed : List String) (result : List String × List String) : Prop :=
  ∀ rounds, 2 * mixed.length ≤ rounds → split_args rounds mixed = some result

theorem Returns.unique {mixed : List String} {result result' : List String × List String}
    (h : Returns mixed result) (h' : Returns mixed result') : result = result' :=
  Option.some.inj ((h _ (Nat.le_refl _)).symm.trans (h' _ (Nat.le_refl _)))

example :
    split_args 14 ["-DX=1", "--parallel", "-C", "--", "--", "-DY=2", "--"] =
      some (["-DX=1", "-C", "--"], ["--parallel", "-DY=2", "--"]) :=
  rfl

end MiniaudioCpp.Build
