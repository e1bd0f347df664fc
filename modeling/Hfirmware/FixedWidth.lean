/-
Fixed-width unsigned arithmetic on natural numbers. A value of a C unsigned
type is the natural number it denotes; each operation reduces its result.
-/

import Mathlib

namespace Hfirmware

open Nat

def u8 (value : Nat) : Nat := value % 2 ^ 8

def u16 (value : Nat) : Nat := value % 2 ^ 16

def u32 (value : Nat) : Nat := value % 2 ^ 32

def u32Sub (left right : Nat) : Nat := (left + 2 ^ 32 - right) % 2 ^ 32

theorem u32_of_lt {value : Nat} (bounded : value < 2 ^ 32) : u32 value = value :=
  mod_eq_of_lt bounded

theorem u32_lt (value : Nat) : u32 value < 2 ^ 32 := mod_lt _ (by decide)

theorem u16_of_lt {value : Nat} (bounded : value < 2 ^ 16) : u16 value = value :=
  mod_eq_of_lt bounded

theorem u16_u16_add (left right : Nat) : u16 (u16 left + right) = u16 (left + right) :=
  mod_add_mod _ _ _

theorem u16_u16_mul (left right : Nat) : u16 (u16 left * right) = u16 (left * right) :=
  mod_mul_mod _ _ _

theorem u32Sub_of_le {left right : Nat} (bounded : left < 2 ^ 32) (le : right ≤ left) :
    u32Sub left right = left - right := by
  unfold u32Sub
  omega

end Hfirmware
