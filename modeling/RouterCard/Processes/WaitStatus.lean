import Mathlib.Tactic

namespace RouterCard.Processes

abbrev ExitCode := Fin 256

abbrev Signal := {n : ℕ // 0 < n ∧ n < 127}

inductive Termination where
  | exited (code : ExitCode)
  | signaled (signal : Signal) (core : Bool)
  deriving DecidableEq

namespace Termination

-- The code of a normal exit stands in the second byte, a signal in the lower seven bits of the first.
def waitStatus : Termination → ℕ
  | exited code => 256 * code
  | signaled signal core => signal + if core then 128 else 0

def shellCode : Termination → ExitCode
  | exited code => code
  | signaled signal _ => ⟨128 + signal, by have := signal.property; omega⟩

end Termination

-- exit keeps the low eight bits.
def exitCode (n : ℤ) : ExitCode := ⟨(n % 256).toNat, by omega⟩

variable {code : ExitCode} {signal : Signal} {core : Bool} {n : ℤ}

lemma exitCode_eq_zero : exitCode n = 0 ↔ n % 256 = 0 := by
  rw [exitCode, Fin.ext_iff]
  change (n % 256).toNat = 0 ↔ n % 256 = 0
  omega

lemma exitCode_exited : exitCode (Termination.exited code).waitStatus = 0 := by
  rw [exitCode_eq_zero, Termination.waitStatus]
  omega

lemma exitCode_signaled : exitCode (Termination.signaled signal core).waitStatus ≠ 0 := by
  have hs := signal.property
  rw [ne_eq, exitCode_eq_zero, Termination.waitStatus]
  cases core
  · simp only [Bool.false_eq_true, if_false]
    omega
  · simp only [if_true]
    omega

theorem exitCode_waitStatus (t : Termination) : exitCode t.waitStatus = 0 ↔ ∃ code, t = .exited code := by
  cases t with
  | exited code => exact iff_of_true exitCode_exited ⟨code, rfl⟩
  | signaled signal core => exact iff_of_false exitCode_signaled (by simp)

end RouterCard.Processes
