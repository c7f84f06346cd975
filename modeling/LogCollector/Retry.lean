import LogCollector.World

/-!
# Retries

An operation that fails is tried again after a wait, up to a number of attempts; each wait is
a factor longer than the one before. The wait also follows the last attempt. A failure is not
handed on: the outcome tells of it.
-/

namespace LogCollector

/-- How an operation is retried. -/
structure RetryPolicy where
  /-- The number of attempts. -/
  maxAttempts : Nat
  /-- How many times longer each wait is; 0 counts as 1. -/
  factor : Nat
  /-- The first wait. -/
  baseDelay : Duration
  deriving DecidableEq

/-- What became of an operation. -/
inductive RetryOutcome where
  /-- An attempt succeeded. -/
  | succeeded (attempts : Nat)
  /-- All attempts failed. -/
  | gaveUp (attempts : Nat) (lastError : String)
  deriving DecidableEq

/-- Whether the operation succeeded in the end. -/
def RetryOutcome.isSuccess : RetryOutcome → Bool
  | .succeeded _ => true
  | .gaveUp _ _ => false

namespace RetryPolicy

/-- Some attempts with a factor; the first wait is a second. -/
def ofAttempts (maxAttempts factor : Nat) : RetryPolicy := ⟨maxAttempts, factor, .ofSeconds 1⟩

/-- Three attempts with waits of one, two and four seconds. -/
def standard : RetryPolicy := ofAttempts 3 2

/-- The wait after a wait. -/
def nextDelay (p : RetryPolicy) (d : Duration) : Duration := d.times (max p.factor 1)

/-- The first `count` waits, beginning with `d`. -/
def delaysFrom (p : RetryPolicy) (d : Duration) : Nat → List Duration
  | 0 => []
  | count + 1 => d :: p.delaysFrom (p.nextDelay d) count

/-- The first waits, at most `count` of them. -/
def delays (p : RetryPolicy) (count : Nat) : List Duration :=
  p.delaysFrom p.baseDelay (min count p.maxAttempts)

/-- Makes the attempts that are left, after `made` attempts the last of which failed with
`lastError`. -/
def attemptsFrom {σ : Type} (w : World σ) (p : RetryPolicy)
    (operation : Nat → Run σ (Except String Unit)) (made : Nat) (lastError : String)
    (delay : Duration) : Nat → Run σ RetryOutcome
  | 0 => return .gaveUp made lastError
  | left + 1 => do
    match ← operation (made + 1) with
    | .ok () => return .succeeded (made + 1)
    | .error e =>
      w.pause delay
      attemptsFrom w p operation (made + 1) e (p.nextDelay delay) left

/-- Tries an operation; it is given the number of the attempt, from 1. -/
def run {σ : Type} (w : World σ) (p : RetryPolicy)
    (operation : Nat → Run σ (Except String Unit)) : Run σ RetryOutcome :=
  p.attemptsFrom w operation 0 "" p.baseDelay p.maxAttempts

end RetryPolicy

end LogCollector
