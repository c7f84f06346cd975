import LogCollector.Proofs.Run.Triple
import LogCollector.Retry
import LogCollector.Stage.World
import Mathlib.Data.List.Basic
import Mathlib.Data.List.Induction

/-!
# Retries with longer and longer waits

What becomes of a retried operation is told by a list of calls and waits (`Trial`): from one tape to
another nothing else happens (`Passes`). The calls are numbered from one. Each that fails is
followed by a wait, the last one of all too, and the first that succeeds ends the list (`Ended`).

The wait behind an attempt is computed from the wait before, and it is cut off at the longest span
of time. As the factor is at least one, cutting off at each step comes to the same as cutting off
the power once (`nextDelay_waitAfter`). The attempts that are left are the induction variable of the
run (`attemptsFrom_ended`); what has been done before them is the list of the faults so far.
-/

namespace LogCollector

/-! ### Calls and waits -/

/-- Something that happens while an operation is retried. -/
inductive Trial where
  /-- The operation is called with the number of the attempt and comes back with a result. -/
  | called (number : Nat) (result : Except String Unit)
  /-- Some time passes before the next attempt. -/
  | waited (d : Duration)

/-- The wait of a trial. -/
def Trial.wait? : Trial → Option Duration
  | .called _ _ => none
  | .waited d => some d

/-- From one tape to another, calls of an operation and waits happen in order, and nothing else. -/
inductive Passes {σ : Type} (w : World σ) (operation : Nat → Run σ (Except String Unit)) :
    Tape σ → List Trial → Tape σ → Prop where
  /-- Nothing happens. -/
  | nothing (t : Tape σ) : Passes w operation t [] t
  /-- The operation is called first. -/
  | called {t t' : Tape σ} {later : List Trial} (number : Nat) :
      Passes w operation (operation number t).2 later t' →
      Passes w operation t (.called number (operation number t).1 :: later) t'
  /-- Some time passes first. -/
  | waited {t t' : Tape σ} {later : List Trial} (d : Duration) :
      Passes w operation (w.pause d t).2 later t' → Passes w operation t (.waited d :: later) t'

/-- Notes that can be read off a tape: each call and each wait adds itself to them. -/
structure Notes {σ : Type} (w : World σ) (operation : Nat → Run σ (Except String Unit))
    (notes : Tape σ → List Trial) : Prop where
  /-- A call is noted with its number and its result. -/
  called : ∀ number t,
    notes (operation number t).2 = notes t ++ [.called number (operation number t).1]
  /-- A wait is noted with its length. -/
  waited : ∀ d t, notes (w.pause d t).2 = notes t ++ [.waited d]

/-- Whoever takes notes of the calls and the waits has noted the list in the end. -/
theorem Passes.noted {σ : Type} {w : World σ} {operation : Nat → Run σ (Except String Unit)}
    {t t' : Tape σ} {trials : List Trial} (h : Passes w operation t trials t')
    {notes : Tape σ → List Trial} (hnotes : Notes w operation notes) :
    notes t' = notes t ++ trials := by
  induction h with
  | nothing t => rw [List.append_nil]
  | called number _ ih => rw [ih, hnotes.called, List.append_assoc, List.singleton_append]
  | waited d _ ih => rw [ih, hnotes.waited, List.append_assoc, List.singleton_append]

namespace RetryPolicy

variable (p : RetryPolicy)

/-! ### The length of the waits -/

/-- The wait behind a failed attempt, given how many have failed before: the first wait times that
power of the factor, or the longest span. -/
def waitAfter (before : Nat) : Duration :=
  ⟨min (p.baseDelay.nanoseconds * Nat.pow (max p.factor 1) before) Duration.longest.nanoseconds⟩

theorem waitAfter_le_longest (before : Nat) :
    (p.waitAfter before).nanoseconds ≤ Duration.longest.nanoseconds := Nat.min_le_right _ _

variable {p}

/-- The first wait, which is a span of time, is waited for as it is. -/
theorem waitAfter_zero (h : p.baseDelay.nanoseconds ≤ Duration.longest.nanoseconds) :
    p.waitAfter 0 = p.baseDelay := by
  have hpower : Nat.pow (max p.factor 1) 0 = 1 := rfl
  rw [waitAfter, hpower, Nat.mul_one, Nat.min_eq_left h]

variable (p)

/-- The next wait is computed from the one before, although that may have been cut off. -/
theorem nextDelay_waitAfter (before : Nat) :
    p.nextDelay (p.waitAfter before) = p.waitAfter (before + 1) := by
  let uncut := p.baseDelay.nanoseconds * Nat.pow (max p.factor 1) before
  have hgrows : Duration.longest.nanoseconds ≤ Duration.longest.nanoseconds * max p.factor 1 :=
    Nat.le_mul_of_pos_right _ (Nat.le_max_right _ _)
  have hcut : min (min uncut Duration.longest.nanoseconds * max p.factor 1)
      Duration.longest.nanoseconds = min (uncut * max p.factor 1) Duration.longest.nanoseconds := by
    by_cases hle : uncut ≤ Duration.longest.nanoseconds
    · rw [Nat.min_eq_left hle]
    · -- What has been cut off stays cut off, since the factor is not zero.
      have hover := Nat.mul_le_mul_right (max p.factor 1) (Nat.le_of_not_le hle)
      rw [Nat.min_eq_right (Nat.le_of_not_le hle), Nat.min_eq_right hgrows,
        Nat.min_eq_right (Nat.le_trans hgrows hover)]
  have hpower : p.baseDelay.nanoseconds * Nat.pow (max p.factor 1) (before + 1) =
      uncut * max p.factor 1 := (Nat.mul_assoc _ _ _).symm
  rw [nextDelay, Duration.times, waitAfter, waitAfter, hpower]
  exact congrArg Duration.mk hcut

theorem delaysFrom_waitAfter (before count : Nat) :
    p.delaysFrom (p.waitAfter before) count = (List.range' before count).map p.waitAfter := by
  induction count generalizing before with
  | zero => rfl
  | succ count ih =>
    rw [delaysFrom, nextDelay_waitAfter, ih, List.range'_succ, List.map_cons]

/-- The waits that are announced are those of the attempts. -/
theorem delays_eq (h : p.baseDelay.nanoseconds ≤ Duration.longest.nanoseconds) (count : Nat) :
    p.delays count = (List.range (min count p.maxAttempts)).map p.waitAfter := by
  rw [delays, ← waitAfter_zero h, delaysFrom_waitAfter, List.range_eq_range']

/-- The attempts as a loop over some waits, one attempt for each of them. -/
def attemptEach {σ : Type} (w : World σ) (operation : Nat → Run σ (Except String Unit))
    (made : Nat) (lastError : String) : List Duration → Run σ RetryOutcome
  | [] => return .gaveUp made lastError
  | delay :: delays => do
    match ← operation (made + 1) with
    | .ok () => return .succeeded (made + 1)
    | .error e =>
      w.pause delay
      attemptEach w operation (made + 1) e delays

theorem attemptsFrom_eq {σ : Type} (w : World σ) (operation : Nat → Run σ (Except String Unit))
    (made : Nat) (lastError : String) (delay : Duration) (left : Nat) :
    p.attemptsFrom w operation made lastError delay left =
      attemptEach w operation made lastError (p.delaysFrom delay left) := by
  induction left generalizing made lastError delay with
  | zero => rfl
  | succ left ih =>
    refine bind_congr fun result => ?_
    cases result with
    | ok u => rfl
    | error e => exact bind_congr fun _ => ih (made + 1) e (p.nextDelay delay)

/-- **A run makes one attempt for each of the announced waits.** -/
theorem run_eq {σ : Type} (w : World σ) (operation : Nat → Run σ (Except String Unit)) :
    p.run w operation = attemptEach w operation 0 "" (p.delays p.maxAttempts) := by
  rw [run, attemptsFrom_eq, delays, Nat.min_self]

/-! ### The course of the attempts -/

/-- Attempts that fail one after the other, from the first one on, each with its wait. -/
def failures (faults : List String) : List Trial :=
  faults.zipIdx.flatMap fun (fault, before) =>
    [.called (before + 1) (.error fault), .waited (p.waitAfter before)]

/-- One more attempt has failed. -/
theorem failures_append (faults : List String) (fault : String) :
    p.failures (faults ++ [fault]) = p.failures faults ++
      [.called (faults.length + 1) (.error fault), .waited (p.waitAfter faults.length)] := by
  simp [failures, List.zipIdx_append]

/-- How the attempts end, and what has happened by then. -/
inductive Ended : List Trial → RetryOutcome → Prop where
  /-- An attempt succeeds while attempts are left, and it is the last one. -/
  | succeeded (faults : List String) : faults.length < p.maxAttempts →
      Ended (p.failures faults ++ [.called (faults.length + 1) (.ok ())])
        (.succeeded (faults.length + 1))
  /-- All attempts have failed; the fault of the last one is told, if there was one. -/
  | gaveUp (faults : List String) : faults.length = p.maxAttempts →
      Ended (p.failures faults) (.gaveUp p.maxAttempts (faults.getLast?.getD ""))

/-- No number and no span of time is beyond its bound. -/
def InBounds : Trial → Prop
  | .called number _ => number ≤ p.maxAttempts
  | .waited d => d.nanoseconds ≤ Duration.longest.nanoseconds

variable {p}

theorem inBounds_of_mem_failures {faults : List String} (h : faults.length ≤ p.maxAttempts)
    {trial : Trial} (htrial : trial ∈ p.failures faults) : p.InBounds trial := by
  obtain ⟨⟨fault, before⟩, hmem, htrial⟩ := List.mem_flatMap.1 htrial
  obtain ⟨-, hbefore, -⟩ := List.mem_zipIdx hmem
  rcases List.mem_cons.1 htrial with rfl | htrial
  · simp only [InBounds]
    omega
  · rw [List.mem_singleton.1 htrial]
    exact p.waitAfter_le_longest before

/-- Whatever the end is, nothing has gone beyond its bound. -/
theorem Ended.inBounds {trials : List Trial} {outcome : RetryOutcome} (h : p.Ended trials outcome) :
    ∀ trial ∈ trials, p.InBounds trial := by
  intro trial htrial
  cases h with
  | succeeded faults hleft =>
    rcases List.mem_append.1 htrial with htrial | htrial
    · exact inBounds_of_mem_failures (Nat.le_of_lt hleft) htrial
    · rw [List.mem_singleton.1 htrial]
      exact hleft
  | gaveUp faults hnone => exact inBounds_of_mem_failures (Nat.le_of_eq hnone) htrial

theorem waits_failures (faults : List String) :
    (p.failures faults).filterMap Trial.wait? = (List.range faults.length).map p.waitAfter := by
  induction faults using List.reverseRecOn with
  | nil => rfl
  | append_singleton faults fault ih =>
    rw [failures_append, List.filterMap_append, ih, List.length_append, List.length_singleton,
      List.range_succ, List.map_append]
    rfl

/-- Whatever the end is, the waits were the first of the announced ones. -/
theorem Ended.waits {trials : List Trial} {outcome : RetryOutcome} (h : p.Ended trials outcome)
    (hbase : p.baseDelay.nanoseconds ≤ Duration.longest.nanoseconds) :
    ∃ count ≤ p.maxAttempts, trials.filterMap Trial.wait? = p.delays count := by
  have hdelays : ∀ faults : List String, faults.length ≤ p.maxAttempts →
      (p.failures faults).filterMap Trial.wait? = p.delays faults.length := by
    intro faults hfaults
    rw [waits_failures, p.delays_eq hbase, Nat.min_eq_left hfaults]
  cases h with
  | succeeded faults hleft =>
    refine ⟨faults.length, Nat.le_of_lt hleft, ?_⟩
    rw [List.filterMap_append, hdelays faults (Nat.le_of_lt hleft)]
    exact List.append_nil _
  | gaveUp faults hnone =>
    have hle : faults.length ≤ p.maxAttempts := Nat.le_of_eq hnone
    exact ⟨faults.length, hle, hdelays faults hle⟩

/-! ### One attempt, and those that are left -/

section

variable {σ : Type} {w : World σ} {operation : Nat → Run σ (Except String Unit)} {t : Tape σ}
  {made : Nat} {lastError : String} {delay : Duration}

/-- A successful attempt is the last thing that happens. -/
theorem attemptsFrom_of_ok (h : (operation (made + 1) t).1 = .ok ()) (left : Nat) :
    p.attemptsFrom w operation made lastError delay (left + 1) t =
      (.succeeded (made + 1), (operation (made + 1) t).2) := by
  rw [attemptsFrom, Run.bind_apply, h]
  rfl

/-- A failed attempt is followed by a wait and by those that are left. -/
theorem attemptsFrom_of_error {fault : String} (h : (operation (made + 1) t).1 = .error fault)
    (left : Nat) : p.attemptsFrom w operation made lastError delay (left + 1) t =
      p.attemptsFrom w operation (made + 1) fault (p.nextDelay delay) left
        (w.pause delay (operation (made + 1) t).2).2 := by
  rw [attemptsFrom, Run.bind_apply, h]
  rfl

/-- **The attempts that are left** lead to the end, behind those that have failed. -/
theorem attemptsFrom_ended (w : World σ) (operation : Nat → Run σ (Except String Unit))
    (left : Nat) (faults : List String) (hleft : faults.length + left = p.maxAttempts)
    (t : Tape σ) :
    let r := p.attemptsFrom w operation faults.length (faults.getLast?.getD "")
      (p.waitAfter faults.length) left t
    ∃ trials, Passes w operation t trials r.2 ∧ p.Ended (p.failures faults ++ trials) r.1 := by
  induction left generalizing faults t with
  | zero =>
    have hnone : faults.length = p.maxAttempts := hleft
    refine ⟨[], .nothing t, ?_⟩
    rw [List.append_nil, attemptsFrom, hnone]
    exact .gaveUp faults hnone
  | succ left ih =>
    cases hresult : (operation (faults.length + 1) t).1 with
    | ok u =>
      rw [attemptsFrom_of_ok hresult]
      refine ⟨[.called (faults.length + 1) (.ok ())], ?_, .succeeded faults (by omega)⟩
      rw [← hresult]
      exact .called _ (.nothing _)
    | error fault =>
      rw [attemptsFrom_of_error hresult, nextDelay_waitAfter]
      have hlength : (faults ++ [fault]).length = faults.length + 1 := by
        rw [List.length_append, List.length_singleton]
      have hrest := ih (faults ++ [fault]) (by omega)
        (w.pause (p.waitAfter faults.length) (operation (faults.length + 1) t).2).2
      rw [hlength, List.getLast?_concat, failures_append] at hrest
      obtain ⟨trials, hpasses, hended⟩ := hrest
      refine ⟨.called (faults.length + 1) (.error fault) ::
        .waited (p.waitAfter faults.length) :: trials, ?_, ?_⟩
      · rw [← hresult]
        exact .called _ (.waited _ hpasses)
      · rw [List.append_assoc] at hended
        exact hended

end

/-- **Retries wait longer and longer.** Whatever the operation does, it is called with the numbers
from one on, until it succeeds or no attempt is left; behind each failed attempt, and at no other
time, there is a wait: the first wait times a power of the factor, cut off at the longest span. The
outcome tells the number of attempts, and the last fault if all have failed. No number and no wait
goes beyond its bound. -/
theorem retries_back_off {σ : Type} (w : World σ) (p : RetryPolicy)
    (operation : Nat → Run σ (Except String Unit))
    (h : p.baseDelay.nanoseconds ≤ Duration.longest.nanoseconds) (t : Tape σ) :
    let r := p.run w operation t
    ∃ trials, Passes w operation t trials r.2 ∧ p.Ended trials r.1 ∧
      (∀ trial ∈ trials, p.InBounds trial) ∧
      ∀ notes, Notes w operation notes → notes r.2 = notes t ++ trials := by
  obtain ⟨trials, hpasses, hended⟩ :=
    attemptsFrom_ended w operation p.maxAttempts [] (Nat.zero_add _) t
  rw [List.length_nil, waitAfter_zero h] at hpasses hended
  exact ⟨trials, hpasses, hended, hended.inBounds, fun _ hnotes => hpasses.noted hnotes⟩

/-- Two attempts fail and the third one succeeds; the second wait is cut off. -/
theorem retries_back_off_cut_off :
    let p : RetryPolicy := ⟨3, 4, .ofSeconds 9000000000000000000⟩
    let operation (number : Nat) : Run Stage (Except String Unit) :=
      return if number < 3 then .error "busy" else .ok ()
    let t : Tape Stage := ⟨Stage.bare .universal 0, []⟩
    p.baseDelay.nanoseconds ≤ Duration.longest.nanoseconds ∧
      ∃ first second, Passes Stage.world operation t
        [.called 1 (.error first), .waited p.baseDelay, .called 2 (.error second),
          .waited .longest, .called 3 (.ok ())] (p.run Stage.world operation t).2 := by
  intro p operation t
  have hvalid : p.baseDelay.nanoseconds ≤ Duration.longest.nanoseconds := by decide
  obtain ⟨trials, hpasses, hended, -⟩ := retries_back_off Stage.world p operation hvalid t
  have houtcome : (p.run Stage.world operation t).1 = .succeeded 3 := rfl
  generalize (p.run Stage.world operation t).1 = outcome at hended houtcome
  cases hended with
  | succeeded faults hleft =>
    obtain ⟨first, second, rfl⟩ := List.length_eq_two.1
      (Nat.succ.inj (RetryOutcome.succeeded.inj houtcome))
    refine ⟨hvalid, first, second, ?_⟩
    have hcut : p.waitAfter 1 = .longest := by decide
    rw [← hcut, ← waitAfter_zero hvalid]
    exact hpasses
  | gaveUp faults hnone => cases houtcome

end RetryPolicy

end LogCollector
