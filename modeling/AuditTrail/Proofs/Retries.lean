import AuditTrail.Pipeline.Step
import AuditTrail.Sink.Store
import Mathlib.Algebra.Ring.Nat
import Mathlib.Tactic.Common
import Mathlib.Tactic.IntervalCases

/-!
# Attempts and pauses

A batch is passed to the sink unchanged until the sink takes it or the retries are used up. There is
one pause between two attempts, twice as long each time up to the longest duration, and none before
the first attempt or after the last. The pipeline, in which other tasks go on between two of these
steps, takes the same ones.
-/

namespace AuditTrail

namespace RetryPolicy

/-- The pause after `i + 1` attempts. -/
def delay (p : RetryPolicy) (i : Nat) : Duration :=
  ⟨min (p.baseDelay.nanos * 2 ^ i) Duration.longest.nanos⟩

/-- The attempt after `i` others. -/
def attempt (p : RetryPolicy) (i : Nat) : Attempt :=
  ⟨i + 1, p.delay i⟩

variable {p : RetryPolicy}

lemma doubled_delay (i : Nat) : (p.delay i).doubled = p.delay (i + 1) := by
  have hpow : p.baseDelay.nanos * 2 ^ (i + 1) = 2 * (p.baseDelay.nanos * 2 ^ i) := by
    rw [pow_succ, ← mul_assoc, mul_comm]
  simp only [delay, Duration.doubled, hpow, Duration.mk.injEq]
  omega

lemma next_attempt (i : Nat) : (p.attempt i).next = p.attempt (i + 1) := by
  rw [attempt, Attempt.next, doubled_delay, attempt]

lemma first_eq (h : p.baseDelay.nanos ≤ Duration.longest.nanos) : p.first = p.attempt 0 := by
  simp only [first, attempt, delay, pow_zero, mul_one, Nat.min_eq_left h]

lemma allowsRetry_attempt {i : Nat} : p.allowsRetry (p.attempt i) = true ↔ i < p.maxRetries := by
  simp only [allowsRetry, attempt, decide_eq_true_eq, Nat.succ_le_iff]

end RetryPolicy

/-- Whether a sink has refused a batch. -/
def Reply.IsRefusal (r : Reply) : Prop :=
  ∃ cause, r = .refused cause

variable {σ ε : Type}

namespace Sink

/-- The sink after it has been given a batch `n` times. -/
def given (sink : Sink σ ε) (batch : List ε) (s : σ) : Nat → σ
  | 0 => s
  | n + 1 => (sink.append (sink.given batch s n) batch).1

/-- How long the sink takes to answer, and its answer, when it has been given the batch `i` times
before. -/
def answer (sink : Sink σ ε) (batch : List ε) (s : σ) (i : Nat) : Nat × Reply :=
  (sink.append (sink.given batch s i) batch).2

end Sink

namespace Delivery

section Attempts

variable (p : RetryPolicy) (sink : Sink σ ε) (batch : List ε) (s : σ)

/-- The call of the sink after `i` others. -/
def callAfter (i : Nat) : Step ε :=
  .call (p.attempt i) batch (sink.answer batch s i).1 (sink.answer batch s i).2

/-- The first `n` calls, each with the pause after it. -/
def retried (n : Nat) : List (Step ε) :=
  (List.range n).flatMap fun i => [callAfter p sink batch s i, .pause (p.delay i)]

/-- The steps of a delivery whose last call comes after `n` others. -/
def upTo (n : Nat) : List (Step ε) :=
  retried p sink batch s n ++ [callAfter p sink batch s n]

lemma retried_succ (n : Nat) :
    retried p sink batch s (n + 1) =
      retried p sink batch s n ++ [callAfter p sink batch s n, .pause (p.delay n)] := by
  rw [retried, List.range_succ, List.flatMap_append, List.flatMap_singleton, ← retried]

/-- A step that passes something to the sink passes the batch, and is one of the first attempts. -/
lemma mem_upTo {n : Nat} {a : Attempt} {entries : List ε} {latency : Nat} {r : Reply}
    (h : .call a entries latency r ∈ upTo p sink batch s n) :
    entries = batch ∧ 1 ≤ a.number ∧ a.number ≤ n + 1 := by
  rcases List.mem_append.mp h with h | h
  · obtain ⟨i, hi, h⟩ := List.mem_flatMap.mp h
    have hi := List.mem_range.mp hi
    simp only [callAfter, RetryPolicy.attempt, List.mem_cons, Step.call.injEq, reduceCtorEq,
      List.not_mem_nil, or_false] at h
    obtain ⟨rfl, rfl, -⟩ := h
    exact ⟨rfl, Nat.succ_pos i, by dsimp only; omega⟩
  · simp only [callAfter, RetryPolicy.attempt, List.mem_singleton, Step.call.injEq] at h
    obtain ⟨rfl, rfl, -⟩ := h
    exact ⟨rfl, Nat.succ_pos n, le_rfl⟩

end Attempts

variable {p : RetryPolicy} {sink : Sink σ ε} {batch : List ε} {s : σ} {i : Nat}

/-- What the attempt after `i` others leads to. -/
lemma runFrom_attempt (i : Nat) :
    runFrom p sink batch (p.attempt i) (sink.given batch s i) =
      let call := callAfter p sink batch s i
      let after := sink.given batch s (i + 1)
      match (sink.answer batch s i).2 with
      | .stored => ⟨.stored, [call], after⟩
      | .broken => ⟨.broken, [call], after⟩
      | .refused _ =>
        if i < p.maxRetries then
          let r := runFrom p sink batch (p.attempt (i + 1)) after
          { r with steps := call :: .pause (p.delay i) :: r.steps }
        else ⟨.discarded, [call], after⟩ := by
  rw [runFrom]
  simp only [RetryPolicy.allowsRetry_attempt, RetryPolicy.next_attempt]
  rfl

lemma runFrom_stored (h : (sink.answer batch s i).2 = .stored) :
    runFrom p sink batch (p.attempt i) (sink.given batch s i) =
      ⟨.stored, [callAfter p sink batch s i], sink.given batch s (i + 1)⟩ := by
  rw [runFrom_attempt, h]

lemma runFrom_broken (h : (sink.answer batch s i).2 = .broken) :
    runFrom p sink batch (p.attempt i) (sink.given batch s i) =
      ⟨.broken, [callAfter p sink batch s i], sink.given batch s (i + 1)⟩ := by
  rw [runFrom_attempt, h]

lemma runFrom_retries (h : (sink.answer batch s i).2.IsRefusal) (hi : i < p.maxRetries) :
    runFrom p sink batch (p.attempt i) (sink.given batch s i) =
      let r := runFrom p sink batch (p.attempt (i + 1)) (sink.given batch s (i + 1))
      { r with steps := callAfter p sink batch s i :: .pause (p.delay i) :: r.steps } := by
  obtain ⟨cause, hcause⟩ := h
  rw [runFrom_attempt, hcause]
  simp only [hi, if_true]

lemma runFrom_gives_up (h : (sink.answer batch s i).2.IsRefusal) (hi : p.maxRetries ≤ i) :
    runFrom p sink batch (p.attempt i) (sink.given batch s i) =
      ⟨.discarded, [callAfter p sink batch s i], sink.given batch s (i + 1)⟩ := by
  obtain ⟨cause, hcause⟩ := h
  rw [runFrom_attempt, hcause]
  simp only [Nat.not_lt.mpr hi, if_false]

/-- Refusals lead on to the next attempt as long as there are retries. -/
lemma run_retried (hbase : p.baseDelay.nanos ≤ Duration.longest.nanos) {n : Nat}
    (hn : n ≤ p.maxRetries) (h : ∀ i < n, (sink.answer batch s i).2.IsRefusal) :
    run p sink batch s =
      let r := runFrom p sink batch (p.attempt n) (sink.given batch s n)
      { r with steps := retried p sink batch s n ++ r.steps } := by
  induction n with
  | zero =>
    rw [run, RetryPolicy.first_eq hbase]
    rfl
  | succ n ih =>
    rw [ih (Nat.le_of_succ_le hn) fun i hi => h i (Nat.lt_succ_of_lt hi),
      runFrom_retries (h n (Nat.lt_succ_self n)) hn, retried_succ]
    simp only [List.append_assoc, List.cons_append, List.nil_append]

/-- A delivery whose attempts are refused up to one that is not, or up to the last. -/
lemma run_upTo (hbase : p.baseDelay.nanos ≤ Duration.longest.nanos) {n : Nat}
    (hn : n ≤ p.maxRetries) (h : ∀ i < n, (sink.answer batch s i).2.IsRefusal) {o : Outcome}
    (hlast : runFrom p sink batch (p.attempt n) (sink.given batch s n) =
      ⟨o, [callAfter p sink batch s n], sink.given batch s (n + 1)⟩) :
    run p sink batch s = ⟨o, upTo p sink batch s n, sink.given batch s (n + 1)⟩ := by
  rw [run_retried hbase hn h, hlast]
  rfl

/-- The first of the attempts that a batch may have which is not refused. -/
lemma first_not_refused {reply : Nat → Reply} {n : Nat} (h : ¬∀ i ≤ n, (reply i).IsRefusal) :
    ∃ k ≤ n, ¬(reply k).IsRefusal ∧ ∀ i < k, (reply i).IsRefusal := by
  classical
  have hsome : ∃ k, k ≤ n ∧ ¬(reply k).IsRefusal := by
    simpa only [not_forall, exists_prop] using h
  obtain ⟨hk, hlast⟩ := Nat.find_spec hsome
  refine ⟨Nat.find hsome, hk, hlast, fun i hi => ?_⟩
  by_contra hrefused
  exact Nat.find_min hsome hi ⟨hi.le.trans hk, hrefused⟩

/-- Every batch gets as many attempts as it takes and as there may be: if the sink refuses it `k`
times and then stores it or breaks down, the call after these refusals is the last one, and if it
refuses it once more than there are retries, the batch is discarded. Each call has the same batch,
the sink is in the state in which the call before has left it, the pauses between the calls double
up to the longest duration, and the number of an attempt fits 32 bits. -/
theorem attempts_until_stored (hbase : p.baseDelay.nanos ≤ Duration.longest.nanos)
    (hretries : p.maxRetries < Word.limit32 - 1) (sink : Sink σ ε) (batch : List ε) (s : σ) :
    let r := run p sink batch s
    let reply (i : Nat) : Reply := (sink.answer batch s i).2
    (∀ k ≤ p.maxRetries, (∀ i < k, (reply i).IsRefusal) → reply k = .stored →
      r = ⟨.stored, upTo p sink batch s k, sink.given batch s (k + 1)⟩) ∧
    (∀ k ≤ p.maxRetries, (∀ i < k, (reply i).IsRefusal) → reply k = .broken →
      r = ⟨.broken, upTo p sink batch s k, sink.given batch s (k + 1)⟩) ∧
    ((∀ i ≤ p.maxRetries, (reply i).IsRefusal) →
      r = ⟨.discarded, upTo p sink batch s p.maxRetries,
        sink.given batch s (p.maxRetries + 1)⟩) ∧
    ∀ a entries latency answer, .call a entries latency answer ∈ r.steps →
      entries = batch ∧ 1 ≤ a.number ∧ a.number < Word.limit32 := by
  intro r reply
  have hstored : ∀ k ≤ p.maxRetries, (∀ i < k, (reply i).IsRefusal) → reply k = .stored →
      r = ⟨.stored, upTo p sink batch s k, sink.given batch s (k + 1)⟩ := by
    intro k hk hbefore hlast
    exact run_upTo hbase hk hbefore (runFrom_stored hlast)
  have hbroken : ∀ k ≤ p.maxRetries, (∀ i < k, (reply i).IsRefusal) → reply k = .broken →
      r = ⟨.broken, upTo p sink batch s k, sink.given batch s (k + 1)⟩ := by
    intro k hk hbefore hlast
    exact run_upTo hbase hk hbefore (runFrom_broken hlast)
  have hdiscarded : (∀ i ≤ p.maxRetries, (reply i).IsRefusal) →
      r = ⟨.discarded, upTo p sink batch s p.maxRetries,
        sink.given batch s (p.maxRetries + 1)⟩ := by
    intro hall
    exact run_upTo hbase le_rfl (fun i hi => hall i hi.le) (runFrom_gives_up (hall _ le_rfl) le_rfl)
  refine ⟨hstored, hbroken, hdiscarded, fun a entries latency answer hcall => ?_⟩
  -- One of the three cases holds, and each of them bounds the number of calls.
  obtain ⟨k, hk, hsteps⟩ : ∃ k ≤ p.maxRetries, r.steps = upTo p sink batch s k := by
    by_cases hall : ∀ i ≤ p.maxRetries, (reply i).IsRefusal
    · exact ⟨p.maxRetries, le_rfl, by rw [hdiscarded hall]⟩
    · obtain ⟨k, hk, hlast, hbefore⟩ := first_not_refused hall
      refine ⟨k, hk, ?_⟩
      cases hreply : reply k with
      | stored => rw [hstored k hk hbefore hreply]
      | broken => rw [hbroken k hk hbefore hreply]
      | refused cause => exact (hlast ⟨cause, hreply⟩).elim
  rw [hsteps] at hcall
  obtain ⟨hentries, hfirst, hlast⟩ := mem_upTo p sink batch s hcall
  exact ⟨hentries, hfirst, by omega⟩

/-- A memory that is to refuse two batches takes the third attempt, after 10 and 20 milliseconds. -/
theorem third_attempt_stored :
    let p : RetryPolicy := ⟨.ofMillis 10, 3⟩
    let s : Sink.Store := .memory (Sink.Memory.empty.failNext 2)
    let batch : List Entry := [default]
    let reply (i : Nat) : Reply := (Sink.Store.sink.answer batch s i).2
    let r := run p Sink.Store.sink batch s
    p.baseDelay.nanos ≤ Duration.longest.nanos ∧ p.maxRetries < Word.limit32 - 1 ∧
      (∀ i < 2, (reply i).IsRefusal) ∧ reply 2 = .stored ∧
      r.outcome = .stored ∧ r.sink = .memory ⟨[batch], 3, 0⟩ ∧ elapsed r.steps = 30 ∧
      (callRecords 0 r.steps).map (fun c => (c.start, c.size, c.stored)) =
        [(0, 1, false), (10, 1, false), (30, 1, true)] := by
  intro p s batch reply r
  have hbase : p.baseDelay.nanos ≤ Duration.longest.nanos := by decide
  have hretries : p.maxRetries < Word.limit32 - 1 := by decide
  have hbefore : ∀ i < 2, (reply i).IsRefusal := by
    intro i hi
    interval_cases i <;> exact ⟨_, rfl⟩
  obtain ⟨hstored, -⟩ := attempts_until_stored hbase hretries Sink.Store.sink batch s
  have hr : r = _ := hstored 2 (by decide) hbefore rfl
  rw [hr]
  exact ⟨hbase, hretries, hbefore, rfl, rfl, rfl, by decide +kernel, by decide +kernel⟩

/-- A delivery goes on after an answer of the sink as the pipeline does. -/
theorem runFrom_verdict (p : RetryPolicy) (sink : Sink σ ε) (batch : List ε) (a : Attempt) (s : σ) :
    let (after, latency, reply) := sink.append s batch
    let call := Step.call a batch latency reply
    runFrom p sink batch a s =
      match Pipeline.State.verdict p a reply with
      | .finished true => ⟨.stored, [call], after⟩
      | .finished false => ⟨.discarded, [call], after⟩
      | .again delay =>
        let r := runFrom p sink batch a.next after
        { r with steps := call :: .pause delay :: r.steps }
      | .broken => ⟨.broken, [call], after⟩ := by
  rw [runFrom]
  rcases sink.append s batch with ⟨after, latency, reply⟩
  cases reply with
  | stored => rfl
  | broken => rfl
  | refused cause =>
    simp only [Pipeline.State.verdict]
    cases p.allowsRetry a <;> rfl

end Delivery
end AuditTrail
