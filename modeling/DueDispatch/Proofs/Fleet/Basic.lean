import DueDispatch.Proofs.Cycle.History
import Mathlib.Algebra.BigOperators.Group.Finset.Piecewise

/-!
# DueDispatch — cycles side by side

A `Fleet` is any number of cycles on one shared state, of replicas with settings
of their own. It moves one backend call at a time: a `Move` begins a cycle, lets
one cycle make its next call, or changes the state from outside. So every
interleaving of cycles is a list of moves, and a cycle that is cut off is one
that is not called again.

A `Fleet` keeps a log of the exchanges with the reading of the clock at each.
`Tracked` says that what the log holds of one cycle is the history of that cycle.

## Results

* `run_induction` — what every move preserves holds after every run.
* `tracked_run` — the log of a run holds the history of each cycle.
* `sum_exchanges` — what is counted over the log is the sum over the cycles.
-/

namespace DueDispatch

/-- A state that cycles share: who answers their calls, what the clock reads,
and what may happen to the state besides. -/
structure World (σ ε : Type) where
  backends : Backends σ
  clock : σ → Timestamp
  change : ε → σ → σ

/-- An exchange of a cycle, and what the clock read at the call. -/
structure Entry where
  cycle : Nat
  time : Timestamp
  exchange : Exchange

/-- Cycles in progress on a shared state. -/
structure Fleet (σ : Type) where
  shared : σ
  /-- The cycles in the order in which they began, each with the settings of its
  replica. -/
  cycles : List (Dispatcher × Cycle) := []
  /-- Every backend call so far, the first one first. -/
  log : List Entry := []

/-- One thing that happens to a fleet. -/
inductive Move (ε : Type)
  | start (d : Dispatcher)
  /-- A cycle makes its next call; one that has ended makes none. -/
  | call (cycle : Nat)
  | change (e : ε)

namespace Fleet

variable {σ ε : Type}

/-- Lets one cycle make its next call. -/
def call (w : World σ ε) (f : Fleet σ) (i : Nat) : Fleet σ :=
  match f.cycles[i]? with
  | none => f
  | some (d, c) =>
    match d.call? c with
    | none => f
    | some call =>
      { shared := (d.step w.backends c f.shared).2
        cycles := f.cycles.set i (d, (d.step w.backends c f.shared).1)
        log := f.log ++ [⟨i, w.clock f.shared, ⟨call, (w.backends call f.shared).1⟩⟩] }

def step (w : World σ ε) (f : Fleet σ) : Move ε → Fleet σ
  | .start d => { f with cycles := f.cycles ++ [(d, d.begin (w.clock f.shared))] }
  | .call i => f.call w i
  | .change e => { f with shared := w.change e f.shared }

def run (w : World σ ε) (f : Fleet σ) (moves : List (Move ε)) : Fleet σ := moves.foldl (step w) f

/-- The exchanges of all cycles, in the order of the calls. -/
def exchanges (f : Fleet σ) : History := f.log.map Entry.exchange

def history (f : Fleet σ) (i : Nat) : History :=
  (f.log.filter fun e => e.cycle == i).map Entry.exchange

def reports (f : Fleet σ) : List Report := f.cycles.filterMap fun p => p.2.report?

/-- What every move preserves holds after every run. -/
theorem run_induction {w : World σ ε} {P : Fleet σ → Prop} {f : Fleet σ} (moves : List (Move ε))
    (hStart : P f) (hStep : ∀ g, P g → ∀ m ∈ moves, P (g.step w m)) : P (f.run w moves) := by
  -- the induction is on the moves that are still to come, from any fleet on
  induction moves generalizing f with
  | nil => exact hStart
  | cons m rest ih =>
    exact ih (hStep f hStart m List.mem_cons_self)
      fun g hg m' hm' => hStep g hg m' (List.mem_cons_of_mem m hm')

/-- Either nothing happens at a call, or a cycle makes the call it stands at. -/
theorem call_cases (w : World σ ε) (f : Fleet σ) (i : Nat) :
    f.call w i = f ∨
      ∃ d c call, f.cycles[i]? = some (d, c) ∧ d.call? c = some call ∧
        f.call w i =
          { shared := (w.backends call f.shared).2
            cycles := f.cycles.set i (d, (d.step w.backends c f.shared).1)
            log := f.log ++ [⟨i, w.clock f.shared, ⟨call, (w.backends call f.shared).1⟩⟩] } := by
  cases hCycle : f.cycles[i]? with
  | none =>
    left
    simp only [call, hCycle]
  | some p =>
    obtain ⟨d, c⟩ := p
    cases hCall : d.call? c with
    | none =>
      left
      simp only [call, hCycle, hCall]
    | some call =>
      right
      refine ⟨d, c, call, rfl, hCall, ?_⟩
      rw [← Dispatcher.state_step w.backends f.shared hCall]
      simp only [Fleet.call, hCycle, hCall]

-- ---------------------------------------------------------------------------
-- The log and the cycles
-- ---------------------------------------------------------------------------

/-- What the log holds of a cycle is the history of that cycle. -/
structure Tracked (f : Fleet σ) : Prop where
  reaches : ∀ {i : Nat} {d : Dispatcher} {c : Cycle}, f.cycles[i]? = some (d, c) →
    ∃ now, d.Reaches now (f.history i) c
  cycle_lt : ∀ e ∈ f.log, e.cycle < f.cycles.length

/-- The log holds nothing of a cycle that has not begun. -/
theorem Tracked.history_eq_nil {f : Fleet σ} (hTracked : f.Tracked) {i : Nat}
    (hIndex : f.cycles.length ≤ i) : f.history i = [] := by
  have hNone : f.log.filter (fun e => e.cycle == i) = [] := by
    rw [List.filter_eq_nil_iff]
    intro e he hEq
    have hLt := hTracked.cycle_lt e he
    have hCycle : e.cycle = i := by simpa using hEq
    omega
  rw [history, hNone, List.map_nil]

/-- A cycle that begins has an empty history. -/
theorem tracked_start {f : Fleet σ} (hTracked : f.Tracked) (w : World σ ε) (d : Dispatcher) :
    (f.step w (.start d)).Tracked := by
  constructor
  · intro i d' c hCycle
    rcases Nat.lt_trichotomy i f.cycles.length with hLt | rfl | hGt
    · refine hTracked.reaches (i := i) ?_
      simpa [step, List.getElem?_append_left hLt] using hCycle
    -- the new cycle: the log holds nothing of it yet
    · have hNil := hTracked.history_eq_nil (Nat.le_refl f.cycles.length)
      simp only [step, List.getElem?_concat_length, Option.some.injEq, Prod.mk.injEq] at hCycle
      obtain ⟨rfl, rfl⟩ := hCycle
      refine ⟨w.clock f.shared, ?_⟩
      show d.Reaches _ (f.history f.cycles.length) _
      rw [hNil]
      exact .begin
    · have hNone : (f.cycles ++ [(d, d.begin (w.clock f.shared))])[i]? = none := by
        rw [List.getElem?_eq_none_iff, List.length_append, List.length_singleton]
        omega
      simp [step, hNone] at hCycle
  · intro e he
    have hLt := hTracked.cycle_lt e he
    simp only [step, List.length_append, List.length_singleton]
    omega

/-- A call goes into the history of its cycle and leaves those of the others alone. -/
theorem tracked_call {f : Fleet σ} (hTracked : f.Tracked) (w : World σ ε) (i : Nat) :
    (f.call w i).Tracked := by
  rcases f.call_cases w i with hSame | ⟨d, c, call, hCycle, hCall, hEq⟩
  · rw [hSame]
    exact hTracked
  · have hLt : i < f.cycles.length := (List.getElem?_eq_some_iff.mp hCycle).1
    rw [hEq]
    constructor
    · intro j d' c' hCycle'
      by_cases hj : i = j
      -- the cycle that made the call: its history grows by the exchange
      · subst hj
        obtain ⟨now, hReaches⟩ := hTracked.reaches hCycle
        obtain ⟨rfl, rfl⟩ : d = d' ∧ (d.step w.backends c f.shared).1 = c' := by
          simpa [List.getElem?_set_self hLt] using hCycle'
        refine ⟨now, ?_⟩
        have hStep := hReaches.step w.backends f.shared hCall
        simpa [history, List.filter_append] using hStep
      -- every other cycle is left as it was
      · have hOld : f.cycles[j]? = some (d', c') := by
          simpa [List.getElem?_set_ne hj] using hCycle'
        obtain ⟨now, hReaches⟩ := hTracked.reaches hOld
        refine ⟨now, ?_⟩
        simpa [history, List.filter_append, hj] using hReaches
    · intro e he
      rw [List.length_set]
      rcases List.mem_append.mp he with hOld | hNew
      · exact hTracked.cycle_lt e hOld
      · rw [List.mem_singleton.mp hNew]
        exact hLt

/-- Every move keeps the histories of all cycles. -/
theorem tracked_step {f : Fleet σ} (hTracked : f.Tracked) (w : World σ ε) (m : Move ε) :
    (f.step w m).Tracked := by
  cases m with
  | start d => exact tracked_start hTracked w d
  | call i => exact tracked_call hTracked w i
  | change e => exact ⟨hTracked.reaches, hTracked.cycle_lt⟩

/-- **The log of a run holds the history of each cycle.** -/
theorem tracked_run (w : World σ ε) (s : σ) (moves : List (Move ε)) :
    (Fleet.run w { shared := s } moves).Tracked :=
  run_induction moves ⟨by simp, by simp⟩ fun _ hTracked m _ => tracked_step hTracked w m

/-- What is counted over the log is the sum of what is counted over the cycles. -/
theorem sum_exchanges {f : Fleet σ} (hTracked : f.Tracked) (count : Exchange → Nat) :
    (f.exchanges.map count).sum =
      ∑ i ∈ Finset.range f.cycles.length, ((f.history i).map count).sum := by
  have hLog := hTracked.cycle_lt
  unfold exchanges history
  generalize f.log = log at hLog
  induction log with
  | nil => simp
  | cons e rest ih =>
    have hHead : e.cycle < f.cycles.length := hLog e List.mem_cons_self
    have hRest := ih fun e' he' => hLog e' (List.mem_cons_of_mem e he')
    -- the head counts for its own cycle and for no other
    have hSplit : ∀ i,
        ((((e :: rest).filter fun e => e.cycle == i).map Entry.exchange).map count).sum =
        (if e.cycle = i then count e.exchange else 0) +
          (((rest.filter fun e => e.cycle == i).map Entry.exchange).map count).sum := by
      intro i
      by_cases hi : e.cycle = i <;> simp [hi]
    simp only [hSplit, Finset.sum_add_distrib, Finset.sum_ite_eq, Finset.mem_range, if_pos hHead]
    simp only [List.map_cons, List.sum_cons, hRest]

end Fleet

end DueDispatch
