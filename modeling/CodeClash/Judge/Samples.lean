import CodeClash.Async.History
import CodeClash.Judge.Benchmark
import Mathlib.Data.List.Perm.Subperm

/-!
# The benchmark among overlapping calls

Overlapping calls of `updatePuzzleBenchmark` overwrite each other with averages of what they have
read. A call writes once and then ends, so what is stored, and what a call has read, counts no more
samples than calls have written.
-/

namespace CodeClash.Judge

open Async Program Function

structure RuntimeSample where
  puzzleId : String
  language : String
  runtimeMs : ℤ
deriving DecidableEq

def RuntimeSample.key (sample : RuntimeSample) : String × String :=
  (sample.puzzleId, sample.language)

def benchmarkServer : Server signature Store RuntimeSample Choice Environment where
  handle := handle
  accept _ store := some store
  body _ sample := updatePuzzleBenchmark sample.puzzleId sample.language sample.runtimeMs
  happen := happen

abbrev BenchmarkState := State signature Store RuntimeSample

def samplesWithin (key : String × String) (lo hi : ℤ) (_ : BenchmarkState) :
    Action RuntimeSample Choice Environment → Prop
  | .start _ sample => sample.key = key → lo ≤ sample.runtimeMs ∧ sample.runtimeMs ≤ hi
  | _ => True

/-- A benchmark whose value is a whole number in the range, from at most so many samples. -/
structure Ranged (lo hi : ℤ) (count : ℕ) (benchmark : PuzzleBenchmark) : Prop where
  value : ∃ p50 : ℤ, benchmark.p50RuntimeMs = p50 ∧ lo ≤ p50 ∧ p50 ≤ hi
  positive : 1 ≤ benchmark.sampleSize
  counted : benchmark.sampleSize ≤ count

variable {lo hi : ℤ} {count : ℕ}

theorem Ranged.mono {benchmark : PuzzleBenchmark} (within : Ranged lo hi count benchmark)
    {more : ℕ} (isMore : count ≤ more) : Ranged lo hi more benchmark :=
  ⟨within.value, within.positive, within.counted.trans isMore⟩

/-- Rounding does not leave a range between whole numbers. -/
theorem round_within {average : ℚ} (above : lo ≤ average) (below : average ≤ hi) :
    lo ≤ round average ∧ round average ≤ hi := by
  rw [round_eq]
  refine ⟨Int.le_floor.mpr (by linarith), Int.floor_le_iff.mpr (by linarith)⟩

theorem ranged_withRuntime {existing : Option PuzzleBenchmark} {runtimeMs : ℤ}
    (within : ∀ benchmark, existing = some benchmark → Ranged lo hi count benchmark)
    (above : lo ≤ runtimeMs) (below : runtimeMs ≤ hi) :
    Ranged lo hi (count + 1) (withRuntime existing runtimeMs) := by
  cases existing with
  | none => exact ⟨⟨runtimeMs, rfl, above, below⟩, le_rfl, Nat.le_add_left _ _⟩
  | some benchmark =>
    rcases within benchmark rfl with ⟨⟨p50, stored, p50Above, p50Below⟩, _, counted⟩
    refine ⟨⟨_, rfl, ?_⟩, Nat.le_add_left _ _, Nat.succ_le_succ counted⟩
    have samples : (0 : ℚ) < (benchmark.sampleSize + 1 : ℕ) := Nat.cast_pos.mpr (Nat.succ_pos _)
    have weight : (0 : ℚ) ≤ benchmark.sampleSize := Nat.cast_nonneg _
    have weightedLow := mul_le_mul_of_nonneg_right
      (Int.cast_le.mpr p50Above : (lo : ℚ) ≤ p50) weight
    have weightedHigh := mul_le_mul_of_nonneg_right
      (Int.cast_le.mpr p50Below : (p50 : ℚ) ≤ hi) weight
    have runtimeLow : (lo : ℚ) ≤ runtimeMs := Int.cast_le.mpr above
    have runtimeHigh : (runtimeMs : ℚ) ≤ hi := Int.cast_le.mpr below
    rw [stored]
    apply round_within
    · rw [le_div_iff₀ samples]
      push_cast
      linarith
    · rw [div_le_iff₀ samples]
      push_cast
      linarith

def Cmd.stores : Cmd → Option ((String × String) × PuzzleBenchmark)
  | .createBenchmark puzzleId language benchmark
  | .updateBenchmark puzzleId language benchmark => some ((puzzleId, language), benchmark)
  | _ => none

theorem handle_stores {cmd : Cmd} {key : String × String} {benchmark : PuzzleBenchmark}
    (choice : Choice) (store : Store)
    (stored : (handle cmd choice store).2.benchmarks key = some benchmark) :
    store.benchmarks key = some benchmark ∨ cmd.stores = some (key, benchmark) := by
  have put {fails : Bool} {puzzleId language : String} {added : PuzzleBenchmark}
      (stored : (store.putBenchmark fails puzzleId language added).benchmarks key =
        some benchmark) : store.benchmarks key = some benchmark ∨
          some ((puzzleId, language), added) = some (key, benchmark) := by
    unfold Store.putBenchmark at stored
    split at stored
    · exact Or.inl stored
    by_cases same : key = (puzzleId, language)
    · subst same
      simp only [update_self] at stored
      exact Or.inr (congrArg _ (congrArg _ (Option.some.inj stored)))
    · simp only [update_of_ne same] at stored
      exact Or.inl stored
  cases cmd with
  | createBenchmark => exact put stored
  | updateBenchmark => exact put stored
  | _ => exact Or.inl stored

variable {key : String × String}

section Calls

variable (sample : RuntimeSample)

def writeRuntime : Except Failure (Option PuzzleBenchmark) → Prog Unit
  | .error _ => .done ()
  | .ok none => .issue (.createBenchmark sample.puzzleId sample.language
      (withRuntime none sample.runtimeMs)) fun _ => .done ()
  | .ok (some existing) => .issue (.updateBenchmark sample.puzzleId sample.language
      (withRuntime (some existing) sample.runtimeMs)) fun _ => .done ()

theorem updatePuzzleBenchmark_eq :
    updatePuzzleBenchmark sample.puzzleId sample.language sample.runtimeMs =
      .issue (.findBenchmark sample.puzzleId sample.language) (writeRuntime sample) := by
  refine congrArg (@Program.issue signature Unit (.findBenchmark _ _)) ?_
  funext reply
  rcases reply with _ | _ | _ <;> rfl

theorem updatePuzzleBenchmark_stores_own (other : sample.key ≠ key) :
    (updatePuzzleBenchmark sample.puzzleId sample.language sample.runtimeMs).Uses
      fun cmd : Cmd => ∀ benchmark, cmd.stores ≠ some (key, benchmark) := by
  have own (benchmark stored : PuzzleBenchmark) :
      some (sample.key, benchmark) ≠ some (key, stored) := by
    intro same
    cases same
    exact other rfl
  rw [updatePuzzleBenchmark_eq]
  refine ⟨by rintro _ ⟨⟩, fun reply => ?_⟩
  rcases reply with _ | _ | _
  · trivial
  · exact ⟨own _, fun _ => trivial⟩
  · exact ⟨own _, fun _ => trivial⟩

/-- Where a call is: before it reads, before it writes, or at its end. -/
inductive Stage (lo hi : ℤ) (count : ℕ) : Prog Unit → Prop where
  | reads (above : lo ≤ sample.runtimeMs) (below : sample.runtimeMs ≤ hi) :
    Stage lo hi count (.issue (.findBenchmark sample.puzzleId sample.language)
      (writeRuntime sample))
  | writes {cmd : Cmd} {rest : cmd.Reply → Prog Unit} {benchmark : PuzzleBenchmark}
      (stores : cmd.stores = some (sample.key, benchmark)) (ends : ∀ reply, rest reply = .done ())
      (within : Ranged lo hi (count + 1) benchmark) : Stage lo hi count (.issue cmd rest)
  | ended : Stage lo hi count (.done ())

variable {sample}

theorem Stage.mono {program : Prog Unit} (stage : Stage sample lo hi count program) {more : ℕ}
    (isMore : count ≤ more) : Stage sample lo hi more program := by
  cases stage with
  | reads above below => exact .reads above below
  | writes stores ends within => exact .writes stores ends (within.mono (Nat.succ_le_succ isMore))
  | ended => exact .ended

theorem stage_writeRuntime {store : Store} {fails : Bool}
    (within : ∀ benchmark, store.benchmarks sample.key = some benchmark →
      Ranged lo hi count benchmark)
    (above : lo ≤ sample.runtimeMs) (below : sample.runtimeMs ≤ hi) :
    Stage sample lo hi count
      (writeRuntime sample (answer fails (store.benchmarks sample.key))) := by
  have next := ranged_withRuntime within above below
  cases fails with
  | true => exact .ended
  | false =>
    rw [answer, if_neg Bool.false_ne_true]
    cases existing : store.benchmarks sample.key with
    | none =>
      rw [existing] at next
      exact .writes rfl (fun _ => rfl) next
    | some =>
      rw [existing] at next
      exact .writes rfl (fun _ => rfl) next

end Calls

/-- The calls that have written the row, in order. -/
def writers (key : String × String) (history : List (Record signature RuntimeSample)) : List ℕ :=
  history.filterMap fun
    | .started _ _ => none
    | .answered id answer =>
      if (Cmd.stores answer.cmd).any fun stored => stored.1 = key then some id else none

/-- A call for the row is at one of its stages, and other calls leave the row alone. -/
structure Follows (key : String × String) (lo hi : ℤ) (count : ℕ)
    (process : Process signature RuntimeSample) : Prop where
  own : process.call.key = key → Stage process.call lo hi count process.program
  other : process.call.key ≠ key →
    process.program.Uses fun cmd : Cmd => ∀ benchmark, cmd.stores ≠ some (key, benchmark)

structure Sampled (key : String × String) (lo hi : ℤ)
    (history : List (Record signature RuntimeSample)) (state : BenchmarkState) : Prop where
  stored : ∀ benchmark, state.store.benchmarks key = some benchmark →
    Ranged lo hi (writers key history).length benchmark
  once : (writers key history).Nodup
  wrote : ∀ id ∈ writers key history, ∃ sample : RuntimeSample, sample.key = key ∧
    state.processes id = some ⟨sample, .done ()⟩
  follows : ∀ id process, state.processes id = some process →
    Follows key lo hi (writers key history).length process

variable {history : List (Record signature RuntimeSample)} {state : BenchmarkState} {id : ℕ}
  {cmd : Cmd} {reply : cmd.Reply}

theorem writers_started (sample : RuntimeSample) :
    writers key (history ++ [.started id sample]) = writers key history := by
  simp [writers]

theorem writers_answered (unwritten : ∀ benchmark, cmd.stores ≠ some (key, benchmark)) :
    writers key (history ++ [.answered id ⟨cmd, reply⟩]) = writers key history := by
  have not : ((Cmd.stores cmd).any fun stored => stored.1 = key) = false := by
    cases stores : cmd.stores with
    | none => rfl
    | some stored =>
      rw [Option.any_some, decide_eq_false_iff_not]
      rintro rfl
      exact unwritten _ stores
  simp [writers, not]

theorem writers_answered_stores {benchmark : PuzzleBenchmark}
    (stores : cmd.stores = some (key, benchmark)) :
    writers key (history ++ [.answered id ⟨cmd, reply⟩]) = writers key history ++ [id] := by
  simp [writers, stores]

/-- One step of a call that has not written the row: it leaves the list of writers as it is, or it
writes and ends. -/
theorem Sampled.step (sampled : Sampled key lo hi history state)
    {entry : Record signature RuntimeSample} {store : Store}
    {process : Process signature RuntimeSample} (unwritten : id ∉ writers key history)
    (stored : ∀ benchmark, store.benchmarks key = some benchmark →
      Ranged lo hi (writers key (history ++ [entry])).length benchmark)
    (follows : Follows key lo hi (writers key (history ++ [entry])).length process)
    (written : writers key (history ++ [entry]) = writers key history ∨
      writers key (history ++ [entry]) = writers key history ++ [id] ∧
        process.call.key = key ∧ process.program = .done ()) :
    Sampled key lo hi (history ++ [entry]) ⟨store, update state.processes id (some process)⟩ := by
  have more : (writers key history).length ≤ (writers key (history ++ [entry])).length := by
    rcases written with same | ⟨added, _⟩
    · rw [same]
    · simp [added]
  have kept (other : ℕ) (known : other ∈ writers key history) :
      ∃ sample : RuntimeSample, sample.key = key ∧
        update state.processes id (some process) other = some ⟨sample, .done ()⟩ := by
    rcases sampled.wrote other known with ⟨sample, own, ended⟩
    refine ⟨sample, own, ?_⟩
    rw [update_of_ne, ended]
    rintro rfl
    exact unwritten known
  refine ⟨stored, ?_, ?_, ?_⟩
  · rcases written with same | ⟨added, _⟩
    · rw [same]
      exact sampled.once
    · rw [added]
      exact List.nodup_append.mpr ⟨sampled.once, List.nodup_singleton _, by grind⟩
  · intro other known
    rcases written with same | ⟨added, own, ended⟩
    · rw [same] at known
      exact kept other known
    · rw [added, List.mem_append, List.mem_singleton] at known
      rcases known with known | rfl
      · exact kept other known
      · refine ⟨process.call, own, ?_⟩
        simp only [update_self, ← ended]
  · intro other process found
    apply Server.forall_update _ _ found
    · exact follows
    · intro other process _ found
      have before := sampled.follows other process found
      exact ⟨fun own => (before.own own).mono more, before.other⟩

theorem sampled_of_runs {initial : BenchmarkState}
    (runs : benchmarkServer.Runs (samplesWithin key lo hi) initial history state)
    (fresh : ∀ id, initial.processes id = none) (empty : initial.store.benchmarks key = none) :
    Sampled key lo hi history state := by
  induction runs with
  | refl =>
    refine ⟨?_, List.nodup_nil, ?_, ?_⟩
    · intro _ stored
      rw [empty] at stored
      cases stored
    · intro _ known
      cases known
    · intro id _ found
      rw [fresh id] at found
      cases found
  | @start history state id sample _ _ met unused accepted ih =>
    cases accepted
    refine ih.step ?_ ?_ ?_ (Or.inl (writers_started sample))
    · intro known
      rcases ih.wrote id known with ⟨_, _, ended⟩
      rw [unused] at ended
      cases ended
    · rw [writers_started]
      exact ih.stored
    · refine ⟨fun own => ?_, updatePuzzleBenchmark_stores_own sample⟩
      change Stage sample lo hi _
        (updatePuzzleBenchmark sample.puzzleId sample.language sample.runtimeMs)
      rw [updatePuzzleBenchmark_eq]
      exact .reads (met own).1 (met own).2
  | @advance history state id choice sample cmd rest _ _ waiting ih =>
    have unwritten : id ∉ writers key history := by
      intro known
      rcases ih.wrote id known with ⟨_, _, ended⟩
      rw [waiting] at ended
      cases ended
    have before := ih.follows id _ waiting
    by_cases own : sample.key = key
    · subst own
      have stage : Stage sample lo hi _ (.issue cmd rest) := before.own rfl
      cases stage with
      | reads above below =>
        have unchanged reply := @writers_answered sample.key history id
          (.findBenchmark sample.puzzleId sample.language) reply (by rintro _ ⟨⟩)
        refine ih.step unwritten ?_ ?_ (Or.inl (unchanged _))
        · rw [unchanged]
          exact ih.stored
        · rw [unchanged]
          exact ⟨fun _ => stage_writeRuntime ih.stored above below, fun other => absurd rfl other⟩
      | writes stores ends within =>
        have added := @writers_answered_stores sample.key history id cmd
          (benchmarkServer.handle cmd choice state.store).1 _ stores
        refine ih.step unwritten ?_ ?_ (Or.inr ⟨added, rfl, ends _⟩)
        · rw [added, List.length_append]
          intro benchmark stored
          rcases handle_stores choice state.store stored with old | new
          · exact (ih.stored benchmark old).mono (Nat.le_add_right _ _)
          · cases stores.symm.trans new
            exact within
        · refine ⟨fun _ => ?_, fun other => absurd rfl other⟩
          simp only [ends]
          exact .ended
    · rcases before.other own with ⟨unstored, later⟩
      have unchanged := @writers_answered key history id cmd
        (benchmarkServer.handle cmd choice state.store).1 unstored
      refine ih.step unwritten ?_ ?_ (Or.inl unchanged)
      · rw [unchanged]
        intro benchmark stored
        rcases handle_stores choice state.store stored with old | new
        · exact ih.stored benchmark old
        · exact absurd new (unstored benchmark)
      · exact ⟨fun same => absurd same own, fun _ => later _⟩
  | @happen _ _ event _ _ _ happened ih =>
    cases event <;> cases happened <;> exact ⟨ih.stored, ih.once, ih.wrote, ih.follows⟩

/--
Whatever calls overlap, the stored value is a whole number between the least and the
greatest runtime, from at least one sample and at most as many as there are calls.
-/
theorem benchmark_within_samples (key : String × String) (lo hi : ℤ)
    {initial state : BenchmarkState} {history : List (Record signature RuntimeSample)}
    (runs : benchmarkServer.Runs (samplesWithin key lo hi) initial history state)
    (fresh : ∀ id, initial.processes id = none) (empty : initial.store.benchmarks key = none)
    {benchmark : PuzzleBenchmark} (stored : state.store.benchmarks key = some benchmark) :
    (∃ p50 : ℤ, benchmark.p50RuntimeMs = p50 ∧ lo ≤ p50 ∧ p50 ≤ hi) ∧ 1 ≤ benchmark.sampleSize ∧
      benchmark.sampleSize ≤ (startedCalls history).countP fun entry => entry.2.key = key := by
  have sampled := sampled_of_runs runs fresh empty
  have within := sampled.stored benchmark stored
  refine ⟨within.value, within.positive, within.counted.trans ?_⟩
  have subset : writers key history ⊆
      ((startedCalls history).filter fun entry => entry.2.key = key).map Prod.fst := by
    intro id known
    rcases sampled.wrote id known with ⟨sample, own, found⟩
    have started := (runs.matches fresh).present id _ found
    exact List.mem_map.mpr ⟨(id, sample), List.mem_filter.mpr ⟨started, decide_eq_true own⟩, rfl⟩
  have shorter := (sampled.once.subperm subset).length_le
  rwa [List.length_map, ← List.countP_eq_length_filter] at shorter

def startsWithin (lo hi : ℤ) (_ : BenchmarkState) : Action RuntimeSample Choice Environment → Bool
  | .start _ sample => lo ≤ sample.runtimeMs && sample.runtimeMs ≤ hi
  | _ => true

theorem benchmark_within_samples_lost :
    ∃ history state benchmark, benchmarkServer.Runs (samplesWithin ("sum", "go") 40 70)
        ⟨emptyStore, fun _ => none⟩ history state ∧
      state.store.benchmarks ("sum", "go") = some benchmark ∧ benchmark.sampleSize = 2 ∧
      benchmark.sampleSize ≤
        (startedCalls history).countP fun entry => entry.2.key = ("sum", "go") := by
  have run : ∃ history state, benchmarkServer.Runs (samplesWithin ("sum", "go") 40 70)
      ⟨emptyStore, fun _ => none⟩ history state ∧
        (∀ id process, state.processes id = some process → process.program = .done ()) ∧
          state.store.benchmarks ("sum", "go") = some ⟨55, 2⟩ := by
    apply Server.exists_runs [0, 1, 2] (startsWithin 40 70)
      [.start 0 ⟨"sum", "go", 40⟩, .advance 0 (solvedAt 0), .advance 0 (solvedAt 0),
        .start 1 ⟨"sum", "go", 60⟩, .start 2 ⟨"sum", "go", 70⟩, .advance 1 (solvedAt 0),
        .advance 2 (solvedAt 0), .advance 1 (solvedAt 0), .advance 2 (solvedAt 0)]
    · intro _ action _ checked
      cases action with
      | start => exact fun _ => by simpa [startsWithin] using checked
      | _ => trivial
    · intro _ _
      rfl
    · decide +kernel
  rcases run with ⟨history, state, runs, _, stored⟩
  exact ⟨history, state, _, runs, stored, rfl,
    (benchmark_within_samples _ _ _ runs (fun _ => rfl) rfl stored).2.2⟩

end CodeClash.Judge
