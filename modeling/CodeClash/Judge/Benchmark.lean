import CodeClash.Judge.Ledger
import Mathlib.Tactic.FieldSimp
import Mathlib.Tactic.Ring

/-!
# The benchmark and the mean

`updatePuzzleBenchmark` weights the stored value with the number of samples and adds the new
runtime. What the roundings have added is carried along: the stored value times the number of
samples is the sum of the runtimes and the drift.
-/

namespace CodeClash.Judge

open Async

structure Sample where
  runtimeMs : ℤ
  choices : ℕ → Choice
  positive : 0 < runtimeMs
  answered : ∀ n, (choices n).fails = false

section Recording

variable (puzzleId language : String)

def recordSample (store : Store) (sample : Sample) : Store :=
  ((updatePuzzleBenchmark puzzleId language sample.runtimeMs).run handle (fun _ store => store)
    sample.choices store).2

def recordAll (store : Store) (samples : List Sample) : Store :=
  samples.foldl (recordSample puzzleId language) store

/-- The stored value is at most one half away from the mean of the runtimes, and the number of
runtimes is stored with it. -/
def TracksMean (store : Store) (samples : List Sample) : Prop :=
  ∃ benchmark, (recordAll puzzleId language store samples).benchmarks (puzzleId, language) =
      some benchmark ∧
    |benchmark.p50RuntimeMs - (samples.map Sample.runtimeMs).sum / samples.length| ≤ 1 / 2 ∧
    benchmark.sampleSize = samples.length

def withRuntime (existing : Option PuzzleBenchmark) (runtimeMs : ℚ) : PuzzleBenchmark :=
  match existing with
  | none => ⟨runtimeMs, 1⟩
  | some existing =>
    ⟨round ((existing.p50RuntimeMs * existing.sampleSize + runtimeMs) /
      (existing.sampleSize + 1 : ℕ)), existing.sampleSize + 1⟩

variable {puzzleId language}

theorem recordSample_benchmarks (store : Store) (sample : Sample) :
    (recordSample puzzleId language store sample).benchmarks (puzzleId, language) =
      some (withRuntime (store.benchmarks (puzzleId, language)) sample.runtimeMs) := by
  rw [recordSample, updatePuzzleBenchmark]
  cases stored : store.benchmarks (puzzleId, language) with
  | none =>
    simp [handle, answer, Store.putBenchmark, Program.run, sample.answered, stored, withRuntime]
  | some =>
    simp [handle, answer, Store.putBenchmark, Program.run, sample.answered, stored, withRuntime]

end Recording

/-- The number of runtimes, their sum and what the roundings have added. -/
structure Tally where
  count : ℕ
  sum : ℤ
  drift : ℤ
deriving DecidableEq, Repr

namespace Tally

def empty : Tally := ⟨0, 0, 0⟩

/-- The sum and the drift are rounded to a multiple of the number of runtimes. -/
def add (tally : Tally) (runtimeMs : ℤ) : Tally where
  count := tally.count + 1
  sum := tally.sum + runtimeMs
  drift := (tally.count + 1) *
    round (((tally.sum + runtimeMs + tally.drift : ℤ) : ℚ) / (tally.count + 1 : ℕ)) -
      (tally.sum + runtimeMs)

def of (runtimes : List ℤ) : Tally := runtimes.foldl add empty

structure Fits (tally : Tally) (benchmark : PuzzleBenchmark) : Prop where
  sampleSize : benchmark.sampleSize = tally.count
  p50RuntimeMs : benchmark.p50RuntimeMs * tally.count = tally.sum + tally.drift

theorem fits_first (runtimeMs : ℤ) : (empty.add runtimeMs).Fits (withRuntime none runtimeMs) := by
  refine ⟨rfl, ?_⟩
  simp [empty, add, withRuntime]

theorem Fits.add {tally : Tally} {benchmark : PuzzleBenchmark} (fits : tally.Fits benchmark)
    (runtimeMs : ℤ) : (tally.add runtimeMs).Fits (withRuntime (some benchmark) runtimeMs) := by
  have weighted : benchmark.p50RuntimeMs * benchmark.sampleSize + runtimeMs =
      ((tally.sum + runtimeMs + tally.drift : ℤ) : ℚ) := by
    rw [fits.sampleSize, fits.p50RuntimeMs]
    push_cast
    ring
  refine ⟨congrArg (· + 1) fits.sampleSize, ?_⟩
  simp only [withRuntime, weighted]
  simp only [fits.sampleSize, Tally.add]
  push_cast
  ring

theorem of_append (runtimes : List ℤ) (runtimeMs : ℤ) :
    of (runtimes ++ [runtimeMs]) = (of runtimes).add runtimeMs := by
  simp [of]

theorem of_count (runtimes : List ℤ) : (of runtimes).count = runtimes.length := by
  induction runtimes using List.reverseRecOn with
  | nil => rfl
  | append_singleton _ _ ih => simp [of_append, add, ih]

theorem of_sum (runtimes : List ℤ) : (of runtimes).sum = runtimes.sum := by
  induction runtimes using List.reverseRecOn with
  | nil => rfl
  | append_singleton _ _ ih => simp [of_append, add, ih]

end Tally

section Runs

variable {puzzleId language : String} {store : Store}

theorem recordAll_append (samples : List Sample) (sample : Sample) :
    recordAll puzzleId language store (samples ++ [sample]) =
      recordSample puzzleId language (recordAll puzzleId language store samples) sample := by
  simp [recordAll]

variable {samples : List Sample}

theorem recordAll_fits (fresh : store.benchmarks (puzzleId, language) = none)
    (nonempty : samples ≠ []) :
    ∃ benchmark, (recordAll puzzleId language store samples).benchmarks (puzzleId, language) =
        some benchmark ∧ (Tally.of (samples.map Sample.runtimeMs)).Fits benchmark := by
  induction samples using List.reverseRecOn with
  | nil => exact absurd rfl nonempty
  | append_singleton samples sample ih =>
    refine ⟨_, by rw [recordAll_append, recordSample_benchmarks], ?_⟩
    rw [List.map_append, List.map_singleton, Tally.of_append]
    by_cases first : samples = []
    · subst samples
      rw [show recordAll puzzleId language store [] = store from rfl, fresh]
      exact Tally.fits_first sample.runtimeMs
    · rcases ih first with ⟨_, stored, fits⟩
      rw [stored]
      exact fits.add sample.runtimeMs

theorem tracksMean_iff_drift (fresh : store.benchmarks (puzzleId, language) = none)
    (nonempty : samples ≠ []) :
    TracksMean puzzleId language store samples ↔
      2 * |(Tally.of (samples.map Sample.runtimeMs)).drift| ≤ samples.length := by
  rcases recordAll_fits fresh nonempty with ⟨benchmark, stored, fits⟩
  have count := Tally.of_count (samples.map Sample.runtimeMs)
  have sum := Tally.of_sum (samples.map Sample.runtimeMs)
  rw [List.length_map] at count
  have size : (0 : ℚ) < samples.length := by
    exact_mod_cast List.length_pos_iff.mpr nonempty
  have weighted := fits.p50RuntimeMs
  rw [count, sum] at weighted
  have distance : benchmark.p50RuntimeMs - (samples.map Sample.runtimeMs).sum / samples.length =
      (Tally.of (samples.map Sample.runtimeMs)).drift / samples.length := by
    field_simp
    linarith
  have close_iff : |benchmark.p50RuntimeMs -
        (samples.map Sample.runtimeMs).sum / samples.length| ≤ 1 / 2 ↔
      2 * |(Tally.of (samples.map Sample.runtimeMs)).drift| ≤ samples.length := by
    rw [distance, abs_div, abs_of_pos size, div_le_iff₀ size, ← @Int.cast_le ℚ]
    push_cast
    constructor <;> intro small <;> linarith
  rw [← close_iff]
  constructor
  · rintro ⟨_, found, close, _⟩
    rw [stored] at found
    cases found
    exact close
  · intro close
    exact ⟨benchmark, stored, close, fits.sampleSize.trans count⟩

end Runs

namespace Tally

theorem add_drift_of_zero {tally : Tally} (none : tally.drift = 0) (runtimeMs : ℤ) :
    2 * |(tally.add runtimeMs).drift| ≤ tally.count + 1 := by
  have size : (0 : ℚ) < (tally.count + 1 : ℕ) := by positivity
  have rounded := abs_sub_round (((tally.sum + runtimeMs : ℤ) : ℚ) / (tally.count + 1 : ℕ))
  have drift : ((tally.add runtimeMs).drift : ℚ) = -((tally.count + 1 : ℕ) *
      (((tally.sum + runtimeMs : ℤ) : ℚ) / (tally.count + 1 : ℕ) -
        round (((tally.sum + runtimeMs : ℤ) : ℚ) / (tally.count + 1 : ℕ)))) := by
    rw [mul_sub, mul_div_cancel₀ _ size.ne']
    simp only [add, none, add_zero]
    push_cast
    ring
  rw [← @Int.cast_le ℚ, Int.cast_mul, Int.cast_abs, drift, abs_neg, abs_mul, abs_of_pos size]
  push_cast at rounded size ⊢
  nlinarith

theorem of_few {runtimes : List ℤ} (few : runtimes.length ≤ 2) :
    2 * |(of runtimes).drift| ≤ runtimes.length := by
  have first (runtimeMs : ℤ) : (empty.add runtimeMs).drift = 0 := by
    have small := add_drift_of_zero (show empty.drift = 0 from rfl) runtimeMs
    have := abs_nonneg (empty.add runtimeMs).drift
    rw [← abs_eq_zero]
    simp only [empty] at *
    omega
  match runtimes, few with
  | [], _ => decide
  | [runtimeMs], _ => simp [of, first]
  | [runtimeMs, second], _ => exact add_drift_of_zero (first runtimeMs) second

theorem of_stuck (more : ℕ) :
    of ([1, 2] ++ List.replicate more 1) = ⟨more + 2, more + 3, more + 1⟩ := by
  induction more with
  | zero => decide +kernel
  | succ more ih =>
    have two : round (((more + 3 + 1 + (more + 1) : ℤ) : ℚ) / (more + 2 + 1 : ℕ)) = 2 := by
      rw [round_eq, Int.floor_eq_iff]
      push_cast
      constructor
      · rw [← sub_le_iff_le_add, le_div_iff₀ (by positivity)]
        linarith
      · rw [← lt_sub_iff_add_lt, div_lt_iff₀ (by positivity)]
        linarith
    rw [List.replicate_succ', ← List.append_assoc, of_append, ih, add, two]
    simp only [Tally.mk.injEq]
    push_cast
    refine ⟨trivial, ?_, ?_⟩ <;> ring

end Tally

def sampleOf (runtimeMs : ℤ) (positive : 0 < runtimeMs) : Sample where
  runtimeMs := runtimeMs
  choices := fun _ => solvedAt 0
  positive := positive
  answered _ := rfl

def stuckSamples (more : ℕ) : List Sample :=
  [sampleOf 1 one_pos, sampleOf 2 two_pos] ++ List.replicate more (sampleOf 1 one_pos)

theorem stuckSamples_length (more : ℕ) : (stuckSamples more).length = more + 2 := by
  simp [stuckSamples]

theorem stuckSamples_drift (more : ℕ) :
    (Tally.of ((stuckSamples more).map Sample.runtimeMs)).drift = more + 1 := by
  have runtimes : (stuckSamples more).map Sample.runtimeMs = [1, 2] ++ List.replicate more 1 := by
    simp [stuckSamples, sampleOf]
  rw [runtimes, Tally.of_stuck]

/--
The benchmark is close to the mean exactly if the roundings have added at most half the number of
runtimes. Whatever the runtimes are, this holds of at most two of them.
-/
theorem benchmark_tracks_mean_iff (puzzleId language : String) :
    (∀ store : Store, store.benchmarks (puzzleId, language) = none →
      ∀ samples : List Sample, samples ≠ [] →
        (TracksMean puzzleId language store samples ↔
          2 * |(Tally.of (samples.map Sample.runtimeMs)).drift| ≤ samples.length)) ∧
    ∀ count : ℕ,
      (∀ store : Store, store.benchmarks (puzzleId, language) = none →
        ∀ samples : List Sample, samples ≠ [] → samples.length = count →
          TracksMean puzzleId language store samples) ↔ count ≤ 2 := by
  refine ⟨fun store fresh samples nonempty => tracksMean_iff_drift fresh nonempty, ?_⟩
  intro count
  constructor
  · intro tracks
    by_contra many
    have length : (stuckSamples (count - 2)).length = count := by
      rw [stuckSamples_length]
      omega
    have nonempty : stuckSamples (count - 2) ≠ [] := List.ne_nil_of_length_pos (by omega)
    have small := (tracksMean_iff_drift rfl nonempty).mp (tracks emptyStore rfl _ nonempty length)
    rw [stuckSamples_drift, length, abs_of_nonneg (by positivity)] at small
    omega
  · rintro _ _ fresh samples nonempty rfl
    rw [tracksMean_iff_drift fresh nonempty]
    have bound := @Tally.of_few (samples.map Sample.runtimeMs) (by rwa [List.length_map])
    rwa [List.length_map] at bound

theorem two_samples_tracked :
    TracksMean "sum" "python" emptyStore [sampleOf 1 (by decide), sampleOf 2 (by decide)] :=
  (benchmark_tracks_mean_iff "sum" "python").2 2 |>.mpr le_rfl emptyStore rfl _
    (List.cons_ne_nil _ _) rfl

/-- After 1, 2 and 1 the benchmark is 2, and the mean is 4/3. -/
theorem three_samples_lost :
    ¬TracksMean "sum" "python" emptyStore (stuckSamples 1) := by
  have nonempty : stuckSamples 1 ≠ [] := List.cons_ne_nil _ _
  rw [tracksMean_iff_drift rfl nonempty, stuckSamples_drift, stuckSamples_length]
  decide

end CodeClash.Judge
