import CodeClash.Arithmetic.Double
import Mathlib.Algebra.BigOperators.Group.List.Basic
import Mathlib.Data.List.Induction

/-!
# Battle statistics

`updateBattleStats` of `packages/backend/src/models/user.model.ts`. The language of a battle is not
used, and a difficulty that is not one of the three is not counted. Damages are doubles.
-/

namespace CodeClash.Backend

open Arithmetic

inductive Result where
  | win | loss
deriving DecidableEq

structure Battle where
  result : Result
  damageDealt : ℚ
  difficulty : String
  language : String
deriving DecidableEq

structure BattlesByDifficulty where
  easy : ℕ
  medium : ℕ
  hard : ℕ
deriving DecidableEq

structure User where
  totalWins : ℕ
  totalLosses : ℕ
  totalDamageDealt : ℚ
  currentWinStreak : ℕ
  longestWinStreak : ℕ
  totalBattles : ℕ
  averageDamagePerBattle : ℚ
  battlesByDifficulty : BattlesByDifficulty
deriving DecidableEq

def User.countResult (user : User) : Result → User
  | .win =>
    { user with
      totalWins := user.totalWins + 1
      currentWinStreak := user.currentWinStreak + 1
      longestWinStreak :=
        if user.currentWinStreak + 1 > user.longestWinStreak then user.currentWinStreak + 1
        else user.longestWinStreak }
  | .loss => { user with totalLosses := user.totalLosses + 1, currentWinStreak := 0 }

def BattlesByDifficulty.count (counts : BattlesByDifficulty) (difficulty : String) :
    BattlesByDifficulty :=
  if difficulty = "easy" then { counts with easy := counts.easy + 1 }
  else if difficulty = "medium" then { counts with medium := counts.medium + 1 }
  else if difficulty = "hard" then { counts with hard := counts.hard + 1 }
  else counts

def updateBattleStats (user : User) (battle : Battle) : User :=
  let user := user.countResult battle.result
  let totalDamageDealt := toDouble (user.totalDamageDealt + battle.damageDealt)
  let totalBattles := user.totalBattles + 1
  { user with
    totalDamageDealt := totalDamageDealt
    totalBattles := totalBattles
    averageDamagePerBattle := toDouble (totalDamageDealt / totalBattles)
    battlesByDifficulty := user.battlesByDifficulty.count battle.difficulty }

def newUser (averageDamagePerBattle : ℚ) : User :=
  ⟨0, 0, 0, 0, 0, 0, averageDamagePerBattle, ⟨0, 0, 0⟩⟩

def AllWon (battles : List Battle) : Prop := ∀ battle ∈ battles, battle.result = .win

/-- The number is the length of the longest of these lists of battles that are all won. -/
structure LongestWon (IsRun : List Battle → Prop) (length : ℕ) : Prop where
  reached : ∃ run, IsRun run ∧ AllWon run ∧ run.length = length
  bound : ∀ run, IsRun run → AllWon run → run.length ≤ length

def occurrences (difficulty : String) (battles : List Battle) : ℕ :=
  battles.countP (·.difficulty = difficulty)

def damage (battles : List Battle) : ℚ := (battles.map Battle.damageDealt).sum

/-- Whole damages that doubles add without rounding. -/
structure Whole (battles : List Battle) : Prop where
  whole : ∀ battle ∈ battles, ∃ damage : ℕ, battle.damageDealt = damage
  small : damage battles ≤ 2 ^ 53

structure Counts (battles : List Battle) (user : User) : Prop where
  results : user.totalWins + user.totalLosses = battles.length
  totalBattles : user.totalBattles = battles.length
  currentWinStreak : LongestWon (· <:+ battles) user.currentWinStreak
  longestWinStreak : LongestWon (· <:+: battles) user.longestWinStreak
  totalDamageDealt : Whole battles → user.totalDamageDealt = damage battles
  battlesByDifficulty : user.battlesByDifficulty =
    ⟨occurrences "easy" battles, occurrences "medium" battles, occurrences "hard" battles⟩

variable {battles : List Battle} {battle : Battle} {current longest : ℕ}

theorem allWon_concat : AllWon (battles ++ [battle]) ↔ AllWon battles ∧ battle.result = .win := by
  simp [AllWon, or_imp, forall_and]

theorem LongestWon.nil {IsRun : List Battle → Prop} (isRun : IsRun [])
    (bound : ∀ run, IsRun run → AllWon run → run = []) : LongestWon IsRun 0 where
  reached := ⟨[], isRun, by simp [AllWon], rfl⟩
  bound run isRun won := (List.length_eq_zero_iff.mpr (bound run isRun won)).le

theorem LongestWon.suffix_win (suffix : LongestWon (· <:+ battles) current)
    (won : battle.result = .win) : LongestWon (· <:+ battles ++ [battle]) (current + 1) := by
  rcases suffix.reached with ⟨run, isSuffix, allWon, length⟩
  refine ⟨⟨run ++ [battle], ?_, allWon_concat.mpr ⟨allWon, won⟩, by simp [length]⟩, ?_⟩
  · exact List.suffix_concat_iff.mpr (Or.inr ⟨run, rfl, isSuffix⟩)
  · intro run isRun allWon
    rcases List.suffix_concat_iff.mp isRun with rfl | ⟨earlier, rfl, isEarlier⟩
    · exact Nat.zero_le _
    · have bounded := suffix.bound earlier isEarlier (allWon_concat.mp allWon).1
      simpa using bounded

theorem LongestWon.suffix_loss (lost : battle.result = .loss) :
    LongestWon (· <:+ battles ++ [battle]) 0 := by
  refine .nil List.nil_suffix ?_
  intro run isRun allWon
  rcases List.suffix_concat_iff.mp isRun with rfl | ⟨earlier, rfl, _⟩
  · rfl
  · have won := (allWon_concat.mp allWon).2
    rw [lost] at won
    cases won

theorem LongestWon.infix_concat (runs : LongestWon (· <:+: battles) longest)
    (suffix : LongestWon (· <:+ battles ++ [battle]) current) :
    LongestWon (· <:+: battles ++ [battle]) (if current > longest then current else longest) := by
  refine ⟨?_, ?_⟩
  · split
    · rcases suffix.reached with ⟨run, isSuffix, rest⟩
      exact ⟨run, isSuffix.isInfix, rest⟩
    · rcases runs.reached with ⟨run, isInfix, rest⟩
      exact ⟨run, isInfix.trans (List.prefix_append _ _).isInfix, rest⟩
  · intro run isRun allWon
    rcases List.infix_concat_iff.mp isRun with isSuffix | isInfix
    · have bounded := suffix.bound run isSuffix allWon
      split <;> omega
    · have bounded := runs.bound run isInfix allWon
      split <;> omega

theorem damage_concat : damage (battles ++ [battle]) = damage battles + battle.damageDealt := by
  simp [damage]

theorem Whole.exists_damage
    (whole : ∀ battle ∈ battles, ∃ damage : ℕ, battle.damageDealt = damage) :
    ∃ total : ℕ, damage battles = total := by
  induction battles with
  | nil => exact ⟨0, rfl⟩
  | cons battle battles ih =>
    rcases List.forall_mem_cons.mp whole with ⟨⟨first, isFirst⟩, others⟩
    rcases ih others with ⟨total, isTotal⟩
    refine ⟨first + total, ?_⟩
    rw [damage, List.map_cons, List.sum_cons, isFirst, ← damage, isTotal, Nat.cast_add]

theorem Whole.concat (whole : Whole (battles ++ [battle])) :
    Whole battles ∧
      toDouble (damage battles + battle.damageDealt) = damage (battles ++ [battle]) := by
  rcases List.forall_mem_append.mp whole.whole with ⟨earlier, last⟩
  rcases Whole.exists_damage earlier with ⟨total, isTotal⟩
  rcases last battle List.mem_cons_self with ⟨more, isMore⟩
  have small : ((total + more : ℕ) : ℚ) ≤ 2 ^ 53 := by
    rw [Nat.cast_add, ← isTotal, ← isMore, ← damage_concat]
    exact whole.small
  have bound : total + more ≤ 2 ^ 53 := by exact_mod_cast small
  refine ⟨⟨earlier, ?_⟩, ?_⟩
  · rw [isTotal]
    exact_mod_cast (Nat.le_add_right total more).trans bound
  · rw [damage_concat, isTotal, isMore, ← Nat.cast_add]
    exact (isDouble_natCast bound).toDouble_eq

theorem count_occurrences (battles : List Battle) (battle : Battle) :
    BattlesByDifficulty.count ⟨occurrences "easy" battles, occurrences "medium" battles,
        occurrences "hard" battles⟩ battle.difficulty =
      ⟨occurrences "easy" (battles ++ [battle]), occurrences "medium" (battles ++ [battle]),
        occurrences "hard" (battles ++ [battle])⟩ := by
  simp only [BattlesByDifficulty.count, occurrences, List.countP_append, List.countP_singleton,
    decide_eq_true_eq]
  split_ifs <;> simp_all

theorem Counts.update {user : User} (counts : Counts battles user) (battle : Battle) :
    Counts (battles ++ [battle]) (updateBattleStats user battle) where
  results := by
    have earlier := counts.results
    cases won : battle.result <;> simp [updateBattleStats, won, User.countResult] <;> omega
  totalBattles := by
    have earlier := counts.totalBattles
    cases won : battle.result <;> simp [updateBattleStats, won, User.countResult, earlier]
  currentWinStreak := by
    cases won : battle.result with
    | win =>
      have longer := counts.currentWinStreak.suffix_win won
      simpa [updateBattleStats, won, User.countResult] using longer
    | loss => simpa [updateBattleStats, won, User.countResult] using LongestWon.suffix_loss won
  longestWinStreak := by
    cases won : battle.result with
    | win =>
      have longer := counts.longestWinStreak.infix_concat (counts.currentWinStreak.suffix_win won)
      simpa [updateBattleStats, won, User.countResult] using longer
    | loss =>
      have longer := counts.longestWinStreak.infix_concat (LongestWon.suffix_loss won)
      simpa [updateBattleStats, won, User.countResult] using longer
  totalDamageDealt := by
    intro whole
    rw [← whole.concat.2, ← counts.totalDamageDealt whole.concat.1]
    cases won : battle.result <;> simp [updateBattleStats, won, User.countResult]
  battlesByDifficulty := by
    rw [← count_occurrences, ← counts.battlesByDifficulty]
    cases won : battle.result <;> simp [updateBattleStats, won, User.countResult]

theorem counts_updateBattleStats (average : ℚ) (battles : List Battle) :
    Counts battles (battles.foldl updateBattleStats (newUser average)) := by
  induction battles using List.reverseRecOn with
  | nil =>
    refine ⟨rfl, rfl, .nil List.suffix_rfl ?_, .nil List.infix_rfl ?_, fun _ => rfl, rfl⟩
    · exact fun run isRun _ => List.suffix_nil.mp isRun
    · exact fun run isRun _ => List.infix_nil.mp isRun
  | append_singleton battles battle ih =>
    rw [List.foldl_append]
    exact ih.update battle

/-- The average is the double nearest to the mean, which is exact up to the division if the damages
are whole. -/
theorem updateBattleStats_summarises (average : ℚ) (battles : List Battle)
    (nonempty : battles ≠ []) :
    Counts battles (battles.foldl updateBattleStats (newUser average)) ∧
      Nearest ((battles.foldl updateBattleStats (newUser average)).totalDamageDealt /
          battles.length)
        (battles.foldl updateBattleStats (newUser average)).averageDamagePerBattle := by
  have counts := counts_updateBattleStats average battles
  refine ⟨counts, ?_⟩
  rw [← counts.totalBattles]
  rcases List.eq_nil_or_concat' battles with rfl | ⟨earlier, battle, rfl⟩
  · exact absurd rfl nonempty
  · rw [List.foldl_append]
    exact toDouble_nearest _

def sampleBattles : List Battle :=
  [⟨.win, 1, "easy", "python"⟩, ⟨.loss, 1, "hard", "python"⟩, ⟨.win, 2, "easy", "java"⟩]

theorem updateBattleStats_summarises_three :
    (sampleBattles.foldl updateBattleStats (newUser 0)).totalDamageDealt = 4 ∧
      Nearest (4 / 3)
        (sampleBattles.foldl updateBattleStats (newUser 0)).averageDamagePerBattle := by
  have summary := updateBattleStats_summarises 0 sampleBattles (List.cons_ne_nil _ _)
  have total : (sampleBattles.foldl updateBattleStats (newUser 0)).totalDamageDealt = 4 := by
    refine (summary.1.totalDamageDealt ⟨?_, by norm_num [damage, sampleBattles]⟩).trans
      (by norm_num [damage, sampleBattles])
    rintro battle (_ | ⟨_, _ | ⟨_, _ | ⟨_, ⟨⟩⟩⟩⟩)
    · exact ⟨1, Nat.cast_one.symm⟩
    · exact ⟨1, Nat.cast_one.symm⟩
    · exact ⟨2, rfl⟩
  exact ⟨total, total ▸ summary.2⟩

/-- The mean of 1, 1 and 2 is no double. -/
theorem average_is_rounded :
    (sampleBattles.foldl updateBattleStats (newUser 0)).averageDamagePerBattle ≠
      damage sampleBattles / sampleBattles.length := by
  decide +kernel

end CodeClash.Backend
