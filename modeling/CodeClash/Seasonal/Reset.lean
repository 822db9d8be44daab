import CodeClash.Seasonal.Service
import Mathlib.Data.Int.ConditionallyCompleteOrder
import Mathlib.Order.Iterate
import Mathlib.Tactic.Linarith

/-!
# Repeated resets

The reset pulls a rating towards 4000 and rounds. It keeps the order of ratings and has three fixed
points, 3999, 4000 and 4001. So all ratings but 4000 end up at 3999 or at 4001, and differences
between ratings below 3999 are lost.
-/

namespace CodeClash.Seasonal

open Async Keys Services.Backend

theorem newSeasonalElo_eq (seasonalElo : ℤ) :
    newSeasonalElo seasonalElo = (7 * seasonalElo + 12005) / 10 := by
  have lower : (7 * seasonalElo + 12005) / 10 * 10 ≤ 7 * seasonalElo + 12005 := by omega
  have upper : 7 * seasonalElo + 12005 < (7 * seasonalElo + 12005) / 10 * 10 + 10 := by omega
  generalize (7 * seasonalElo + 12005) / 10 = quotient at lower upper
  rw [newSeasonalElo, round_eq, Int.floor_eq_iff]
  have lowerRat : (quotient : ℚ) * 10 ≤ 7 * seasonalElo + 12005 := by exact_mod_cast lower
  have upperRat : 7 * (seasonalElo : ℚ) + 12005 < quotient * 10 + 10 := by exact_mod_cast upper
  constructor <;> linarith

theorem newSeasonalElo_mono : Monotone newSeasonalElo := by
  intro _ _ _
  simp only [newSeasonalElo_eq]
  omega

def settled (seasonalElo : ℤ) : ℤ :=
  if seasonalElo ≤ 3999 then 3999 else if seasonalElo = 4000 then 4000 else 4001

theorem newSeasonalElo_settled (seasonalElo : ℤ) :
    newSeasonalElo (settled seasonalElo) = settled seasonalElo := by
  rw [newSeasonalElo_eq, settled]
  split_ifs <;> decide

theorem settled_newSeasonalElo (seasonalElo : ℤ) :
    settled (newSeasonalElo seasonalElo) = settled seasonalElo := by
  rw [newSeasonalElo_eq, settled, settled]
  split_ifs <;> omega

variable {seasonalElo : ℤ}

theorem newSeasonalElo_progress (unsettled : seasonalElo ≠ settled seasonalElo) :
    (newSeasonalElo seasonalElo - settled seasonalElo).natAbs <
      (seasonalElo - settled seasonalElo).natAbs := by
  rw [newSeasonalElo_eq]
  rw [settled] at unsettled ⊢
  split_ifs at unsettled ⊢ <;> omega

theorem iterate_newSeasonalElo {resets : ℕ}
    (enough : (seasonalElo - settled seasonalElo).natAbs ≤ resets) :
    newSeasonalElo^[resets] seasonalElo = settled seasonalElo := by
  induction resets generalizing seasonalElo with
  | zero => exact Int.eq_of_sub_eq_zero (Int.natAbs_eq_zero.mp (Nat.le_zero.mp enough))
  | succ _ ih =>
    rw [Function.iterate_succ_apply, ← settled_newSeasonalElo seasonalElo]
    apply ih
    rw [settled_newSeasonalElo]
    by_cases isSettled : seasonalElo = settled seasonalElo
    · have fixed : newSeasonalElo seasonalElo = seasonalElo := by
        rw [isSettled]
        exact newSeasonalElo_settled seasonalElo
      rw [fixed]
      omega
    · have closer := newSeasonalElo_progress isSettled
      omega

theorem iterate_newSeasonalElo_mono (seasonalElo : ℤ) :
    Monotone (fun resets => newSeasonalElo^[resets] seasonalElo) ∨
      Antitone (fun resets => newSeasonalElo^[resets] seasonalElo) := by
  rcases le_total seasonalElo (newSeasonalElo seasonalElo) with rises | falls
  · exact Or.inl (newSeasonalElo_mono.monotone_iterate_of_le_map rises)
  · exact Or.inr (newSeasonalElo_mono.antitone_iterate_of_map_le falls)

/--
A reset keeps the order of ratings and stays between 0 and 5000. Repeated resets move a rating in
one direction and end at a fixed point, which is the same for all ratings up to 3999.
-/
theorem newSeasonalElo_dynamics {seasonalElo : ℤ} (nonneg : 0 ≤ seasonalElo)
    (le : seasonalElo ≤ 5000) :
    (∀ other, seasonalElo ≤ other → newSeasonalElo seasonalElo ≤ newSeasonalElo other) ∧
      0 ≤ newSeasonalElo seasonalElo ∧ newSeasonalElo seasonalElo ≤ 5000 ∧
      (Monotone (fun resets => newSeasonalElo^[resets] seasonalElo) ∨
        Antitone (fun resets => newSeasonalElo^[resets] seasonalElo)) ∧
      newSeasonalElo (settled seasonalElo) = settled seasonalElo ∧
      ∀ resets, 3999 ≤ resets → newSeasonalElo^[resets] seasonalElo = settled seasonalElo := by
  refine ⟨fun other isLess => newSeasonalElo_mono isLess, ?_, ?_,
    iterate_newSeasonalElo_mono seasonalElo, newSeasonalElo_settled seasonalElo, ?_⟩
  · rw [newSeasonalElo_eq]
    omega
  · rw [newSeasonalElo_eq]
    omega
  · intro _ _
    apply iterate_newSeasonalElo
    rw [settled]
    split_ifs <;> omega

theorem newSeasonalElo_dynamics_1000 :
    newSeasonalElo 1000 = 1900 ∧ newSeasonalElo^[3999] 1000 = 3999 := by
  rcases @newSeasonalElo_dynamics 1000 (by decide) (by decide) with ⟨_, _, _, _, _, ends⟩
  exact ⟨newSeasonalElo_eq 1000, ends 3999 (Nat.le_refl 3999)⟩

section Store

variable {store : Store} {choices : ℕ → Choice} {userId : UserId}

def Store.resetUsers (store : Store) (users : List (UserId × ℤ)) : Store :=
  users.foldl (fun store user => store.setSeasonalElo user.1 (newSeasonalElo user.2)) store

theorem alone_resetUsers (works : backend.Works choices)
    (users : List (UserId × ℤ)) :
    backend.alone choices (resetUsers users).run store =
      (.ok (), store.resetUsers users) := by
  induction users generalizing choices store with
  | nil => rfl
  | cons _ _ ih =>
    rw [resetUsers, alone_call_bind works, ih works.later]
    rfl

theorem find_setSeasonalElo_of_ne {other : UserId} (differs : userId ≠ other) (seasonalElo : ℤ) :
    (store.setSeasonalElo other seasonalElo).users.find userId = store.users.find userId :=
  Table.find_modify_of_ne differs _

variable {users : List (UserId × ℤ)} {resets : List (ℕ → Choice)}

theorem find_resetUsers_of_not_mem (missing : userId ∉ users.map Prod.fst) :
    (store.resetUsers users).users.find userId = store.users.find userId := by
  induction users generalizing store with
  | nil => rfl
  | cons _ _ ih =>
    rw [List.map_cons, List.mem_cons, not_or] at missing
    rw [Store.resetUsers, List.foldl_cons]
    exact (ih missing.2).trans (find_setSeasonalElo_of_ne missing.1 _)

theorem find_resetUsers {seasonalElo : ℤ}
    (distinct : (users.map Prod.fst).Nodup) (member : (userId, seasonalElo) ∈ users) :
    (store.resetUsers users).users.find userId =
      (store.users.find userId).map fun user =>
        { user with seasonalElo := newSeasonalElo seasonalElo } := by
  induction users generalizing store with
  | nil => cases member
  | cons user _ ih =>
    rw [List.map_cons, List.nodup_cons] at distinct
    rw [Store.resetUsers, List.foldl_cons]
    rcases List.mem_cons.mp member with rfl | member
    · exact (find_resetUsers_of_not_mem distinct.1).trans (Table.find_modify_self _ _)
    · have differs : userId ≠ user.1 := by
        rintro rfl
        exact distinct.1 (List.mem_map.mpr ⟨_, member, rfl⟩)
      refine (ih distinct.2 member).trans ?_
      rw [find_setSeasonalElo_of_ne differs]

theorem find_resetSeasonalElo (works : backend.Works choices) (userId : UserId) :
    (backend.alone choices resetSeasonalElo store).2.users.find userId =
      (store.users.find userId).map fun user =>
        { user with seasonalElo := newSeasonalElo user.seasonalElo } := by
  have runs : backend.alone choices resetSeasonalElo store = ((), store.resetUsers
      ((store.users.findMany fun _ => true).map fun entry => (entry.1, entry.2.seasonalElo))) := by
    refine alone_caught ?_
    rw [alone_call_bind works, alone_resetUsers works.later]
    rfl
  have distinct : (((store.users.findMany fun _ => true).map fun entry =>
      (entry.1, entry.2.seasonalElo)).map Prod.fst).Nodup := by
    rw [List.map_map]
    exact Table.findMany_nodup
  rw [runs]
  cases found : store.users.find userId with
  | none =>
    refine (find_resetUsers_of_not_mem ?_).trans found
    rw [List.map_map, List.mem_map]
    rintro ⟨⟨_, user⟩, member, rfl⟩
    exact Option.some_ne_none user ((Table.mem_findMany.mp member).1.symm.trans found)
  | some user =>
    have listed : (userId, user) ∈ store.users.findMany fun _ => true :=
      Table.mem_findMany.mpr ⟨found, rfl⟩
    rw [find_resetUsers distinct (List.mem_map.mpr ⟨_, listed, rfl⟩), found]
    rfl

def runResets (resets : List (ℕ → Choice)) (store : Store) : Store :=
  resets.foldl (fun store choices => (backend.alone choices resetSeasonalElo store).2) store

/-- After any number of resets the formula has been applied to every user as often, and users keep
the rest of their rows. -/
theorem find_runResets (work : ∀ choices ∈ resets, backend.Works choices) :
    (runResets resets store).users.find userId =
      (store.users.find userId).map fun user =>
        { user with seasonalElo := newSeasonalElo^[resets.length] user.seasonalElo } := by
  induction resets generalizing store with
  | nil => exact Option.map_id'.symm
  | cons _ _ ih =>
    rw [List.forall_mem_cons] at work
    rw [runResets, List.foldl_cons]
    refine (ih work.2).trans ?_
    rw [find_resetSeasonalElo work.1, Option.map_map]
    rfl

end Store

theorem find_runResets_twice :
    (runResets [fun _ => ⟨0, false⟩, fun _ => ⟨0, false⟩]
      ⟨(Table.empty.insert "u" ⟨1200, 1000⟩).insert "v" ⟨900, 4500⟩, [], fun _ => []⟩).users.find
        "v" = some ⟨900, 4245⟩ := by
  rw [find_runResets]
  · change some (User.mk 900 (newSeasonalElo (newSeasonalElo 4500))) = _
    rw [newSeasonalElo_eq, newSeasonalElo_eq]
    rfl
  · intro _ member
    simp only [List.mem_cons, List.not_mem_nil, or_false, or_self] at member
    rw [member]
    exact fun _ _ => rfl

end CodeClash.Seasonal
