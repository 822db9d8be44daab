import CodeClash.Enhanced.Search

/-!
# How windows grow

A run of `expandEloWindows` adds to the window of each member of the queue, up to the maximum.
Between the commands of a run other calls may be served, as long as they leave the user in the queue
and the record alone. Windows are printed and read again, which is exact below 10²¹.
-/

namespace CodeClash.Enhanced.Matchmaking

open Async Keys Function

structure Round where
  clock : ℕ → ℤ
  meanwhile : ℕ → Store → Store

def Keeps (userId : UserId) (meanwhile : ℕ → Store → Store) : Prop :=
  ∀ n store, (meanwhile n store).hashes userId = store.hashes userId ∧
    (meanwhile n store).queue.find userId = store.queue.find userId

def Hash.LiveAt (hash : Hash) (clock : ℕ → ℤ) : Prop :=
  ∀ n, (hash.expiresAt.all fun expiresAt => clock n < expiresAt) = true

section Growth

variable (options : MatchmakingOptions)

def Store.expanded (store : Store) (round : Round) : Store :=
  ((expandEloWindows options).run.run handle round.meanwhile (working round.clock) store).2

def expandAll (store : Store) (rounds : List Round) : Store :=
  rounds.foldl (Store.expanded options) store

def UserData.expansion (data : UserData) : UserData where
  currentEloWindow := some (parsePrinted (min (data.window options +
    options.windowExpansionAmount) options.maxEloWindow))
  expansions := some (parsePrinted (data.expansions.getD 0 + 1))

def Hash.grow (hash : Hash) : Hash :=
  if options.maxEloWindow ≤ hash.data.window options then hash
  else { hash with data := hash.data.set (hash.data.expansion options) }

def windowAfter (count : ℕ) : ℤ :=
  min (options.initialEloWindow + count * options.windowExpansionAmount) options.maxEloWindow

end Growth

variable {options : MatchmakingOptions} {userId : UserId} {clock : ℕ → ℤ}
  {meanwhile : ℕ → Store → Store} {store : Store} {hash : Hash}

theorem Keeps.later (keeps : Keeps userId meanwhile) : Keeps userId fun n => meanwhile (n + 1) :=
  fun n => keeps (n + 1)

theorem Hash.LiveAt.later (live : hash.LiveAt clock) : hash.LiveAt fun n => clock (n + 1) :=
  fun n => live (n + 1)

structure Recorded (userId : UserId) (hash : Hash) (store : Store) : Prop where
  record : store.hashes userId = some hash
  queued : (store.queue.find userId).isSome

theorem Recorded.kept (recorded : Recorded userId hash store) (keeps : Keeps userId meanwhile)
    (n : ℕ) : Recorded userId hash (meanwhile n store) :=
  ⟨(keeps n store).1.trans recorded.record, (keeps n store).2 ▸ recorded.queued⟩

theorem Recorded.hash_eq (recorded : Recorded userId hash store) (live : hash.LiveAt clock)
    (n : ℕ) : store.hash (clock n) userId = some hash := by
  rw [Store.hash, recorded.record, Option.filter_some, if_pos (live n)]

theorem Recorded.setHash_of_ne {other : UserId} (recorded : Recorded userId hash store)
    (differs : userId ≠ other) (changed : Option Hash) :
    Recorded userId hash (store.setHash other changed) :=
  ⟨(update_of_ne differs ..).trans recorded.record, recorded.queued⟩

theorem run_expandWindows_cons (user : UserId) (users : List UserId) :
    (expandWindows options (user :: users)).run.run handle meanwhile (working clock) store =
      let data := (meanwhile 0 store).userData (clock 0) user
      if data.userId.isNone ∨ options.maxEloWindow ≤ data.window options then
        (expandWindows options users).run.run handle (fun n => meanwhile (n + 1))
          (working fun n => clock (n + 1)) (meanwhile 0 store)
      else
        let next := meanwhile 1 (meanwhile 0 store)
        let hash := (next.hash (clock 1) user).getD ⟨{}, none⟩
        (expandWindows options users).run.run handle (fun n => meanwhile (n + 2))
          (working fun n => clock (n + 2))
          (next.setHash user
            (some { hash with data := hash.data.set (data.expansion options) })) := by
  simp only []
  split
  · rename_i skipped
    exact congrArg (fun program : Prog Unit => program.run.run handle _ _ _) (if_pos skipped)
  · rename_i expanded
    exact congrArg (fun program : Prog Unit => program.run.run handle _ _ _) (if_neg expanded)

/-- The loop changes the record of the user when it comes to the user. -/
theorem recorded_expandWindows {users : List UserId} (distinct : users.Nodup)
    (keeps : Keeps userId meanwhile) (live : hash.LiveAt clock)
    (recorded : Recorded userId hash store) (known : hash.data.userId.isSome) :
    Recorded userId (if userId ∈ users then hash.grow options else hash)
      ((expandWindows options users).run.run handle meanwhile (working clock) store).2 := by
  induction users generalizing meanwhile clock store hash with
  | nil => exact recorded
  | cons user users ih =>
    have before := recorded.kept keeps 0
    have next := before.kept keeps 1
    rw [List.nodup_cons] at distinct
    rw [run_expandWindows_cons]
    by_cases same : userId = user
    · subst same
      have read : (meanwhile 0 store).userData (clock 0) userId = hash.data := by
        rw [Store.userData, before.hash_eq live]
        rfl
      have others {hash : Hash} {meanwhile clock store} (keeps : Keeps userId meanwhile)
          (live : hash.LiveAt clock) (recorded : Recorded userId hash store)
          (known : hash.data.userId.isSome) := by
        have after := ih distinct.2 keeps live recorded known
        rwa [if_neg distinct.1] at after
      have named : hash.data.userId.isNone = false := Option.isNone_eq_false_iff.mpr known
      simp only [read, next.hash_eq live, if_pos List.mem_cons_self, Hash.grow, named,
        Bool.false_eq_true, false_or, Option.getD_some]
      split
      · exact others keeps.later live.later before known
      · refine others keeps.later.later live.later.later ?_ ?_
        · exact ⟨update_self .., next.queued⟩
        · exact known
    · have listed : userId ∈ user :: users ↔ userId ∈ users := by simp [same]
      simp only [listed]
      generalize (meanwhile 0 store).userData (clock 0) user = data
      by_cases skipped : data.userId.isNone ∨ options.maxEloWindow ≤ data.window options
      · rw [if_pos skipped]
        exact ih distinct.2 keeps.later live.later before known
      · rw [if_neg skipped]
        exact ih distinct.2 keeps.later.later live.later.later (next.setHash_of_ne same _) known

theorem Hash.grow_expiresAt : (hash.grow options).expiresAt = hash.expiresAt := by
  unfold grow
  split <;> rfl

theorem Hash.grow_userId : (hash.grow options).data.userId = hash.data.userId := by
  unfold grow
  split <;> rfl

theorem recorded_expandAll {rounds : List Round}
    (keeps : ∀ round ∈ rounds, Keeps userId round.meanwhile)
    (live : ∀ round ∈ rounds, hash.LiveAt round.clock) (recorded : Recorded userId hash store)
    (known : hash.data.userId.isSome) :
    Recorded userId ((Hash.grow options)^[rounds.length] hash)
      (expandAll options store rounds) := by
  induction rounds generalizing store hash with
  | nil => exact recorded
  | cons round rounds ih =>
    rw [List.forall_mem_cons] at keeps live
    have before := recorded.kept keeps.1 0
    have after := @recorded_expandWindows options _ _ _ _ _ _
      (Ranked.ascending_nodup (round.meanwhile 0 store).queue) keeps.1.later live.1.later before
      known
    rw [if_pos (Ranked.mem_keys_ascending.mpr before.queued)] at after
    apply ih keeps.2 _ after
    · rw [Hash.grow_userId]
      exact known
    · intro later member n
      rw [Hash.grow_expiresAt]
      exact live.2 later member n

/-- Windows whose sizes are printed without an exponent. -/
structure MatchmakingOptions.Sized (options : MatchmakingOptions) : Prop where
  positive : 0 < options.initialEloWindow
  capped : options.initialEloWindow ≤ options.maxEloWindow
  grows : 0 < options.windowExpansionAmount
  printed : options.maxEloWindow ≤ 2 ^ 53

/-- The record after so many runs: the window, and the number of runs that it took. -/
structure Grown (options : MatchmakingOptions) (count : ℕ) (data : UserData) (took : ℕ) :
    Prop where
  window : data.currentEloWindow = some (windowAfter options count)
  expansions : data.expansions = some (took : ℤ)
  least : IsLeast {earlier | windowAfter options earlier = windowAfter options count} took

theorem parsePrinted_eq {number : ℤ} (nonneg : 0 ≤ number) (small : number ≤ 2 ^ 53) :
    parsePrinted number = number := by
  apply if_pos
  omega

theorem MatchmakingOptions.Sized.windowAfter_le (sized : options.Sized) {earlier later : ℕ}
    (isLater : earlier ≤ later) : windowAfter options earlier ≤ windowAfter options later := by
  have further := mul_le_mul_of_nonneg_right (Int.ofNat_le.mpr isLater) sized.grows.le
  unfold windowAfter
  omega

theorem windowAfter_succ (count : ℕ) : windowAfter options (count + 1) =
    min (options.initialEloWindow + count * options.windowExpansionAmount +
      options.windowExpansionAmount) options.maxEloWindow := by
  rw [windowAfter, Nat.cast_succ, add_mul, one_mul, add_assoc]

theorem Grown.next (sized : options.Sized) {count took : ℕ}
    (grown : Grown options count hash.data took) :
    ∃ took, Grown options (count + 1) (hash.grow options).data took := by
  have grows := sized.grows
  have further : windowAfter options count ≤ windowAfter options (count + 1) :=
    sized.windowAfter_le (Nat.le_succ count)
  have window : hash.data.window options = windowAfter options count := by
    rw [UserData.window, grown.window, Option.getD_some]
  rw [Hash.grow, window]
  split
  · rename_i full
    have same : windowAfter options (count + 1) = windowAfter options count :=
      le_antisymm ((min_le_right _ _).trans full) further
    refine ⟨took, ?_, grown.expansions, ?_⟩
    · rw [same]
      exact grown.window
    · rw [same]
      exact grown.least
  · rename_i room
    rw [not_le] at room
    have unclamped : windowAfter options count =
        options.initialEloWindow + count * options.windowExpansionAmount := by
      unfold windowAfter at room ⊢
      omega
    have steps : (took : ℤ) = count := by
      have reached : windowAfter options took = windowAfter options count := grown.least.1
      have sameSize : (took : ℤ) * options.windowExpansionAmount =
          count * options.windowExpansionAmount := by
        rw [unclamped] at reached room
        unfold windowAfter at reached
        omega
      exact mul_right_cancel₀ grows.ne' sameSize
    have few : (count : ℤ) ≤ count * options.windowExpansionAmount :=
      le_mul_of_one_le_right (Int.natCast_nonneg _) grows
    have positive := sized.positive
    have printed := sized.printed
    have next : windowAfter options (count + 1) =
        min (windowAfter options count + options.windowExpansionAmount) options.maxEloWindow := by
      rw [windowAfter_succ, unclamped]
    refine ⟨count + 1, ?_, ?_, ?_⟩
    · change some (parsePrinted (min (hash.data.window options + _) _)) = _
      rw [window, ← next, parsePrinted_eq]
      · omega
      · exact (min_le_right _ _).trans printed
    · change some (parsePrinted (hash.data.expansions.getD 0 + 1)) = _
      rw [grown.expansions, Option.getD_some, steps, parsePrinted_eq]
      · rw [Nat.cast_succ]
      · omega
      · omega
    · refine ⟨rfl, ?_⟩
      intro earlier reached
      change windowAfter options earlier = _ at reached
      by_contra before
      have below := sized.windowAfter_le (Nat.le_of_lt_succ (not_le.mp before))
      omega

/--
After some runs the window has grown by as many steps, up to the maximum, and the counter has
the number of runs that it took. The record is the one that `addToQueue` has written, and has not
expired.
-/
theorem windows_grow (options : MatchmakingOptions) (positive : 0 < options.initialEloWindow)
    (capped : options.initialEloWindow ≤ options.maxEloWindow)
    (grows : 0 < options.windowExpansionAmount) (printed : options.maxEloWindow ≤ 2 ^ 53)
    (store : Store) (userId : UserId) (socketId : String) (elo : ℤ) (joined : ℕ → ℤ) {hash : Hash}
    (found : (runAlone (addToQueue options userId socketId elo) (working joined) store).2.hashes
      userId = some hash)
    (rounds : List Round) (keeps : ∀ round ∈ rounds, Keeps userId round.meanwhile)
    (live : ∀ round ∈ rounds, hash.LiveAt round.clock) :
    ∃ (after : Hash) (took : ℕ),
      (expandAll options (runAlone (addToQueue options userId socketId elo)
        (working joined) store).2 rounds).hashes userId = some after ∧
      after.data.currentEloWindow = some (min (options.initialEloWindow +
        rounds.length * options.windowExpansionAmount) options.maxEloWindow) ∧
      after.data.expansions = some (took : ℤ) ∧
      IsLeast {count | windowAfter options count = windowAfter options rounds.length} took := by
  have data := data_addToQueue found
  have queued : ((runAlone (addToQueue options userId socketId elo) (working joined)
      store).2.queue.find userId).isSome := by
    change ((Table.insert store.queue userId elo).find userId).isSome
    simp [Table.find_insert]
  have recorded := @recorded_expandAll options userId _ _ rounds keeps live ⟨found, queued⟩
    (by rw [data]; rfl)
  have grown (count : ℕ) : ∃ took, Grown options count ((Hash.grow options)^[count] hash).data
      took := by
    induction count with
    | zero =>
      have initial : windowAfter options 0 = options.initialEloWindow := by
        rw [windowAfter, Nat.cast_zero, zero_mul, add_zero, min_eq_left capped]
      refine ⟨0, ?_, ?_, rfl, fun _ _ => Nat.zero_le _⟩
      · rw [Function.iterate_zero_apply, data, initial,
          parsePrinted_eq positive.le (capped.trans printed)]
      · rw [Function.iterate_zero_apply, data, Nat.cast_zero]
    | succ count ih =>
      rcases ih with ⟨_, grown⟩
      rw [Function.iterate_succ_apply']
      exact grown.next ⟨positive, capped, grows, printed⟩
  rcases grown rounds.length with ⟨took, window, expansions, least⟩
  exact ⟨_, took, recorded.record, window, expansions, least⟩

def quietRound : Round := ⟨fun _ => 10000, fun _ store => store⟩

def joinedStore (options : MatchmakingOptions) : Store :=
  (runAlone (addToQueue options "ann" "socket" 1200) (working fun _ => 0) emptyStore).2

theorem windows_grow_ten :
    ∃ after, (expandAll DEFAULT_OPTIONS (joinedStore DEFAULT_OPTIONS)
        (List.replicate 10 quietRound)).hashes "ann" = some after ∧
      after.data.currentEloWindow = some 500 := by
  have found : (joinedStore DEFAULT_OPTIONS).hashes "ann" = some
      ⟨⟨some "ann", some "socket", some 1200, some 0, some 100, some 0⟩, some 300000⟩ := by
    decide +kernel
  rcases windows_grow DEFAULT_OPTIONS (by decide) (by decide) (by decide) (by decide) emptyStore
    "ann" "socket" 1200 (fun _ => 0) found (List.replicate 10 quietRound)
    (fun _ member => List.eq_of_mem_replicate member ▸ fun _ _ => ⟨rfl, rfl⟩)
    (fun _ member => List.eq_of_mem_replicate member ▸ fun _ => rfl) with
    ⟨after, _, expanded, window, _⟩
  exact ⟨after, expanded, window⟩

def largeWindows : MatchmakingOptions :=
  { DEFAULT_OPTIONS with
    initialEloWindow := 1, maxEloWindow := 10 ^ 21, windowExpansionAmount := 10 ^ 21 }

/-- The maximum is printed as 1e+21 and read as 1, so the second run expands a window of the final
size. -/
theorem large_window_grows_again :
    windowAfter largeWindows 1 = windowAfter largeWindows 2 ∧
      ((expandAll largeWindows (joinedStore largeWindows) [quietRound, quietRound]).hashes
        "ann").map (fun hash => hash.data.expansions) = some (some 2) := by
  decide +kernel

end CodeClash.Enhanced.Matchmaking
