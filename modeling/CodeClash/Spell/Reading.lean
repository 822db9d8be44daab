import CodeClash.Spell.Economy

/-!
# Reading the mana

`getMana` restores one unit for each six seconds since the last regeneration, rounded down, and then
takes the moment of the read for the last regeneration. What has been rounded away is lost, so a
player who looks at the mana often regenerates more slowly.
-/

namespace CodeClash.Spell

open Battle (UserId RoomId)

section Reads

variable (roomId : RoomId) (userId : UserId)

def readAt (now : ℤ) (store : Store) : ManaState × Store :=
  alone (fun _ => ⟨now, 0, false⟩) (getMana roomId userId) store

def readAll (times : List ℤ) (store : Store) : Store :=
  times.foldl (fun store now => (readAt roomId userId now store).2) store

end Reads

/-- The units restored by reads at the given moments and a last read at `t`. -/
def restored (last : ℤ) (t : ℤ) : List ℤ → ℤ
  | [] => (t - last) / 6000
  | now :: times =>
    if now - last < 6000 then restored last t times
    else (now - last) / 6000 + restored now t times

def lost (last : ℤ) (t : ℤ) : List ℤ → ℤ
  | [] => (t - last) % 6000
  | now :: times =>
    if now - last < 6000 then lost last t times else (now - last) % 6000 + lost now t times

theorem restored_add_lost (last t : ℤ) (times : List ℤ) :
    6000 * restored last t times + lost last t times = t - last := by
  induction times generalizing last with
  | nil =>
    rw [restored, lost]
    omega
  | cons now _ ih =>
    rw [restored, lost]
    split_ifs
    · exact ih last
    · have later := ih now
      omega

theorem restored_of_soon {last t : ℤ} {times : List ℤ} (soon : t - last < 6000)
    (earlier : ∀ now ∈ times, now ≤ t) : restored last t times = (t - last) / 6000 := by
  induction times with
  | nil => rfl
  | cons _ _ ih =>
    rcases List.forall_mem_cons.mp earlier with ⟨_, rest⟩
    rw [restored, if_pos (by omega)]
    exact ih rest

theorem restored_nonneg {last t : ℤ} {times : List ℤ} (past : last ≤ t)
    (earlier : ∀ now ∈ times, now ≤ t) : 0 ≤ restored last t times := by
  induction times generalizing last with
  | nil =>
    rw [restored]
    omega
  | cons _ _ ih =>
    rcases List.forall_mem_cons.mp earlier with ⟨first, rest⟩
    rw [restored]
    split_ifs
    · exact ih past rest
    · have later := ih first rest
      omega

theorem lost_nonneg (last t : ℤ) (times : List ℤ) : 0 ≤ lost last t times := by
  induction times generalizing last with
  | nil =>
    rw [lost]
    omega
  | cons now _ ih =>
    rw [lost]
    split_ifs
    · exact ih last
    · have later := ih now
      omega

namespace ManaState

/-- The record that `getMana` returns and leaves. -/
def refresh (mana : ManaState) (now : ℤ) : ManaState :=
  if 0 < mana.regenAmount now then mana.regenerate now else mana

variable {mana : ManaState} {now t : ℤ}

theorem refresh_of_soon (soon : now - mana.lastRegenAt < 6000) : mana.refresh now = mana := by
  rw [refresh, regenAmount_eq, if_neg (by omega)]

theorem refresh_of_due (due : ¬now - mana.lastRegenAt < 6000) :
    mana.refresh now = mana.regenerate now := by
  rw [refresh, regenAmount_eq, if_pos (by omega)]

theorem current_refresh_foldl {times : List ℤ} (earlier : ∀ now ∈ times, now ≤ t) :
    ((times.foldl refresh mana).refresh t).current =
      if t - mana.lastRegenAt < 6000 then mana.current
      else some (min mana.max (mana.current.getD 0 + restored mana.lastRegenAt t times)) := by
  induction times generalizing mana with
  | nil =>
    rw [List.foldl_nil, restored]
    split_ifs with soon
    · rw [refresh_of_soon soon]
    · rw [refresh_of_due soon, regenerate, regenAmount_eq]
  | cons now _ ih =>
    rcases List.forall_mem_cons.mp earlier with ⟨first, rest⟩
    rw [List.foldl_cons, ih rest, restored]
    by_cases soon : now - mana.lastRegenAt < 6000
    · rw [refresh_of_soon soon, if_pos soon]
    · have due : ¬t - mana.lastRegenAt < 6000 := by omega
      rw [refresh_of_due soon, if_neg soon, if_neg due]
      simp only [regenerate, regenAmount_eq, Option.getD_some]
      split_ifs with soonAfter
      · rw [restored_of_soon soonAfter rest]
        congr 1
        omega
      · have later := restored_nonneg first rest
        congr 1
        omega

end ManaState

section Stored

variable {roomId : RoomId} {userId : UserId} {store : Store} {mana : ManaState} {written : ℤ}

theorem readAt_setMana {now : ℤ} (alive : now < written + 7200000) :
    ∃ later, (later = written ∨ later = now) ∧
      readAt roomId userId now (store.setMana written roomId userId mana) =
        (mana.refresh now, store.setMana later roomId userId (mana.refresh now)) := by
  have found : (store.setMana written roomId userId mana).mana.get now (manaKey roomId userId) =
      some mana :=
    Keys.Expiring.get_eq_some_iff.mpr ⟨_, alive, Keys.Expiring.setEx_self _ _⟩
  rw [readAt, getMana_reading, reading]
  simp only [found, ManaState.refresh]
  split_ifs
  · refine ⟨now, Or.inr rfl, ?_⟩
    simp [Store.setMana]
  · exact ⟨written, Or.inl rfl, rfl⟩

theorem readAll_setMana {first : ℤ} {times : List ℤ} (past : first ≤ written)
    (between : ∀ now ∈ times, first ≤ now ∧ now < first + 7200000) :
    ∃ later, first ≤ later ∧
      readAll roomId userId times (store.setMana written roomId userId mana) =
        store.setMana later roomId userId (times.foldl ManaState.refresh mana) := by
  induction times generalizing written mana with
  | nil => exact ⟨written, past, rfl⟩
  | cons now _ ih =>
    rcases List.forall_mem_cons.mp between with ⟨⟨_, _⟩, rest⟩
    rcases @readAt_setMana roomId userId store mana written now (by omega) with
      ⟨rewritten, chosen, read⟩
    rw [readAll, List.foldl_cons, read, List.foldl_cons]
    exact ih (by omega) rest

theorem readAt_readAll {t : ℤ} {times : List ℤ} (past : written ≤ t)
    (alive : t < written + 7200000) (between : ∀ now ∈ times, written ≤ now ∧ now ≤ t) :
    (readAt roomId userId t (readAll roomId userId times
      (store.setMana written roomId userId mana))).1 =
        (times.foldl ManaState.refresh mana).refresh t := by
  rcases @readAll_setMana roomId userId store mana written written times le_rfl
    (fun now read => ⟨(between now read).1, by have := (between now read).2; omega⟩) with
    ⟨later, lives, reads⟩
  rcases @readAt_setMana roomId userId store (times.foldl ManaState.refresh mana) later t
    (by omega) with ⟨_, _, read⟩
  rw [reads, read]

end Stored

/--
Mana is stored and not yet expired at `t`. Reads in between do not change the current mana that
is read at `t` exactly if they lose less than a unit altogether, or if the time that they do not
lose fills the bar.
-/
theorem reads_harmless_iff (roomId : RoomId) (userId : UserId) (store : Store) (mana : ManaState)
    {written t : ℤ} {times : List ℤ} (past : written ≤ t) (alive : t < written + 7200000)
    (between : ∀ now ∈ times, written ≤ now ∧ now ≤ t) :
    (readAt roomId userId t (readAll roomId userId times
        (store.setMana written roomId userId mana))).1.current =
      (readAt roomId userId t (store.setMana written roomId userId mana)).1.current ↔
    lost mana.lastRegenAt t times < 6000 ∨
      mana.max ≤ mana.current.getD 0 +
        (t - mana.lastRegenAt - lost mana.lastRegenAt t times) / 6000 := by
  have earlier : ∀ now ∈ times, now ≤ t := fun now read => (between now read).2
  have reads := @readAt_readAll roomId userId store mana written t times past alive between
  have noReads := @readAt_readAll roomId userId store mana written t [] past alive
    (List.forall_mem_nil _)
  rw [readAll, List.foldl_nil] at noReads
  rw [reads, noReads, ManaState.current_refresh_foldl earlier,
    ManaState.current_refresh_foldl (List.forall_mem_nil _), restored]
  have account := restored_add_lost mana.lastRegenAt t times
  have nonneg := lost_nonneg mana.lastRegenAt t times
  split_ifs with soon
  · have nothing := restored_of_soon soon earlier
    refine iff_of_true rfl (Or.inl ?_)
    omega
  · rw [Option.some.injEq]
    omega

def halfMana : ManaState := ⟨some 50, 100, 0⟩

theorem read_on_time :
    (readAt "room" "ann" 12000 (readAll "room" "ann" [6000]
        (emptyStore.setMana 0 "room" "ann" halfMana))).1.current =
      (readAt "room" "ann" 12000 (emptyStore.setMana 0 "room" "ann" halfMana)).1.current :=
  (reads_harmless_iff "room" "ann" emptyStore halfMana (by decide) (by decide) (by decide)).mpr
    (Or.inl (by decide))

/-- A read after nine seconds costs a unit: 51 instead of 52 after twelve seconds. -/
theorem read_too_late :
    (readAt "room" "ann" 12000 (readAll "room" "ann" [9000]
        (emptyStore.setMana 0 "room" "ann" halfMana))).1.current = some 51 ∧
      (readAt "room" "ann" 12000 (emptyStore.setMana 0 "room" "ann" halfMana)).1.current =
        some 52 := by
  decide +kernel

end CodeClash.Spell
