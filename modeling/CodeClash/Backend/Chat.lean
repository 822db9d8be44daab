import Mathlib.Data.Int.Notation
import Mathlib.Data.List.Basic
import Mathlib.Data.List.Induction

/-!
# The chat of the spectators

`storeChatMessage` and `getChatHistory` of `packages/backend/src/services/spectator.service.ts`. A
message is pushed to the front of a list, which is cut off after a hundred, and the history is read
from the end of the list. Messages stand for their JSON texts, and the list does not expire.
-/

namespace CodeClash.Backend

structure SpectatorChat where
  id : String
  battleId : String
  spectatorId : String
  spectatorUsername : String
  message : String
  timestamp : ℤ
deriving DecidableEq, Repr

/-- A position that is negative counts from the end of the list. -/
def position (length : ℕ) (index : ℤ) : ℤ := if index < 0 then length + index else index

def lRange {α : Type} (list : List α) (start stop : ℤ) : List α :=
  let first := (position list.length start).toNat
  (list.drop first).take (position list.length stop + 1 - first).toNat

def lPush {α : Type} (list : List α) (value : α) : List α := value :: list

def lTrim {α : Type} (list : List α) (start stop : ℤ) : List α := lRange list start stop

abbrev Lists := String → List SpectatorChat

def chatKey (battleId : String) : String := "spectator_chat:" ++ battleId

def storeChatMessage (lists : Lists) (battleId : String) (message : SpectatorChat) : Lists :=
  Function.update lists (chatKey battleId) (lTrim (lPush (lists (chatKey battleId)) message) 0 99)

def getChatHistory (lists : Lists) (battleId : String) (limit : ℤ) : List SpectatorChat :=
  (lRange (lists (chatKey battleId)) (-limit) (-1)).reverse

def storeAll (stored : List (String × SpectatorChat)) : Lists :=
  stored.foldl (fun lists chat => storeChatMessage lists chat.1 chat.2) fun _ => []

def latest {α : Type} (limit : ℕ) (messages : List α) : List α :=
  messages.drop (messages.length - limit)

def messagesOf (battleId : String) (stored : List (String × SpectatorChat)) : List SpectatorChat :=
  (stored.filter (·.1 = battleId)).map Prod.snd

/-- Every element comes again after the period, as far as the list goes. -/
def Repeats {α : Type} (period : ℕ) (list : List α) : Prop :=
  ∀ i, i + period < list.length → list[i]? = list[i + period]?

section Lists

variable {α : Type} {list : List α} {limit : ℕ}

theorem lRange_front (stop : ℕ) : lRange list 0 stop = list.take (stop + 1) := by
  have bound : (position list.length stop + 1 - ((position list.length 0).toNat : ℤ)).toNat =
      stop + 1 := by
    simp only [position]
    omega
  rw [lRange, bound]
  simp [position]

theorem lRange_back (positive : 1 ≤ limit) :
    lRange list (-limit) (-1) = list.drop (list.length - limit) := by
  have first : (position list.length (-limit)).toNat = list.length - limit := by
    simp only [position]
    omega
  have bound : (position list.length (-1) + 1 - ((list.length - limit : ℕ) : ℤ)).toNat =
      (list.drop (list.length - limit)).length := by
    simp only [position, List.length_drop]
    omega
  rw [lRange, first, bound, List.take_length]

theorem latest_append_singleton (messages : List α) (message : α) :
    (message :: (latest limit messages).reverse).take limit =
      (latest limit (messages ++ [message])).reverse := by
  cases limit with
  | zero => simp [latest]
  | succ limit =>
    rw [List.take_succ_cons, latest, latest, List.take_reverse, List.drop_drop, List.length_drop,
      List.length_append, List.length_singleton, List.drop_append_of_le_length (by omega)]
    have same : messages.length - (limit + 1) +
        (messages.length - (messages.length - (limit + 1)) - limit) =
        messages.length + 1 - (limit + 1) := by
      omega
    rw [same, List.reverse_append]
    rfl

theorem latest_latest {bound : ℕ} (le : limit ≤ bound) (messages : List α) :
    latest limit (latest bound messages) = latest limit messages := by
  simp only [latest, List.drop_drop, List.length_drop]
  congr 1
  omega

theorem take_eq_latest_iff :
    list.take limit = latest limit list ↔ Repeats (list.length - limit) list := by
  by_cases all : list.length ≤ limit
  · rw [List.take_of_length_le all, latest, Nat.sub_eq_zero_of_le all]
    exact iff_of_true rfl fun _ _ => rfl
  · constructor
    · intro same i inside
      have entry := congrArg (·[i]?) same
      simp only [latest, List.getElem?_drop, List.getElem?_take] at entry
      rw [if_pos (by omega)] at entry
      rw [entry, Nat.add_comm]
    · intro repeats
      apply List.ext_getElem?
      intro i
      simp only [latest, List.getElem?_drop, List.getElem?_take]
      split_ifs with inside
      · rw [repeats i (by omega), Nat.add_comm]
      · exact (List.getElem?_eq_none (by omega)).symm

end Lists

theorem chatKey_inj {battleId other : String} : chatKey battleId = chatKey other ↔
    battleId = other := by
  simp [chatKey]

theorem storeAll_eq (stored : List (String × SpectatorChat)) (battleId : String) :
    storeAll stored (chatKey battleId) = (latest 100 (messagesOf battleId stored)).reverse := by
  induction stored using List.reverseRecOn with
  | nil => rfl
  | append_singleton stored chat ih =>
    rw [storeAll, List.foldl_append, ← storeAll, List.foldl_cons, List.foldl_nil, storeChatMessage]
    by_cases same : chat.1 = battleId
    · have kept := @latest_append_singleton _ 100 (messagesOf battleId stored) chat.2
      rw [same, Function.update_self, ih, lTrim, lPush]
      exact (lRange_front 99).trans (kept.trans (by simp [messagesOf, same]))
    · have differs : chatKey battleId ≠ chatKey chat.1 := fun equal =>
        same (chatKey_inj.mp equal).symm
      rw [Function.update_of_ne differs, ih]
      simp [messagesOf, same]

theorem getChatHistory_eq (stored : List (String × SpectatorChat)) (battleId : String) {limit : ℕ}
    (positive : 1 ≤ limit) :
    getChatHistory (storeAll stored) battleId limit =
      (latest 100 (messagesOf battleId stored)).take limit := by
  rw [getChatHistory, lRange_back positive, storeAll_eq, List.drop_reverse, List.reverse_reverse,
    List.length_reverse]
  generalize latest 100 (messagesOf battleId stored) = kept
  by_cases all : kept.length ≤ limit
  · rw [List.take_of_length_le all, List.take_of_length_le (by omega)]
  · congr 1
    omega

/-- The history shows the latest messages exactly if all messages that are kept fit into it, or if
they repeat themselves. -/
theorem getChatHistory_latest_iff (stored : List (String × SpectatorChat)) (battleId : String)
    (limit : ℕ) (positive : 1 ≤ limit) (bounded : limit ≤ 100) :
    getChatHistory (storeAll stored) battleId limit = latest limit (messagesOf battleId stored) ↔
      (messagesOf battleId stored).length ≤ limit ∨ limit = 100 ∨
        Repeats (min (messagesOf battleId stored).length 100 - limit)
          (latest 100 (messagesOf battleId stored)) := by
  have length : (latest 100 (messagesOf battleId stored)).length =
      min (messagesOf battleId stored).length 100 := by
    simp only [latest, List.length_drop]
    omega
  rw [getChatHistory_eq stored battleId positive, ← latest_latest bounded, take_eq_latest_iff,
    length]
  constructor
  · intro repeats
    exact Or.inr (Or.inr repeats)
  · rintro (fits | full | repeats)
    · rw [Nat.sub_eq_zero_of_le (by omega)]
      exact fun _ _ => rfl
    · rw [Nat.sub_eq_zero_of_le (by omega)]
      exact fun _ _ => rfl
    · exact repeats

def sampleChat (id : String) : SpectatorChat := ⟨id, "b", "s", "spectator", "hello", 0⟩

theorem getChatHistory_latest_pair :
    getChatHistory (storeAll [("b", sampleChat "1"), ("b", sampleChat "2")]) "b" (2 : ℕ) =
      latest 2 (messagesOf "b" [("b", sampleChat "1"), ("b", sampleChat "2")]) :=
  (getChatHistory_latest_iff _ "b" 2 (by decide) (by decide)).mpr (Or.inl (by decide))

/-- Of two messages the history of length one shows the older one. -/
theorem getChatHistory_shows_oldest :
    getChatHistory (storeAll [("b", sampleChat "1"), ("b", sampleChat "2")]) "b" 1 =
        [sampleChat "1"] ∧
      latest 1 (messagesOf "b" [("b", sampleChat "1"), ("b", sampleChat "2")]) =
        [sampleChat "2"] := by
  decide

end CodeClash.Backend
