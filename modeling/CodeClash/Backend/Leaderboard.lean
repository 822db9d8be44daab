import CodeClash.Keys.Ranked
import Mathlib.Algebra.Order.Floor.Ring
import Mathlib.Data.List.Infix
import Mathlib.Data.Rat.Floor
import Mathlib.Data.String.Basic

/-!
# Pages of the leaderboard

`getLeaderboard` and `getUserRank` of `packages/backend/src/services/leaderboard.service.ts`, on
boards that do not change. How Redis writes a score and how `parseInt` reads it back is arbitrary,
and so is the search for names. A number that is none is `none`. Icons and colours are left out.
-/

namespace CodeClash.Backend.Leaderboard

open Keys

structure User where
  username : String
  battlesWon : ℕ
  battlesLost : ℕ
deriving DecidableEq

structure RankTier where
  name : String
  minElo : ℤ
  maxElo : Option ℤ
deriving DecidableEq

def STONE : RankTier := ⟨"Stone", 0, some 899⟩

def RANK_TIERS : List RankTier :=
  [STONE, ⟨"Bronze", 900, some 1099⟩, ⟨"Silver", 1100, some 1299⟩, ⟨"Gold", 1300, some 1499⟩,
    ⟨"Diamond", 1500, some 1699⟩, ⟨"Grandmaster", 1700, none⟩]

def getRankTier (elo : Option ℤ) : RankTier :=
  let isIn (tier : RankTier) := elo.any fun elo => tier.minElo ≤ elo && tier.maxElo.all (elo ≤ ·)
  (RANK_TIERS.find? isIn).getD STONE

structure LeaderboardEntry where
  userId : String
  username : String
  rank : ℕ
  elo : Option ℤ
  battlesWon : ℕ
  battlesLost : ℕ
  winRate : ℚ
  rankTier : RankTier
  isCurrentUser : Bool
deriving DecidableEq

def User.winRate (user : User) : ℚ :=
  let battles : ℚ := user.battlesWon + user.battlesLost
  let winRate := if battles > 0 then user.battlesWon / battles * 100 else 0
  ⌊winRate * 100 + 1 / 2⌋ / 100

def User.entry (user : User) (userId : String) (rank : ℕ) (elo : Option ℤ)
    (isCurrentUser : Bool) : LeaderboardEntry :=
  ⟨userId, user.username, rank, elo, user.battlesWon, user.battlesLost, user.winRate,
    getRankTier elo, isCurrentUser⟩

inductive LeaderboardType where
  | season | alltime | weekly
deriving DecidableEq

structure LeaderboardQuery where
  type : LeaderboardType
  page : ℕ
  limit : ℕ
  search : String
deriving DecidableEq

structure LeaderboardResponse where
  entries : List LeaderboardEntry
  userRank : Option LeaderboardEntry
  totalPages : ℕ
  currentPage : ℕ
  totalPlayers : ℕ
deriving DecidableEq

structure Services where
  boards : String → Option (Ranked String)
  users : String → Option User
  currentSeason : String
  scoreText : ℤ → String
  parseInt : String → Option ℤ
  includes : String → String → Bool

namespace Services

variable (services : Services)

def key : LeaderboardType → String
  | .season => "leaderboard:season:" ++ services.currentSeason
  | .alltime => "leaderboard:alltime"
  | .weekly => "leaderboard:weekly"

def descending (type : LeaderboardType) : List (String × ℤ) :=
  (((services.boards (services.key type)).map Ranked.ascending).getD []).reverse

def zrevrange (type : LeaderboardType) (start stop : ℕ) : List String :=
  (((services.descending type).drop start).take (stop + 1 - start)).flatMap fun entry =>
    [entry.1, services.scoreText entry.2]

def zrevrank (type : LeaderboardType) (userId : String) : Option ℕ :=
  ((services.descending type).map Prod.fst).idxOf? userId

def zscore (type : LeaderboardType) (userId : String) : Option ℤ :=
  Ranked.scoreOf (services.boards (services.key type)) userId

def getUserRank (userId : String) (type : LeaderboardType) : Option LeaderboardEntry := do
  let rank ← services.zrevrank type userId
  let elo ← services.zscore type userId
  let user ← services.users userId
  return user.entry userId (rank + 1) (some elo) true

/-- The loop over the members and their scores, from a position of the reply on. -/
def readEntries (search : String) (currentUserId : Option String) (offset : ℕ) :
    ℕ → List String → List LeaderboardEntry
  | i, userId :: score :: rest =>
    let others := readEntries search currentUserId offset (i + 2) rest
    match services.users userId with
    | none => others
    | some user =>
      if search ≠ "" ∧ services.includes user.username search = false then others
      else
        user.entry userId (offset + i / 2 + 1) (services.parseInt score)
          (some userId = currentUserId) :: others
  | _, _ => []

def getLeaderboard (query : LeaderboardQuery) (currentUserId : Option String) :
    LeaderboardResponse :=
  let offset := (query.page - 1) * query.limit
  let totalPlayers := Ranked.zCard (services.boards (services.key query.type))
  let entries := services.zrevrange query.type offset (offset + query.limit - 1)
  { entries := services.readEntries query.search currentUserId offset 0 entries
    userRank := (currentUserId.filter (· ≠ "")).bind (services.getUserRank · query.type)
    totalPages := (totalPlayers + query.limit - 1) / query.limit
    currentPage := query.page
    totalPlayers := totalPlayers }

def pages (type : LeaderboardType) (limit : ℕ) (currentUserId : Option String) :
    List (List LeaderboardEntry) :=
  (List.range (services.getLeaderboard ⟨type, 1, limit, ""⟩ currentUserId).totalPages).map
    fun page => (services.getLeaderboard ⟨type, page + 1, limit, ""⟩ currentUserId).entries

end Services

structure Tiles (services : Services) (type : LeaderboardType) (limit : ℕ)
    (pages : List (List LeaderboardEntry)) : Prop where
  once : (pages.flatten.map LeaderboardEntry.userId).Nodup
  all : ∀ userId, userId ∈ pages.flatten.map LeaderboardEntry.userId ↔
    (services.zscore type userId).isSome
  ordered : (pages.flatten.map LeaderboardEntry.userId).Pairwise fun first second =>
    ∀ higher lower, services.zscore type first = some higher →
      services.zscore type second = some lower → lower ≤ higher
  ranks : pages.flatten.map LeaderboardEntry.rank =
    List.range' 1 (Ranked.zCard (services.boards (services.key type)))
  full : ∀ page ∈ pages.dropLast, page.length = limit
  agree : ∀ entry ∈ pages.flatten,
    (services.getUserRank entry.userId type).map LeaderboardEntry.rank = some entry.rank

variable {services : Services} {type : LeaderboardType} {limit : ℕ} {currentUserId : Option String}

theorem mem_descending {userId : String} {score : ℤ} :
    (userId, score) ∈ services.descending type ↔ services.zscore type userId = some score := by
  rw [Services.descending, Services.zscore, List.mem_reverse, Ranked.scoreOf]
  cases services.boards (services.key type) with
  | none => simp
  | some members => exact Ranked.mem_ascending

theorem descending_nodup : ((services.descending type).map Prod.fst).Nodup := by
  rw [Services.descending, List.map_reverse, List.nodup_reverse]
  cases services.boards (services.key type) with
  | none => exact List.nodup_nil
  | some members => exact Ranked.ascending_nodup members

theorem length_descending :
    (services.descending type).length =
      Ranked.zCard (services.boards (services.key type)) := by
  refine (Ranked.zCard_eq_length descending_nodup ?_).symm
  exact fun _ _ => mem_descending.symm

theorem descending_ordered :
    (services.descending type).Pairwise fun first second => second.2 ≤ first.2 := by
  rw [Services.descending, List.pairwise_reverse]
  cases services.boards (services.key type) with
  | none => exact List.Pairwise.nil
  | some members => exact Ranked.ascending_ordered members

theorem zrevrank_eq {userId : String} {score : ℤ} {position : ℕ}
    (found : (services.descending type)[position]? = some (userId, score)) :
    services.zrevrank type userId = some position := by
  have listed : ((services.descending type).map Prod.fst)[position]? = some userId := by
    rw [List.getElem?_map, found]
    rfl
  rcases List.getElem?_eq_some_iff.mp listed with ⟨bound, rfl⟩
  rw [Services.zrevrank, List.idxOf?_eq_some_iff]
  refine ⟨bound, rfl, fun earlier less same => ?_⟩
  exact less.ne (descending_nodup.getElem_inj_iff.mp same)

def shown (services : Services) (currentUserId : Option String) (entry : (String × ℤ) × ℕ) :
    LeaderboardEntry :=
  ((services.users entry.1.1).getD ⟨"", 0, 0⟩).entry entry.1.1 entry.2
    (services.parseInt (services.scoreText entry.1.2)) (some entry.1.1 = currentUserId)

theorem readEntries_eq (offset i : ℕ) (members : List (String × ℤ))
    (exist : ∀ entry ∈ members, (services.users entry.1).isSome) :
    services.readEntries "" currentUserId offset (2 * i)
        (members.flatMap fun entry => [entry.1, services.scoreText entry.2]) =
      (members.zipIdx (offset + i + 1)).map (shown services currentUserId) := by
  induction members generalizing i with
  | nil => rfl
  | cons entry members ih =>
    rcases Option.isSome_iff_exists.mp (exist entry List.mem_cons_self) with ⟨user, found⟩
    have rest := ih (i + 1) fun entry member => exist entry (List.mem_cons_of_mem _ member)
    rw [List.flatMap_cons, List.zipIdx_cons, List.map_cons]
    simp only [List.cons_append, List.nil_append, Services.readEntries, found, ne_eq,
      not_true_eq_false, false_and, if_false, shown, Option.getD_some]
    rw [show 2 * i + 2 = 2 * (i + 1) by ring, rest, Nat.mul_div_cancel_left i two_pos]
    rfl

section Existing

variable (exist : ∀ userId, (services.zscore type userId).isSome → (services.users userId).isSome)

include exist

theorem page_eq (positive : 1 ≤ limit) (page : ℕ) :
    (services.getLeaderboard ⟨type, page + 1, limit, ""⟩ currentUserId).entries =
      ((((services.descending type).drop (page * limit)).take limit).zipIdx
        (page * limit + 1)).map (shown services currentUserId) := by
  have width : page * limit + limit - 1 + 1 - page * limit = limit := by omega
  simp only [Services.getLeaderboard, Services.zrevrange, Nat.add_sub_cancel, width]
  refine readEntries_eq (page * limit) 0 _ fun entry member => exist entry.1 ?_
  rw [mem_descending.mp (List.mem_of_mem_drop (List.mem_of_mem_take member))]
  rfl

theorem flatten_pages (positive : 1 ≤ limit) (count : ℕ) :
    ((List.range count).map fun page =>
        (services.getLeaderboard ⟨type, page + 1, limit, ""⟩ currentUserId).entries).flatten =
      (((services.descending type).take (count * limit)).zipIdx 1).map
        (shown services currentUserId) := by
  induction count with
  | zero => simp
  | succ count ih =>
    rw [List.range_succ, List.map_append, List.flatten_append, ih, Nat.succ_mul, List.take_add,
      List.zipIdx_append, List.map_append, List.map_singleton, List.flatten_singleton,
      page_eq exist positive]
    congr 2
    by_cases within : count * limit ≤ (services.descending type).length
    · rw [List.length_take_of_le within, Nat.add_comm]
    · rw [List.drop_eq_nil_of_le (by omega)]
      simp

theorem flatten_all_pages (positive : 1 ≤ limit) :
    (services.pages type limit currentUserId).flatten =
      ((services.descending type).zipIdx 1).map (shown services currentUserId) := by
  rw [Services.pages, flatten_pages exist positive, List.take_of_length_le]
  rw [length_descending]
  simp only [Services.getLeaderboard]
  have covers := Nat.lt_div_mul_add (a := Ranked.zCard (services.boards (services.key type)) +
    limit - 1) positive
  omega

theorem length_page (positive : 1 ≤ limit) :
    ∀ page ∈ (services.pages type limit currentUserId).dropLast, page.length = limit := by
  intro page member
  rw [Services.pages, List.dropLast_eq_take, ← List.map_take, List.take_range] at member
  rcases List.mem_map.mp member with ⟨number, inRange, rfl⟩
  rw [page_eq exist positive, List.length_map, List.length_zipIdx, List.length_take,
    List.length_drop, length_descending]
  simp only [Services.getLeaderboard, List.length_map, List.length_range, List.mem_range] at inRange
  have later : number + 2 ≤ (Ranked.zCard (services.boards (services.key type)) + limit - 1) /
      limit := by
    omega
  rw [Nat.le_div_iff_mul_le positive, Nat.add_mul] at later
  omega

theorem getUserRank_eq (positive : 1 ≤ limit) {entry : LeaderboardEntry}
    (member : entry ∈ (services.pages type limit currentUserId).flatten) :
    (services.getUserRank entry.userId type).map LeaderboardEntry.rank = some entry.rank := by
  rw [flatten_all_pages exist positive] at member
  rcases List.mem_map.mp member with ⟨⟨⟨userId, score⟩, rank⟩, listed, rfl⟩
  rcases List.mem_zipIdx listed with ⟨first, last, same⟩
  have found : (services.descending type)[rank - 1]? = some (userId, score) := by
    rw [same, List.getElem?_eq_getElem]
  have scored := mem_descending.mp (List.mem_of_getElem? found)
  rcases Option.isSome_iff_exists.mp (exist userId (by rw [scored]; rfl)) with ⟨user, isUser⟩
  have isRank : rank - 1 + 1 = rank := by omega
  simp [Services.getUserRank, shown, User.entry, zrevrank_eq found, scored, isUser, isRank]

theorem users_eq (positive : 1 ≤ limit) :
    (services.pages type limit currentUserId).flatten.map LeaderboardEntry.userId =
      (services.descending type).map Prod.fst := by
  have users := congrArg (List.map Prod.fst) (List.zipIdx_map_fst 1 (services.descending type))
  rw [List.map_map] at users
  rw [flatten_all_pages exist positive, List.map_map]
  exact users

end Existing

theorem leaderboard_pages_tile (services : Services) (type : LeaderboardType) (limit : ℕ)
    (currentUserId : Option String) (positive : 1 ≤ limit)
    (exist : ∀ userId, (services.zscore type userId).isSome → (services.users userId).isSome) :
    Tiles services type limit (services.pages type limit currentUserId) := by
  have users := @users_eq _ _ _ currentUserId exist positive
  refine ⟨?_, ?_, ?_, ?_, length_page exist positive, fun _ => getUserRank_eq exist positive⟩
  · rw [users]
    exact descending_nodup
  · intro userId
    rw [users, List.mem_map, Option.isSome_iff_exists]
    simp [mem_descending]
  · rw [users, List.pairwise_map]
    refine descending_ordered.imp_of_mem ?_
    intro first second isFirst isSecond le higher lower isHigher isLower
    rw [mem_descending.mp isFirst, Option.some.injEq] at isHigher
    rw [mem_descending.mp isSecond, Option.some.injEq] at isLower
    rwa [isHigher, isLower] at le
  · rw [flatten_all_pages exist positive, List.map_map, ← length_descending]
    exact List.zipIdx_map_snd 1 _

def sampleServices : Services where
  boards _ := some ((Table.empty.insert "ada" 1200).insert "bob" 900)
  users _ := some ⟨"TestUser", 8, 3⟩
  currentSeason := "season_1"
  scoreText := toString
  parseInt := String.toInt?
  includes username search := search.toLower.toList <:+: username.toLower.toList

theorem leaderboard_pages_tile_pair :
    Tiles sampleServices .alltime 1 (sampleServices.pages .alltime 1 none) :=
  leaderboard_pages_tile sampleServices .alltime 1 none (le_refl 1) fun _ _ => rfl

end CodeClash.Backend.Leaderboard
