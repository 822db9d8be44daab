import CodeClash.Async.Services
import Mathlib.Algebra.Order.Round
import Mathlib.Data.List.Dedup
import Mathlib.Data.Rat.Floor
import Mathlib.Tactic.Linarith
import Mathlib.Tactic.Positivity

/-!
# Fraud detection

The analysis of a user in `services/judge/src/utils/fraudDetection.ts`. A query without an order
returns the rows in the order of the table. An alert is modelled without its description, evidence
and timestamp. Powers of ten and the local hour of a time are parameters, and arithmetic is exact.
-/

namespace CodeClash.Judge.Fraud

open Async

structure FraudDetectionConfig where
  maxBattlesVsSameOpponentPerDay : ℚ
  maxWinRateForLowElo : ℚ
  lowEloThreshold : ℚ
  minBattlesForAnalysis : ℕ
  maxEloChangePerDay : ℚ
  suspiciousPatternThreshold : ℚ

def DEFAULT_FRAUD_CONFIG : FraudDetectionConfig := ⟨5, 9 / 10, 1200, 10, 200, 7 / 10⟩

inductive AlertType where
  | excessiveSameOpponent
  | suspiciousWinRate
  | rapidEloChange
  | unusualPattern
deriving DecidableEq

inductive Severity where
  | medium
  | high
  | critical
deriving DecidableEq

structure FraudAlert where
  userId : String
  username : String
  alertType : AlertType
  severity : Severity
  confidence : ℚ
deriving DecidableEq

structure User where
  id : String
  username : String
  elo : ℤ

structure Match where
  player1Id : String
  player2Id : String
  completed : Bool
  winnerId : Option String
  endedAt : Option ℤ

def Match.opponentOf (battle : Match) (userId : String) : String :=
  if battle.player1Id = userId then battle.player2Id else battle.player1Id

def Match.wonBy (battle : Match) (userId : String) : Bool := battle.winnerId = some userId

structure Database where
  users : List User
  history : List Match

structure Query where
  userId : String
  since : ℤ
  ascending : Bool
  take : Option ℕ

def Query.rows (query : Query) (database : Database) : List Match :=
  let found := database.history.filter fun battle =>
    (battle.player1Id = query.userId || battle.player2Id = query.userId) && battle.completed &&
      battle.endedAt.any fun endedAt => query.since ≤ endedAt
  let ordered := if query.ascending then
      found.mergeSort fun earlier later => earlier.endedAt.getD 0 ≤ later.endedAt.getD 0
    else found
  match query.take with
  | none => ordered
  | some count => ordered.take count

inductive Sense where
  | now

inductive Cmd where
  | findUser (id : String)
  | findMatches (query : Query)

abbrev Cmd.Value : Cmd → Type
  | .findUser _ => Option User
  | .findMatches _ => List Match

/-- What is thrown: a query failed, or the user was not found. -/
inductive Failure where
  | rejected
  | userNotFound

abbrev services : Services where
  Sense := Sense
  Sensed := fun _ => ℤ
  Cmd := Cmd
  Value := Cmd.Value
  Failure := Failure

abbrev Prog (α : Type) := services.Prog α

abbrev call (cmd : Cmd) : Prog cmd.Value := @Services.call services cmd

abbrev now : Prog ℤ := Throwing.ask (@Services.sense services .now)

structure Choice where
  now : ℤ
  fails : Bool

def backend : services.Backend Database Choice where
  sensed _ choice := choice.now
  failure? _ choice := if choice.fails then some .rejected else none
  value
    | .findUser id, _, database => database.users.find? fun user => user.id = id
    | .findMatches query, _, database => query.rows database
  write _ _ database := database

section Checks

variable (config : FraudDetectionConfig) (user : User)

def day : ℤ := 24 * 60 * 60 * 1000

def raise (alertType : AlertType) (severity : Severity) (confidence : ℚ) : FraudAlert :=
  ⟨user.id, user.username, alertType, severity, confidence⟩

def opponentCounts (battles : List Match) : List ℕ :=
  let opponents := battles.map fun battle => battle.opponentOf user.id
  opponents.dedup.map fun opponentId => opponents.count opponentId

def sameOpponentAlert (battles : List Match) : Option FraudAlert :=
  match (opponentCounts user battles).max? with
  | none => none
  | some maxBattles =>
    if config.maxBattlesVsSameOpponentPerDay < maxBattles then
      some (raise user .excessiveSameOpponent (if 10 < maxBattles then .high else .medium)
        (min (maxBattles / config.maxBattlesVsSameOpponentPerDay) 1))
    else none

def checkExcessiveSameOpponentBattles : Prog (Option FraudAlert) := do
  let moment ← now
  let recentBattles ← call (.findMatches ⟨user.id, moment - day, false, none⟩)
  return sameOpponentAlert config user recentBattles

def winRate (battles : List Match) : ℚ :=
  (battles.countP fun battle => battle.wonBy user.id) / battles.length

def winRateAlert (battles : List Match) : Option FraudAlert :=
  if battles.length < config.minBattlesForAnalysis then none
  else if user.elo < config.lowEloThreshold ∧ config.maxWinRateForLowElo < winRate user battles then
    some (raise user .suspiciousWinRate
      (if 95 / 100 < winRate user battles then .critical else .high)
      ((winRate user battles - config.maxWinRateForLowElo) / (1 - config.maxWinRateForLowElo)))
  else none

def checkSuspiciousWinRate : Prog (Option FraudAlert) := do
  let moment ← now
  let recentBattles ← call (.findMatches ⟨user.id, moment - 7 * day, false, some 50⟩)
  return winRateAlert config user recentBattles

/-- The loop that adds up the changes, with the opponents' ratings of now. -/
def eloChangeOf (powTen : ℚ → ℚ) : List Match → ℤ → Prog ℤ
  | [], eloChange => return eloChange
  | battle :: battles, eloChange => do
    let opponent ← call (.findUser (battle.opponentOf user.id))
    match opponent with
    | none => eloChangeOf powTen battles eloChange
    | some opponent =>
      let expectedScore : ℚ := 1 / (1 + powTen ((opponent.elo - user.elo : ℤ) / 400))
      let actualScore : ℚ := if battle.wonBy user.id then 1 else 0
      eloChangeOf powTen battles (eloChange + round (32 * (actualScore - expectedScore)))

def eloChangeAlert (eloChange : ℤ) : Option FraudAlert :=
  if config.maxEloChangePerDay < |eloChange| then
    some (raise user .rapidEloChange (if 300 < |eloChange| then .critical else .high)
      (min (|eloChange| / config.maxEloChangePerDay) 1))
  else none

def checkRapidEloChange (powTen : ℚ → ℚ) : Prog (Option FraudAlert) := do
  let moment ← now
  let recentBattles ← call (.findMatches ⟨user.id, moment - day, true, none⟩)
  if recentBattles.length < 5 then return none
  else
    let eloChange ← eloChangeOf user powTen recentBattles 0
    return eloChangeAlert config user eloChange

structure Patterns where
  quickBattles : ℕ
  sameTimeBattles : ℕ
  alternatingWins : ℕ

variable (getHours : ℤ → ℕ)

/-- What the two times of a pair of battles satisfy, if both have one. -/
def Match.both (previous current : Match) (holds : ℤ → ℤ → Bool) : Bool :=
  current.endedAt.any fun currentEnd => previous.endedAt.any fun previousEnd =>
    holds previousEnd currentEnd

def alternates (prevPrev : Option Match) (previous current : Match) : Bool :=
  prevPrev.any fun prevPrev => current.wonBy user.id != previous.wonBy user.id &&
    current.wonBy user.id == prevPrev.wonBy user.id

/-- One round of the loop, with the battle before the previous one if there is one. -/
def Patterns.add (patterns : Patterns) (prevPrev : Option Match) (previous current : Match) :
    Patterns where
  quickBattles := patterns.quickBattles +
    (previous.both current fun previousEnd currentEnd =>
      currentEnd - previousEnd < 2 * 60 * 1000).toNat
  sameTimeBattles := patterns.sameTimeBattles +
    (previous.both current fun previousEnd currentEnd =>
      getHours currentEnd == getHours previousEnd).toNat
  alternatingWins := patterns.alternatingWins + (alternates user prevPrev previous current).toNat

def Patterns.addAll (patterns : Patterns) (prevPrev : Option Match) (previous : Match) :
    List Match → Patterns
  | [] => patterns
  | current :: battles =>
    (patterns.add user getHours prevPrev previous current).addAll (some previous) current battles

def findPatterns : List Match → Patterns
  | [] => ⟨0, 0, 0⟩
  | first :: battles => Patterns.addAll user getHours ⟨0, 0, 0⟩ none first battles

def patternScore (battles : List Match) : ℚ :=
  let patterns := findPatterns user getHours battles
  patterns.quickBattles / battles.length * (3 / 10) +
    patterns.sameTimeBattles / battles.length * (3 / 10) +
    patterns.alternatingWins / battles.length * (4 / 10)

def patternAlert (battles : List Match) : Option FraudAlert :=
  if battles.length < 10 then none
  else if config.suspiciousPatternThreshold < patternScore user getHours battles then
    some (raise user .unusualPattern
      (if 9 / 10 < patternScore user getHours battles then .critical else .high)
      (patternScore user getHours battles))
  else none

def checkUnusualPatterns : Prog (Option FraudAlert) := do
  let moment ← now
  let recentBattles ← call (.findMatches ⟨user.id, moment - day, true, none⟩)
  return patternAlert config user getHours recentBattles

end Checks

/-- The `try` block of `analyzeUser`. -/
def analyze (config : FraudDetectionConfig) (powTen : ℚ → ℚ) (getHours : ℤ → ℕ) (userId : String) :
    Prog (List FraudAlert) := do
  let user ← call (.findUser userId)
  match user with
  | none => throw .userNotFound
  | some user =>
    let sameOpponentAlert ← checkExcessiveSameOpponentBattles config user
    let winRateAlert ← checkSuspiciousWinRate config user
    let eloChangeAlert ← checkRapidEloChange config user powTen
    let patternAlert ← checkUnusualPatterns config user getHours
    return [sameOpponentAlert, winRateAlert, eloChangeAlert, patternAlert].filterMap id

def analyzeUser (config : FraudDetectionConfig) (powTen : ℚ → ℚ) (getHours : ℤ → ℕ)
    (userId : String) : Program services.signature (List FraudAlert) :=
  Services.caught [] (analyze config powTen getHours userId)

def IsProbability (confidence : ℚ) : Prop := 0 < confidence ∧ confidence ≤ 1

theorem isProbability_min {value limit : ℚ} (positive : 0 < limit) (exceeds : limit < value) :
    IsProbability (min (value / limit) 1) :=
  ⟨lt_min (div_pos (positive.trans exceeds) positive) one_pos, min_le_right _ _⟩

section Alerts

variable {user : User} {getHours : ℤ → ℕ} {battles : List Match} {alert : FraudAlert}

theorem sameOpponentAlert_confidence
    (raised : sameOpponentAlert DEFAULT_FRAUD_CONFIG user battles = some alert) :
    IsProbability alert.confidence := by
  unfold sameOpponentAlert at raised
  split at raised
  · cases raised
  rcases Option.ite_none_right_eq_some.mp raised with ⟨exceeds, ⟨⟩⟩
  exact isProbability_min (by norm_num [DEFAULT_FRAUD_CONFIG]) exceeds

theorem winRate_le_one : winRate user battles ≤ 1 :=
  div_le_one_of_le₀ (Nat.cast_le.mpr List.countP_le_length) (Nat.cast_nonneg _)

theorem winRateAlert_confidence
    (raised : winRateAlert DEFAULT_FRAUD_CONFIG user battles = some alert) :
    IsProbability alert.confidence := by
  unfold winRateAlert at raised
  rcases Option.ite_none_left_eq_some.mp raised with ⟨_, enough⟩
  rcases Option.ite_none_right_eq_some.mp enough with ⟨⟨_, exceeds⟩, ⟨⟩⟩
  have atMost : winRate user battles ≤ 1 := winRate_le_one
  have span : (0 : ℚ) < 1 - DEFAULT_FRAUD_CONFIG.maxWinRateForLowElo := by
    norm_num [DEFAULT_FRAUD_CONFIG]
  exact ⟨div_pos (sub_pos.mpr exceeds) span,
    (div_le_one span).mpr (sub_le_sub_right atMost _)⟩

theorem eloChangeAlert_confidence {eloChange : ℤ}
    (raised : eloChangeAlert DEFAULT_FRAUD_CONFIG user eloChange = some alert) :
    IsProbability alert.confidence := by
  unfold eloChangeAlert at raised
  rcases Option.ite_none_right_eq_some.mp raised with ⟨exceeds, ⟨⟩⟩
  exact isProbability_min (by norm_num [DEFAULT_FRAUD_CONFIG]) exceeds

structure Patterns.AtMost (patterns : Patterns) (rounds : ℕ) : Prop where
  quickBattles : patterns.quickBattles ≤ rounds
  sameTimeBattles : patterns.sameTimeBattles ≤ rounds
  alternatingWins : patterns.alternatingWins ≤ rounds

theorem Patterns.AtMost.addAll {patterns : Patterns} {rounds : ℕ} (bounded : patterns.AtMost rounds)
    (prevPrev : Option Match) (previous : Match) :
    (patterns.addAll user getHours prevPrev previous battles).AtMost (rounds + battles.length) := by
  induction battles generalizing patterns rounds prevPrev previous with
  | nil => exact bounded
  | cons current battles ih =>
    rw [List.length_cons, Nat.add_comm battles.length, ← Nat.add_assoc]
    apply ih
    exact ⟨Nat.add_le_add bounded.quickBattles (Bool.toNat_le _),
      Nat.add_le_add bounded.sameTimeBattles (Bool.toNat_le _),
      Nat.add_le_add bounded.alternatingWins (Bool.toNat_le _)⟩

theorem findPatterns_atMost : (findPatterns user getHours battles).AtMost (battles.length - 1) := by
  cases battles with
  | nil => exact ⟨le_rfl, le_rfl, le_rfl⟩
  | cons first battles =>
    have bounded := @Patterns.AtMost.addAll user getHours battles ⟨0, 0, 0⟩ 0
      ⟨le_rfl, le_rfl, le_rfl⟩ none first
    rwa [Nat.zero_add] at bounded

theorem patternScore_le (nonempty : 0 < battles.length) :
    patternScore user getHours battles ≤ (battles.length - 1) / battles.length := by
  have bounded := @findPatterns_atMost user getHours battles
  have share {count : ℕ} (atMost : count ≤ battles.length - 1) :
      (count / battles.length : ℚ) ≤ (battles.length - 1) / battles.length := by
    apply div_le_div_of_nonneg_right _ (Nat.cast_nonneg _)
    rw [← Nat.cast_pred nonempty]
    exact Nat.cast_le.mpr atMost
  have quick := share bounded.quickBattles
  have sameTime := share bounded.sameTimeBattles
  have alternating := share bounded.alternatingWins
  simp only [patternScore]
  linarith

theorem patternAlert_confidence
    (raised : patternAlert DEFAULT_FRAUD_CONFIG user getHours battles = some alert) :
    IsProbability alert.confidence := by
  unfold patternAlert at raised
  rcases Option.ite_none_left_eq_some.mp raised with ⟨enough, raised⟩
  rcases Option.ite_none_right_eq_some.mp raised with ⟨exceeds, ⟨⟩⟩
  refine ⟨lt_trans (by norm_num [DEFAULT_FRAUD_CONFIG]) exceeds, ?_⟩
  have length : 0 < battles.length := by omega
  apply (patternScore_le length).trans
  apply div_le_one_of_le₀ _ (Nat.cast_nonneg _)
  linarith

end Alerts

def anyReply : Protocol services.signature Unit where
  allows _ _ := True
  expects _ _ _ := True
  after _ _ _ := ()

open Throwing

theorem returns_any {α : Type} {Result : α → Prop} (result : ∀ value, Result value)
    (program : Prog α) : Returns anyReply () Result program :=
  Program.obeys_of_forall (fun _ _ => trivial) (fun _ _ => ⟨rfl, fun value _ => result value⟩)
    program.run ()

variable {powTen : ℚ → ℚ} {getHours : ℤ → ℕ} {user : User}

def Sound (alert : Option FraudAlert) : Prop := ∀ raised ∈ alert, IsProbability raised.confidence

theorem returns_query {α : Type} {Result : Option FraudAlert → Prop} {program : Prog α}
    {check : α → Prog (Option FraudAlert)}
    (sound : ∀ value, Returns anyReply () Result (check value)) :
    Returns anyReply () Result (program >>= check) :=
  returns_bind (returns_any (fun _ => trivial) program) fun value (_ : True) => sound value

theorem checkExcessiveSameOpponentBattles_sound :
    Returns anyReply () Sound (checkExcessiveSameOpponentBattles DEFAULT_FRAUD_CONFIG user) :=
  returns_query fun _ => returns_query fun _ =>
    returns_pure fun _ raised => sameOpponentAlert_confidence raised

theorem checkSuspiciousWinRate_sound :
    Returns anyReply () Sound (checkSuspiciousWinRate DEFAULT_FRAUD_CONFIG user) :=
  returns_query fun _ => returns_query fun _ =>
    returns_pure fun _ raised => winRateAlert_confidence raised

theorem checkRapidEloChange_sound :
    Returns anyReply () Sound (checkRapidEloChange DEFAULT_FRAUD_CONFIG user powTen) := by
  refine returns_query fun _ => returns_query fun _ => ?_
  split
  · refine returns_pure ?_
    rintro _ ⟨⟩
  · exact returns_query fun _ => returns_pure fun _ raised => eloChangeAlert_confidence raised

theorem checkUnusualPatterns_sound :
    Returns anyReply () Sound (checkUnusualPatterns DEFAULT_FRAUD_CONFIG user getHours) :=
  returns_query fun _ => returns_query fun _ =>
    returns_pure fun _ raised => patternAlert_confidence raised

theorem analyze_sound (userId : String) :
    Returns anyReply () (fun alerts => ∀ alert ∈ alerts, IsProbability alert.confidence)
      (analyze DEFAULT_FRAUD_CONFIG powTen getHours userId) := by
  apply returns_bind (returns_any (fun _ => trivial) _)
  intro found (_ : True)
  cases found with
  | none =>
    refine ⟨rfl, ?_⟩
    rintro _ ⟨⟩
  | some user =>
    refine returns_bind checkExcessiveSameOpponentBattles_sound fun _ sameOpponent => ?_
    refine returns_bind checkSuspiciousWinRate_sound fun _ winRate => ?_
    refine returns_bind checkRapidEloChange_sound fun _ eloChange => ?_
    refine returns_bind checkUnusualPatterns_sound fun _ pattern => returns_pure ?_
    intro alert raised
    rcases List.mem_filterMap.mp raised with ⟨_, listed, rfl⟩
    simp only [List.mem_cons, List.not_mem_nil, or_false] at listed
    rcases listed with rfl | rfl | rfl | rfl
    · exact sameOpponent alert rfl
    · exact winRate alert rfl
    · exact eloChange alert rfl
    · exact pattern alert rfl

theorem analyzeUser_sound (userId : String) :
    (analyzeUser DEFAULT_FRAUD_CONFIG powTen getHours userId).Obeys anyReply
      (fun _ alerts => ∀ alert ∈ alerts, IsProbability alert.confidence) () := by
  refine Program.obeys_bind.mpr ((analyze_sound userId).mono ?_)
  rintro _ outcome ⟨_, sound⟩ alert raised
  cases outcome with
  | ok alerts => exact sound alerts rfl alert raised
  | error => cases raised

theorem result_of_anyReply {α : Type} {Result : α → Prop} {program : Program services.signature α}
    (obeys : program.Obeys anyReply (fun _ => Result) ()) (meanwhile : ℕ → Database → Database)
    (choices : ℕ → Choice) (database : Database) :
    Result (program.run backend.handle meanwhile choices database).1 := by
  induction program generalizing meanwhile choices database with
  | done => exact obeys
  | issue _ _ ih => exact ih _ (obeys.2 _ trivial) _ _ _

/--
Every alert has a positive confidence of at most 1, whatever the history is and however it
changes during the analysis. The score of at least ten battles stays below 1 by one share.
-/
theorem analyzeUser_confidence (powTen : ℚ → ℚ) (getHours : ℤ → ℕ) (userId : String)
    (meanwhile : ℕ → Database → Database) (choices : ℕ → Choice) (database : Database) :
    (∀ alert ∈ ((analyzeUser DEFAULT_FRAUD_CONFIG powTen getHours userId).run backend.handle
        meanwhile choices database).1, 0 < alert.confidence ∧ alert.confidence ≤ 1) ∧
      ∀ (user : User) (battles : List Match), 10 ≤ battles.length →
        patternScore user getHours battles ≤ (battles.length - 1) / battles.length := by
  refine ⟨?_, fun _ _ enough => patternScore_le (Nat.lt_of_lt_of_le (by decide) enough)⟩
  exact result_of_anyReply (analyzeUser_sound userId) meanwhile choices database

end CodeClash.Judge.Fraud
