import CodeClash.Keys.Expiring
import Mathlib.Data.List.Induction

/-!
# Refresh tokens

The tokens of `apps/api/src/services/authService.ts`. A refresh token is filed in Redis under its
user and its last eight characters. Calls do not overlap, and each has one time, in milliseconds.
The strings that `jwt.sign` makes are given with the calls. `jwt.verify` accepts what was signed
until it expires, in whole seconds, and returns the payload it was last signed with.
-/

namespace CodeClash.Auth

open Keys

/-- Ids of users are made by `cuid()`. -/
structure UserId where
  value : String
  isCuid : value.toList.all Char.isAlphanum = true
deriving DecidableEq, Repr

structure User where
  id : UserId
  username : String
  role : String
deriving DecidableEq, Repr

inductive TokenType where
  | access | refresh
deriving DecidableEq, Repr

structure JwtPayload where
  userId : UserId
  username : String
  role : String
  tokenType : TokenType
deriving DecidableEq, Repr

def User.payload (user : User) (tokenType : TokenType) : JwtPayload :=
  ⟨user.id, user.username, user.role, tokenType⟩

structure Issued where
  secret : String
  token : String
  payload : JwtPayload
  exp : ℤ
deriving DecidableEq, Repr

structure AuthState where
  issued : List Issued
  records : Expiring (List Char) String

structure Secrets where
  JWT_SECRET : String
  JWT_REFRESH_SECRET : String

def ACCESS_TOKEN_TTL : ℤ := 15 * 60

def REFRESH_TOKEN_TTL : ℤ := 7 * 24 * 60 * 60

def sign (now : ℤ) (secret token : String) (payload : JwtPayload) (ttl : ℤ) (state : AuthState) :
    AuthState :=
  { state with issued := ⟨secret, token, payload, now / 1000 + ttl⟩ :: state.issued }

def lastIssued (state : AuthState) (secret token : String) : Option Issued :=
  state.issued.find? fun issued => issued.secret = secret ∧ issued.token = token

def verify (now : ℤ) (state : AuthState) (secret token : String) : Option JwtPayload :=
  match lastIssued state secret token with
  | some issued => if now / 1000 < issued.exp then some issued.payload else none
  | none => none

def keyPrefix (userId : UserId) : List Char :=
  "refresh_token:".toList ++ userId.value.toList ++ [':']

def recordKey (userId : UserId) (token : String) : List Char :=
  keyPrefix userId ++ token.toList.drop (token.length - 8)

variable (secrets : Secrets)

def generateTokens (now : ℤ) (state : AuthState) (user : User)
    (accessToken refreshToken : String) : AuthState :=
  let signed := sign now secrets.JWT_REFRESH_SECRET refreshToken (user.payload .refresh)
    REFRESH_TOKEN_TTL
    (sign now secrets.JWT_SECRET accessToken (user.payload .access) ACCESS_TOKEN_TTL state)
  { signed with
    records := signed.records.setEx now (recordKey user.id refreshToken)
      (REFRESH_TOKEN_TTL * 1000) refreshToken }

/-- The payload that `refreshAccessToken` goes on with. -/
def refreshed (now : ℤ) (state : AuthState) (refreshToken : String) : Option JwtPayload :=
  match verify now state secrets.JWT_REFRESH_SECRET refreshToken with
  | none => none
  | some payload =>
    if payload.tokenType = .refresh ∧ refreshToken ≠ "" ∧
      state.records.get now (recordKey payload.userId refreshToken) = some refreshToken
    then some payload else none

def refreshAccessToken (now : ℤ) (state : AuthState) (refreshToken accessToken : String) :
    Except String String × AuthState :=
  match refreshed secrets now state refreshToken with
  | none => (.error "Invalid refresh token", state)
  | some payload => (.ok accessToken, sign now secrets.JWT_SECRET accessToken
      ⟨payload.userId, payload.username, payload.role, .access⟩ ACCESS_TOKEN_TTL state)

def revokeRefreshToken (state : AuthState) (userId : UserId) (refreshToken : String) : AuthState :=
  { state with records := state.records.del (recordKey userId refreshToken) }

/-- No character of an id is special in a pattern, so `KEYS` finds what starts with the text before
the `*`. -/
def revokeAllRefreshTokens (state : AuthState) (userId : UserId) : AuthState :=
  { state with
    records := fun key => if keyPrefix userId <+: key then none else state.records key }

inductive Operation where
  | generateTokens (user : User) (accessToken refreshToken : String)
  | refreshAccessToken (refreshToken accessToken : String)
  | revokeRefreshToken (userId : UserId) (refreshToken : String)
  | revokeAllRefreshTokens (userId : UserId)

def perform (state : AuthState) : ℤ × Operation → AuthState
  | (now, .generateTokens user accessToken refreshToken) =>
    generateTokens secrets now state user accessToken refreshToken
  | (now, .refreshAccessToken refreshToken accessToken) =>
    (refreshAccessToken secrets now state refreshToken accessToken).2
  | (_, .revokeRefreshToken userId refreshToken) => revokeRefreshToken state userId refreshToken
  | (_, .revokeAllRefreshTokens userId) => revokeAllRefreshTokens state userId

def after (calls : List (ℤ × Operation)) : AuthState :=
  calls.foldl (perform secrets) ⟨[], fun _ => none⟩

def Keeps (userId : UserId) (token : String) : Operation → Prop
  | .generateTokens _ _ refreshToken => refreshToken ≠ token
  | .refreshAccessToken .. => True
  | .revokeRefreshToken revokedFor revoked => ¬(revokedFor = userId ∧ revoked = token)
  | .revokeAllRefreshTokens revokedFor => revokedFor ≠ userId

/-- The user got the token at a time, and it was neither issued nor revoked since. -/
def Standing (calls : List (ℤ × Operation)) (user : User) (issuedAt : ℤ) (token : String) : Prop :=
  ∃ before accessToken since,
    calls = before ++ (issuedAt, .generateTokens user accessToken token) :: since ∧
    ∀ call ∈ since, Keeps user.id token call.2

variable {secrets} {calls : List (ℤ × Operation)} {user : User} {issuedAt : ℤ} {token : String}

theorem Standing.append (standing : Standing calls user issuedAt token) {call : ℤ × Operation}
    (keeps : Keeps user.id token call.2) : Standing (calls ++ [call]) user issuedAt token := by
  rcases standing with ⟨before, accessToken, since, rfl, kept⟩
  refine ⟨before, accessToken, since ++ [call], by simp, ?_⟩
  exact List.forall_mem_append.mpr ⟨kept, List.forall_mem_singleton.mpr keeps⟩

theorem lastIssued_sign (now : ℤ) (signedWith signed secret token : String) (payload : JwtPayload)
    (ttl : ℤ) (state : AuthState) :
    lastIssued (sign now signedWith signed payload ttl state) secret token =
      if signedWith = secret ∧ signed = token then
        some ⟨signedWith, signed, payload, now / 1000 + ttl⟩
      else lastIssued state secret token := by
  rw [lastIssued, sign, List.find?_cons]
  split <;> simp_all [lastIssued]

variable {now : ℤ} {state : AuthState} {payload : JwtPayload} {issued : Issued}

theorem lastIssued_sign_access {ttl : ℤ} {signed secret token : String}
    (isAccess : payload.tokenType = .access)
    (last : lastIssued (sign now secrets.JWT_SECRET signed payload ttl state) secret token =
      some issued) (isRefresh : issued.payload.tokenType = .refresh) :
    lastIssued state secret token = some issued := by
  rw [lastIssued_sign] at last
  split at last
  · cases last
    cases isAccess.symm.trans isRefresh
  · exact last

theorem standing_of_record {expiresAt : ℤ}
    (last : lastIssued (after secrets calls) secrets.JWT_REFRESH_SECRET token = some issued)
    (isRefresh : issued.payload.tokenType = .refresh)
    (recorded : (after secrets calls).records (recordKey issued.payload.userId token) =
      some ⟨token, expiresAt⟩) :
    ∃ user issuedAt, issued.payload = user.payload .refresh ∧
      issued.exp = issuedAt / 1000 + REFRESH_TOKEN_TTL ∧ Standing calls user issuedAt token := by
  induction calls using List.reverseRecOn with
  | nil => cases last
  | append_singleton calls call ih =>
    rw [after, List.foldl_append] at last recorded
    change lastIssued (perform secrets (after secrets calls) call) _ token = _ at last
    change (perform secrets (after secrets calls) call).records _ = _ at recorded
    have kept
        (last : lastIssued (after secrets calls) secrets.JWT_REFRESH_SECRET token = some issued)
        (recorded : (after secrets calls).records (recordKey issued.payload.userId token) =
          some ⟨token, expiresAt⟩) (keeps : Keeps issued.payload.userId token call.2) :
        ∃ user issuedAt, issued.payload = user.payload .refresh ∧
          issued.exp = issuedAt / 1000 + REFRESH_TOKEN_TTL ∧
          Standing (calls ++ [call]) user issuedAt token := by
      rcases ih last recorded with ⟨user, issuedAt, isPayload, exp, standing⟩
      rw [isPayload] at keeps
      exact ⟨user, issuedAt, isPayload, exp, standing.append keeps⟩
    rcases call with ⟨now, operation⟩
    cases operation with
    | generateTokens user accessToken refreshToken =>
      replace last : lastIssued (sign now secrets.JWT_REFRESH_SECRET refreshToken
        (user.payload .refresh) REFRESH_TOKEN_TTL (sign now secrets.JWT_SECRET accessToken
          (user.payload .access) ACCESS_TOKEN_TTL (after secrets calls)))
        secrets.JWT_REFRESH_SECRET token = some issued := last
      rw [lastIssued_sign] at last
      split at last
      · rename_i same
        cases last
        cases same.2
        exact ⟨user, now, rfl, rfl, calls, accessToken, [], rfl, by simp⟩
      · rename_i other
        replace other : refreshToken ≠ token := fun same => other ⟨rfl, same⟩
        refine kept (lastIssued_sign_access rfl last isRefresh) ?_ other
        simp only [perform, generateTokens, sign, Expiring.setEx] at recorded
        by_cases same : recordKey issued.payload.userId token = recordKey user.id refreshToken
        · rw [same, Function.update_self] at recorded
          cases recorded
          exact absurd rfl other
        · rwa [Function.update_of_ne same] at recorded
    | refreshAccessToken refreshToken =>
      rw [perform, refreshAccessToken] at last recorded
      cases isPayload : refreshed secrets now (after secrets calls) refreshToken with
      | none =>
        rw [isPayload] at last recorded
        exact kept last recorded trivial
      | some =>
        rw [isPayload] at last recorded
        exact kept (lastIssued_sign_access rfl last isRefresh) recorded trivial
    | revokeRefreshToken revokedFor revoked =>
      rw [perform, revokeRefreshToken] at last recorded
      have differs : recordKey issued.payload.userId token ≠ recordKey revokedFor revoked := by
        intro same
        simp [same, Expiring.del] at recorded
      refine kept last ?_ ?_
      · simpa only [Expiring.del, Function.update_of_ne differs] using recorded
      · rintro ⟨rfl, rfl⟩
        exact differs rfl
    | revokeAllRefreshTokens =>
      rw [perform, revokeAllRefreshTokens] at last recorded
      simp only at recorded
      split at recorded
      · cases recorded
      · rename_i other
        refine kept last recorded ?_
        rintro rfl
        exact other (List.prefix_append _ _)

theorem exists_issued_of_refreshed (isPayload : refreshed secrets now state token = some payload) :
    ∃ issued expiresAt, lastIssued state secrets.JWT_REFRESH_SECRET token = some issued ∧
      now / 1000 < issued.exp ∧ issued.payload = payload ∧ payload.tokenType = .refresh ∧
      state.records (recordKey payload.userId token) = some ⟨token, expiresAt⟩ := by
  rw [refreshed, verify] at isPayload
  cases last : lastIssued state secrets.JWT_REFRESH_SECRET token with
  | none => simp [last] at isPayload
  | some issued =>
    simp only [last] at isPayload
    split at isPayload
    · cases isPayload
    · rename_i verified
      split at verified
      · rename_i unexpired
        split at isPayload
        · rename_i accepted
          cases isPayload
          cases verified
          rcases Expiring.get_eq_some_iff.mp accepted.2.2 with ⟨expiresAt, _, recorded⟩
          exact ⟨issued, expiresAt, rfl, unexpired, rfl, accepted.1, recorded⟩
        · cases isPayload
      · cases verified

/-- A refresh token is accepted only while it is standing, for seven days at most, and for the user
it was issued to. -/
theorem refresh_standing (secrets : Secrets) (calls : List (ℤ × Operation)) (now : ℤ)
    (refreshToken accessToken returned : String)
    (succeeded : (refreshAccessToken secrets now (after secrets calls) refreshToken
      accessToken).1 = .ok returned) :
    ∃ user issuedAt, Standing calls user issuedAt refreshToken ∧
      now ≤ issuedAt + 7 * 24 * 60 * 60 * 1000 ∧
      lastIssued (refreshAccessToken secrets now (after secrets calls) refreshToken accessToken).2
        secrets.JWT_SECRET returned =
          some ⟨secrets.JWT_SECRET, returned, user.payload .access,
            now / 1000 + ACCESS_TOKEN_TTL⟩ := by
  rw [refreshAccessToken] at succeeded ⊢
  cases isPayload : refreshed secrets now (after secrets calls) refreshToken with
  | none => simp [isPayload] at succeeded
  | some =>
    simp only [isPayload, Except.ok.injEq] at succeeded ⊢
    subst succeeded
    rcases exists_issued_of_refreshed isPayload with
      ⟨issued, expiresAt, last, unexpired, rfl, isRefresh, recorded⟩
    rcases standing_of_record last isRefresh recorded with
      ⟨user, issuedAt, samePayload, exp, standing⟩
    refine ⟨user, issuedAt, standing, ?_, ?_⟩
    · rw [exp, REFRESH_TOKEN_TTL] at unexpired
      omega
    · rw [lastIssued_sign, if_pos ⟨rfl, rfl⟩, samePayload]
      rfl

theorem refresh_standing_once :
    let user : User := ⟨⟨"u", by decide⟩, "ada", "user"⟩
    let secrets : Secrets := ⟨"access", "refresh"⟩
    let calls : List (ℤ × Operation) := [(0, .generateTokens user "a" "r")]
    (refreshAccessToken secrets 604799999 (after secrets calls) "r" "b").1 = .ok "b" ∧
      ∃ user issuedAt, Standing calls user issuedAt "r" ∧
        604799999 ≤ issuedAt + 7 * 24 * 60 * 60 * 1000 := by
  intro user secrets calls
  have succeeded :
      (refreshAccessToken secrets 604799999 (after secrets calls) "r" "b").1 = .ok "b" := by
    decide +kernel
  rcases refresh_standing secrets calls 604799999 "r" "b" "b" succeeded with
    ⟨user, issuedAt, standing, inTime, _⟩
  exact ⟨succeeded, user, issuedAt, standing, inTime⟩

end CodeClash.Auth
