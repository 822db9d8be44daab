import CodeClash.Keys.Expiring
import Mathlib.Data.Int.Order.Basic

/-!
# Revoked tokens

`authenticate`, `authenticateSocket` and `revokeToken` of
`packages/backend/src/middleware/auth.middleware.ts`. A call verifies the token at one moment and
reaches Redis at a later one. Texts are lists of characters, times are milliseconds, and Redis does
not fail.
-/

namespace CodeClash.Backend.Auth

open Keys

abbrev Text := List Char

structure User where
  id : String
  username : String
  email : String
deriving DecidableEq

structure JWTPayload where
  user : User
  exp : ℤ
deriving DecidableEq

abbrev Issued := Text → Option JWTPayload

abbrev Store := Expiring Text String

def blacklistKey (token : Text) : Text := "blacklist:".toList ++ token

def verifyToken (issued : Issued) (token : Text) (now : ℤ) : Except String JWTPayload :=
  match issued token with
  | none => .error "Invalid token"
  | some payload => if now / 1000 < payload.exp then .ok payload else .error "Invalid token"

def checkToken (issued : Issued) (token : Text) (verifiedAt readAt : ℤ) (store : Store) :
    Except String User :=
  match verifyToken issued token verifiedAt with
  | .error _ => .error "Invalid token"
  | .ok payload =>
    if (store.get readAt (blacklistKey token)).any (· ≠ "") then .error "Token has been revoked"
    else .ok payload.user

def bearer : Text := "Bearer ".toList

def authenticate (issued : Issued) (authHeader : Option Text) (verifiedAt readAt : ℤ)
    (store : Store) : Except (ℕ × String) User :=
  match authHeader with
  | none => .error (401, "No token provided")
  | some header =>
    if bearer.isPrefixOf header then
      (checkToken issued (header.drop 7) verifiedAt readAt store).mapError (401, ·)
    else .error (401, "No token provided")

def authenticateSocket (issued : Issued) (authToken queryToken : Option Text)
    (verifiedAt readAt : ℤ) (store : Store) : Except String User :=
  match (authToken.filter (· ≠ [])).or (queryToken.filter (· ≠ [])) with
  | none => .error "No token provided"
  | some token => checkToken issued token verifiedAt readAt store

structure Revocation where
  token : Text
  verifiedAt : ℤ
  now : ℤ
  setAt : ℤ
  inOrder : verifiedAt ≤ now ∧ now ≤ setAt

/-- `Math.ceil(timeUntilExpiry / 1000)` -/
def seconds (timeUntilExpiry : ℤ) : ℤ := (timeUntilExpiry + 999) / 1000

def revokeToken (issued : Issued) (call : Revocation) (store : Store) : Except String Store :=
  match verifyToken issued call.token call.verifiedAt with
  | .error _ => .error "Failed to revoke token"
  | .ok payload =>
    let timeUntilExpiry := payload.exp * 1000 - call.now
    if timeUntilExpiry > 0 then
      .ok (store.setEx call.setAt (blacklistKey call.token) (1000 * seconds timeUntilExpiry) "1")
    else .ok store

def revokeAll (issued : Issued) (store : Store) (calls : List Revocation) : Store :=
  calls.foldl (fun store call => (revokeToken issued call store).toOption.getD store) store

variable {issued : Issued} {token : Text} {payload : JWTPayload} {store : Store}
  {verifiedAt readAt : ℤ}

theorem verifyToken_eq (isIssued : issued token = some payload) (now : ℤ) :
    verifyToken issued token now =
      if now < payload.exp * 1000 then .ok payload else .error "Invalid token" := by
  rw [verifyToken, isIssued]
  simp only [Int.ediv_lt_iff_lt_mul (by decide : (0 : ℤ) < 1000)]

theorem revokeToken_writes (call : Revocation) (isIssued : issued call.token = some payload)
    (left : call.now < payload.exp * 1000) (store : Store) :
    revokeToken issued call store = .ok (store.setEx call.setAt (blacklistKey call.token)
      (1000 * seconds (payload.exp * 1000 - call.now)) "1") := by
  rw [revokeToken, verifyToken_eq isIssued, if_pos (lt_of_le_of_lt call.inOrder.1 left)]
  exact if_pos (by omega)

/-- A revocation of another token, or one that comes too late, leaves the entry alone. -/
theorem revokeToken_keeps (call : Revocation) (isIssued : issued token = some payload)
    (late : call.token = token → payload.exp * 1000 ≤ call.now) (store : Store) :
    ((revokeToken issued call store).toOption.getD store) (blacklistKey token) =
      store (blacklistKey token) := by
  by_cases same : call.token = token
  · subst same
    have tooLate := late rfl
    rw [revokeToken, verifyToken_eq isIssued]
    split_ifs
    · dsimp only
      rw [if_neg (by omega)]
      rfl
    · rfl
  · have differs : blacklistKey token ≠ blacklistKey call.token :=
      fun equal => same (List.append_cancel_left equal).symm
    rw [revokeToken]
    split
    · rfl
    · dsimp only
      split_ifs
      · exact Expiring.setEx_of_ne differs _ _
      · rfl

theorem revokeAll_entry (store : Store) (before after : List Revocation) (call : Revocation)
    (isIssued : issued call.token = some payload) (left : call.now < payload.exp * 1000)
    (last : ∀ other ∈ after, other.token = call.token → payload.exp * 1000 ≤ other.now) :
    revokeAll issued store (before ++ call :: after) (blacklistKey call.token) =
      some ⟨"1", call.setAt + 1000 * seconds (payload.exp * 1000 - call.now)⟩ := by
  rw [revokeAll, List.foldl_append, List.foldl_cons, revokeToken_writes call isIssued left]
  have keeps (store : Store) : revokeAll issued store after (blacklistKey call.token) =
      store (blacklistKey call.token) := by
    rw [revokeAll]
    refine List.foldlRecOn after _ (motive := fun reached : Store =>
      reached (blacklistKey call.token) = store (blacklistKey call.token)) rfl ?_
    intro reached kept other member
    rw [revokeToken_keeps other isIssued (last other member), kept]
  exact (keeps _).trans (Expiring.setEx_self _ _)

/-- The answer to a request with the token, over HTTP and over a socket. -/
structure Rejects (issued : Issued) (token : Text) (verifiedAt readAt : ℤ) (store : Store) :
    Prop where
  request : ∀ user,
    authenticate issued (some (bearer ++ token)) verifiedAt readAt store ≠ .ok user
  socket : ∀ authToken queryToken user,
    (authToken.filter (· ≠ [])).or (queryToken.filter (· ≠ [])) = some token →
      authenticateSocket issued authToken queryToken verifiedAt readAt store ≠ .ok user

theorem rejects_iff (issued : Issued) (token : Text) (verifiedAt readAt : ℤ) (store : Store) :
    Rejects issued token verifiedAt readAt store ↔
      ∀ user, checkToken issued token verifiedAt readAt store ≠ .ok user := by
  have request : authenticate issued (some (bearer ++ token)) verifiedAt readAt store =
      (checkToken issued token verifiedAt readAt store).mapError (401, ·) := by
    have rest : (bearer ++ token).drop 7 = token := List.drop_left' (by decide)
    have starts : bearer.isPrefixOf (bearer ++ token) = true := by simp
    simp only [authenticate, starts, rest, if_true]
  constructor
  · intro rejects user passes
    refine rejects.request user ?_
    rw [request, passes]
    rfl
  · intro fails
    refine ⟨fun user passes => ?_, fun authToken queryToken user isToken passes => ?_⟩
    · rw [request] at passes
      cases checked : checkToken issued token verifiedAt readAt store with
      | ok checkedUser => exact fails checkedUser checked
      | error message =>
        rw [checked] at passes
        cases passes
    · rw [authenticateSocket, isToken] at passes
      exact fails user passes

section Revoked

variable (store : Store) (before after : List Revocation) (call : Revocation)
  (isIssued : issued call.token = some payload) (left : call.now < payload.exp * 1000)
  (last : ∀ other ∈ after, other.token = call.token → payload.exp * 1000 ≤ other.now)

include isIssued left last

theorem checkToken_fails_iff (verifiedAt readAt : ℤ) :
    (∀ user, checkToken issued call.token verifiedAt readAt
        (revokeAll issued store (before ++ call :: after)) ≠ .ok user) ↔
      payload.exp * 1000 ≤ verifiedAt ∨
        readAt < call.setAt + 1000 * seconds (payload.exp * 1000 - call.now) := by
  unfold checkToken
  rw [verifyToken_eq isIssued, Expiring.get,
    revokeAll_entry store before after call isIssued left last]
  by_cases verified : verifiedAt < payload.exp * 1000
  · by_cases held : readAt < call.setAt + 1000 * seconds (payload.exp * 1000 - call.now)
    · simp [verified, held]
    · simp [verified, held]
  · simp [verified, not_lt.mp verified]

end Revoked

/-- A revoked token passes exactly if it is verified in time and its entry is read too late. -/
theorem revoked_token_rejected_iff (issued : Issued) (store : Store)
    (before after : List Revocation) (call : Revocation) (payload : JWTPayload)
    (verifiedAt readAt : ℤ) (isIssued : issued call.token = some payload)
    (left : call.now < payload.exp * 1000)
    (last : ∀ other ∈ after, other.token = call.token → payload.exp * 1000 ≤ other.now) :
    Rejects issued call.token verifiedAt readAt
        (revokeAll issued store (before ++ call :: after)) ↔
      payload.exp * 1000 ≤ verifiedAt ∨
        readAt < call.setAt + 1000 * seconds (payload.exp * 1000 - call.now) := by
  rw [rejects_iff, checkToken_fails_iff store before after call isIssued left last]

def ada : User := ⟨"1", "ada", "ada@mail"⟩

def oneSecond : Issued := fun _ => some ⟨ada, 1⟩

def revocation : Revocation := ⟨['t'], 0, 0, 0, le_refl 0, le_refl 0⟩

theorem revoked_token_rejected_early :
    Rejects oneSecond ['t'] 999 999 (revokeAll oneSecond (fun _ => none) [revocation]) :=
  (revoked_token_rejected_iff oneSecond (fun _ => none) [] [] revocation ⟨ada, 1⟩ 999 999 rfl
    (by decide) (by simp)).mpr (Or.inr (by decide))

/-- The token is verified before it expires, and its entry is gone when it is looked for. -/
theorem revoked_token_passes :
    ¬Rejects oneSecond ['t'] 999 1000 (revokeAll oneSecond (fun _ => none) [revocation]) := by
  rw [rejects_iff]
  exact fun fails => fails ada rfl

end CodeClash.Backend.Auth
