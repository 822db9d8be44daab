import Mathlib.Algebra.Order.Floor.Ring
import Mathlib.Data.Rat.Floor

/-!
# Limits of requests

The middlewares `rateLimit` of `packages/backend/src/middleware/auth.middleware.ts` and
`validateRateLimit` of `validation.middleware.ts`. A window of a key begins with the first request
after the end of the window before, and has room for a number of requests.
-/

namespace CodeClash.Backend

structure UserRequests where
  count : ℕ
  resetTime : ℤ
deriving DecidableEq, Repr

structure Request where
  userId : Option String
  ip : Option String
  now : ℤ
deriving DecidableEq, Repr

/-- `next()` is called for the request that begins a window and for those that are counted. -/
inductive Answer where
  | opened
  | counted
  | tooManyRequests (retryAfter : ℤ)
deriving DecidableEq, Repr

def Answer.passes : Answer → Bool
  | .opened | .counted => true
  | .tooManyRequests _ => false

def truthy (text : Option String) : Option String := text.filter (· ≠ "")

/-- `req.user?.id || req.ip` -/
def Request.userKey (req : Request) : Option String :=
  match truthy req.userId with
  | some userId => some userId
  | none => req.ip

/-- `req.ip || 'unknown'` -/
def Request.ipKey (req : Request) : String := (truthy req.ip).getD "unknown"

def admitRequest (maxRequests : ℕ) (windowMs : ℤ) (userRequests : Option UserRequests)
    (now : ℤ) : Answer × Option UserRequests :=
  match userRequests with
  | none => (.opened, some ⟨1, now + windowMs⟩)
  | some requests =>
    if now > requests.resetTime then (.opened, some ⟨1, now + windowMs⟩)
    else if requests.count ≥ maxRequests then
      (.tooManyRequests ⌈((requests.resetTime - now : ℤ) : ℚ) / 1000⌉, some requests)
    else (.counted, some { requests with count := requests.count + 1 })

abbrev Requests (κ : Type) := κ → Option UserRequests

abbrev Limiter (κ : Type) := Requests κ → Request → Answer × Requests κ

section Limiters

variable {κ : Type} [DecidableEq κ]

def fixedWindow (maxRequests : ℕ) (windowMs : ℤ) (key : Request → κ) : Limiter κ :=
  fun requests req =>
    let admitted := admitRequest maxRequests windowMs (requests (key req)) req.now
    (admitted.1, Function.update requests (key req) admitted.2)

def rateLimit (maxRequests : ℕ) (windowMs : ℤ) : Limiter (Option String) :=
  fixedWindow maxRequests windowMs Request.userKey

def validateRateLimit (maxPerMinute : ℕ) : Limiter String :=
  fixedWindow maxPerMinute 60000 Request.ipKey

def answers (limiter : Limiter κ) (requests : Requests κ) : List Request → List (Request × Answer)
  | [] => []
  | req :: later =>
    (req, (limiter requests req).1) :: answers limiter (limiter requests req).2 later

end Limiters

def Ordered (requests : List Request) : Prop := requests.Pairwise (·.now ≤ ·.now)

def inInterval (moment window : ℤ) (answer : Request × Answer) : Bool :=
  answer.2.passes && decide (moment ≤ answer.1.now ∧ answer.1.now ≤ moment + window)

def nextStart (window : ℤ) (last : Option ℤ) (req : Request) : Option ℤ :=
  if ∀ start ∈ last, start + window < req.now then some req.now else last

/-- A window begins with the first request, and with one that comes more than the length of a window
after the last beginning. -/
def Begins (window : ℤ) (before : List (Request × Answer)) (req : Request) : Prop :=
  ∀ start ∈ (before.map Prod.fst).foldl (nextStart window) none, start + window < req.now

/-- The answers to the requests of one key, with windows of a length and room for `m` requests. -/
structure Limited (m : ℕ) (window : ℤ) (answered : List (Request × Answer)) : Prop where
  opens : ∀ before req after, answered = before ++ req :: after →
    (req.2 = .opened ↔ Begins window before req.1)
  perWindow : ∀ before opening between after, answered = before ++ opening :: (between ++ after) →
    Begins window before opening.1 →
    (∀ earlier other later, between = earlier ++ other :: later →
      ¬Begins window (before ++ opening :: earlier) other.1) →
    (opening :: between).countP (·.2.passes) ≤ m
  perInterval : ∀ moment, answered.countP (inInterval moment window) ≤ 2 * m
  reopens : ∀ before req after, answered = before ++ req :: after →
    Begins window before req.1 → req.2.passes = true

structure FixedWindow {κ : Type} [DecidableEq κ] (m : ℕ) (window : ℤ) (key : Request → κ)
    (limiter : Limiter κ) : Prop where
  limited : ∀ requests, Ordered requests → ∀ k, Limited m window
    ((answers limiter (fun _ => none) requests).filter (key ·.1 = k))
  independent : ∀ requests others k, requests.filter (key · = k) = others.filter (key · = k) →
    (answers limiter (fun _ => none) requests).filter (key ·.1 = k) =
      (answers limiter (fun _ => none) others).filter (key ·.1 = k)

def serve (m : ℕ) (window : ℤ) (state : Option UserRequests) :
    List Request → List (Request × Answer)
  | [] => []
  | req :: later =>
    (req, (admitRequest m window state req.now).1) ::
      serve m window (admitRequest m window state req.now).2 later

variable {κ : Type} {m : ℕ} {window : ℤ}

theorem filter_answers [DecidableEq κ] {key : Request → κ}
    (requests : List Request) (table : Requests κ) (k : κ) :
    (answers (fixedWindow m window key) table requests).filter (key ·.1 = k) =
      serve m window (table k) (requests.filter (key · = k)) := by
  induction requests generalizing table with
  | nil => rfl
  | cons req later ih =>
    by_cases same : key req = k
    · subst same
      rw [answers, List.filter_cons_of_pos (by simp), List.filter_cons_of_pos (by simp), serve, ih]
      simp [fixedWindow]
    · rw [answers, List.filter_cons_of_neg (by simpa using same),
        List.filter_cons_of_neg (by simpa using same), ih]
      simp [fixedWindow, Function.update_of_ne (Ne.symm same)]

/-- What a request does to the record of its key. -/
inductive Admits (m : ℕ) (window now : ℤ) :
    Option UserRequests → Answer → Option UserRequests → Prop where
  | opened {state : Option UserRequests}
      (ended : ∀ requests, state = some requests → requests.resetTime < now) :
      Admits m window now state .opened (some ⟨1, now + window⟩)
  | counted {count : ℕ} {resetTime : ℤ} (inside : now ≤ resetTime) (room : count < m) :
      Admits m window now (some ⟨count, resetTime⟩) .counted (some ⟨count + 1, resetTime⟩)
  | refused {count : ℕ} {resetTime : ℤ} (retryAfter : ℤ) (inside : now ≤ resetTime) :
      Admits m window now (some ⟨count, resetTime⟩) (.tooManyRequests retryAfter)
        (some ⟨count, resetTime⟩)

inductive Served (m : ℕ) (window : ℤ) : Option UserRequests → List (Request × Answer) → Prop where
  | nil (state : Option UserRequests) : Served m window state []
  | cons {state next : Option UserRequests} {req : Request} {answer : Answer}
      {later : List (Request × Answer)} (admits : Admits m window req.now state answer next)
      (served : Served m window next later) : Served m window state ((req, answer) :: later)

section OneKey

variable {m : ℕ} {window moment : ℤ} {count : ℕ} {resetTime : ℤ} {state : Option UserRequests}
  {answered between after : List (Request × Answer)} {req : Request × Answer}

theorem admits_admitRequest (now : ℤ) :
    Admits m window now state (admitRequest m window state now).1
      (admitRequest m window state now).2 := by
  rcases state with _ | ⟨count, resetTime⟩
  · refine .opened ?_
    rintro _ ⟨⟩
  · simp only [admitRequest]
    split_ifs with ended full
    · refine .opened ?_
      rintro _ ⟨⟩
      exact ended
    · exact .refused _ (not_lt.mp ended)
    · exact .counted (not_lt.mp ended) (not_le.mp full)

theorem served_serve (state : Option UserRequests) (requests : List Request) :
    Served m window state (serve m window state requests) := by
  induction requests generalizing state with
  | nil => exact .nil state
  | cons _ _ ih => exact .cons (admits_admitRequest _) (ih _)

theorem map_serve (state : Option UserRequests) (requests : List Request) :
    (serve m window state requests).map Prod.fst = requests := by
  induction requests generalizing state with
  | nil => rfl
  | cons _ _ ih => rw [serve, List.map_cons, ih]

theorem Admits.start {last : Option ℤ} {answer : Answer} {next : Option UserRequests}
    {req : Request} (admits : Admits m window req.now state answer next)
    (same : state.map UserRequests.resetTime = last.map (· + window)) :
    (answer = .opened ↔ ∀ start ∈ last, start + window < req.now) ∧
      next.map UserRequests.resetTime = (nextStart window last req).map (· + window) := by
  cases admits with
  | opened ended =>
    have late : ∀ start ∈ last, start + window < req.now := by
      rintro start ⟨⟩
      rcases Option.map_eq_some_iff.mp same with ⟨requests, rfl, reset⟩
      exact reset.symm.trans_lt (ended requests rfl)
    exact ⟨iff_of_true rfl late, by rw [nextStart, if_pos late]; rfl⟩
  | counted inside | refused _ inside =>
    rcases Option.map_eq_some_iff.mp same.symm with ⟨start, rfl, rfl⟩
    have early : ¬∀ other ∈ some start, other + window < req.now := fun late =>
      absurd (late start rfl) (not_lt.mpr inside)
    exact ⟨iff_of_false (by rintro ⟨⟩) early, by rw [nextStart, if_neg early]; rfl⟩

theorem Served.opened_iff {before : List (Request × Answer)} {last : Option ℤ}
    (served : Served m window state (before ++ req :: after))
    (same : state.map UserRequests.resetTime = last.map (· + window)) :
    req.2 = .opened ↔ ∀ start ∈ (before.map Prod.fst).foldl (nextStart window) last,
      start + window < req.1.now := by
  induction before generalizing state last with
  | nil =>
    cases served with
    | cons admits _ => exact (admits.start same).1
  | cons _ _ ih =>
    cases served with
    | cons admits later => exact ih later (admits.start same).2

theorem Served.after_opening {before : List (Request × Answer)} (opens : req.2 = .opened)
    (served : Served m window state (before ++ req :: after)) :
    Served m window (some ⟨1, req.1.now + window⟩) after := by
  induction before generalizing state with
  | cons _ _ ih =>
    cases served with
    | cons _ later => exact ih later
  | nil =>
    cases served with
    | cons admits later =>
      cases admits with
      | opened => exact later
      | counted | refused => cases opens

theorem Served.passes_between (room : count ≤ m)
    (served : Served m window (some ⟨count, resetTime⟩) (between ++ after))
    (unopened : ∀ other ∈ between, other.2 ≠ .opened) :
    count + between.countP (·.2.passes) ≤ m := by
  induction between generalizing count with
  | nil => simpa using room
  | cons _ _ ih =>
    rcases List.forall_mem_cons.mp unopened with ⟨notFirst, others⟩
    cases served with
    | cons admits later =>
      cases admits with
      | opened => exact absurd rfl notFirst
      | counted _ isRoom =>
        have bounded := ih isRoom later others
        rw [List.countP_cons_of_pos rfl]
        omega
      | refused =>
        rw [List.countP_cons_of_neg Bool.false_ne_true]
        exact ih room later others

/-- What was counted in the window and what passes later in an interval that has begun, which meets
one more window at most. -/
theorem Served.countP_of_begun (positive : 1 ≤ m) (room : count ≤ m)
    (begun : ∀ answer ∈ answered, moment ≤ answer.1.now)
    (ordered : answered.Pairwise (·.1.now ≤ ·.1.now))
    (served : Served m window (some ⟨count, resetTime⟩) answered) :
    count + answered.countP (inInterval moment window) ≤
      if moment + window ≤ resetTime then m else 2 * m := by
  induction answered generalizing count resetTime with
  | nil =>
    rw [List.countP_nil]
    split <;> omega
  | cons first answered ih =>
    rcases List.forall_mem_cons.mp begun with ⟨begunFirst, begunLater⟩
    rcases List.pairwise_cons.mp ordered with ⟨next, orderedLater⟩
    cases served with
    | @cons _ _ req _ _ admits later =>
      cases admits with
      | opened ended =>
        have bounded := ih positive begunLater orderedLater later
        rw [if_pos (Int.add_le_add_right begunFirst window)] at bounded
        split_ifs with lasts
        · have late := lasts.trans_lt (ended _ rfl)
          have outside : ((req, .opened) :: answered).countP (inInterval moment window) = 0 := by
            rw [List.countP_eq_zero]
            intro other member
            have isLate : req.now ≤ other.1.now := by
              rcases List.mem_cons.mp member with rfl | isLater
              · exact le_rfl
              · exact next other isLater
            simp only [inInterval, Bool.and_eq_true, decide_eq_true_eq]
            omega
          omega
        · rw [List.countP_cons]
          split <;> omega
      | counted _ isRoom =>
        have bounded := ih isRoom begunLater orderedLater later
        rw [List.countP_cons]
        split_ifs at bounded ⊢ <;> omega
      | refused =>
        rw [List.countP_cons_of_neg Bool.false_ne_true]
        exact ih room begunLater orderedLater later

theorem Served.countP_le (positive : 1 ≤ m)
    (room : ∀ requests, state = some requests → requests.count ≤ m)
    (ordered : answered.Pairwise (·.1.now ≤ ·.1.now)) (served : Served m window state answered) :
    answered.countP (inInterval moment window) ≤ 2 * m := by
  induction served with
  | nil => exact Nat.zero_le _
  | @cons _ next req answer later admits served ih =>
    rcases List.pairwise_cons.mp ordered with ⟨isNext, orderedLater⟩
    have roomLater : ∀ requests, next = some requests → requests.count ≤ m := by
      cases admits with
      | opened =>
        rintro _ ⟨⟩
        exact positive
      | counted _ isRoom =>
        rintro _ ⟨⟩
        exact isRoom
      | refused => exact room
    by_cases begun : moment ≤ req.now
    · have begunLater := fun other member => begun.trans (isNext other member)
      rcases next with _ | ⟨count, resetTime⟩
      · cases admits
      · have isRoom : count ≤ m := roomLater _ rfl
        have bounded := served.countP_of_begun positive isRoom begunLater orderedLater
        have isCounted : inInterval moment window (req, answer) = true → 1 ≤ count := by
          cases admits with
          | opened | counted => exact fun _ => Nat.le_add_left _ _
          | refused => rintro ⟨⟩
        have limit : (if moment + window ≤ resetTime then m else 2 * m) ≤ 2 * m := by
          split <;> omega
        rw [List.countP_cons]
        split_ifs with inside
        · have isPositive := isCounted inside
          omega
        · omega
    · have outside : inInterval moment window (req, answer) ≠ true := by
        simp [inInterval, begun]
      rw [List.countP_cons_of_neg outside]
      exact ih roomLater orderedLater

theorem serve_limited (positive : 1 ≤ m) {requests : List Request} (ordered : Ordered requests) :
    Limited m window (serve m window none requests) := by
  have served := @served_serve m window none requests
  have opens : ∀ before req after, serve m window none requests = before ++ req :: after →
      (req.2 = .opened ↔ Begins window before req.1) :=
    fun before req after split => (split ▸ served).opened_iff rfl
  refine ⟨opens, fun before opening between after split begins unbegun => ?_, fun _ => ?_,
    fun before req after split begins => ?_⟩
  · have opened := (opens _ _ _ split).mpr begins
    have unopened : ∀ other ∈ between, other.2 ≠ .opened := by
      intro other member isOpened
      rcases List.append_of_mem member with ⟨earlier, later, rfl⟩
      refine unbegun earlier other later rfl ((opens _ other (later ++ after) ?_).mp isOpened)
      simpa using split
    have bounded := ((split ▸ served).after_opening opened).passes_between positive unopened
    rw [List.countP_cons_of_pos (by rw [opened]; rfl)]
    omega
  · refine served.countP_le positive (by rintro _ ⟨⟩) ?_
    refine (@List.pairwise_map _ _ Prod.fst (fun req other : Request => req.now ≤ other.now)
      (serve m window none requests)).mp ?_
    rw [map_serve]
    exact ordered
  · rw [(opens _ _ _ split).mpr begins]
    rfl

end OneKey

theorem fixedWindow_limits [DecidableEq κ] (positive : 1 ≤ m) (window : ℤ)
    (key : Request → κ) : FixedWindow m window key (fixedWindow m window key) where
  limited requests ordered k := by
    rw [filter_answers]
    exact serve_limited positive (List.Pairwise.filter _ ordered)
  independent requests others k same := by
    rw [filter_answers, filter_answers, same]

theorem answers_congr {ι : Type} [DecidableEq κ] [DecidableEq ι]
    {key : Request → κ} {otherKey : Request → ι} {requests : List Request}
    (alike : ∀ req ∈ requests, ∀ other ∈ requests,
      (key req = key other ↔ otherKey req = otherKey other))
    {table : Requests κ} {otherTable : Requests ι}
    (same : ∀ req ∈ requests, table (key req) = otherTable (otherKey req)) :
    answers (fixedWindow m window key) table requests =
      answers (fixedWindow m window otherKey) otherTable requests := by
  induction requests generalizing table otherTable with
  | nil => rfl
  | cons req later ih =>
    have sameFirst := same req List.mem_cons_self
    rw [answers, answers]
    simp only [fixedWindow, sameFirst]
    congr 1
    apply ih fun req member other otherMember => alike req (List.mem_cons_of_mem _ member) other
      (List.mem_cons_of_mem _ otherMember)
    intro other member
    have equal := alike other (List.mem_cons_of_mem _ member) req List.mem_cons_self
    simp only [Function.update_apply, equal, same other (List.mem_cons_of_mem _ member)]

/-- Both middlewares are fixed windows, and take the same decisions where their keys tell requests
apart in the same way. -/
theorem middlewares_limit (m : ℕ) (positive : 1 ≤ m) :
    (∀ window, FixedWindow m window Request.userKey (rateLimit m window)) ∧
      FixedWindow m 60000 Request.ipKey (validateRateLimit m) ∧
      ∀ requests, (∀ req ∈ requests, ∀ other ∈ requests,
          (Request.userKey req = Request.userKey other ↔ req.ipKey = other.ipKey)) →
        answers (rateLimit m 60000) (fun _ => none) requests =
          answers (validateRateLimit m) (fun _ => none) requests :=
  ⟨fun window => fixedWindow_limits positive window _, fixedWindow_limits positive _ _,
    fun _ alike => answers_congr alike fun _ _ => rfl⟩

def adasRequest (now : ℤ) : Request := ⟨some "ada", some "::1", now⟩

theorem middlewares_limit_reopening :
    FixedWindow 2 60000 Request.ipKey (validateRateLimit 2) ∧
      answers (validateRateLimit 2) (fun _ => none) ([0, 10, 59500, 60000, 60001].map adasRequest) =
        [(adasRequest 0, .opened), (adasRequest 10, .counted),
          (adasRequest 59500, .tooManyRequests 1), (adasRequest 60000, .tooManyRequests 0),
          (adasRequest 60001, .opened)] ∧
      answers (rateLimit 2 60000) (fun _ => none) ([0, 10, 59500, 60000, 60001].map adasRequest) =
        answers (validateRateLimit 2) (fun _ => none)
          ([0, 10, 59500, 60000, 60001].map adasRequest) :=
  have limits := middlewares_limit 2 one_le_two
  ⟨limits.2.1, by decide +kernel, limits.2.2 _ (by decide)⟩

end CodeClash.Backend
