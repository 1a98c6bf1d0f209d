import Mathlib.Algebra.Group.Int.Defs
import Mathlib.Algebra.Group.Nat.Defs

/-!
The delays that refusals announce (`app/security/rate_limits.py`).

Here the calls come one after the other, and what matters is what a refusal says and
what a later call checks. A counter is one row for a scope and the hash of a
principal. It is dropped when its window has expired, which is the only thing that
the checks look at besides the count: the delay that the backoff announces grows with
the count, from one second to sixteen, and is not looked at again. The other two
refusals announce what is left of the window.

Times are in microseconds. A call that reads the clock twice has both readings as
arguments. Of a counter's columns only the count and the end of the window are read.
-/

namespace SitBank.Security.RetryDelays

/-- `AuthAttemptCounter`. -/
structure AttemptCounter where
  failureCount : ℕ
  windowExpiresAt : ℤ
  deriving DecidableEq, Repr

/-- The rows, under the scope and the hash of the principal. -/
abbrev Counters := String → String → Option AttemptCounter

def Counters.set (rows : Counters) (scope key : String) (row : Option AttemptCounter) : Counters :=
  fun s k => if s = scope ∧ k = key then row else rows s k

@[simp] theorem set_self (rows : Counters) (scope key : String) (row : Option AttemptCounter) :
    rows.set scope key row scope key = row := by
  simp [Counters.set]

theorem set_other {rows : Counters} {scope key s k : String} {row : Option AttemptCounter}
    (h : ¬(s = scope ∧ k = key)) : rows.set scope key row s k = rows s k := by
  simp [Counters.set, h]

inductive LimitError
  | authBackoffRequired (retryAfter : ℤ)
  | durableRateLimitExceeded (retryAfter : ℤ)
  | valueError (message : String)
  deriving DecidableEq, Repr

def loginBackoffStartAttempts : ℕ := 3

def backoffStartAttempts (scope : String) : ℕ :=
  if scope = "login" ∨ scope = "admin_login" then loginBackoffStartAttempts else 1

/-- `timedelta(seconds=…)`. -/
def seconds (n : ℤ) : ℤ := n * 1000000

/-- `max(1, int(rest.total_seconds()))`: `int` cuts off towards zero. -/
def retryAfterOf (rest : ℤ) : ℤ := max 1 (rest.tdiv 1000000)

section Calls

variable (counterHash : String → String → String) (rows : Counters) (scope principal : String)

/-- `_load_counter`: an expired row is deleted. -/
def loadCounter (now : ℤ) : Option AttemptCounter × Counters :=
  match rows scope (counterHash scope principal) with
  | none => (none, rows)
  | some counter =>
      if counter.windowExpiresAt ≤ now then
        (none, rows.set scope (counterHash scope principal) none)
      else (some counter, rows)

/-- `min(2 ** (attempts - start_attempts), 16)`. -/
def backoffDelay (attempts : ℕ) : ℤ := min (2 ^ (attempts - backoffStartAttempts scope)) 16

def applyExponentialBackoff (now : ℤ) : Except LimitError Unit × Counters :=
  let (counter, rows) := loadCounter counterHash rows scope principal now
  let attempts := counter.elim 0 (·.failureCount)
  if attempts < backoffStartAttempts scope then (.ok (), rows)
  else (.error (.authBackoffRequired (backoffDelay scope attempts)), rows)

/-- `_load_or_create_counter`: `now` is the caller's reading, `later` that of the
look-up. -/
def loadOrCreateCounter (windowSeconds now later : ℤ) : AttemptCounter × Counters :=
  match loadCounter counterHash rows scope principal later with
  | (some counter, rows) => (counter, rows)
  | (none, rows) => (⟨0, now + seconds windowSeconds⟩, rows)

def activeWindowSeconds (windowSeconds : Option ℤ) (failureCount : ℕ) : ℤ :=
  match windowSeconds with
  | some window => window
  | none => if 10 < failureCount then 15 * 60 else 5 * 60

def recordFailure (windowSeconds : Option ℤ) (now later : ℤ) : ℕ × Counters :=
  let (counter, rows) := loadOrCreateCounter counterHash rows scope principal
    (windowSeconds.getD (5 * 60)) now later
  let failureCount := counter.failureCount + 1
  let windowExpiresAt := now + seconds (activeWindowSeconds windowSeconds failureCount)
  (failureCount, rows.set scope (counterHash scope principal)
    (some ⟨failureCount, windowExpiresAt⟩))

/-- The refusal is at `later`. -/
def enforceDurableFailureLimit (limit now later : ℤ) : Except LimitError Unit × Counters :=
  if limit < 1 then (.error (.valueError "Durable failure limit must be positive"), rows)
  else
    match loadCounter counterHash rows scope principal now with
    | (none, rows) => (.ok (), rows)
    | (some counter, rows) =>
        if counter.failureCount ≤ limit then (.ok (), rows)
        else
          (.error (.durableRateLimitExceeded (retryAfterOf (counter.windowExpiresAt - later))),
            rows)

def clearFailures (now : ℤ) : Counters :=
  match loadCounter counterHash rows scope principal now with
  | (none, rows) => rows
  | (some _, rows) => rows.set scope (counterHash scope principal) none

/-- A refusal rolls back, so that the rows are as before. -/
def consumeDurableRateLimit (limit windowSeconds now later : ℤ) : Except LimitError ℕ × Counters :=
  if limit < 1 ∨ windowSeconds < 1 then
    (.error (.valueError "Durable rate-limit bounds must be positive"), rows)
  else
    let (counter, loaded) := loadOrCreateCounter counterHash rows scope principal windowSeconds
      now later
    if limit ≤ counter.failureCount then
      (.error (.durableRateLimitExceeded (retryAfterOf (counter.windowExpiresAt - now))), rows)
    else
      (.ok (counter.failureCount + 1), loaded.set scope (counterHash scope principal)
        (some ⟨counter.failureCount + 1, counter.windowExpiresAt⟩))

end Calls

/-! ### Sequences of calls -/

inductive CallKind
  | backoff
  | failure (windowSeconds : Option ℤ)
  | enforce (limit : ℤ)
  | clear
  | consume (limit windowSeconds : ℤ)
  deriving DecidableEq, Repr

/-- A call, with its readings of the clock. -/
structure LimitCall where
  kind : CallKind
  scope : String
  principal : String
  now : ℤ
  later : ℤ
  deriving DecidableEq, Repr

def LimitCall.run (counterHash : String → String → String) (rows : Counters) (c : LimitCall) :
    Counters :=
  match c.kind with
  | .backoff => (applyExponentialBackoff counterHash rows c.scope c.principal c.now).2
  | .failure windowSeconds =>
      (recordFailure counterHash rows c.scope c.principal windowSeconds c.now c.later).2
  | .enforce limit =>
      (enforceDurableFailureLimit counterHash rows c.scope c.principal limit c.now c.later).2
  | .clear => clearFailures counterHash rows c.scope c.principal c.now
  | .consume limit windowSeconds =>
      (consumeDurableRateLimit counterHash rows c.scope c.principal limit windowSeconds c.now
        c.later).2

def runCalls (counterHash : String → String → String) (rows : Counters) (calls : List LimitCall) :
    Counters :=
  calls.foldl (LimitCall.run counterHash) rows

/-- The call adds to the count of the row: a failure, or a use that is not refused. -/
def LimitCall.counts (counterHash : String → String → String) (rows : Counters)
    (scope key : String) (c : LimitCall) : Bool :=
  c.scope = scope && counterHash c.scope c.principal = key &&
    match c.kind with
    | .failure _ => true
    | .consume limit windowSeconds => (consumeDurableRateLimit counterHash rows c.scope c.principal
        limit windowSeconds c.now c.later).1.isOk
    | _ => false

/-- None of the calls adds to the count of the row. -/
def Uncounted (counterHash : String → String → String) (scope key : String) :
    Counters → List LimitCall → Prop
  | _, [] => True
  | rows, c :: calls => c.counts counterHash rows scope key = false ∧
      Uncounted counterHash scope key (c.run counterHash rows) calls

section Rows

variable {counterHash : String → String → String} {rows : Counters} {scope principal : String}

theorem loadCounter_rows (now : ℤ) :
    (loadCounter counterHash rows scope principal now).2 = rows ∨
      (loadCounter counterHash rows scope principal now).2 =
        rows.set scope (counterHash scope principal) none := by
  unfold loadCounter
  split
  · exact .inl rfl
  · split
    · exact .inr rfl
    · exact .inl rfl

theorem applyExponentialBackoff_rows (now : ℤ) :
    (applyExponentialBackoff counterHash rows scope principal now).2 =
      (loadCounter counterHash rows scope principal now).2 := by
  unfold applyExponentialBackoff
  dsimp only
  split <;> rfl

theorem enforceDurableFailureLimit_rows (limit now later : ℤ) :
    (enforceDurableFailureLimit counterHash rows scope principal limit now later).2 = rows ∨
      (enforceDurableFailureLimit counterHash rows scope principal limit now later).2 =
        (loadCounter counterHash rows scope principal now).2 := by
  unfold enforceDurableFailureLimit
  split
  · exact .inl rfl
  · split
    · next h => simp [h]
    · next h =>
        split <;> simp [h]

theorem clearFailures_rows (now : ℤ) :
    clearFailures counterHash rows scope principal now = rows ∨
      clearFailures counterHash rows scope principal now =
        rows.set scope (counterHash scope principal) none := by
  have hload := @loadCounter_rows counterHash rows scope principal now
  unfold clearFailures
  split
  · next h =>
      rw [h] at hload
      exact hload
  · next h =>
      rw [h] at hload
      rcases hload with hload | hload
      · right
        rw [← hload]
      · right
        dsimp only at hload
        rw [hload]
        funext s k
        simp only [Counters.set]
        split <;> rfl

/-- A use that is refused leaves the rows as they are. -/
theorem consumeDurableRateLimit_rows {limit windowSeconds now later : ℤ}
    (h : (consumeDurableRateLimit counterHash rows scope principal limit windowSeconds now
      later).1.isOk = false) :
    (consumeDurableRateLimit counterHash rows scope principal limit windowSeconds now later).2 =
      rows := by
  unfold consumeDurableRateLimit at h ⊢
  dsimp only at h ⊢
  split
  · rfl
  · next hbounds =>
      rw [if_neg hbounds] at h
      split
      · rfl
      · next hcount =>
          rw [if_neg hcount] at h
          cases h

end Rows

/-- A call works on one row. -/
theorem run_other {counterHash : String → String → String} {rows : Counters} {c : LimitCall}
    {scope key : String} (h : ¬(scope = c.scope ∧ key = counterHash c.scope c.principal)) :
    c.run counterHash rows scope key = rows scope key := by
  obtain ⟨kind, s, p, now, later⟩ := c
  dsimp only at h
  -- every write goes through the loaded counter or its creation, under the call's own key
  have hload : ∀ now, (loadCounter counterHash rows s p now).2 scope key = rows scope key := by
    intro now
    rcases @loadCounter_rows counterHash rows s p now with hl | hl
    · rw [hl]
    · rw [hl, set_other h]
  have hcreate : ∀ windowSeconds now later, (loadOrCreateCounter counterHash rows s p windowSeconds
      now later).2 scope key = rows scope key := by
    intro windowSeconds now later
    rw [← hload later]
    unfold loadOrCreateCounter
    split <;> next heq => simp [heq]
  cases kind with
  | backoff =>
      change (applyExponentialBackoff counterHash rows s p now).2 scope key = _
      rw [applyExponentialBackoff_rows, hload]
  | failure windowSeconds =>
      change (recordFailure counterHash rows s p windowSeconds now later).2 scope key = _
      unfold recordFailure
      dsimp only
      rw [set_other h, hcreate]
  | enforce limit =>
      change (enforceDurableFailureLimit counterHash rows s p limit now later).2 scope key = _
      rcases @enforceDurableFailureLimit_rows counterHash rows s p limit now later with hr | hr
      · rw [hr]
      · rw [hr, hload]
  | clear =>
      change clearFailures counterHash rows s p now scope key = _
      rcases @clearFailures_rows counterHash rows s p now with hr | hr
      · rw [hr]
      · rw [hr, set_other h]
  | consume limit windowSeconds =>
      change (consumeDurableRateLimit counterHash rows s p limit windowSeconds now later).2 scope
        key = _
      unfold consumeDurableRateLimit
      dsimp only
      split
      · rfl
      · split
        · rfl
        · dsimp only
          rw [set_other h, hcreate]

/-- A call that does not count keeps the row or drops it. -/
theorem run_uncounted {counterHash : String → String → String} {rows : Counters} {c : LimitCall}
    {scope key : String} (h : c.counts counterHash rows scope key = false) :
    c.run counterHash rows scope key = rows scope key ∨
      c.run counterHash rows scope key = none := by
  by_cases hkey : scope = c.scope ∧ key = counterHash c.scope c.principal
  · obtain ⟨kind, s, p, now, later⟩ := c
    obtain ⟨rfl, rfl⟩ := hkey
    -- a loaded counter is kept, or deleted because it has run out
    have hload : ∀ now, (loadCounter counterHash rows scope p now).2 scope (counterHash scope p) =
          rows scope (counterHash scope p) ∨
        (loadCounter counterHash rows scope p now).2 scope (counterHash scope p) = none := by
      intro now
      rcases @loadCounter_rows counterHash rows scope p now with hl | hl
      · exact .inl (by rw [hl])
      · exact .inr (by rw [hl, set_self])
    simp only [LimitCall.counts, decide_true, Bool.true_and] at h
    cases kind with
    | backoff =>
        change (applyExponentialBackoff counterHash rows scope p now).2 _ _ = _ ∨
          (applyExponentialBackoff counterHash rows scope p now).2 _ _ = _
        rw [applyExponentialBackoff_rows]
        exact hload now
    | failure windowSeconds => cases h
    | enforce limit =>
        change (enforceDurableFailureLimit counterHash rows scope p limit now later).2 _ _ = _ ∨
          (enforceDurableFailureLimit counterHash rows scope p limit now later).2 _ _ = _
        rcases @enforceDurableFailureLimit_rows counterHash rows scope p limit now
          later with hr | hr
        · exact .inl (by rw [hr])
        · rw [hr]
          exact hload now
    | clear =>
        change clearFailures counterHash rows scope p now _ _ = _ ∨
          clearFailures counterHash rows scope p now _ _ = _
        rcases @clearFailures_rows counterHash rows scope p now with hr | hr
        · exact .inl (by rw [hr])
        · exact .inr (by rw [hr, set_self])
    | consume limit windowSeconds =>
        left
        change (consumeDurableRateLimit counterHash rows scope p limit windowSeconds now later).2 _
          _
          = _
        rw [consumeDurableRateLimit_rows h]
  · exact .inl (run_other hkey)

theorem runCalls_uncounted {counterHash : String → String → String} {scope key : String}
    {calls : List LimitCall} {rows : Counters} (h : Uncounted counterHash scope key rows calls) :
    runCalls counterHash rows calls scope key = rows scope key ∨
      runCalls counterHash rows calls scope key = none := by
  induction calls generalizing rows with
  | nil => exact .inl rfl
  | cons c calls ih =>
      obtain ⟨hc, hcalls⟩ := h
      have hrest := ih hcalls
      have hstep := run_uncounted hc
      change runCalls counterHash (c.run counterHash rows) calls scope key = _ ∨
        runCalls counterHash (c.run counterHash rows) calls scope key = _
      rcases hrest with hrest | hrest
      · rw [hrest]
        exact hstep
      · exact .inr hrest

/-! ### What the checks see -/

section Checks

variable {counterHash : String → String → String} {rows : Counters} {scope principal : String}

theorem loadCounter_eq_some {now : ℤ} {counter : AttemptCounter} :
    (loadCounter counterHash rows scope principal now).1 = some counter ↔
      rows scope (counterHash scope principal) = some counter ∧ now < counter.windowExpiresAt := by
  unfold loadCounter
  split
  · next h => simp [h]
  · next counter' h =>
      by_cases hexpired : counter'.windowExpiresAt ≤ now
      · simp only [if_pos hexpired, h, Option.some.injEq, reduceCtorEq, false_iff]
        rintro ⟨rfl, hlt⟩
        omega
      · simp only [if_neg hexpired, h, Option.some.injEq, iff_self_and]
        rintro rfl
        omega

/-- The row is expired by then, or there is none. -/
def ExpiredBy (row : Option AttemptCounter) (t : ℤ) : Prop :=
  ∀ counter, row = some counter → counter.windowExpiresAt ≤ t

theorem loadCounter_eq_none {now : ℤ} :
    (loadCounter counterHash rows scope principal now).1 = none ↔
      ExpiredBy (rows scope (counterHash scope principal)) now := by
  constructor
  · intro h counter hrow
    refine Int.not_lt.mp fun hlt => ?_
    rw [loadCounter_eq_some.mpr ⟨hrow, hlt⟩] at h
    cases h
  · intro h
    cases hload : (loadCounter counterHash rows scope principal now).1 with
    | none => rfl
    | some counter =>
        obtain ⟨hrow, hlt⟩ := loadCounter_eq_some.mp hload
        have := h counter hrow
        omega

/-- The row that the later call finds: the one of the refusal, or none. -/
theorem ExpiredBy.of_uncounted {row row' : Option AttemptCounter} {t : ℤ} (h : ExpiredBy row t)
    (hrow : row' = row ∨ row' = none) : ExpiredBy row' t := by
  rcases hrow with rfl | rfl
  · exact h
  · intro counter hnone
    cases hnone

theorem backoffStartAttempts_pos (scope : String) : 0 < backoffStartAttempts scope := by
  unfold backoffStartAttempts loginBackoffStartAttempts
  split <;> omega

theorem backoff_refuses_iff {now r : ℤ} :
    (applyExponentialBackoff counterHash rows scope principal now).1 =
        .error (.authBackoffRequired r) ↔
      ∃ counter, rows scope (counterHash scope principal) = some counter ∧
        now < counter.windowExpiresAt ∧ backoffStartAttempts scope ≤ counter.failureCount ∧
        r = backoffDelay scope counter.failureCount := by
  have hpos := backoffStartAttempts_pos scope
  have hbranch : ∀ attempts : ℕ,
      (if attempts < backoffStartAttempts scope then
        (Except.ok (), (loadCounter counterHash rows scope principal now).2)
      else (.error (.authBackoffRequired (backoffDelay scope attempts)),
        (loadCounter counterHash rows scope principal now).2)).1 =
        Except.error (LimitError.authBackoffRequired r) ↔
      backoffStartAttempts scope ≤ attempts ∧ r = backoffDelay scope attempts := by
    intro attempts
    by_cases hfew : attempts < backoffStartAttempts scope
    · rw [if_pos hfew]
      simp only [reduceCtorEq, false_iff]
      omega
    · rw [if_neg hfew]
      simp only [Except.error.injEq, LimitError.authBackoffRequired.injEq]
      omega
  unfold applyExponentialBackoff
  dsimp only
  rw [hbranch]
  cases hload : (loadCounter counterHash rows scope principal now).1 with
  | none =>
      have hexpired := loadCounter_eq_none.mp hload
      rw [Option.elim_none]
      constructor
      · omega
      · rintro ⟨counter, hrow, hlt, -⟩
        have := hexpired counter hrow
        omega
  | some counter =>
      obtain ⟨hrow, hlt⟩ := loadCounter_eq_some.mp hload
      simp [hrow, hlt]

theorem backoff_admits_of_expired {now : ℤ}
    (h : ExpiredBy (rows scope (counterHash scope principal)) now) :
    (applyExponentialBackoff counterHash rows scope principal now).1 = .ok () := by
  have hload := loadCounter_eq_none.mpr h
  have hpos := backoffStartAttempts_pos scope
  unfold applyExponentialBackoff
  dsimp only
  rw [hload]
  simp [hpos]

/-- The announced delay grows with the count, up to sixteen seconds. -/
theorem backoffDelay_mono (scope : String) {m n : ℕ} (h : m ≤ n) :
    backoffDelay scope m ≤ backoffDelay scope n ∧ backoffDelay scope n ≤ 16 := by
  have hpow : (2 : ℕ) ^ (m - backoffStartAttempts scope) ≤ 2 ^ (n - backoffStartAttempts scope) :=
    Nat.pow_le_pow_right (by decide) (by omega)
  have hcast : (2 : ℤ) ^ (m - backoffStartAttempts scope) ≤
      2 ^ (n - backoffStartAttempts scope) := by
    exact_mod_cast hpow
  unfold backoffDelay
  omega

/-- What is announced is what is left of the window, up to a second. -/
theorem lt_retryAfterOf (rest : ℤ) : rest < seconds (retryAfterOf rest + 1) := by
  unfold seconds retryAfterOf
  rcases Int.lt_or_le rest 0 with hneg | hpos
  · omega
  · rw [Int.tdiv_eq_ediv_of_nonneg hpos]
    omega

/-- A refusal by the limit of failures, and what it says. -/
theorem enforce_refuses {limit now later r : ℤ}
    (h : (enforceDurableFailureLimit counterHash rows scope principal limit now later).1 =
      .error (.durableRateLimitExceeded r)) :
    1 ≤ limit ∧ ExpiredBy (rows scope (counterHash scope principal)) (later + seconds (r + 1)) := by
  unfold enforceDurableFailureLimit at h
  split at h
  · cases h
  next hlimit =>
    split at h
    · cases h
    next counter loaded hload =>
      have hsome : (loadCounter counterHash rows scope principal now).1 = some counter := by
        rw [hload]
      obtain ⟨hrow, -⟩ := loadCounter_eq_some.mp hsome
      split at h
      · cases h
      · cases h
        refine ⟨by omega, fun counter' hrow' => ?_⟩
        cases hrow.symm.trans hrow'
        have := lt_retryAfterOf (counter.windowExpiresAt - later)
        omega

theorem enforce_admits_of_expired {limit now later : ℤ} (hlimit : 1 ≤ limit)
    (h : ExpiredBy (rows scope (counterHash scope principal)) now) :
    (enforceDurableFailureLimit counterHash rows scope principal limit now later).1 = .ok () := by
  have hload := loadCounter_eq_none.mpr h
  unfold enforceDurableFailureLimit
  rw [if_neg (by omega)]
  split
  · rfl
  · next heq =>
      rw [heq] at hload
      cases hload

theorem loadOrCreateCounter_of_expired {windowSeconds now later : ℤ}
    (h : ExpiredBy (rows scope (counterHash scope principal)) later) :
    (loadOrCreateCounter counterHash rows scope principal windowSeconds now later).1 =
      ⟨0, now + seconds windowSeconds⟩ := by
  have hload := loadCounter_eq_none.mpr h
  unfold loadOrCreateCounter
  split
  · next heq =>
      rw [heq] at hload
      cases hload
  · rfl

/-- A refusal of a use, and what it says. -/
theorem consume_refuses {limit windowSeconds now later r : ℤ}
    (h : (consumeDurableRateLimit counterHash rows scope principal limit windowSeconds
      now later).1 =
      .error (.durableRateLimitExceeded r)) :
    (1 ≤ limit ∧ 1 ≤ windowSeconds) ∧
      ExpiredBy (rows scope (counterHash scope principal)) (now + seconds (r + 1)) := by
  unfold consumeDurableRateLimit at h
  dsimp only at h
  split at h
  · cases h
  next hbounds =>
    split at h
    · next hcount =>
        refine ⟨by omega, fun counter hrow => ?_⟩
        by_cases hlive : later < counter.windowExpiresAt
        · have hload : loadOrCreateCounter counterHash rows scope principal
            windowSeconds now later =
              (counter, (loadCounter counterHash rows scope principal later).2) := by
            have hsome := loadCounter_eq_some.mpr ⟨hrow, hlive⟩
            unfold loadOrCreateCounter
            split
            · next heq =>
                rw [heq] at hsome ⊢
                cases hsome
                rfl
            · next heq =>
                rw [heq] at hsome
                cases hsome
          rw [hload] at h
          cases h
          have := lt_retryAfterOf (counter.windowExpiresAt - now)
          dsimp only
          omega
        · -- A new counter has counted nothing, so it is not refused.
          have hexpired : ExpiredBy (rows scope (counterHash scope principal)) later := by
            intro counter' hrow'
            cases hrow.symm.trans hrow'
            omega
          rw [loadOrCreateCounter_of_expired hexpired] at hcount
          dsimp only at hcount
          omega
    · cases h

theorem consume_admits_of_expired {limit windowSeconds now later : ℤ} (hlimit : 1 ≤ limit)
    (hwindow : 1 ≤ windowSeconds)
    (h : ExpiredBy (rows scope (counterHash scope principal)) later) :
    (consumeDurableRateLimit counterHash rows scope principal limit windowSeconds now later).1 =
      .ok 1 := by
  unfold consumeDurableRateLimit
  dsimp only
  rw [if_neg (by omega), loadOrCreateCounter_of_expired h]
  dsimp only
  rw [if_neg (by omega)]

end Checks

/-! ### Announced and later checked -/

/-- Who is refused at `t` is admitted after the announced delay, as long as nothing is
counted in between; where the delay is cut off to whole seconds, one second later. The
delay of the backoff grows with the count. -/
structure DelaysHonoured (counterHash : String → String → String) (rows : Counters)
    (scope principal : String) (t : ℤ) : Prop where
  backoff : ∀ r calls t',
    (applyExponentialBackoff counterHash rows scope principal t).1 =
      .error (.authBackoffRequired r) →
    Uncounted counterHash scope (counterHash scope principal)
      (applyExponentialBackoff counterHash rows scope principal t).2 calls →
    t + seconds r ≤ t' →
    (applyExponentialBackoff counterHash (runCalls counterHash
      (applyExponentialBackoff counterHash rows scope principal t).2 calls) scope principal t').1 =
      .ok ()
  consume : ∀ limit windowSeconds now r calls now' later', now ≤ t →
    (consumeDurableRateLimit counterHash rows scope principal limit windowSeconds now t).1 =
      .error (.durableRateLimitExceeded r) →
    Uncounted counterHash scope (counterHash scope principal)
      (consumeDurableRateLimit counterHash rows scope principal limit windowSeconds now t).2 calls →
    t + seconds (r + 1) ≤ now' → now' ≤ later' →
    (consumeDurableRateLimit counterHash (runCalls counterHash
      (consumeDurableRateLimit counterHash rows scope principal limit windowSeconds now t).2 calls)
      scope principal limit windowSeconds now' later').1 = .ok 1
  enforce : ∀ limit now r calls now' later', now ≤ t →
    (enforceDurableFailureLimit counterHash rows scope principal limit now t).1 =
      .error (.durableRateLimitExceeded r) →
    Uncounted counterHash scope (counterHash scope principal)
      (enforceDurableFailureLimit counterHash rows scope principal limit now t).2 calls →
    t + seconds (r + 1) ≤ now' → now' ≤ later' →
    (enforceDurableFailureLimit counterHash (runCalls counterHash
      (enforceDurableFailureLimit counterHash rows scope principal limit now t).2 calls)
      scope principal limit now' later').1 = .ok ()
  increasing : ∀ (rows' : Counters) t' counter counter' r r',
    rows scope (counterHash scope principal) = some counter →
    rows' scope (counterHash scope principal) = some counter' →
    counter.failureCount ≤ counter'.failureCount →
    (applyExponentialBackoff counterHash rows scope principal t).1 =
      .error (.authBackoffRequired r) →
    (applyExponentialBackoff counterHash rows' scope principal t').1 =
      .error (.authBackoffRequired r') → r ≤ r' ∧ r' ≤ 16

/-- If the backoff refuses at `t`, then the window ends within the delay that it
announces. -/
def WindowEndsInTime (counterHash : String → String → String) (rows : Counters)
    (scope principal : String) (t : ℤ) : Prop :=
  ∀ counter, rows scope (counterHash scope principal) = some counter →
    t < counter.windowExpiresAt → backoffStartAttempts scope ≤ counter.failureCount →
    counter.windowExpiresAt ≤ t + seconds (backoffDelay scope counter.failureCount)

theorem ExpiredBy.mono {row : Option AttemptCounter} {t t' : ℤ} (h : ExpiredBy row t)
    (ht : t ≤ t') : ExpiredBy row t' := by
  intro counter hrow
  have := h counter hrow
  omega

section Delays

variable {counterHash : String → String → String} {rows : Counters} {scope principal : String}
  {t : ℤ}

/-- What is left of the row after a refusal and calls that do not count. -/
theorem row_after {rows' : Counters} {calls : List LimitCall}
    (hload : rows' = rows ∨ rows' = rows.set scope (counterHash scope principal) none)
    (hcalls : Uncounted counterHash scope (counterHash scope principal) rows' calls) :
    runCalls counterHash rows' calls scope (counterHash scope principal) =
        rows scope (counterHash scope principal) ∨
      runCalls counterHash rows' calls scope (counterHash scope principal) = none := by
  rcases hload with rfl | rfl
  · exact runCalls_uncounted hcalls
  · right
    rcases runCalls_uncounted hcalls with h | h
    · rw [h, set_self]
    · exact h

theorem backoff_honoured (h : WindowEndsInTime counterHash rows scope principal t) {r t' : ℤ}
    {calls : List LimitCall}
    (hr : (applyExponentialBackoff counterHash rows scope principal t).1 =
      .error (.authBackoffRequired r))
    (hcalls : Uncounted counterHash scope (counterHash scope principal)
      (applyExponentialBackoff counterHash rows scope principal t).2 calls)
    (ht : t + seconds r ≤ t') :
    (applyExponentialBackoff counterHash (runCalls counterHash
      (applyExponentialBackoff counterHash rows scope principal t).2 calls) scope principal t').1 =
      .ok () := by
  obtain ⟨counter, hrow, hlive, hcount, rfl⟩ := backoff_refuses_iff.mp hr
  have hexpired : ExpiredBy (rows scope (counterHash scope principal)) t' := by
    intro counter' hrow'
    cases hrow.symm.trans hrow'
    have := h counter hrow hlive hcount
    omega
  apply backoff_admits_of_expired
  refine hexpired.of_uncounted (row_after ?_ hcalls)
  rw [applyExponentialBackoff_rows]
  exact loadCounter_rows t

theorem consume_honoured {limit windowSeconds now r now' later' : ℤ} {calls : List LimitCall}
    (hnow : now ≤ t)
    (hr : (consumeDurableRateLimit counterHash rows scope principal limit windowSeconds now t).1 =
      .error (.durableRateLimitExceeded r))
    (hcalls : Uncounted counterHash scope (counterHash scope principal)
      (consumeDurableRateLimit counterHash rows scope principal limit windowSeconds now t).2 calls)
    (ht : t + seconds (r + 1) ≤ now') (hlater : now' ≤ later') :
    (consumeDurableRateLimit counterHash (runCalls counterHash
      (consumeDurableRateLimit counterHash rows scope principal limit windowSeconds now t).2 calls)
      scope principal limit windowSeconds now' later').1 = .ok 1 := by
  obtain ⟨⟨hlimit, hwindow⟩, hexpired⟩ := consume_refuses hr
  have hrows := consumeDurableRateLimit_rows (show (consumeDurableRateLimit counterHash rows scope
    principal limit windowSeconds now t).1.isOk = false by rw [hr]; rfl)
  apply consume_admits_of_expired hlimit hwindow
  exact (hexpired.mono (by omega)).of_uncounted (row_after (.inl hrows) hcalls)

theorem enforce_honoured {limit now r now' later' : ℤ} {calls : List LimitCall}
    (hr : (enforceDurableFailureLimit counterHash rows scope principal limit now t).1 =
      .error (.durableRateLimitExceeded r))
    (hcalls : Uncounted counterHash scope (counterHash scope principal)
      (enforceDurableFailureLimit counterHash rows scope principal limit now t).2 calls)
    (ht : t + seconds (r + 1) ≤ now') :
    (enforceDurableFailureLimit counterHash (runCalls counterHash
      (enforceDurableFailureLimit counterHash rows scope principal limit now t).2 calls)
      scope principal limit now' later').1 = .ok () := by
  obtain ⟨hlimit, hexpired⟩ := enforce_refuses hr
  apply enforce_admits_of_expired hlimit
  refine (hexpired.mono ht).of_uncounted (row_after ?_ hcalls)
  rcases @enforceDurableFailureLimit_rows counterHash rows scope principal limit now t with h | h
  · exact .inl h
  · rw [h]
    exact loadCounter_rows now

end Delays

/-- After any sequence of calls, the announced delays are honoured exactly if the
backoff does not refuse or the window ends within the delay. -/
theorem delays_honoured_iff (counterHash : String → String → String) (history : List LimitCall)
    (scope principal : String) (t : ℤ) :
    DelaysHonoured counterHash (runCalls counterHash (fun _ _ => none) history) scope principal t ↔
      WindowEndsInTime counterHash (runCalls counterHash (fun _ _ => none) history) scope principal
        t := by
  generalize runCalls counterHash (fun _ _ => none) history = rows
  constructor
  · intro h counter hrow hlive hcount
    have hrefused := backoff_refuses_iff.mpr ⟨counter, hrow, hlive, hcount, rfl⟩
    have hkept : (applyExponentialBackoff counterHash rows scope principal t).2 scope
        (counterHash scope principal) = some counter := by
      rw [applyExponentialBackoff_rows]
      unfold loadCounter
      rw [hrow]
      dsimp only
      rw [if_neg (by omega)]
      exact hrow
    -- a refused caller may come back when the delay has passed
    have hadmitted := h.backoff _ []
      (t + seconds (backoffDelay scope counter.failureCount)) hrefused
      trivial (Int.le_refl _)
    -- but a window that is still open then refuses it again
    refine Int.not_lt.mp fun hlater => ?_
    have hagain := backoff_refuses_iff.mpr ⟨counter, hkept, hlater, hcount, rfl⟩
    change (applyExponentialBackoff counterHash
      (applyExponentialBackoff counterHash rows scope principal t).2 scope principal _).1 = _
      at hadmitted
    rw [hagain] at hadmitted
    cases hadmitted
  · intro h
    exact {
      backoff := fun r calls t' hr hcalls ht => backoff_honoured h hr hcalls ht
      consume := fun _ _ _ _ _ _ _ hnow hr hcalls ht hlater =>
        consume_honoured hnow hr hcalls ht hlater
      enforce := fun _ _ _ _ _ _ _ hr hcalls ht _ => enforce_honoured hr hcalls ht
      increasing := by
        intro rows' t' counter counter' r r' hrow hrow' hle hr hr'
        obtain ⟨c, hc, -, -, rfl⟩ := backoff_refuses_iff.mp hr
        obtain ⟨c', hc', -, -, rfl⟩ := backoff_refuses_iff.mp hr'
        cases hrow.symm.trans hc
        cases hrow'.symm.trans hc'
        exact backoffDelay_mono scope hle }

/-- Three failed logins; four seconds later the backoff refuses for one second, and a
second after that it refuses again. -/
theorem refused_after_delay :
    ∃ history : List LimitCall,
      (applyExponentialBackoff (fun _ p => p) (runCalls (fun _ p => p) (fun _ _ => none) history)
        "login" "alice" (seconds 4)).1 = .error (.authBackoffRequired 1) ∧
      (applyExponentialBackoff (fun _ p => p) (runCalls (fun _ p => p) (fun _ _ => none) history)
        "login" "alice" (seconds 5)).1 = .error (.authBackoffRequired 1) ∧
      ¬DelaysHonoured (fun _ p => p) (runCalls (fun _ p => p) (fun _ _ => none) history) "login"
        "alice" (seconds 4) := by
  let failure (t : ℤ) : LimitCall := ⟨.failure none, "login", "alice", seconds t, seconds t⟩
  refine ⟨[failure 1, failure 2, failure 3], rfl, rfl, fun h => ?_⟩
  have hadmitted := h.backoff 1 [] (seconds 5) rfl trivial (by decide)
  cases hadmitted

end SitBank.Security.RetryDelays
