import Mathlib.Data.Nat.Notation
import SitBank.Interaction.Machine
import SitBank.Interaction.RowLock

/-!
Durable counters (`app/security/rate_limits.py`), for one scope and principal.

The model has the row of the counter and what PostgreSQL keeps of the transactions
that work on it: the row lock, a deletion and an insertion that are not committed
yet. `SELECT … FOR UPDATE` is two steps. The statement picks the row that is
committed when it starts; if it has to wait and the row is gone by then, it
returns nothing, also when there is a new one. An `INSERT` waits for a transaction
that has inserted or deleted a row of the same key.

The identity map of a session holds its instances weakly, and no call keeps the
counter that it has loaded: every call reads the row anew. A session is any
sequence of calls, of commits and of rollbacks; exceptions are caught between
them. `clear_failures` is not part of the model.
-/

namespace SitBank.Security.RateLimits

open SitBank.Interaction

/-- `AuthAttemptCounter`; times are in microseconds. -/
structure Counter where
  id : ℕ
  failureCount : ℕ
  windowExpiresAt : ℕ
  deriving DecidableEq, Repr

/-- A committed call: the row it has counted in, and its limit if it was a
`consume_durable_rate_limit`. -/
structure Counted where
  window : ℕ
  limit : Option ℕ
  deriving DecidableEq, Repr

inductive CounterError
  | limitExceeded
  | backoffRequired
  | valueError
  | integrity
  | staleData
  | objectDeleted
  deriving DecidableEq, Repr

/-- `holder` has the row lock, and has deleted the row if the flag is set.
`counted`, `early` and `raised` are not stored anywhere: the committed calls, how
many rows were removed before their window had expired, and the exceptions of
`consume_durable_rate_limit`. -/
structure CounterWorld where
  clock : ℕ
  row : Option Counter
  holder : Option (ℕ × Bool)
  inserter : Option (ℕ × Counter)
  nextId : ℕ
  counted : List Counted
  early : ℕ
  raised : List CounterError

/-- `reload` marks the second look-up of a consuming call, after its insertion has failed;
`now` is the time at which the look-up began. -/
inductive CounterOp
  | time
  | read
  | snapshot (reload : Bool)
  | lock (id now : ℕ) (reload : Bool)
  | delete (seen : Counter)
  | insert (windowExpiresAt : ℕ)
  | store (seen : Counter) (failureCount windowExpiresAt : ℕ) (limit : Option ℕ)
  | refresh (id : ℕ)
  | commit
  | rollback
  | note (e : CounterError)

def CounterRes : CounterOp → Type
  | .time => ℕ
  | .read => Option Counter
  | .snapshot _ => Option ℕ
  | .lock _ _ _ => Option Counter
  | .insert _ => Counter
  | .refresh _ => ℕ
  | _ => Unit

abbrev CounterReq (α : Type) := Prog CounterOp CounterRes CounterError α

/-! ### Statements -/

namespace CounterWorld

variable (w : CounterWorld) (t : ℕ)

/-- Another session has the row lock. -/
def locked : Bool := waits (w.holder.map Prod.fst) t

/-- Another session has inserted or deleted a row and not committed. -/
def pendingKey : Bool :=
  waits (w.inserter.map Prod.fst) t ||
    match w.holder with
    | some (u, true) => u ≠ t
    | _ => false

/-- The committed row, unless the session itself has deleted it. -/
def visible : Option Counter := if w.holder = some (t, true) then none else w.row

/-- The session has no transaction any more. -/
def endTransaction : CounterWorld :=
  { w with
    holder := if w.locked t then w.holder else none
    inserter := if waits (w.inserter.map Prod.fst) t then w.inserter else none }

def lock (id : ℕ) : Option Counter × CounterWorld :=
  match w.visible t with
  | some r => if r.id = id then (some r, { w with holder := some (t, false) }) else (none, w)
  | none => (none, w)

/-- That there was no row to delete is only a warning. -/
def delete (seen : Counter) : CounterWorld :=
  match w.row with
  | some r => if r.id = seen.id then { w with holder := some (t, true) } else w
  | none => w

def insert (windowExpiresAt : ℕ) : Except CounterError Counter × CounterWorld :=
  if (w.visible t).isSome then (.error .integrity, w)
  else
    let c : Counter := ⟨w.nextId, 0, windowExpiresAt⟩
    (.ok c, { w with inserter := some (t, c), nextId := w.nextId + 1 })

/-- A row that the session has deleted is gone. -/
def dropDeleted : CounterWorld :=
  if w.holder = some (t, true) then
    { w with
      row := none
      early := if w.row.any fun r => decide (w.clock < r.windowExpiresAt) then w.early + 1
        else w.early }
  else w

/-- The commit of a row that the session has inserted. -/
def storeInserted (c : Counter) (limit : Option ℕ) : CounterWorld :=
  { w.dropDeleted t with
    row := some c
    counted := w.counted ++ [Counted.mk c.id limit] }.endTransaction t

/-- The commit of an `UPDATE`. -/
def storeUpdated (r : Counter) (limit : Option ℕ) : CounterWorld :=
  { w with row := some r, counted := w.counted ++ [Counted.mk r.id limit] }.endTransaction t

/-- The counter is written and the transaction committed. -/
def store (seen : Counter) (failureCount windowExpiresAt : ℕ) (limit : Option ℕ) :
    Except CounterError Unit × CounterWorld :=
  if w.inserter = some (t, seen) then
    (.ok (), w.storeInserted t ⟨seen.id, failureCount, windowExpiresAt⟩ limit)
  else
    match w.row with
    | some r =>
        if r.id = seen.id then
          (.ok (), w.storeUpdated t ⟨r.id, written seen.failureCount failureCount r.failureCount,
            written seen.windowExpiresAt windowExpiresAt r.windowExpiresAt⟩ limit)
        else (.error .staleData, w.endTransaction t)
    | none => (.error .staleData, w.endTransaction t)

/-- The first use of an instance after a commit. -/
def refresh (id : ℕ) : Except CounterError ℕ :=
  match w.row with
  | some r => if r.id = id then .ok r.failureCount else .error .objectDeleted
  | none => .error .objectDeleted

end CounterWorld

/-- `none` if the statement has to wait. -/
def counterAct (t : ℕ) (o : CounterOp) (w : CounterWorld) :
    Option (Except CounterError (CounterRes o) × CounterWorld) :=
  match o with
  | .time => some (.ok w.clock, w)
  | .read => some (.ok (w.visible t), w)
  | .snapshot _ => some (.ok ((w.visible t).map Counter.id), w)
  | .lock id _ _ => if w.locked t then none else some (.ok (w.lock t id).1, (w.lock t id).2)
  | .delete seen => if w.locked t then none else some (.ok (), w.delete t seen)
  | .insert windowExpiresAt =>
      if w.pendingKey t then none else some (w.insert t windowExpiresAt)
  | .store seen failureCount windowExpiresAt limit =>
      if w.locked t then none else some (w.store t seen failureCount windowExpiresAt limit)
  | .refresh id => some (w.refresh id, w)
  | .commit => some (.ok (), (w.dropDeleted t).endTransaction t)
  | .rollback => some (.ok (), w.endTransaction t)
  | .note e => some (.ok (), { w with raised := w.raised ++ [e] })

/-- The choice is how much time passes. -/
def counterExec : Exec CounterOp CounterRes CounterError CounterWorld ℕ := fun t o tick w =>
  (counterAct t o w).map fun r => (r.1, { r.2 with clock := r.2.clock + tick })

def utcnow : CounterReq ℕ := Prog.perform CounterOp.time

def read : CounterReq (Option Counter) := Prog.perform CounterOp.read

def snapshot (reload : Bool) : CounterReq (Option ℕ) := Prog.perform (CounterOp.snapshot reload)

def lock (id now : ℕ) (reload : Bool) : CounterReq (Option Counter) :=
  Prog.perform (CounterOp.lock id now reload)

def delete (seen : Counter) : CounterReq Unit := Prog.perform (CounterOp.delete seen)

def store (seen : Counter) (failureCount windowExpiresAt : ℕ) (limit : Option ℕ) :
    CounterReq Unit :=
  Prog.perform (CounterOp.store seen failureCount windowExpiresAt limit)

def refresh (id : ℕ) : CounterReq ℕ := Prog.perform (CounterOp.refresh id)

def commit : CounterReq Unit := Prog.perform CounterOp.commit

def rollback : CounterReq Unit := Prog.perform CounterOp.rollback

def note (e : CounterError) : CounterReq Unit := Prog.perform (CounterOp.note e)

/-! ### Look-ups -/

def dropExpired (now : ℕ) (counter : Counter) : CounterReq (Option Counter) :=
  if counter.windowExpiresAt ≤ now then do
    delete counter
    pure none
  else pure (some counter)

/-- `_load_counter`. -/
def loadCounter : CounterReq (Option Counter) := do
  let now ← utcnow
  match ← read with
  | none => pure none
  | some counter => dropExpired now counter

/-- `SELECT … FOR UPDATE`. -/
def selectForUpdate (now : ℕ) (reload : Bool) : CounterReq (Option Counter) := do
  match ← snapshot reload with
  | none => pure none
  | some id => lock id now reload

/-- `_load_counter(…, lock=True)`. -/
def loadCounterForUpdate (reload : Bool) : CounterReq (Option Counter) := do
  let now ← utcnow
  match ← selectForUpdate now reload with
  | none => pure none
  | some counter => dropExpired now counter

/-- `consumes` is set in a consuming call. -/
def reloadCounter (consumes : Bool) : CounterReq Counter := do
  match ← loadCounterForUpdate consumes with
  | none => .raise .integrity
  | some counter => pure counter

/-- The `INSERT` in a savepoint. -/
def createCounter (consumes : Bool) (windowExpiresAt : ℕ) : CounterReq Counter :=
  .op (.insert windowExpiresAt) fun
    | .ok counter => pure counter
    | .error .integrity => reloadCounter consumes
    | .error e => .raise e

/-- `_load_or_create_counter`. -/
def loadOrCreateCounter (consumes : Bool) (now windowSeconds : ℕ) : CounterReq Counter := do
  match ← loadCounterForUpdate false with
  | some counter => pure counter
  | none => createCounter consumes (now + windowSeconds * 1000000)

/-! ### Calls -/

/-- `startAttempts` is `_backoff_start_attempts(scope)`. -/
def applyExponentialBackoff (startAttempts : ℕ) : CounterReq Unit := do
  match ← loadCounter with
  | none => if 0 < startAttempts then pure () else .raise .backoffRequired
  | some counter =>
      if counter.failureCount < startAttempts then pure () else .raise .backoffRequired

def activeWindowSeconds (windowSeconds : Option ℕ) (failureCount : ℕ) : ℕ :=
  match windowSeconds with
  | some seconds => seconds
  | none => if 10 < failureCount then 15 * 60 else 5 * 60

def recordFailure (windowSeconds : Option ℕ) : CounterReq Unit := do
  let now ← utcnow
  let counter ← loadOrCreateCounter false now (windowSeconds.getD (5 * 60))
  store counter (counter.failureCount + 1)
    (now + activeWindowSeconds windowSeconds (counter.failureCount + 1) * 1000000) none

def consumeLoaded (limit : ℕ) (counter : Counter) : CounterReq Unit :=
  if limit ≤ counter.failureCount then do
    rollback
    .raise .limitExceeded
  else do
    store counter (counter.failureCount + 1) counter.windowExpiresAt (some limit)
    let _ ← refresh counter.id
    pure ()

def consumeDurableRateLimit (limit windowSeconds : ℕ) : CounterReq Unit :=
  if limit < 1 ∨ windowSeconds < 1 then .raise .valueError
  else do
    let now ← utcnow
    let counter ← loadOrCreateCounter true now windowSeconds
    consumeLoaded limit counter

/-! ### Sessions -/

inductive CounterCall
  | backoff (startAttempts : ℕ)
  | failure (windowSeconds : Option ℕ)
  | consume (limit windowSeconds : ℕ)
  | commit
  | rollback
  deriving DecidableEq, Repr

def CounterCall.call : CounterCall → CounterReq Unit
  | .backoff startAttempts => applyExponentialBackoff startAttempts
  | .failure windowSeconds => recordFailure windowSeconds
  | .consume limit windowSeconds =>
      (consumeDurableRateLimit limit windowSeconds).tryCatch fun e => do
        note e
        .raise e
  | .commit => RateLimits.commit
  | .rollback => RateLimits.rollback

def runSession : List CounterCall → CounterReq Unit
  | [] => rollback
  | call :: calls => do
      call.call.tryCatch fun _ => pure ()
      runSession calls

abbrev CounterConf := Conf CounterOp CounterRes CounterError Unit CounterWorld

/-- No counter yet, and any number of sessions. -/
def counterStart (sessions : ℕ → List CounterCall) (clock : ℕ) : CounterConf where
  world := ⟨clock, none, none, none, 0, [], 0, []⟩
  prog t := runSession (sessions t)

end SitBank.Security.RateLimits
