import Mathlib.Data.List.Sort
import SitBank.Audit.StoredEvents
import SitBank.Interaction.Machine

/-!
Concurrent writers of the audit log (`_audit_event` and `_write_system_audit_event` in
`app/security/audit.py`).

A session takes the advisory lock of the chain, which it keeps until its transaction ends, reads
the latest hash and inserts its row under the next value of the sequence. What callers do in
between and afterwards is left open: they may write further events, use the database for
something else, commit or roll back, depending on what has failed.

Between reading the latest hash and inserting, nobody else can commit or insert an event. So
the rows that are committed and those of the session that holds the lock form one chain at all
times (`ChainOk`).
-/

namespace SitBank.Audit

open SitBank.Python SitBank.Redaction SitBank.Interaction

/-! ### The database -/

/-- The transaction of a session: the events it has inserted, and whether it can only be rolled
back. -/
structure Transaction where
  written : List SecurityAuditEvent
  aborted : Bool

structure ChainWorld where
  committed : List SecurityAuditEvent
  /-- The next value of the sequence. -/
  nextId : ℤ
  /-- The session that holds the advisory lock. -/
  holder : Option ℕ
  session : ℕ → Transaction

/-- `ORDER BY id`. -/
def orderById (rows : List SecurityAuditEvent) : List SecurityAuditEvent :=
  rows.insertionSort fun e e' => e.id ≤ e'.id

namespace ChainWorld

variable (w : ChainWorld) (t : ℕ)

/-- The committed rows and the session's own. -/
def visible : List SecurityAuditEvent := orderById (w.committed ++ (w.session t).written)

def abort : ChainWorld :=
  { w with session := Function.update w.session t ⟨(w.session t).written, true⟩ }

def rollback : ChainWorld :=
  { w with
    holder := if w.holder = some t then none else w.holder
    session := Function.update w.session t ⟨[], false⟩ }

def commit : ChainWorld :=
  { w.rollback t with committed := w.committed ++ (w.session t).written }

def insert (e : SecurityAuditEvent) : ChainWorld :=
  { w with
    nextId := w.nextId + 1
    session := Function.update w.session t ⟨(w.session t).written ++ [e], false⟩ }

/-- A flush fails: the transaction is rolled back, and the session has to be told so. The value
of the sequence is used up. -/
def failFlush : ChainWorld := { (w.rollback t).abort t with nextId := w.nextId + 1 }

end ChainWorld

inductive ChainOp
  | lockChain
  | latestHash
  | insert (d : AuditDraft) (previous hash : String)
  /-- Any other statement of a caller. -/
  | work
  | commit
  | rollback

def ChainRes : ChainOp → Type
  | .latestHash => String
  | _ => Unit

inductive ChainFault
  | databaseError
  | hashError
  | auditWriteError
  deriving DecidableEq, Repr

/-- The choice says whether the database performs a statement. -/
def execChain (floatOf : List Char → FloatText) :
    Exec ChainOp ChainRes ChainFault ChainWorld Bool :=
  fun t o c w =>
    if (w.session t).aborted then
      match o with
      | .commit => some (if c then .ok () else .error .databaseError, w.rollback t)
      | .rollback => some (.ok (), w.rollback t)
      | _ => some (.error .databaseError, w)
    else
      match o with
      | .lockChain =>
          if c then
            match w.holder with
            | none => some (.ok (), { w with holder := some t })
            | some u => if u = t then some (.ok (), w) else none
          else some (.error .databaseError, w.abort t)
      | .latestHash =>
          if c then some (.ok (latestAuditEventHash (w.visible t)), w)
          else some (.error .databaseError, w.abort t)
      | .insert d previous hash =>
          let row := { d.row w.nextId previous with eventHash := some hash }
          match if c then storedRow floatOf row else none with
          | some e => some (.ok (), w.insert t e)
          | none => some (.error .databaseError, w.failFlush t)
      | .work => if c then some (.ok (), w) else some (.error .databaseError, w.abort t)
      | .commit =>
          if c then some (.ok (), w.commit t) else some (.error .databaseError, w.rollback t)
      | .rollback => some (.ok (), w.rollback t)

/-! ### The writers -/

abbrev ChainProg (α : Type) := Prog ChainOp ChainRes ChainFault α

def lockAuditChainForInsert : ChainProg Unit := Prog.perform ChainOp.lockChain

def readLatestHash : ChainProg String := Prog.perform ChainOp.latestHash

def flushEvent (d : AuditDraft) (previous hash : String) : ChainProg Unit :=
  Prog.perform (ChainOp.insert d previous hash)

/-- The arguments of a writer, with what it takes from the request. -/
structure EventInput {Key : Type} (text : RedactionText Key) (floatOf : List Char → FloatText) where
  eventType : String
  outcome : String
  userId : Option ℤ
  ipAddress : String
  userAgent : String
  correlationId : String
  sessionRef : Option String
  metadata : List (Key × Value Key)
  createdAt : ℤ
  /-- The floats are given by their `repr`. -/
  floats : EntryReprs floatOf metadata

section Writers

variable {Key : Type} {text : RedactionText Key} {floatOf : List Char → FloatText}

def EventInput.draft (i : EventInput text floatOf) : AuditDraft where
  eventType := i.eventType
  outcome := i.outcome
  userId := i.userId
  ipAddress := i.ipAddress
  userAgent := i.userAgent
  correlationId := i.correlationId
  sessionRef := i.sessionRef
  eventMetadata := auditMetadata text i.metadata
  createdAt := i.createdAt

def EventInput.systemDraft (i : EventInput text floatOf) : AuditDraft where
  eventType := i.eventType
  outcome := i.outcome
  userId := i.userId
  ipAddress := "system"
  userAgent := "system"
  correlationId := i.correlationId
  sessionRef := none
  eventMetadata := systemAuditMetadata text i.metadata
  createdAt := i.createdAt

variable (cfg : AuditConfig)

/-- The payload has no id. -/
def eventHash (d : AuditDraft) (previous : String) : ChainProg String :=
  match computeAuditEventHash cfg (d.row 0 previous) with
  | some hash => .ret hash
  | none => .raise .hashError

def addEvent (d : AuditDraft) : ChainProg Unit := do
  lockAuditChainForInsert
  let previous ← readLatestHash
  let hash ← eventHash cfg d previous
  flushEvent d previous hash

def onlyIf (b : Bool) (o : ChainOp) : ChainProg Unit :=
  if b then (Prog.perform o).bind fun _ => .ret () else .ret ()

/-- The event is flushed. The writer ends the transaction if `commits`. -/
def writeEvent (required commits : Bool) (d : AuditDraft) : ChainProg Unit :=
  Prog.tryCatch
    (do
      addEvent cfg d
      onlyIf commits .commit)
    fun _ => do
      onlyIf commits .rollback
      if required then .raise .auditWriteError else .ret ()

def auditEventWith (required : Bool) (i : EventInput text floatOf) : ChainProg Unit :=
  writeEvent cfg required (!required) i.draft

def writeSystemAuditEvent (required commit : Bool) (i : EventInput text floatOf) : ChainProg Unit :=
  writeEvent cfg required commit i.systemDraft

end Writers

/-- What a caller can do with its session. -/
inductive ChainAction {Key : Type} (text : RedactionText Key) (floatOf : List Char → FloatText)
  | auditEvent (i : EventInput text floatOf)
  | auditEventRequired (i : EventInput text floatOf)
  | auditSystemEvent (i : EventInput text floatOf)
  | auditSystemEventRequired (i : EventInput text floatOf)
  | auditSystemEventInTransactionRequired (i : EventInput text floatOf)
  | work
  | commit
  | rollback

/-- A caller decides with each action, which may have raised, how it goes on. -/
inductive ChainCaller {Key : Type} (text : RedactionText Key) (floatOf : List Char → FloatText)
  | done
  | act (a : ChainAction text floatOf) (next : Bool → ChainCaller text floatOf)

section Callers

variable {Key : Type} {text : RedactionText Key} {floatOf : List Char → FloatText}
  (cfg : AuditConfig)

def ChainAction.prog : ChainAction text floatOf → ChainProg Unit
  | .auditEvent i => auditEventWith cfg false i
  | .auditEventRequired i => auditEventWith cfg true i
  | .auditSystemEvent i => writeSystemAuditEvent cfg false true i
  | .auditSystemEventRequired i => writeSystemAuditEvent cfg true true i
  | .auditSystemEventInTransactionRequired i => writeSystemAuditEvent cfg true false i
  | .work => onlyIf true .work
  | .commit => onlyIf true .commit
  | .rollback => onlyIf true .rollback

/-- Whether the program returns. -/
def returns (p : ChainProg Unit) : ChainProg Bool :=
  Prog.tryCatch (p.bind fun _ => .ret true) fun _ => .ret false

/-- In the end the session is removed, and what it has not committed with it. -/
def ChainCaller.prog : ChainCaller text floatOf → ChainProg Unit
  | .done => onlyIf true .rollback
  | .act a next => (returns (a.prog cfg)).bind fun returned => (next returned).prog

end Callers

/-- The log, before any session has begun. -/
def ChainWorld.start (log : AuditLog) : ChainWorld :=
  ⟨log.rows, log.nextId, none, fun _ => ⟨[], false⟩⟩

/-- `verify_audit_hash_chain` accepts the committed rows, each of which names the hash of the one
before it. -/
def ChainWorld.Verified (cfg : AuditConfig) (w : ChainWorld) : Prop :=
  ∃ table : AuditTable, table.rows = orderById w.committed ∧
    (verifyAuditHashChain cfg table).valid = true ∧
    Linked cfg auditChainStartHash table.hashedRows

/-- The keys of what is inserted compare as before when they are read again. -/
def orderKept (_ : ℕ) (o : ChainOp) (_ : ChainWorld) : Prop :=
  match o with
  | .insert d _ _ => keepsOrder d.eventMetadata = true
  | _ => True

/-! ### The chain and the lock -/

section Proofs

variable {cfg : AuditConfig} {floatOf : List Char → FloatText}

/-- Rows in the order of their ids, which the verification accepts. -/
structure Chained (cfg : AuditConfig) (rows : List SecurityAuditEvent) (nextId : ℤ) : Prop where
  sorted : rows.Pairwise fun e e' => e.id < e'.id
  below : ∀ e ∈ rows, e.id < nextId
  accepted : (verifyEvents cfg .initial rows).errors = []

theorem Chained.left {rows more : List SecurityAuditEvent} {nextId : ℤ}
    (h : Chained cfg (rows ++ more) nextId) : Chained cfg rows nextId where
  sorted := (List.pairwise_append.mp h.sorted).1
  below e he := h.below e (List.mem_append_left more he)
  accepted := by
    have haccepted := h.accepted
    rw [verifyEvents, List.foldl_append] at haccepted
    exact (linked_of_verifyEvents haccepted).1

theorem Chained.skip {rows : List SecurityAuditEvent} {nextId : ℤ} (h : Chained cfg rows nextId) :
    Chained cfg rows (nextId + 1) where
  sorted := h.sorted
  below e he := (h.below e he).trans (Int.lt_succ nextId)
  accepted := h.accepted

theorem Chained.orderById {rows : List SecurityAuditEvent} {nextId : ℤ}
    (h : Chained cfg rows nextId) : orderById rows = rows :=
  (h.sorted.imp Int.le_of_lt).insertionSort_eq

/-- A row that a writer adds. -/
theorem Chained.append (hcfg : HexDigest cfg) {rows : List SecurityAuditEvent} {nextId : ℤ}
    {d : AuditDraft} {e : SecurityAuditEvent} (h : Chained cfg rows nextId)
    (he : newAuditEvent cfg rows nextId d = some e) : Chained cfg (rows ++ [e]) (nextId + 1) where
  sorted := by
    refine List.pairwise_append.mpr ⟨h.sorted, List.pairwise_singleton .., ?_⟩
    intro e₁ he₁ e₂ he₂
    rw [List.mem_singleton.mp he₂, (newAuditEvent_some he).1]
    exact h.below e₁ he₁
  below e' he' := by
    rcases List.mem_append.mp he' with he' | he'
    · exact h.skip.below e' he'
    · rw [List.mem_singleton.mp he', (newAuditEvent_some he).1]
      exact Int.lt_succ nextId
  accepted := errors_append_newAuditEvent hcfg h.accepted he

/-- What the session that holds the lock has inserted. -/
def ChainWorld.uncommitted (w : ChainWorld) : List SecurityAuditEvent :=
  match w.holder with
  | none => []
  | some u => (w.session u).written

/-- Only the holder of the lock has inserted events, and they continue the chain. -/
structure ChainOk (cfg : AuditConfig) (w : ChainWorld) : Prop where
  others : ∀ u, w.holder ≠ some u → (w.session u).written = []
  chained : Chained cfg (w.committed ++ w.uncommitted) w.nextId

/-- What session `t` can rely on. -/
structure LockKept (t : ℕ) (w w' : ChainWorld) : Prop where
  session : w'.session t = w.session t
  locked : w.holder = some t → w'.holder = some t ∧ w'.committed = w.committed

def chainRules (cfg : AuditConfig) : Rules ChainOp ChainWorld where
  rely := LockKept
  guar t w w' := ∀ u, u ≠ t → LockKept u w w'
  inv := ChainOk cfg
  cond := orderKept

theorem LockKept.refl (t : ℕ) (w : ChainWorld) : LockKept t w w := ⟨rfl, fun h => ⟨h, rfl⟩⟩

theorem LockKept.trans {t : ℕ} {w₁ w₂ w₃ : ChainWorld} (h : LockKept t w₁ w₂)
    (h' : LockKept t w₂ w₃) : LockKept t w₁ w₃ where
  session := h'.session.trans h.session
  locked hholder := by
    obtain ⟨hholder₂, hcommitted⟩ := h.locked hholder
    obtain ⟨hholder₃, hcommitted'⟩ := h'.locked hholder₂
    exact ⟨hholder₃, hcommitted'.trans hcommitted⟩

theorem chainRules_sound : (chainRules cfg).Sound where
  refl := LockKept.refl
  trans _ _ _ _ := LockKept.trans
  others _ _ _ _ hne _ hg := hg _ (Ne.symm hne)

theorem ChainOk.committed {w : ChainWorld} (h : ChainOk cfg w) :
    Chained cfg w.committed w.nextId := h.chained.left

/-- With the lock, a session sees the chain. -/
theorem ChainOk.visible {w : ChainWorld} {t : ℕ} (h : ChainOk cfg w) (ht : w.holder = some t) :
    w.visible t = w.committed ++ (w.session t).written ∧
      Chained cfg (w.committed ++ (w.session t).written) w.nextId := by
  have hchained := h.chained
  unfold ChainWorld.uncommitted at hchained
  rw [ht] at hchained
  exact ⟨hchained.orderById, hchained⟩

/-! ### One step -/

section Steps

variable {t u : ℕ} {w w' : ChainWorld}

theorem written_abort : ((w.abort t).session u).written = (w.session u).written := by
  unfold ChainWorld.abort
  by_cases h : u = t
  · subst h
    simp
  · simp [h]

theorem ChainOk.abort (h : ChainOk cfg w) : ChainOk cfg (w.abort t) where
  others u hu := written_abort.trans (h.others u hu)
  chained := by
    have hsame : (w.abort t).uncommitted = w.uncommitted := by
      show (match w.holder with | none => [] | some u => ((w.abort t).session u).written) = _
      unfold ChainWorld.uncommitted
      cases w.holder with
      | none => rfl
      | some u => exact written_abort
    rw [hsame]
    exact h.chained

/-- The end of a transaction. It is one of a session without the lock, which has no events. -/
theorem ChainOk.ended (h : ChainOk cfg w) (hw : w.holder ≠ some t) : w.commit t = w.rollback t := by
  unfold ChainWorld.commit
  rw [h.others t hw, List.append_nil]
  rfl

theorem ChainOk.rollback (h : ChainOk cfg w) : ChainOk cfg (w.rollback t) := by
  have hcommitted := h.committed
  -- only the holder of the lock has rows to lose
  by_cases hw : w.holder = some t
  · have hfree : (w.rollback t).holder = none := if_pos hw
    refine ⟨fun u _ => ?_, ?_⟩
    · show (Function.update w.session t _ u).written = []
      by_cases hu : u = t
      · subst hu
        simp
      · rw [Function.update_of_ne hu]
        exact h.others u fun heq => hu (Option.some.inj (heq.symm.trans hw))
    · unfold ChainWorld.uncommitted
      rw [hfree, List.append_nil]
      exact hcommitted
  · have hholder : (w.rollback t).holder = w.holder := if_neg hw
    have hwritten (u : ℕ) : ((w.rollback t).session u).written = (w.session u).written := by
      show (Function.update w.session t _ u).written = _
      by_cases hu : u = t
      · subst hu
        simp [h.others u hw]
      · rw [Function.update_of_ne hu]
    refine ⟨fun u hu => ?_, ?_⟩
    · rw [hwritten]
      exact h.others u (hholder ▸ hu)
    · have hsame : (w.rollback t).uncommitted = w.uncommitted := by
        unfold ChainWorld.uncommitted
        rw [hholder]
        cases w.holder with
        | none => rfl
        | some u => exact hwritten u
      rw [hsame]
      exact h.chained

theorem ChainOk.commit (h : ChainOk cfg w) : ChainOk cfg (w.commit t) := by
  by_cases hw : w.holder = some t
  · have hfree : (w.commit t).holder = none := if_pos hw
    refine ⟨fun u _ => h.rollback.others u ?_, ?_⟩
    · rw [show (w.rollback t).holder = none from if_pos hw]
      exact nofun
    · unfold ChainWorld.uncommitted
      rw [hfree, List.append_nil]
      exact (h.visible hw).2
  · rw [h.ended hw]
    exact h.rollback

theorem ChainOk.failFlush (h : ChainOk cfg w) : ChainOk cfg (w.failFlush t) where
  others := h.rollback.abort.others
  chained := h.rollback.abort.chained.skip

theorem ChainOk.lock (h : ChainOk cfg w) (hw : w.holder = none) :
    ChainOk cfg { w with holder := some t } where
  others u _ := h.others u (by rw [hw]; exact nofun)
  chained := by
    show Chained cfg (w.committed ++ (w.session t).written) w.nextId
    rw [h.others t (by rw [hw]; exact nofun), List.append_nil]
    exact h.committed

theorem LockKept.abort (hu : u ≠ t) : LockKept u w (w.abort t) :=
  ⟨Function.update_of_ne hu .., fun h => ⟨h, rfl⟩⟩

theorem LockKept.rollback (hu : u ≠ t) : LockKept u w (w.rollback t) where
  session := Function.update_of_ne hu ..
  locked h := by
    have hne : w.holder ≠ some t := fun ht => hu (Option.some.inj (h.symm.trans ht))
    exact ⟨(if_neg hne).trans h, rfl⟩

theorem LockKept.commit (hok : ChainOk cfg w) (hu : u ≠ t) : LockKept u w (w.commit t) where
  session := Function.update_of_ne hu ..
  locked h := by
    have hne : w.holder ≠ some t := fun ht => hu (Option.some.inj (h.symm.trans ht))
    rw [hok.ended hne]
    exact (LockKept.rollback hu).locked h

theorem LockKept.lock (hw : w.holder = none) : LockKept u w { w with holder := some t } :=
  ⟨rfl, fun h => nomatch hw.symm.trans h⟩

def ChainOp.inserts : ChainOp → Bool
  | .insert _ _ _ => true
  | _ => false

/-- What a statement that inserts nothing does. -/
theorem execChain_cases {o : ChainOp} {c : Bool} {r : Except ChainFault (ChainRes o)}
    (ho : o.inserts = false) (h : execChain floatOf t o c w = some (r, w')) :
    w' = w ∨ w' = w.abort t ∨ w' = w.rollback t ∨ w' = w.commit t ∨
      (w.holder = none ∧ w' = { w with holder := some t }) := by
  unfold execChain at h
  split at h
  -- an aborted transaction answers only its end; every other statement leaves the world alone
  · cases o with
    | commit =>
        cases h
        exact .inr (.inr (.inl rfl))
    | rollback =>
        cases h
        exact .inr (.inr (.inl rfl))
    | insert d previous hash => cases ho
    | lockChain =>
        cases h
        exact .inl rfl
    | latestHash =>
        cases h
        exact .inl rfl
    | work =>
        cases h
        exact .inl rfl
  · cases o with
    | insert d previous hash => cases ho
    | rollback =>
        cases h
        exact .inr (.inr (.inl rfl))
    | commit =>
        cases c with
        | true =>
            cases h
            exact .inr (.inr (.inr (.inl rfl)))
        | false =>
            cases h
            exact .inr (.inr (.inl rfl))
    | work =>
        cases c with
        | true =>
            cases h
            exact .inl rfl
        | false =>
            cases h
            exact .inr (.inl rfl)
    | latestHash =>
        cases c with
        | true =>
            cases h
            exact .inl rfl
        | false =>
            cases h
            exact .inr (.inl rfl)
    | lockChain =>
        cases c with
        | false =>
            cases h
            exact .inr (.inl rfl)
        | true =>
            dsimp only at h
            rw [if_pos rfl] at h
            split at h
            · next hfree =>
                cases h
                exact .inr (.inr (.inr (.inr ⟨hfree, rfl⟩)))
            · split at h
              · cases h
                exact .inl rfl
              · cases h

theorem execChain_ok {o : ChainOp} {c : Bool} {r : Except ChainFault (ChainRes o)}
    (ho : o.inserts = false) (hok : ChainOk cfg w) (h : execChain floatOf t o c w = some (r, w')) :
    (∀ u, u ≠ t → LockKept u w w') ∧ ChainOk cfg w' := by
  obtain rfl | rfl | rfl | rfl | ⟨hfree, rfl⟩ := execChain_cases ho h
  · exact ⟨fun u _ => .refl u w', hok⟩
  · exact ⟨fun u hu => .abort hu, hok.abort⟩
  · exact ⟨fun u hu => .rollback hu, hok.rollback⟩
  · exact ⟨fun u hu => .commit hok hu, hok.commit⟩
  · exact ⟨fun u _ => .lock hfree, hok.lock hfree⟩

end Steps

/-! ### Writers -/

section Programs

variable {t : ℕ} {w : ChainWorld}

/-- A program without inserts. -/
theorem holds_of_all {α : Type} {p : ChainProg α}
    (hp : Prog.All (fun o => o.inserts = false) p) :
    Holds (execChain floatOf) (chainRules cfg) t p (fun _ _ => True) w :=
  Holds.of_all (I := fun _ => True) (fun _ _ _ _ => trivial)
    (fun _ _ _ _ _ ho _ hok _ he =>
      ⟨(execChain_ok ho hok he).1, (execChain_ok ho hok he).2, trivial⟩) hp trivial

/-- The metadata of an event is a dictionary. -/
structure DraftOk (floatOf : List Char → FloatText) (d : AuditDraft) : Prop where
  dict : ∃ pairs, d.eventMetadata = .obj pairs
  json : JsonOk floatOf d.eventMetadata

section Inputs

variable {Key : Type} {text : RedactionText Key}

theorem draftOk_draft (i : EventInput text floatOf) : DraftOk floatOf i.draft :=
  ⟨⟨_, rfl⟩, jsonOk_auditMetadata text i.floats⟩

theorem draftOk_systemDraft (i : EventInput text floatOf) : DraftOk floatOf i.systemDraft :=
  ⟨⟨_, rfl⟩, jsonOk_systemAuditMetadata text i.floats⟩

end Inputs

/-- The row that is stored is the one that a writer adds to the chain it sees. -/
theorem newAuditEvent_stored {d : AuditDraft} (hd : DraftOk floatOf d)
    (horder : keepsOrder d.eventMetadata = true) {rows : List SecurityAuditEvent} {id : ℤ}
    {hash : String} {e : SecurityAuditEvent}
    (hhash : computeAuditEventHash cfg (d.row 0 (latestAuditEventHash rows)) = some hash)
    (he : storedRow floatOf { d.row id (latestAuditEventHash rows) with eventHash := some hash } =
      some e) :
    ∃ d', newAuditEvent cfg rows id d' = some e := by
  obtain ⟨pairs, hpairs⟩ := hd.dict
  have hcompute := @computeAuditEventHash_stored floatOf cfg _ _ _ hpairs hd.json horder he
  obtain ⟨-, rfl⟩ := storedRow_some hd.json.floats he
  refine ⟨{ d with eventMetadata := reloaded d.eventMetadata }, ?_⟩
  have hcompute' : computeAuditEventHash cfg
      (AuditDraft.row { d with eventMetadata := reloaded d.eventMetadata } id
        (latestAuditEventHash rows)) = some hash := hcompute.trans hhash
  unfold newAuditEvent
  dsimp only
  rw [hcompute']
  rfl

theorem ChainOk.insert (hcfg : HexDigest cfg) {d : AuditDraft} (h : ChainOk cfg w)
    (ht : w.holder = some t) {e : SecurityAuditEvent}
    (he : newAuditEvent cfg (w.committed ++ (w.session t).written) w.nextId d = some e) :
    ChainOk cfg (w.insert t e) where
  others u hu := by
    have hne : u ≠ t := fun heq => hu (heq ▸ ht)
    show (Function.update w.session t _ u).written = []
    rw [Function.update_of_ne hne]
    exact h.others u hu
  chained := by
    have hrows : (w.insert t e).committed ++ (w.insert t e).uncommitted =
        w.committed ++ (w.session t).written ++ [e] := by
      have hwritten : (w.insert t e).uncommitted = (w.session t).written ++ [e] := by
        unfold ChainWorld.uncommitted ChainWorld.insert
        rw [ht]
        simp
      rw [hwritten, List.append_assoc]
      rfl
    rw [hrows]
    exact (h.visible ht).2.append hcfg he

theorem holds_flushEvent (hcfg : HexDigest cfg) {d : AuditDraft} (hd : DraftOk floatOf d)
    {hash : String} (ht : w.holder = some t)
    (hhash : computeAuditEventHash cfg (d.row 0 (latestAuditEventHash (w.visible t))) =
      some hash) :
    Holds (execChain floatOf) (chainRules cfg) t
      (flushEvent d (latestAuditEventHash (w.visible t)) hash) (fun _ _ => True) w := by
  refine Holds.perform fun w₁ hrely hok horder c r w₂ he => ?_
  obtain ⟨hsession, hlocked⟩ := hrely
  obtain ⟨ht₁, hcommitted⟩ := hlocked ht
  -- the session sees what it saw when it read the latest hash
  have hsame : w.visible t = w₁.visible t := by
    unfold ChainWorld.visible
    rw [hsession, hcommitted]
  rw [hsame] at hhash he
  obtain ⟨hvisible, -⟩ := hok.visible ht₁
  unfold execChain at he
  split at he
  · cases he
    exact ⟨fun u _ => .refl u w₁, hok, trivial⟩
  · dsimp only at he
    split at he
    · next e hstored =>
        cases c with
        | false => cases hstored
        | true =>
            cases he
            obtain ⟨d', hnew⟩ := newAuditEvent_stored hd horder hhash hstored
            rw [hvisible] at hnew
            refine ⟨fun u hu => ⟨Function.update_of_ne hu .., fun h => ⟨h, rfl⟩⟩, ?_, trivial⟩
            exact hok.insert hcfg ht₁ hnew
    · cases he
      refine ⟨fun u hu => ?_, hok.failFlush, trivial⟩
      have hended := (LockKept.rollback (w := w₁) hu).trans (.abort hu)
      exact ⟨hended.session, hended.locked⟩

theorem holds_addEvent (hcfg : HexDigest cfg) {d : AuditDraft} (hd : DraftOk floatOf d) :
    Holds (execChain floatOf) (chainRules cfg) t (addEvent cfg d) (fun _ _ => True) w := by
  -- the advisory lock comes first: whoever gets past it holds the chain
  have hlock : Holds (execChain floatOf) (chainRules cfg) t lockAuditChainForInsert
      (fun r w' => (∃ u, r = .ok u) → w'.holder = some t) w := by
    refine Holds.perform fun w₁ _ hok _ c r w₂ he => ?_
    obtain ⟨hguar, hok'⟩ := execChain_ok rfl hok he
    refine ⟨hguar, hok', ?_⟩
    rintro ⟨u, rfl⟩
    unfold execChain at he
    split at he
    · cases he
    · dsimp only at he
      split at he
      · split at he
        · cases he
          rfl
        · next hholder =>
            split at he
            · next heq =>
                cases he
                rw [hholder, heq]
            · cases he
      · cases he
  -- and while it is held, the latest hash that is read is the one in the table
  have hlatest {w' : ChainWorld} (hw' : w'.holder = some t) :
      Holds (execChain floatOf) (chainRules cfg) t readLatestHash (fun r w'' => ∀ previous,
        r = .ok previous → w''.holder = some t ∧
          previous = latestAuditEventHash (w''.visible t)) w' := by
    refine Holds.perform fun w₁ hrely hok _ c r w₂ he => ?_
    obtain ⟨hguar, hok'⟩ := execChain_ok rfl hok he
    refine ⟨hguar, hok', ?_⟩
    rintro previous rfl
    unfold execChain at he
    split at he
    · cases he
    · dsimp only at he
      split at he
      · cases he
        exact ⟨(hrely.locked hw').1, rfl⟩
      · cases he
  -- with the lock held, the event links to that hash
  refine hlock.bind (fun u w' hw' => ?_) fun _ _ _ => trivial
  refine (hlatest (hw' ⟨u, rfl⟩)).bind (fun previous w'' hw'' => ?_) fun _ _ _ => trivial
  obtain ⟨hholder, rfl⟩ := hw'' previous rfl
  unfold eventHash
  split
  · next hash hhash => exact holds_flushEvent hcfg hd hholder hhash
  · trivial

theorem all_onlyIf {A : ChainOp → Prop} {b : Bool} {o : ChainOp} (ho : A o) :
    Prog.All A (onlyIf b o) := by
  unfold onlyIf
  cases b with
  | false => trivial
  | true => exact (Prog.All.perform ho).bind fun _ => trivial

theorem holds_writeEvent (hcfg : HexDigest cfg) (required commits : Bool) {d : AuditDraft}
    (hd : DraftOk floatOf d) :
    Holds (execChain floatOf) (chainRules cfg) t (writeEvent cfg required commits d)
      (fun _ _ => True) w := by
  unfold writeEvent
  refine Holds.tryCatch (M := fun _ _ => True) ?_ (fun _ _ _ => trivial) fun _ w' _ => ?_
  · refine (holds_addEvent hcfg hd).bind (fun _ w' _ => ?_) fun _ _ _ => trivial
    exact holds_of_all (all_onlyIf rfl)
  · have hrollback : Prog.All (fun o => o.inserts = false) (onlyIf commits .rollback) :=
      all_onlyIf rfl
    refine holds_of_all (hrollback.bind fun _ => ?_)
    cases required <;> trivial

variable {Key : Type} {text : RedactionText Key}

theorem holds_action (hcfg : HexDigest cfg) (a : ChainAction text floatOf) :
    Holds (execChain floatOf) (chainRules cfg) t (a.prog cfg) (fun _ _ => True) w := by
  cases a with
  | auditEvent i => exact holds_writeEvent hcfg _ _ (draftOk_draft i)
  | auditEventRequired i => exact holds_writeEvent hcfg _ _ (draftOk_draft i)
  | auditSystemEvent i => exact holds_writeEvent hcfg _ _ (draftOk_systemDraft i)
  | auditSystemEventRequired i => exact holds_writeEvent hcfg _ _ (draftOk_systemDraft i)
  | auditSystemEventInTransactionRequired i =>
      exact holds_writeEvent hcfg _ _ (draftOk_systemDraft i)
  | work => exact holds_of_all (all_onlyIf rfl)
  | commit => exact holds_of_all (all_onlyIf rfl)
  | rollback => exact holds_of_all (all_onlyIf rfl)

theorem holds_caller (hcfg : HexDigest cfg) (caller : ChainCaller text floatOf) :
    Holds (execChain floatOf) (chainRules cfg) t (caller.prog cfg) (fun _ _ => True) w := by
  induction caller generalizing w with
  | done => exact holds_of_all (all_onlyIf rfl)
  | act a next ih =>
      have hreturns : Holds (execChain floatOf) (chainRules cfg) t (returns (a.prog cfg))
          (fun _ _ => True) w := by
        refine Holds.tryCatch (M := fun _ _ => True) ?_ (fun _ _ _ => trivial) fun _ _ _ => trivial
        exact (holds_action hcfg a).bind (fun _ _ _ => trivial) fun _ _ _ => trivial
      exact hreturns.bind (fun returned _ _ => ih returned) fun _ _ _ => trivial

end Programs

theorem ChainOk.verified {w : ChainWorld} (h : ChainOk cfg w) : w.Verified cfg := by
  have hcommitted := h.committed
  refine ⟨⟨w.committed, hcommitted.sorted⟩, hcommitted.orderById.symm, ?_, ?_⟩
  · exact List.isEmpty_iff.mpr hcommitted.accepted
  · exact (linked_of_verifyEvents hcommitted.accepted).2

theorem chainOk_start {log : AuditLog} (h : log.Accepted cfg) : ChainOk cfg (.start log) where
  others _ _ := rfl
  chained := by
    show Chained cfg (log.rows ++ []) log.nextId
    rw [List.append_nil]
    exact ⟨log.sorted, log.lt_nextId, AuditLog.accepted_iff.mp h⟩

/-- Whatever the sessions do and in whatever order, the committed rows are a valid chain, if the
keys of the metadata keep their order. -/
theorem chain_verified {Key : Type} {text : RedactionText Key} (hcfg : HexDigest cfg)
    {log : AuditLog} (hlog : log.Accepted cfg) (callers : ℕ → ChainCaller text floatOf)
    {y : Conf ChainOp ChainRes ChainFault Unit ChainWorld}
    (h : Reach (execChain floatOf) orderKept ⟨.start log, fun t => (callers t).prog cfg⟩ y) :
    y.world.Verified cfg := by
  have hstart : AllHold (execChain floatOf) (chainRules cfg)
      (⟨.start log, fun t => (callers t).prog cfg⟩ : Conf ChainOp ChainRes ChainFault Unit _) :=
    ⟨chainOk_start hlog, fun t => holds_caller hcfg (callers t)⟩
  exact (reach_holds chainRules_sound hstart h).1.verified

end Proofs

/-! ### Two sessions, and two keys -/

/-- A digit of a checksum, 64 times. -/
def checksumConfig : AuditConfig where
  keyUsable := true
  hmacSha256 m := String.ofList (List.replicate 64
    (hexDigit (m.foldl (fun n c => (31 * n + c.toNat) % 65521) 7)))
  sha256 _ := String.ofList (List.replicate 64 '0')

theorem checksumConfig_hexDigest : HexDigest checksumConfig := by
  intro m
  simp [checksumConfig]

def emptyLog : AuditLog where
  rows := []
  sorted := sorted_nil
  nextId := 1
  lt_nextId := lt_one_nil

def noFloat (_ : List Char) : FloatText := ⟨[], plainChar_nil⟩

def nullEntries (keys : List PyStr) : List (PyStr × Value PyStr) :=
  keys.map fun key => (key, .scalar .null)

theorem nullEntries_reprs (keys : List PyStr) : EntryReprs noFloat (nullEntries keys) := by
  induction keys with
  | nil => trivial
  | cons key keys ih => exact ⟨trivial, ih⟩

def loginInput (keys : List PyStr) : EventInput sampleRedactionText noFloat where
  eventType := "login"
  outcome := "success"
  userId := none
  ipAddress := "10.0.0.1"
  userAgent := "browser"
  correlationId := "c"
  sessionRef := none
  metadata := nullEntries keys
  createdAt := 0
  floats := nullEntries_reprs keys

/-- The first session writes an event; the others write one that is required, and commit it. -/
def loginCallers (keys : List PyStr) (t : ℕ) : ChainCaller sampleRedactionText noFloat :=
  if t = 0 then .act (.auditEvent (loginInput keys)) fun _ => .done
  else .act (.auditEventRequired (loginInput keys)) fun _ => .act .commit fun _ => .done

def loginStart (keys : List PyStr) : Conf ChainOp ChainRes ChainFault Unit ChainWorld :=
  ⟨.start emptyLog, fun t => (loginCallers keys t).prog checksumConfig⟩

instance (t : ℕ) (o : ChainOp) (w : ChainWorld) : Decidable (orderKept t o w) :=
  match o with
  | .insert d _ _ => inferInstanceAs (Decidable (keepsOrder d.eventMetadata = true))
  | .lockChain => inferInstanceAs (Decidable True)
  | .latestHash => inferInstanceAs (Decidable True)
  | .work => inferInstanceAs (Decidable True)
  | .commit => inferInstanceAs (Decidable True)
  | .rollback => inferInstanceAs (Decidable True)

theorem chain_verified_twoSessions :
    ∃ y, Reach (execChain noFloat) orderKept (loginStart [.ofString "method"]) y ∧
      y.world.committed.length = 2 ∧ y.world.Verified checksumConfig := by
  have hrun : (runChecked (execChain noFloat) (fun t o w => decide (orderKept t o w))
      (loginStart [.ofString "method"])
      [(0, true), (0, true), (0, true), (0, true), (1, true), (1, true), (1, true),
        (1, true)]).any (fun y => y.world.committed.length = 2) = true := by
    decide +kernel
  obtain ⟨y, hy, hlength⟩ := (Option.any_eq_true ..).mp hrun
  have hreach := reach_of_runChecked (execChain noFloat) (fun _ _ _ => of_decide_eq_true) .refl hy
  have haccepted : emptyLog.Accepted checksumConfig := rfl
  exact ⟨y, hreach, of_decide_eq_true hlength,
    chain_verified checksumConfig_hexDigest haccepted (loginCallers [.ofString "method"]) hreach⟩

/-- Two surrogates come before U+E000, and the character that they are read as comes after
it. -/
theorem surrogateKeys_mismatch : HexDigest checksumConfig ∧ emptyLog.Accepted checksumConfig ∧
    ∃ y, Reach (execChain noFloat) (fun _ _ _ => True) (loginStart [[0xD83D, 0xDE00], [0xE000]]) y ∧
      ¬y.world.Verified checksumConfig := by
  have hrun : (run (execChain noFloat) (loginStart [[0xD83D, 0xDE00], [0xE000]])
      [(0, true), (0, true), (0, true), (0, true)]).any (fun y =>
        !(verifyEvents checksumConfig .initial (orderById y.world.committed)).errors.isEmpty) =
      true := by
    decide +kernel
  obtain ⟨y, hy, herrors⟩ := (Option.any_eq_true ..).mp hrun
  refine ⟨checksumConfig_hexDigest, rfl, y, reach_of_run _ .refl hy, ?_⟩
  rintro ⟨table, htable, hvalid, -⟩
  rw [← htable] at herrors
  have hnone : (verifyEvents checksumConfig .initial table.rows).errors.isEmpty = true := hvalid
  rw [hnone] at herrors
  cases herrors

end SitBank.Audit
