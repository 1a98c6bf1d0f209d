import SitBank.Admin.Cases
import SitBank.Interaction.Machine

/-!
Decisions about one dispute or one support ticket by any number of reviewers
(`transition_dispute_status_for_staff`, `transition_support_ticket_status_for_staff`).

A transition reads the row without a lock. Its `UPDATE` matches only while the status
is the one that was read, waits for a session that has written the row and not yet
committed, and then looks at what that session has left. The same values are assigned
once more through the loaded copy. From the first write to the end of the transaction
nobody else can write the row, so what is committed is a step of the graph.
-/

namespace SitBank.Admin.CaseDecisions

open SitBank.Interaction SitBank.Python

/-! ### The row -/

/-- The columns that a transition writes. -/
structure Decision (S : Type) where
  status : S
  resolverId : ℤ
  resolutionNote : Option (List Char)
  decidedAt : Option ℤ
  deriving DecidableEq, Repr

def Decision.store {S : Type} (d : Decision S) (c : StaffCase S) : StaffCase S :=
  { c with
    status := d.status
    resolverId := some d.resolverId
    resolutionNote := d.resolutionNote
    decidedAt := d.decidedAt }

/-- A committed transition; `before` is the status that it has replaced. -/
structure Transition (S : Type) extends Decision S where
  session : ℕ
  before : S
  deriving DecidableEq, Repr

/-- `row` is committed, `written` the version of a session that has not ended its
transaction. `times` are the readings of the clock. -/
structure DecisionWorld (S : Type) where
  row : StaffCase S
  written : Option (ℕ × Decision S)
  clock : ℕ
  times : List (ℕ × ℕ)
  transitions : List (Transition S)
  deriving DecidableEq, Repr

/-! ### Statements -/

inductive DecisionError
  | auth
  | auditWrite
  | operational
  deriving DecidableEq, Repr

inductive Question
  | refused
  | audited
  deriving DecidableEq, Repr

inductive DecisionOp (S : Type)
  | ask (q : Question)
  | now
  | get
  /-- `UPDATE ... WHERE status = expected`. -/
  | updateWhere (expected : S) (d : Decision S)
  /-- The `UPDATE` of the loaded copy. -/
  | rewrite (d : Decision S)
  | commit
  | rollback

/-- `updateWhere` tells whether a row was matched. -/
def DecisionRes {S : Type} : DecisionOp S → Type
  | .ask _ => Bool
  | .now => ℕ
  | .get => StaffCase S
  | .updateWhere _ _ => Bool
  | _ => Unit

abbrev DecisionReq (S α : Type) := Prog (DecisionOp S) DecisionRes DecisionError α

structure DecisionChoice where
  yes : Bool
  delay : ℕ
  fail : Bool

namespace DecisionWorld

variable {S : Type} (w : DecisionWorld S) (t : ℕ)

/-- Another session has written the row. -/
def blocked : Bool :=
  match w.written with
  | some (u, _) => u ≠ t
  | none => false

/-- The row as session `t` sees it when nobody else writes it. -/
def current : StaffCase S :=
  match w.written with
  | some (_, d) => d.store w.row
  | none => w.row

/-- The row in a plain `SELECT`. -/
def visible : StaffCase S := if w.blocked t then w.row else w.current

def discard : DecisionWorld S :=
  match w.written with
  | some (u, _) => if u = t then { w with written := none } else w
  | none => w

def publish : DecisionWorld S :=
  match w.written with
  | some (u, d) =>
      if u = t then { w with
        row := d.store w.row
        written := none
        transitions := w.transitions ++ [{ d with session := t, before := w.row.status }] }
      else w
  | none => w

end DecisionWorld

def decisionExec {S : Type} [DecidableEq S] :
    Exec (DecisionOp S) DecisionRes DecisionError (DecisionWorld S) DecisionChoice :=
  fun t o c w =>
  match o with
  | .ask _ => some (.ok c.yes, w)
  | .now => some (.ok (w.clock + c.delay),
      { w with clock := w.clock + c.delay, times := w.times ++ [(t, w.clock + c.delay)] })
  | .get => some (.ok (w.visible t), w)
  | .updateWhere expected d =>
      if w.blocked t then none
      else if w.current.status = expected then some (.ok true, { w with written := some (t, d) })
      else some (.ok false, w)
  | .rewrite d => if w.blocked t then none else some (.ok (), { w with written := some (t, d) })
  | .commit =>
      if c.fail then some (.error .operational, w.discard t) else some (.ok (), w.publish t)
  | .rollback => some (.ok (), w.discard t)

/-! ### Transitions -/

/-- A call. `newStatus` is `none` for a text that is no status. -/
structure TransitionRequest (S : Type) where
  actorId : ℤ
  newStatus : Option S
  note : String
  deriving DecidableEq, Repr

section Program

variable {S : Type} [DecidableEq S] (kind : CaseKind S)

def ask (q : Question) : DecisionReq S Bool := Prog.perform (DecisionOp.ask q)

def now : DecisionReq S ℕ := Prog.perform DecisionOp.now

def get : DecisionReq S (StaffCase S) := Prog.perform DecisionOp.get

def updateWhere (expected : S) (d : Decision S) : DecisionReq S Bool :=
  Prog.perform (DecisionOp.updateWhere expected d)

def rewrite (d : Decision S) : DecisionReq S Unit := Prog.perform (DecisionOp.rewrite d)

def commit : DecisionReq S Unit := Prog.perform DecisionOp.commit

def rollback : DecisionReq S Unit := Prog.perform DecisionOp.rollback

def decisionTime (newStatus : S) (c : StaffCase S) : DecisionReq S (Option ℤ) :=
  if newStatus ∈ kind.decided then do
    let now ← now
    pure (some now)
  else pure c.decidedAt

/-- The audit event is required; without it the transition is rolled back. -/
def recordTransition (expected : S) (d : Decision S) : DecisionReq S Unit := do
  if ← updateWhere expected d then
    rewrite d
    if ← ask .audited then commit
    else
      rollback
      .raise .auditWrite
  else
    rollback
    .raise .auth

def transitionStatusForStaff (r : TransitionRequest S) : DecisionReq S Unit := do
  if ← ask .refused then .raise .auth
  else
    let c ← get
    match r.newStatus with
    | none => .raise .auth
    | some newStatus =>
        if newStatus ∈ kind.transitions c.status then do
          let decidedAt ← decisionTime kind newStatus c
          recordTransition c.status ⟨newStatus, r.actorId, noteText r.note, decidedAt⟩
        else .raise .auth

/-- The commit of the browser session at the end of the request. -/
def saveSession : DecisionReq S Unit := commit.tryCatch fun _ => pure ()

def TransitionRequest.serve (r : TransitionRequest S) : DecisionReq S Unit := do
  (transitionStatusForStaff kind r).tryCatch fun e => do
    saveSession
    .raise e
  saveSession

abbrev DecisionConf (S : Type) :=
  Conf (DecisionOp S) DecisionRes DecisionError Unit (DecisionWorld S)

/-- A row in any status, and any number of calls that have not started. -/
def decisionStart (c : StaffCase S) (requests : ℕ → TransitionRequest S) : DecisionConf S where
  world := { row := c, written := none, clock := 0, times := [], transitions := [] }
  prog t := (requests t).serve kind

end Program

/-! ### What is committed -/

section Results

variable {S : Type} (kind : CaseKind S)

/-- The transitions lead from one status to the other along the graph. -/
def Path (first last : S) : List (Transition S) → Prop
  | [] => first = last
  | e :: l => e.before = first ∧ e.status ∈ kind.transitions e.before ∧ Path e.status last l

/-- The values are those of this call: its actor, its status, its note, and the time
at which it has read the clock. -/
structure Own (c : StaffCase S) (request : TransitionRequest S) (t : ℕ) (times : List (ℕ × ℕ))
    (d : Decision S) : Prop where
  actor : d.resolverId = request.actorId
  status : request.newStatus = some d.status
  note : d.resolutionNote = noteText request.note
  decided : d.status ∈ kind.decided → ∃ i, (t, i) ∈ times ∧ d.decidedAt = some (i : ℤ)
  undecided : d.status ∉ kind.decided → d.decidedAt = c.decidedAt

/-- The row holds what the last of the transitions has written. -/
def stored (c : StaffCase S) (l : List (Transition S)) : StaffCase S :=
  match l.getLast? with
  | none => c
  | some e => e.toDecision.store c

/-- The transitions form a path, the row holds the last one, and every one holds the
values of its own call. -/
structure Committed (c : StaffCase S) (requests : ℕ → TransitionRequest S)
    (w : DecisionWorld S) : Prop where
  path : Path kind c.status w.row.status w.transitions
  row : w.row = stored c w.transitions
  own : ∀ e ∈ w.transitions, Own kind c (requests e.session) e.session w.times e.toDecision

/-- No transition leaves a decided status. -/
def Final : Prop := ∀ s ∈ kind.decided, kind.transitions s = []

variable {kind}

theorem Path.append {first last : S} {l : List (Transition S)} (h : Path kind first last l)
    {e : Transition S} (hbefore : e.before = last) (hnext : e.status ∈ kind.transitions last) :
    Path kind first e.status (l ++ [e]) := by
  induction l generalizing first with
  | nil =>
      have hfirst : first = last := h
      exact ⟨hbefore.trans hfirst.symm, hbefore ▸ hnext, rfl⟩
  | cons f l ih => exact ⟨h.1, h.2.1, ih h.2.2⟩

/-- A path from a decided status is empty. -/
theorem Path.eq_nil (hfinal : Final kind) {first last : S} {l : List (Transition S)}
    (h : Path kind first last l) (hdecided : first ∈ kind.decided) : l = [] := by
  cases l with
  | nil => rfl
  | cons e l =>
      obtain ⟨hbefore, hnext, -⟩ := h
      rw [hbefore, hfinal first hdecided] at hnext
      cases hnext

theorem Path.decided_le_one [DecidableEq S] (hfinal : Final kind) {first last : S}
    {l : List (Transition S)} (h : Path kind first last l) :
    (l.filter fun e => e.status ∈ kind.decided).length ≤ 1 := by
  induction l generalizing first with
  | nil => exact Nat.zero_le 1
  | cons e l ih =>
      by_cases hdecided : e.status ∈ kind.decided
      · rw [h.2.2.eq_nil hfinal hdecided]
        simp [hdecided]
      · rw [List.filter_cons_of_neg (by simpa using hdecided)]
        exact ih h.2.2

theorem Path.decided_of_decided (hfinal : Final kind) {first last : S} {l : List (Transition S)}
    (h : Path kind first last l) (hlast : last ∉ kind.decided) :
    ∀ e ∈ l, e.status ∉ kind.decided := by
  induction l generalizing first with
  | nil => exact nofun
  | cons e l ih =>
      intro f hf hdecided
      rcases List.mem_cons.mp hf with rfl | hf
      · have hnil := h.2.2.eq_nil hfinal hdecided
        have hend := h.2.2
        rw [hnil] at hend
        have hend : f.status = last := hend
        exact hlast (hend ▸ hdecided)
      · exact ih h.2.2 f hf hdecided

theorem Own.mono {c : StaffCase S} {request : TransitionRequest S} {t : ℕ} {times : List (ℕ × ℕ)}
    {d : Decision S} (h : Own kind c request t times d) (l : List (ℕ × ℕ)) :
    Own kind c request t (times ++ l) d := by
  refine ⟨h.actor, h.status, h.note, fun hd => ?_, h.undecided⟩
  obtain ⟨i, hi, hat⟩ := h.decided hd
  exact ⟨i, List.mem_append_left _ hi, hat⟩

theorem store_store (d d' : Decision S) (c : StaffCase S) : d.store (d'.store c) = d.store c := rfl

theorem stored_append (c : StaffCase S) (l : List (Transition S)) (e : Transition S) :
    stored c (l ++ [e]) = e.toDecision.store (stored c l) := by
  unfold stored
  rw [List.getLast?_append]
  cases l.getLast? with
  | none => rfl
  | some f => exact (store_store ..).symm

/-! ### Steps -/

variable (c : StaffCase S) (requests : ℕ → TransitionRequest S)

/-- What is written and not committed is a step of the graph from the committed status,
with the values of its call. -/
structure DecisionsOk (kind : CaseKind S) (w : DecisionWorld S) : Prop
    extends Committed kind c requests w where
  next : ∀ u d, w.written = some (u, d) →
    d.status ∈ kind.transitions w.row.status ∧ Own kind c (requests u) u w.times d

/-- What the other sessions leave to session `t`. -/
structure Left (t : ℕ) (w w' : DecisionWorld S) : Prop where
  written : ∀ d, w.written = some (t, d) → w'.written = some (t, d) ∧ w'.row = w.row
  unwritten : (∀ d, w.written ≠ some (t, d)) → ∀ d, w'.written ≠ some (t, d)
  times : ∀ p ∈ w.times, p ∈ w'.times

def decisionRules (kind : CaseKind S) : Rules (DecisionOp S) (DecisionWorld S) where
  rely := Left
  guar t w w' := ∀ u, u ≠ t → Left u w w'
  inv := DecisionsOk c requests kind
  cond _ _ _ := True

theorem decisionRules_sound : (decisionRules c requests kind).Sound where
  refl t w := ⟨fun _ h => ⟨h, rfl⟩, id, fun _ h => h⟩
  trans t w₁ w₂ w₃ h h' := by
    refine ⟨fun d hd => ?_, fun hd => h'.unwritten (h.unwritten hd),
      fun p hp => h'.times p (h.times p hp)⟩
    obtain ⟨hwritten, hrow⟩ := h.written d hd
    obtain ⟨hwritten', hrow'⟩ := h'.written d hwritten
    exact ⟨hwritten', hrow'.trans hrow⟩
  others t u w w' hne _ h := h t hne.symm

section Operations

variable {c requests} {w : DecisionWorld S} {t : ℕ}

theorem left_refl (u : ℕ) (w : DecisionWorld S) : Left u w w :=
  ⟨fun _ h => ⟨h, rfl⟩, id, fun _ h => h⟩

theorem DecisionsOk.write (h : DecisionsOk c requests kind w) {d : Decision S}
    (hnext : d.status ∈ kind.transitions w.row.status)
    (hown : Own kind c (requests t) t w.times d) :
    DecisionsOk c requests kind { w with written := some (t, d) } := by
  refine ⟨⟨h.path, h.row, h.own⟩, fun u d' hd => ?_⟩
  obtain ⟨rfl, rfl⟩ := Prod.mk.inj (Option.some.inj hd)
  exact ⟨hnext, hown⟩

theorem left_write (hfree : w.blocked t = false) (d : Decision S) {u : ℕ} (hne : u ≠ t) :
    Left u w { w with written := some (t, d) } := by
  refine ⟨fun d' hd => ?_, fun _ d' hd => ?_, fun _ h => h⟩
  · unfold DecisionWorld.blocked at hfree
    rw [hd] at hfree
    simp [hne] at hfree
  · exact hne (Prod.mk.inj (Option.some.inj hd)).1.symm

theorem DecisionsOk.discard (h : DecisionsOk c requests kind w) :
    DecisionsOk c requests kind (w.discard t) := by
  unfold DecisionWorld.discard
  split
  · split
    · exact ⟨⟨h.path, h.row, h.own⟩, nofun⟩
    · exact h
  · exact h

theorem left_discard {u : ℕ} (hne : u ≠ t) : Left u w (w.discard t) := by
  unfold DecisionWorld.discard
  split
  · next v d hwritten =>
      split
      · next hv =>
          subst hv
          refine ⟨fun d' hd => ?_, fun _ => nofun, fun _ h => h⟩
          rw [hwritten] at hd
          exact absurd (Prod.mk.inj (Option.some.inj hd)).1 hne.symm
      · exact left_refl u w
  · exact left_refl u w

theorem DecisionsOk.publish (h : DecisionsOk c requests kind w) :
    DecisionsOk c requests kind (w.publish t) := by
  unfold DecisionWorld.publish
  split
  · next v d hwritten =>
      split
      · next hv =>
          subst hv
          obtain ⟨hnext, hown⟩ := h.next _ _ hwritten
          refine ⟨⟨h.path.append (e := { d with session := v, before := w.row.status }) rfl hnext,
            ?_, fun e he => ?_⟩, nofun⟩
          · rw [stored_append, ← h.row]
          · rcases List.mem_append.mp he with he | he
            · exact h.own e he
            · rw [List.mem_singleton.mp he]
              exact hown
      · exact h
  · exact h

theorem left_publish {u : ℕ} (hne : u ≠ t) : Left u w (w.publish t) := by
  unfold DecisionWorld.publish
  split
  · next v d hwritten =>
      split
      · next hv =>
          subst hv
          refine ⟨fun d' hd => ?_, fun _ => nofun, fun _ h => h⟩
          rw [hwritten] at hd
          exact absurd (Prod.mk.inj (Option.some.inj hd)).1 hne.symm
      · exact left_refl u w
  · exact left_refl u w

theorem DecisionsOk.tick (h : DecisionsOk c requests kind w) (now : ℕ) :
    DecisionsOk c requests kind
      { w with clock := now, times := w.times ++ [(t, now)] } := by
  refine ⟨⟨h.path, h.row, fun e he => (h.own e he).mono _⟩, fun u d hd => ?_⟩
  obtain ⟨hnext, hown⟩ := h.next u d hd
  exact ⟨hnext, hown.mono _⟩

/-- A row that is not decided has the first decision time. -/
theorem DecisionsOk.decidedAt (hfinal : Final kind) (h : DecisionsOk c requests kind w)
    (hstatus : w.row.status ∉ kind.decided) : w.row.decidedAt = c.decidedAt := by
  rw [h.row]
  unfold stored
  split
  · rfl
  · next e hlast =>
      have hmem := List.mem_of_getLast? hlast
      exact (h.own e hmem).undecided (h.path.decided_of_decided hfinal hstatus e hmem)

/-- Session `t` has written nothing that is not committed. -/
def Clean (t : ℕ) (w : DecisionWorld S) : Prop := ∀ d, w.written ≠ some (t, d)

/-- Whoever has written nothing sees the committed row when nobody else has. -/
theorem Clean.current (hw : Clean t w) (hfree : w.blocked t = false) : w.current = w.row := by
  rcases hwritten : w.written with _ | ⟨u, d⟩
  · rw [DecisionWorld.current, hwritten]
  · rw [DecisionWorld.blocked, hwritten] at hfree
    have hu : u = t := by simpa using hfree
    exact absurd (hu ▸ hwritten) (hw d)

/-! ### Programs -/

variable [DecidableEq S]

abbrev DecisionSat (kind : CaseKind S) (c : StaffCase S) (requests : ℕ → TransitionRequest S)
    (t : ℕ) {α : Type} (p : DecisionReq S α) (Q : Except DecisionError α → DecisionWorld S → Prop)
    (w : DecisionWorld S) : Prop :=
  Holds decisionExec (decisionRules c requests kind) t p Q w

theorem sat_ask (q : Question) {I : DecisionWorld S → Prop} (hI : ∀ w w', I w → Left t w w' → I w')
    (hw : I w) : DecisionSat kind c requests t (ask q) (fun _ w' => I w') w := by
  refine Holds.perform fun w₁ hr hi _ ch r w₂ he => ?_
  cases he
  exact ⟨fun u _ => left_refl u w₁, hi, hI w w₁ hw hr⟩

theorem sat_rollback : DecisionSat kind c requests t rollback (fun _ _ => True) w := by
  refine Holds.perform fun w₁ _ hi _ ch r w₂ he => ?_
  cases he
  exact ⟨fun u hne => left_discard hne, hi.discard, trivial⟩

theorem sat_commit : DecisionSat kind c requests t commit (fun _ _ => True) w := by
  refine Holds.perform fun w₁ _ hi _ ch r w₂ he => ?_
  simp only [decisionExec] at he
  split at he
  · cases he
    exact ⟨fun u hne => left_discard hne, hi.discard, trivial⟩
  · cases he
    exact ⟨fun u hne => left_publish hne, hi.publish, trivial⟩

/-- A row that can still change has the first decision time. -/
theorem sat_get (hfinal : Final kind) (hw : Clean t w) :
    DecisionSat kind c requests t get (fun r w' => Clean t w' ∧ ∀ v, r = .ok v →
      v.status ∉ kind.decided → v.decidedAt = c.decidedAt) w := by
  refine Holds.perform fun w₁ hr hi _ ch r w₂ he => ?_
  cases he
  refine ⟨fun u _ => left_refl u w₁, hi, hr.unwritten hw, ?_⟩
  rintro v ⟨⟩ hstatus
  unfold DecisionWorld.visible DecisionWorld.current at hstatus ⊢
  split at hstatus
  · next hblocked =>
      rw [if_pos hblocked]
      exact hi.decidedAt hfinal hstatus
  · next hfree =>
      rw [if_neg hfree]
      split at hstatus
      · next u d hwritten =>
          exact (hi.next u d hwritten).2.undecided hstatus
      · exact hi.decidedAt hfinal hstatus

theorem sat_decisionTime {newStatus : S} {v : StaffCase S} (hw : Clean t w) :
    DecisionSat kind c requests t (decisionTime kind newStatus v) (fun r w' => Clean t w' ∧
      ∀ at', r = .ok at' →
        (newStatus ∈ kind.decided → ∃ i, (t, i) ∈ w'.times ∧ at' = some (i : ℤ)) ∧
        (newStatus ∉ kind.decided → at' = v.decidedAt)) w := by
  unfold decisionTime
  split
  · next hdecided =>
      have hnow : DecisionSat kind c requests t now (fun r w' => Clean t w' ∧
          ∀ i, r = .ok i → (t, i) ∈ w'.times) w := by
        refine Holds.perform fun w₁ hr hi _ ch r w₂ he => ?_
        cases he
        refine ⟨fun u _ => ⟨fun _ h => ⟨h, rfl⟩, id, fun _ h => List.mem_append_left _ h⟩,
          hi.tick _,
          hr.unwritten hw, ?_⟩
        rintro i ⟨⟩
        exact List.mem_append_right _ (List.mem_singleton.mpr rfl)
      refine Holds.bind hnow (fun i w₁ h₁ => ?_) fun e w₁ h₁ => ⟨h₁.1, nofun⟩
      refine ⟨h₁.1, ?_⟩
      rintro at' ⟨⟩
      exact ⟨fun _ => ⟨i, h₁.2 i rfl, rfl⟩, fun hnot => absurd hdecided hnot⟩
  · next hundecided =>
      refine ⟨hw, ?_⟩
      rintro at' ⟨⟩
      exact ⟨fun hdecided => absurd hdecided hundecided, fun _ => rfl⟩

theorem sat_updateWhere {expected : S} {d : Decision S} (hw : Clean t w)
    (hnext : d.status ∈ kind.transitions expected)
    (hown : Own kind c (requests t) t w.times d) :
    DecisionSat kind c requests t (updateWhere expected d)
      (fun r w' => r = .ok true → w'.written = some (t, d)) w := by
  refine Holds.perform fun w₁ hr hi _ ch r w₂ he => ?_
  simp only [decisionExec] at he
  split at he
  · cases he
  next hfree =>
    have hfree : w₁.blocked t = false := eq_false_of_ne_true hfree
    have hclean : Clean t w₁ := hr.unwritten hw
    rw [hclean.current hfree] at he
    split at he
    · next hstatus =>
        cases he
        refine ⟨fun u hne => left_write hfree d hne, hi.write (hstatus ▸ hnext) ?_, fun _ => rfl⟩
        refine ⟨hown.actor, hown.status, hown.note, fun hd => ?_, hown.undecided⟩
        obtain ⟨i, hi, hat⟩ := hown.decided hd
        exact ⟨i, hr.times _ hi, hat⟩
    · cases he
      exact ⟨fun u _ => left_refl u w₁, hi, nofun⟩

/-- The second write finds the first one. -/
theorem sat_rewrite {d : Decision S} (hw : w.written = some (t, d)) :
    DecisionSat kind c requests t (rewrite d) (fun _ _ => True) w := by
  refine Holds.perform fun w₁ hr hi _ ch r w₂ he => ?_
  obtain ⟨hwritten, -⟩ := hr.written d hw
  obtain ⟨hnext, hown⟩ := hi.next t d hwritten
  simp only [decisionExec] at he
  split at he
  · cases he
  · next hfree =>
      cases he
      exact ⟨fun u hne => left_write (eq_false_of_ne_true hfree) d hne,
        hi.write hnext hown, trivial⟩

theorem sat_recordTransition {expected : S} {d : Decision S} (hw : Clean t w)
    (hnext : d.status ∈ kind.transitions expected)
    (hown : Own kind c (requests t) t w.times d) :
    DecisionSat kind c requests t (recordTransition expected d) (fun _ _ => True) w := by
  refine Holds.bind (sat_updateWhere hw hnext hown) (fun matched w₁ h₁ => ?_) fun _ _ _ => trivial
  cases matched with
  | false => exact Holds.bind sat_rollback (fun _ _ _ => trivial) fun _ _ _ => trivial
  | true =>
      refine Holds.bind (sat_rewrite (h₁ rfl)) (fun _ w₂ _ => ?_) fun _ _ _ => trivial
      refine Holds.bind (sat_ask .audited (I := fun _ => True) (fun _ _ _ _ => trivial) trivial)
        (fun audited w₃ _ => ?_) fun _ _ _ => trivial
      cases audited with
      | true => exact sat_commit
      | false => exact Holds.bind sat_rollback (fun _ _ _ => trivial) fun _ _ _ => trivial

theorem sat_transitionStatusForStaff (hfinal : Final kind) (hw : Clean t w) :
    DecisionSat kind c requests t (transitionStatusForStaff kind (requests t))
      (fun _ _ => True) w := by
  refine Holds.bind (sat_ask .refused (I := Clean t) (fun _ _ h hr => hr.unwritten h) hw)
    (fun refused w₁ h₁ => ?_) fun _ _ _ => trivial
  cases refused with
  | true => trivial
  | false =>
      refine Holds.bind (sat_get hfinal h₁) (fun v w₂ h₂ => ?_) fun _ _ _ => trivial
      cases hstatus : (requests t).newStatus with
      | none => trivial
      | some newStatus =>
          show Holds _ _ t (if newStatus ∈ kind.transitions v.status then _ else _) _ w₂
          split
          · next hnext =>
              refine Holds.bind (sat_decisionTime h₂.1) (fun at' w₃ h₃ => ?_) fun _ _ _ => trivial
              obtain ⟨hdecided, hundecided⟩ := h₃.2 at' rfl
              have hopen : v.status ∉ kind.decided := by
                intro hmem
                rw [hfinal _ hmem] at hnext
                cases hnext
              refine sat_recordTransition h₃.1 hnext ⟨rfl, hstatus, rfl, hdecided, fun hnot => ?_⟩
              exact (hundecided hnot).trans (h₂.2 v rfl hopen)
          · trivial

theorem sat_saveSession : DecisionSat kind c requests t saveSession (fun _ _ => True) w :=
  Holds.tryCatch sat_commit (fun _ _ _ => trivial) fun _ _ _ => trivial

theorem sat_serve (hfinal : Final kind) (hw : Clean t w) :
    DecisionSat kind c requests t ((requests t).serve kind) (fun _ _ => True) w := by
  refine Holds.bind (Holds.tryCatch (Q := fun _ _ => True) (sat_transitionStatusForStaff hfinal hw)
    (fun _ _ _ => trivial) fun e w₁ _ => ?_) (fun _ _ _ => sat_saveSession) fun _ _ _ => trivial
  exact Holds.bind sat_saveSession (fun _ _ _ => trivial) fun _ _ _ => trivial

end Operations

/-- Every run of calls for a record of this kind keeps the decisions unique. -/
def DecisionsUnique [DecidableEq S] (kind : CaseKind S) : Prop :=
  ∀ (c : StaffCase S) (requests : ℕ → TransitionRequest S) (x : DecisionConf S),
    Reach decisionExec (fun _ _ _ => True) (decisionStart kind c requests) x →
      Committed kind c requests x.world ∧
        (x.world.transitions.filter fun e => e.status ∈ kind.decided).length ≤ 1

theorem decisionsUnique_of_final [DecidableEq S] (hfinal : Final kind) : DecisionsUnique kind := by
  intro c requests x hx
  have hstart : AllHold decisionExec (decisionRules c requests kind)
      (decisionStart kind c requests) := by
    refine ⟨⟨⟨rfl, rfl, fun e he => ?_⟩, nofun⟩, fun t => sat_serve hfinal fun _ => nofun⟩
    exact (List.not_mem_nil he).elim
  have hok : DecisionsOk c requests kind x.world :=
    (reach_holds (decisionRules_sound c requests) hstart hx).1
  exact ⟨hok.toCommitted, hok.path.decided_le_one hfinal⟩

end Results

theorem final_disputeKind : Final disputeKind := by
  intro s hs
  cases s with
  | opened | underReview => exact absurd hs (by decide)
  | resolved | rejected => rfl

theorem final_ticketKind : Final ticketKind := by
  intro s hs
  cases s with
  | opened | inReview => exact absurd hs (by decide)
  | resolved | closed => rfl

/-- In every interleaving of calls for one dispute, and in every one for one support
ticket, the committed statuses are a path in the graph, at most one decision is
committed, and the row holds the values of the last call that was committed. -/
theorem case_decisions_unique : DecisionsUnique disputeKind ∧ DecisionsUnique ticketKind :=
  ⟨decisionsUnique_of_final final_disputeKind, decisionsUnique_of_final final_ticketKind⟩

/-- Two reviewers have read the dispute while it was open. -/
def sampleDispute : TransactionDispute where
  id := 1
  ownerId := 7
  status := .opened
  resolverId := none
  resolutionNote := none
  decidedAt := none

def sampleTransitions (t : ℕ) : TransitionRequest DisputeStatus :=
  if t = 0 then ⟨2, some .resolved, "paid back"⟩ else ⟨3, some .rejected, ""⟩

/-- Both are about to write; the second one matches no row. -/
example :
    let acts (t : ℕ) (yes : List Bool) := yes.map fun b => (t, (⟨b, 5, false⟩ : DecisionChoice))
    (run decisionExec (decisionStart disputeKind sampleDispute sampleTransitions)
      (acts 0 [false, true, true] ++ acts 1 [false, true, true] ++
        acts 0 [true, true, true, true] ++ acts 1 [true, true])).map
      (fun x => (x.world.transitions.map (·.session), x.world.row.status, x.world.row.decidedAt)) =
    some ([0], .resolved, some 5) := by decide +kernel

end SitBank.Admin.CaseDecisions
