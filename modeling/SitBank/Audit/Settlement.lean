import SitBank.Admin.CaseDecisions
import SitBank.Admin.InviteStarts
import SitBank.Admin.StaffInvites
import SitBank.Audit.RequiredEvents
import SitBank.Banking.System
import SitBank.Browser.Requests
import SitBank.Orm.Solo
import SitBank.Sessions.Store

/-!
The models of an audit event, side by side.

`audit_event` commits its row, and with it what its caller has left pending; if the row cannot be
written, all of it is rolled back. The steps of a start, the required events, the requests of a
browser, the staff invites, the transfers and the records of sessions each have it in their own
terms. What they have in common is `Settles`. `save_session` settles what is left at the end of a
request, so it takes nothing back that was pending at an audit event.
-/

namespace SitBank.Audit.Settlement

open SitBank.Interaction SitBank.Orm

/-! ### The steps of a start -/

section Starts

open Admin.Starts (StartState StartSteps)

def startRows : Transactional StartState Admin.Starts.Rows :=
  ⟨StartState.committed, StartState.pending⟩

theorem starts_settles (committed : Bool) (st : StartState) :
    startRows.Settles st (if committed then st.commit else st.rollback) := by
  cases committed with
  | true => exact ⟨rfl, .inl rfl⟩
  | false => exact ⟨rfl, .inr rfl⟩

theorem starts_auditEvent (written : Bool) (st : StartState) :
    Ends (Admin.Starts.auditEvent written) (fun _ st' => startRows.Settles st st') st :=
  starts_settles written st

/-- The rows that are committed after an event are those at the end of the request. -/
theorem starts_decided (steps : StartSteps) (written : Bool) (st : StartState) :
    Ends (Admin.Starts.auditEvent written)
      (fun _ st' => (Admin.Starts.endRequest steps st').committed = st'.committed) st :=
  (starts_auditEvent written st).mono fun _ st' h =>
    (starts_settles steps.saved st').committed_eq h.closed

end Starts

/-! ### Required events -/

section Books

open Required (Books)

def books : Transactional Books (List Required.Change) :=
  ⟨Books.committed, fun b => b.committed ++ b.pending⟩

theorem books_settles (committed : Bool) (b : Books) :
    books.Settles b (if committed then b.commit else b.rollback) := by
  cases committed with
  | true => exact ⟨List.append_nil _, .inl rfl⟩
  | false => exact ⟨List.append_nil _, .inr rfl⟩

theorem books_auditEvent (written : Bool) (b : Books) :
    Ends (Required.auditEvent written) (fun _ b' => books.Settles b b') b :=
  books_settles (b.usable && written) b

theorem books_decided (saved written : Bool) (b : Books) :
    Ends (Required.auditEvent written)
      (fun _ b' => (b'.endRequest saved).committed = b'.committed) b :=
  (books_auditEvent written b).mono fun _ b' h =>
    (books_settles (b'.usable && saved) b').committed_eq h.closed

end Books

/-! ### The requests of a browser -/

section Browser

open SitBank.Browser (State Visit)

def records : Transactional State (List SitBank.Browser.Record) := ⟨State.records, State.pending⟩

theorem browser_settles (committed : Bool) (st : State) :
    records.Settles st (st.auditEvent committed) := by
  cases committed with
  | true => exact ⟨rfl, .inl rfl⟩
  | false => exact ⟨rfl, .inr rfl⟩

/-- The commit of `save_session` ends like an audit event. -/
theorem commitQuietly_eq (visit : Visit) (st : State) :
    st.commitQuietly visit = st.auditEvent (visit.saved = .committed) := by
  unfold State.commitQuietly State.auditEvent
  cases visit.saved <;> rfl

theorem browser_decided (visit : Visit) (written : Bool) (st : State) :
    ((st.auditEvent written).commitQuietly visit).records = (st.auditEvent written).records := by
  rw [commitQuietly_eq]
  exact (browser_settles _ _).committed_eq (browser_settles written st).closed

end Browser

/-! ### Staff invites -/

section Invites

open Admin (InviteConfig InviteInputs InviteWorld StaffInvite StaffUser)

/-- The committed world, and the one of the request; the log grows with the event itself. -/
def inviteRows : Transactional (InviteWorld × InviteWorld) (List StaffUser × List StaffInvite) :=
  ⟨fun w => (w.1.users, w.1.invites), fun w => (w.2.users, w.2.invites)⟩

theorem invites_auditEvent (cfg : InviteConfig) (inputs : InviteInputs) (committed w : InviteWorld)
    (eventType outcome : String) (userId : Option ℤ) :
    Ends (Admin.auditEvent cfg inputs committed eventType outcome userId)
      (fun _ w' => inviteRows.Settles (committed, w) (w', w')) w := by
  unfold Admin.auditEvent
  split
  · exact ⟨rfl, .inr rfl⟩
  · exact ⟨rfl, .inl rfl⟩

end Invites

/-! ### Transfers and the records of sessions -/

section Sessions

variable {t : ℕ}

/-- An event raises only where its user cannot be read. -/
theorem idle_bankingAuditEvent (user : Option ℕ) (w : Banking.BankWorld) :
    Solo exec t (Banking.auditEvent user) (fun r w' => r = .ok () → Idle t w') w := by
  refine Holds.bind (M := fun _ _ => True) (Solo.of_forall (fun _ _ => trivial) w) ?_ nofun
  exact fun _ w' _ => (idle_commitOrRollback _ w').mono fun _ _ h _ => h

theorem banking_auditEvent (user : Option ℕ) {w : Banking.BankWorld} (hb : Backed t w) :
    Solo exec t (Banking.auditEvent user)
      (fun r w' => r = .ok () → (transaction t).Settles w w') w := by
  have hdrift := (Banking.passive_auditEvent user).drift hb
  refine (hdrift.and (idle_bankingAuditEvent user w)).mono ?_
  exact fun _ _ h hr => h.1.settles hb (h.2 hr)

theorem banking_decided (user : Option ℕ) (w : Banking.BankWorld) :
    Solo exec t (Banking.auditEvent user) (fun r w' => r = .ok () →
      Solo exec t Banking.saveSession (fun _ w'' => w''.db = w'.db) w') w := by
  refine (idle_bankingAuditEvent user w).mono fun _ w' h hr => ?_
  have hdrift := Banking.passive_saveSession.drift (h hr).backed
  exact hdrift.mono fun _ _ hd => (hd.idle (h hr)).1

theorem passive_sessionsAuditEvent : Passive Sessions.auditEvent := by
  refine Prog.All.tryCatch (Prog.All.bind ?_ fun _ => .perform trivial) fun _ => .perform trivial
  exact Prog.All.bind (.perform trivial) fun _ =>
    Prog.All.bind (.perform trivial) fun _ => .perform trivial

theorem sessions_auditEvent {w : World Sessions.store} (hb : Backed t w) :
    Solo exec t Sessions.auditEvent (fun _ w' => (transaction t).Settles w w') w := by
  have hdrift := passive_sessionsAuditEvent.drift hb
  refine (hdrift.and (idle_commitOrRollback _ w)).mono ?_
  exact fun _ _ h => h.1.settles hb h.2

end Sessions

/-! ### Decisions on a case -/

section Cases

open Admin.CaseDecisions (DecisionWorld decisionExec)

variable {S : Type} {t : ℕ} {w : DecisionWorld S}

def caseRow (t : ℕ) : Transactional (DecisionWorld S) (Admin.StaffCase S) :=
  ⟨DecisionWorld.row, fun w => w.visible t⟩

/-- What another session has written is not seen. -/
theorem visible_other (h : ∀ d, w.written ≠ some (t, d)) : w.visible t = w.row := by
  unfold DecisionWorld.visible DecisionWorld.blocked DecisionWorld.current
  cases hw : w.written with
  | none => rfl
  | some v =>
      have hother : v.1 ≠ t := fun hown => h v.2 (hw.trans (by rw [← hown]))
      simp [hother]

theorem visible_own {d : Admin.CaseDecisions.Decision S} (h : w.written = some (t, d)) :
    w.visible t = d.store w.row := by
  unfold DecisionWorld.visible DecisionWorld.blocked DecisionWorld.current
  simp [h]

theorem settles_other (h : ∀ d, w.written ≠ some (t, d)) : (caseRow t).Settles w w :=
  ⟨visible_other h, .inr rfl⟩

theorem settles_discard : (caseRow t).Settles w (w.discard t) := by
  unfold DecisionWorld.discard
  split
  · next u d hw =>
      split
      · exact ⟨rfl, .inr rfl⟩
      · next hne =>
          refine settles_other fun d' hown => hne ?_
          cases hw.symm.trans hown
          rfl
  · next hw => exact settles_other fun d hown => nomatch hw.symm.trans hown

theorem settles_publish : (caseRow t).Settles w (w.publish t) := by
  unfold DecisionWorld.publish
  split
  · next u d hw =>
      split
      · next heq =>
          subst heq
          exact ⟨rfl, .inl (visible_own hw).symm⟩
      · next hne =>
          refine settles_other fun d' hown => hne ?_
          cases hw.symm.trans hown
          rfl
  · next hw => exact settles_other fun d hown => nomatch hw.symm.trans hown

/-- The event of a transition is a required one, which ends nothing. -/
theorem cases_saveSession [DecidableEq S] (w : DecisionWorld S) :
    Solo decisionExec t Admin.CaseDecisions.saveSession
      (fun _ w' => (caseRow t).Settles w w') w := by
  refine Holds.tryCatch (M := fun _ w' => (caseRow t).Settles w w') ?_ (fun _ _ h => h)
    fun _ _ h => h
  refine Holds.perform fun _ hsame _ _ c r w' he => ⟨trivial, trivial, ?_⟩
  cases hsame
  unfold decisionExec at he
  dsimp only at he
  split at he
  · cases he
    exact settles_discard
  · cases he
    exact settles_publish

end Cases

end SitBank.Audit.Settlement
