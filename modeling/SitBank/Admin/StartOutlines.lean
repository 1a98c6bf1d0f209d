import SitBank.Admin.Acceptance
import SitBank.Admin.InviteStarts
import SitBank.Admin.StaffInvites
import SitBank.Attempts.Guarded
import SitBank.Interaction.Solo

/-!
The models of a start of an invite's acceptance, side by side.

A start is modelled four times: step by step, with every failure (`Starts`); among the
requests of the audit log (`StaffInvites`); among other sessions that change the invite
(`Acceptance`); and among those that count wrong codes (`Guarded`). What they have in common is
the outline of the invite: whether it has a setup user, and whether it is bound to a browser.
`StartEffect` says what a start may do to the outline. The model of the steps does exactly that,
and the others, run alone, nothing else.
-/

namespace SitBank.Admin.StartOutlines

open SitBank.Interaction

/-! ### Outlines -/

structure StartOutline where
  setUp : Bool
  bound : Bool
  deriving DecidableEq, Repr

/-- What a start does that returns or raises. -/
inductive StartEffect (o : StartOutline) : Bool → StartOutline → Prop
  | kept : StartEffect o false o
  /-- The setup user was committed with the audit event of the encryption. -/
  | linked : StartEffect o false ⟨true, o.bound⟩
  /-- A new setup user was removed again. -/
  | cleared : o.setUp = false → StartEffect o false ⟨false, false⟩
  /-- The start was committed. Without the event of the encryption a new user is lost. -/
  | recorded (returned setUp : Bool) : (o.setUp = true → setUp = true) →
      StartEffect o returned ⟨setUp, true⟩

section Effects

variable {o o' : StartOutline} {returned : Bool}

/-- No start takes away the setup user of an earlier one. -/
theorem StartEffect.setUp (h : StartEffect o returned o') (hset : o.setUp = true) :
    o'.setUp = true := by
  cases h with
  | kept => exact hset
  | linked => rfl
  | cleared hnot => exact absurd hset (Bool.eq_false_iff.mp hnot)
  | recorded _ setUp himp => exact himp hset

theorem StartEffect.bound (h : StartEffect o true o') : o'.bound = true := by
  cases h
  rfl

end Effects

/-- The call returned. -/
def returns {ε α : Type} : Except ε α → Bool
  | .ok _ => true
  | .error _ => false

/-! ### The steps of a start -/

section Steps

open Starts

variable {i : StartInput} {steps : StartSteps}

def rowsOutline (rows : Rows) : StartOutline :=
  ⟨rows.setupUser.isSome, rows.invite.acceptanceSessionHash.isSome⟩

/-- What the rest of a start leaves, of an invite whose setup user is prepared: `linked` is the
outline with that user. -/
def leftOutline (steps : StartSteps) (created : Bool) (before linked : StartOutline) :
    StartOutline :=
  if steps.keyFound then
    let settled := if steps.cryptoAudit then linked else before
    if steps.refreshed then
      if steps.delivered then ⟨settled.setUp, true⟩
      else if created && steps.cleaned && steps.failureAudits.1 then ⟨false, false⟩
      else settled
    else settled
  else if steps.saved then linked else before

theorem rowsOutline_left (created : Bool) (rows rows' : Rows) :
    rowsOutline (endRequest steps (leftState i steps created rows rows')).committed =
      leftOutline steps created (rowsOutline rows) (rowsOutline rows') := by
  have hsettled : rowsOutline (if steps.cryptoAudit then rows' else rows) =
      if steps.cryptoAudit then rowsOutline rows' else rowsOutline rows := apply_ite ..
  unfold leftState leftOutline
  cases steps.keyFound with
  | false =>
      rw [if_neg Bool.false_ne_true, if_neg Bool.false_ne_true, endRequest_open]
      exact apply_ite ..
  | true =>
      rw [if_pos rfl, if_pos rfl, endRequest_fresh, ← hsettled]
      generalize (if steps.cryptoAudit then rows' else rows) = settled
      unfold leftRows
      split
      · split
        · unfold rowsOutline withCode started withSecret
          simp
        · exact apply_ite ..
      · rfl

theorem ends_rest (created : Bool) (rows rows' : Rows) :
    Ends (Starts.encryptMfaSecret steps >>= fun _ => completeStart i steps created)
      (fun r st => ((∃ u, r = .ok u) ↔ steps.Returns) ∧
        rowsOutline (endRequest steps st).committed =
          leftOutline steps created (rowsOutline rows) (rowsOutline rows')) ⟨rows, rows'⟩ := by
  refine (ends_encryptAndComplete created rows rows').mono ?_
  rintro r _ ⟨hreturns, rfl⟩
  exact ⟨hreturns, rowsOutline_left created rows rows'⟩

theorem effect_left (o : StartOutline) {created returned : Bool} (hcreated : created = !o.setUp)
    (hreturned : returned = true ↔ steps.Returns) :
    StartEffect o returned (leftOutline steps created o ⟨true, o.bound⟩) := by
  have hraised (h : ¬steps.Returns) : returned = false :=
    Bool.eq_false_iff.mpr fun htrue => h (hreturned.mp htrue)
  unfold leftOutline
  cases hkey : steps.keyFound with
  | false =>
      rw [hraised fun h => Bool.false_ne_true (hkey.symm.trans h.1), if_neg Bool.false_ne_true]
      cases steps.saved with
      | true => exact .linked
      | false => exact .kept
  | true =>
  have hsettled : StartEffect o false (if steps.cryptoAudit then ⟨true, o.bound⟩ else o) := by
    cases steps.cryptoAudit with
    | true => exact .linked
    | false => exact .kept
  rw [if_pos rfl]
  dsimp only
  cases hrefreshed : steps.refreshed with
  | false =>
      rw [hraised fun h => Bool.false_ne_true (hrefreshed.symm.trans h.2.1)]
      exact hsettled
  | true =>
  cases hdelivered : steps.delivered with
  | false =>
      rw [hraised fun h => Bool.false_ne_true (hdelivered.symm.trans h.2.2.1), if_pos rfl,
        if_neg Bool.false_ne_true]
      split
      · next hcleared =>
          simp only [Bool.and_eq_true] at hcleared
          rw [hcreated] at hcleared
          exact .cleared ((Bool.not_eq_true' _).mp hcleared.1.1)
      · exact hsettled
  | true =>
      rw [if_pos rfl, if_pos rfl]
      exact .recorded _ _ (hsettled.setUp ·)

theorem returns_iff {ε α : Type} {r : Except ε α} : returns r = true ↔ ∃ a, r = .ok a := by
  cases r with
  | ok a => exact ⟨fun _ => ⟨a, rfl⟩, fun _ => rfl⟩
  | error e => exact ⟨fun h => (nomatch h), fun ⟨_, h⟩ => (nomatch h)⟩

theorem effect_rest {created : Bool} {rows rows' : Rows} (hinvite : rows'.invite = rows.invite)
    (hsetUp : rows'.setupUser.isSome = true) (hcreated : created = !rows.setupUser.isSome) :
    Ends (Starts.encryptMfaSecret steps >>= fun _ => completeStart i steps created)
      (fun r st => StartEffect (rowsOutline rows) (returns r)
        (rowsOutline (endRequest steps st).committed)) ⟨rows, rows'⟩ := by
  have houtline : rowsOutline rows' = ⟨true, (rowsOutline rows).bound⟩ := by
    unfold rowsOutline
    rw [hinvite, hsetUp]
  refine (ends_rest created rows rows').mono ?_
  rintro r st ⟨hreturns, hleft⟩
  rw [hleft, houtline]
  exact effect_left _ hcreated (returns_iff.trans hreturns)

/-- The steps of a start have an effect on the outline that a start may have. -/
theorem starts_effect (i : StartInput) (steps : StartSteps) (rows : Rows) :
    Ends (Starts.startInviteAcceptance i steps) (fun r st => StartEffect (rowsOutline rows)
      (returns r) (rowsOutline (endRequest steps st).committed)) (.fresh rows) := by
  have hkept (st : StartState) (hst : st = .fresh rows) : StartEffect (rowsOutline rows) false
      (rowsOutline (endRequest steps st).committed) := by
    rw [hst, endRequest_fresh]
    exact .kept
  unfold Starts.startInviteAcceptance
  obtain ⟨invite, setupUser⟩ := rows
  cases setupUser with
  | none =>
      have hprepare := @prepareSetupUser_first i steps invite
      split at hprepare
      · exact Ends.bind_error hprepare (hkept _ rfl)
      split at hprepare
      · exact Ends.bind_error hprepare (hkept _ rfl)
      split at hprepare
      · exact Ends.bind_error hprepare (hkept _ rfl)
      · exact Ends.bind_ok hprepare (effect_rest rfl rfl rfl)
  | some u =>
      have hprepare := @prepareSetupUser_again i steps invite u
      split at hprepare
      · exact Ends.bind_error hprepare (hkept _ rfl)
      split at hprepare
      · refine Ends.bind_error hprepare ?_
        rw [endRequest_open]
        cases steps.saved <;> exact .kept
      split at hprepare
      · exact Ends.bind_error hprepare (hkept _ rfl)
      · exact Ends.bind_ok hprepare (effect_rest rfl rfl rfl)

def sampleInput : StartInput := ⟨"Ann", "", "h", "s", "b", "c", 3⟩

/-- Every step succeeds. -/
def allSteps : StartSteps :=
  ⟨true, true, true, true, true, true, true, true, true, true, true, true, (true, true), true, true⟩

def rowsOf (o : StartOutline) : Rows where
  invite := ⟨"staff", .pending, if o.bound then some "a" else none, 0, none⟩
  setupUser := if o.setUp then
      some ⟨"setup_pending", "staff", "Ann", "", none, "g", [], none⟩
    else none

/-- Each effect is one of some start. -/
theorem starts_attains {o o' : StartOutline} {returned : Bool} (h : StartEffect o returned o') :
    ∃ steps, rowsOutline (rowsOf o) = o ∧
      Ends (Starts.startInviteAcceptance sampleInput steps) (fun r st => returns r = returned ∧
        rowsOutline (endRequest steps st).committed = o') (.fresh (rowsOf o)) := by
  obtain ⟨setUp, bound⟩ := o
  cases h with
  | kept =>
      refine ⟨{ allSteps with unused := false, pruned := false }, ?_⟩
      cases setUp <;> cases bound <;> exact ⟨rfl, rfl, rfl⟩
  | linked =>
      refine ⟨{ allSteps with refreshed := false }, ?_⟩
      cases setUp <;> cases bound <;> exact ⟨rfl, rfl, rfl⟩
  | cleared hnot =>
      refine ⟨{ allSteps with sent := false }, ?_⟩
      cases setUp with
      | true => cases hnot
      | false => cases bound <;> exact ⟨rfl, rfl, rfl⟩
  | recorded returned setUp' himp =>
      refine ⟨{ allSteps with cryptoAudit := setUp', rendered := returned }, ?_⟩
      cases setUp with
      | true =>
          obtain rfl := himp rfl
          cases bound <;> cases returned <;> exact ⟨rfl, rfl, rfl⟩
      | false =>
          cases bound <;> cases returned <;> cases setUp' <;> exact ⟨rfl, rfl, rfl⟩

end Steps

/-! ### Among the requests of the audit log -/

section Invites

variable {cfg : InviteConfig} {inputs : InviteInputs} {w v e s : InviteWorld}
  {invite : StaffInvite} {user : StaffUser} {userId : ℤ} {o : StartOutline} {id : ℕ}

def inviteOutline (w : InviteWorld) (id : ℕ) : StartOutline :=
  match w.invites.find? fun i => i.id = id with
  | some i => ⟨(setupUser i w).isSome, i.acceptanceSessionHash.isSome⟩
  | none => ⟨false, false⟩

/-- The invite is the one that is stored under its id. -/
def Stored (w : InviteWorld) (invite : StaffInvite) : Prop :=
  w.invites.find? (fun i => i.id = invite.id) = some invite

theorem Stored.outline_of (h : Stored w invite) (hs : s.invites = w.invites) :
    inviteOutline s invite.id =
      ⟨(setupUser invite s).isSome, invite.acceptanceSessionHash.isSome⟩ := by
  unfold inviteOutline
  rw [hs, h]

theorem Stored.outline (h : Stored w invite) : inviteOutline w invite.id =
    ⟨(setupUser invite w).isSome, invite.acceptanceSessionHash.isSome⟩ := h.outline_of rfl

theorem Stored.map (h : Stored w invite) {g : StaffInvite → StaffInvite}
    (hg : ∀ i, (g i).id = i.id) : Stored { w with invites := w.invites.map g } (g invite) := by
  unfold Stored at h ⊢
  have hid : (fun i : StaffInvite => decide (i.id = (g invite).id)) ∘ g =
      fun i => decide (i.id = invite.id) := funext fun i => by simp only [Function.comp, hg]
  rw [List.find?_map, hid, h]
  rfl

/-- What is written to the row. -/
theorem Stored.written (h : Stored w invite) {f : StaffInvite → StaffInvite}
    (hf : ∀ i, i.id = invite.id → (f i).id = invite.id) :
    Stored { w with invites := w.invites.map fun i => if i.id = invite.id then f i else i }
      (f invite) := by
  have hmapped := h.map (g := fun i => if i.id = invite.id then f i else i) fun i => by
    split
    · next hi => rw [hf i hi, hi]
    · rfl
  rwa [if_pos rfl] at hmapped

theorem userById_setUser (user : StaffUser) (id : ℤ) (users : List StaffUser) :
    ((users.map fun u => if u.id = user.id then user else u).find? fun u => u.id = id).isSome =
      (users.find? fun u => u.id = id).isSome := by
  rw [List.find?_map, Option.isSome_map]
  congr 1
  refine congrArg (fun p => users.find? p) (funext fun u => ?_)
  by_cases hu : u.id = user.id
  · simp [hu]
  · simp [hu]

/-! #### The setup user -/

/-- The invite has this setup user, and is unchanged otherwise. -/
structure Linked (invite : StaffInvite) (userId : ℤ) (s : InviteWorld) : Prop where
  stored : Stored s { invite with setupUserId := some userId }
  user : (userById userId s).isSome = true

/-- The encryption has committed the setup user, or the session was rolled back. -/
inductive Settled (w : InviteWorld) (invite : StaffInvite) (userId : ℤ) (e : InviteWorld) : Prop
  | linked : Linked invite userId e → Settled w invite userId e
  | rolledBack : e.invites = w.invites → e.users = w.users → Settled w invite userId e

theorem Linked.outline (h : Linked invite userId s) :
    inviteOutline s invite.id = ⟨true, invite.acceptanceSessionHash.isSome⟩ := by
  have hsetUp : (setupUser { invite with setupUserId := some userId } s).isSome = true := h.user
  rw [← hsetUp]
  exact h.stored.outline

theorem Settled.effect (h : Settled w invite userId e) (hw : Stored w invite) :
    StartEffect (inviteOutline w invite.id) false (inviteOutline e invite.id) := by
  cases h with
  | linked h =>
      rw [h.outline, hw.outline]
      exact .linked
  | rolledBack hinvites husers =>
      have houtline : inviteOutline e invite.id = inviteOutline w invite.id := by
        unfold inviteOutline setupUser userById
        rw [hinvites, husers]
      rw [houtline]
      exact .kept

theorem ensureStartedSession_keeps (inputs : InviteInputs) (invite : StaffInvite) :
    Ends (ensureStartedSession cfg inputs invite) (fun r s => match r with
      | .ok _ => s = w
      | .error _ => StartEffect (inviteOutline w id) false (inviteOutline s id)) w := by
  refine (ends_ensureStartedSession (P := fun s => StartEffect (inviteOutline w id) false
    (inviteOutline s id)) (fun _ _ h => h) .kept inputs invite).mono fun r s hr => ?_
  cases r with
  | ok _ => exact hr.1
  | error _ => exact hr

theorem ensureSetupUser_links (hw : Stored w invite) (inputs : InviteInputs) :
    Ends (ensureSetupUser cfg inputs invite) (fun r s => match r with
      | .ok user => Linked invite user.id s
      | .error _ => StartEffect (inviteOutline w invite.id) false (inviteOutline s invite.id))
      w := by
  refine Ends.get_bind ?_
  split
  · refine (ends_refuseUnless (P := fun s => StartEffect (inviteOutline w invite.id) false
      (inviteOutline s invite.id)) (fun _ _ h => h) .kept inputs _ _ _ _ _).bind ?_ fun _ _ h => h
    rintro _ _ ⟨rfl, -⟩
    refine Ends.get_bind (Ends.modify_bind (Ends.modify_bind (Ends.pure ⟨?_, ?_⟩)))
    · exact Stored.written hw (f := fun _ => { invite with setupUserId := some _ }) fun _ _ => rfl
    · simp [userById]
  · next user huser =>
      refine (ensureStartedSession_keeps inputs invite).bind ?_ fun _ _ h => h
      rintro _ _ rfl
      refine Ends.raiseIf_bind (fun _ => .kept) fun _ => Ends.pure ?_
      obtain ⟨userId, hid, hfind⟩ := Option.bind_eq_some_iff.mp huser
      obtain rfl : user.id = userId := by simpa using List.find?_some hfind
      refine ⟨?_, by rw [hfind]; rfl⟩
      rw [← hid]
      exact hw

theorem encryptMfaSecret_settles (hv : Linked invite userId v) (w : InviteWorld)
    (inputs : InviteInputs) (user : StaffUser) :
    Ends (encryptMfaSecret cfg inputs w user) (fun _ e => Settled w invite userId e) v := by
  refine Ends.get_bind ?_
  dsimp only
  split
  · split
    · exact .linked hv
    · exact .rolledBack rfl rfl
  · unfold auditEvent
    split
    · exact .rolledBack rfl rfl
    · exact .linked ⟨hv.stored, hv.user⟩

/-! #### The rest of the start -/

theorem recordStart_records (inputs : InviteInputs) (user : StaffUser) {found : StaffInvite}
    (he : Stored e found) :
    Ends (recordStart cfg inputs e found.id user) (fun r s => ∀ u, r = .ok u →
      inviteOutline s found.id = ⟨(inviteOutline e found.id).setUp, true⟩) e := by
  refine Ends.modify_bind (Ends.modify_bind (Ends.raiseIf_bind (fun _ _ h => nomatch h) fun _ =>
    Ends.raiseIf_bind (fun _ _ h => nomatch h) fun _ => ?_))
  refine (auditEventRequired_spec inputs e _ _ _).bind ?_ fun _ _ _ _ h => nomatch h
  rintro _ s₁ ⟨-, hs₁⟩
  refine (auditEventRequired_spec inputs e _ _ _).mono ?_
  rintro r s hs u rfl
  have hwritten := he.written (f := fun i => { i with
    status := .totpPending
    acceptanceSessionHash := some inputs.sessionHash
    acceptanceStartCount := i.acceptanceStartCount + 1 }) fun _ h => h
  have houtline := hwritten.outline_of (s := s) (by rw [hs.2, hs₁])
  have hsetUp : (setupUser found s).isSome = (setupUser found e).isSome := by
    rw [hs.2, hs₁]
    unfold setupUser userById
    cases found.setupUserId with
    | none => rfl
    | some userId => exact userById_setUser { user with mfaEnabled := false } userId e.users
  rw [he.outline, ← hsetUp]
  exact houtline

theorem outline_cleared {found : StaffInvite} (he : Stored e found)
    (h : found.setupUserId = some userId ∨ setupUser found e = none) :
    inviteOutline (clearFailedInviteAcceptanceStart found.id (some userId) e) found.id =
      ⟨false, false⟩ := by
  have hfind : e.invites.find? (fun i => i.id = found.id) = some found := he
  unfold clearFailedInviteAcceptanceStart
  rw [hfind]
  dsimp only
  -- what is left of the invite has no setup user
  obtain ⟨unlinked, hunlinked, hid, hnone⟩ : ∃ unlinked,
      Stored (unlinkSetupUser found userId e) unlinked ∧ unlinked.id = found.id ∧
        setupUser unlinked (unlinkSetupUser found userId e) = none := by
    unfold unlinkSetupUser
    by_cases hlinked : found.setupUserId = some userId
    · rw [if_pos hlinked]
      refine ⟨{ found with setupUserId := none }, ?_, rfl, rfl⟩
      split
      · have hdeleted := he.map (g := fun i =>
          if i.setupUserId = some userId then { i with setupUserId := none } else i) fun i => by
            split <;> rfl
        rwa [if_pos hlinked] at hdeleted
      · exact Stored.written he fun _ h => h
    · rw [if_neg hlinked]
      exact ⟨found, he, rfl, h.resolve_left hlinked⟩
  rw [← hid]
  refine (Stored.outline (Stored.written hunlinked
    (f := fun i => { i.cleared with status := .pending }) fun _ h => h)).trans ?_
  have hnone' : setupUser { unlinked.cleared with status := .pending }
      (unlinkSetupUser found userId e) = none := hnone
  exact congrArg (StartOutline.mk · false) (congrArg Option.isSome hnone')

theorem failedStart_effect {created : Option ℤ}
    (he : StartEffect o false (inviteOutline e id))
    (hcleared : StartEffect o false
      (inviteOutline (clearFailedInviteAcceptanceStart id created e) id)) :
    Ends (failedStart cfg inputs e id created)
      (fun r s => StartEffect o (returns r) (inviteOutline s id)) s := by
  have hwrites : WriteStable cfg fun s => StartEffect o false (inviteOutline s id) :=
    fun _ _ h => h
  refine Ends.set_bind ((ends_auditEvent hwrites hcleared he inputs _ _ _).bind ?_ fun _ _ h => h)
  intro _ s₁ hs₁
  refine Ends.get_bind ((ends_auditEvent hwrites hs₁ hs₁ inputs _ _ _).bind ?_ fun _ _ h => h)
  exact fun _ _ h => h

/-- The start of an invite that has passed the checks has an effect on the outline that the steps
of a start may have. -/
theorem startCheckedInvite_effect (hw : Stored w invite) (inputs : InviteInputs) :
    Ends (startCheckedInvite cfg inputs invite) (fun r s =>
      StartEffect (inviteOutline w invite.id) (returns r) (inviteOutline s invite.id)) w := by
  refine Ends.get_bind ((ensureSetupUser_links hw inputs).bind ?_ fun _ _ h => h)
  intro user v hv
  refine (encryptMfaSecret_settles hv w inputs user).bind ?_ fun _ _ h => h.effect hw
  intro _ e he
  refine Ends.get_bind (Ends.raiseIf_bind (fun _ => he.effect hw) fun _ => ?_)
  obtain ⟨found, hfound, hid, hlinked⟩ : ∃ found, Stored e found ∧ found.id = invite.id ∧
      (found.setupUserId = some user.id ∨ found = invite ∧ e.users = w.users) := by
    cases he with
    | linked he => exact ⟨_, he.stored, rfl, .inl rfl⟩
    | rolledBack hinvites husers =>
        refine ⟨invite, ?_, rfl, .inr ⟨rfl, husers⟩⟩
        unfold Stored
        rwa [hinvites]
  have heffect := he.effect hw
  rw [← hid] at heffect ⊢
  refine (recordStart_records inputs user hfound).tryCatch (fun _ s hs => ?_) fun _ s _ => ?_
  · rw [hs _ rfl]
    exact .recorded _ _ heffect.setUp
  · refine failedStart_effect heffect ?_
    split
    · exact heffect
    · next hcreated =>
        have hnone : setupUser invite w = none := by simpa using hcreated
        rw [outline_cleared hfound ?_]
        · refine .cleared ?_
          rw [hid, hw.outline, hnone]
          rfl
        · refine hlinked.imp_right ?_
          rintro ⟨rfl, husers⟩
          unfold setupUser userById at hnone ⊢
          rwa [husers]

/-! #### The checks before it -/

/-- Other columns of the row are written. -/
theorem Stored.kept (h : Stored w invite) (invite' : StaffInvite) (hid : invite'.id = invite.id)
    (hsetUp : invite'.setupUserId = invite.setupUserId)
    (hbound : invite'.acceptanceSessionHash = invite.acceptanceSessionHash) :
    StartEffect (inviteOutline w invite.id) false (inviteOutline { w with
      invites := w.invites.map fun i => if i.id = invite'.id then invite' else i } invite.id) := by
  have hwritten := (h.written (f := fun _ => invite') fun _ _ => hid).outline
  rw [hid] at hwritten ⊢
  have houtline : (setupUser invite' w).isSome = (setupUser invite w).isSome := by
    unfold setupUser
    rw [hsetUp]
  rw [hwritten, hbound, h.outline, ← houtline]
  exact .kept

theorem activeInviteByToken_keeps {tokenHash : String} (hw : Stored w invite)
    (htoken : w.invites.find? (fun i => i.tokenHash = tokenHash) = some invite)
    (inputs : InviteInputs) :
    Ends (activeInviteByToken cfg inputs tokenHash) (fun r s => match r with
      | .ok i => s = w ∧ i = invite
      | .error _ => StartEffect (inviteOutline w invite.id) false (inviteOutline s invite.id))
      w := by
  have hwrites : WriteStable cfg fun s =>
      StartEffect (inviteOutline w invite.id) false (inviteOutline s invite.id) := fun _ _ h => h
  refine Ends.get_bind ?_
  rw [htoken]
  dsimp only
  split
  · have hexpired := hw.kept { invite with status := .expired } rfl rfl rfl
    refine Ends.modify_bind (Ends.get_bind ?_)
    exact (ends_auditEvent hwrites hexpired hexpired inputs _ _ _).bind (fun _ _ h => h)
      fun _ _ h => h
  split
  · exact (ends_auditEvent hwrites .kept .kept inputs _ _ _).bind (fun _ _ h => h) fun _ _ h => h
  split
  · exact StartEffect.kept
  · exact Ends.pure ⟨rfl, rfl⟩

theorem ensureInviteAcceptanceCanStart_keeps (hw : Stored w invite) (inputs : InviteInputs) :
    Ends (ensureInviteAcceptanceCanStart cfg inputs invite) (fun r s => match r with
      | .ok _ => s = w
      | .error _ => StartEffect (inviteOutline w invite.id) false (inviteOutline s invite.id))
      w := by
  have hwrites : WriteStable cfg fun s =>
      StartEffect (inviteOutline w invite.id) false (inviteOutline s invite.id) := fun _ _ h => h
  refine (ends_refuseUnless hwrites .kept inputs _ _ _ _ _).bind ?_ fun _ _ h => h
  rintro _ _ ⟨rfl, -⟩
  refine (ensureStartedSession_keeps inputs invite).bind ?_ fun _ _ h => h
  rintro _ w rfl
  split
  · have hlocked := hw.kept { invite with acceptanceLockedAt := some w.clock } rfl rfl rfl
    refine Ends.get_bind (Ends.modify_bind ?_)
    refine (ends_auditEvent hwrites hlocked .kept inputs _ _ _).bind ?_ fun _ _ h => h
    exact fun _ _ h => h
  · exact Ends.pure rfl

/-- The same holds of the whole request. -/
theorem startInviteAcceptance_effect {tokenHash : String} (hw : Stored w invite)
    (htoken : w.invites.find? (fun i => i.tokenHash = tokenHash) = some invite)
    (inputs : InviteInputs) :
    Ends (startInviteAcceptance cfg inputs tokenHash) (fun r s =>
      StartEffect (inviteOutline w invite.id) (returns r) (inviteOutline s invite.id)) w := by
  have hwrites : WriteStable cfg fun s =>
      StartEffect (inviteOutline w invite.id) false (inviteOutline s invite.id) := fun _ _ h => h
  refine (ends_refuseUnless hwrites .kept inputs _ _ _ _ _).bind ?_ fun _ _ h => h
  rintro _ _ ⟨rfl, -⟩
  refine (ends_refuseUnless hwrites .kept inputs _ _ _ _ _).bind ?_ fun _ _ h => h
  rintro _ _ ⟨rfl, -⟩
  refine (ends_refuseUnless hwrites .kept inputs _ _ _ _ _).bind ?_ fun _ _ h => h
  rintro _ _ ⟨rfl, -⟩
  refine (activeInviteByToken_keeps hw htoken inputs).bind ?_ fun _ _ h => h
  rintro _ _ ⟨rfl, rfl⟩
  refine (ends_refuseUnless hwrites .kept inputs _ _ _ _ _).bind ?_ fun _ _ h => h
  rintro _ _ ⟨rfl, -⟩
  refine (ensureInviteAcceptanceCanStart_keeps hw inputs).bind ?_ fun _ _ h => h
  rintro _ _ rfl
  refine (ends_refuseUnless hwrites .kept inputs _ _ _ _ _).bind ?_ fun _ _ h => h
  rintro _ _ ⟨rfl, -⟩
  exact startCheckedInvite_effect hw inputs

end Invites

/-! ### Among other sessions -/

section Acceptances

open Acceptance

variable {w : AcceptanceWorld} {t : ℕ} {α : Type}
  {Q : Except AcceptanceError α → AcceptanceWorld → Prop} {row : Invite} {user : ℕ}
  {o : StartOutline}

def rowOutline (row : Invite) : StartOutline := ⟨row.setupUser.isSome, row.workplaceCode.isSome⟩

theorem solo_ask {q : Acceptance.Question} {f : Bool → AcceptanceReq α}
    (h : ∀ yes, Solo acceptanceExec t (f yes) Q w) :
    Solo acceptanceExec t (Acceptance.ask q >>= f) Q w := by
  refine Solo.op ?_
  rintro c _ _ ⟨rfl⟩
  exact h c.yes

theorem solo_get {f : Invite → AcceptanceReq α} (h : Solo acceptanceExec t (f w.row) Q w) :
    Solo acceptanceExec t (Acceptance.get >>= f) Q w := by
  refine Solo.op ?_
  rintro c _ _ ⟨rfl⟩
  exact h

theorem solo_rollback {f : Unit → AcceptanceReq α}
    (h : Solo acceptanceExec t (f ()) Q (w.release t)) :
    Solo acceptanceExec t (Acceptance.rollback >>= f) Q w := by
  refine Solo.op ?_
  rintro c _ _ ⟨rfl⟩
  exact h

/-- One `UPDATE` changes the row, or fails and leaves it. -/
theorem solo_update (record : Invite) (change : Acceptance.Change) :
    Solo acceptanceExec t (Acceptance.update record change) (fun r w' => match r with
      | .ok _ => w'.row = w.row.apply record w.nextToken change
      | .error _ => w'.row = w.row) w := by
  refine Solo.op ?_
  intro c r w' he
  simp only [acceptanceExec] at he
  split at he
  · cases he
  split at he
  · cases he
    rfl
  unfold AcceptanceWorld.update at he
  split at he
  · cases he
    rfl
  · cases he
    rfl

/-- The row refers to its old setup user, or to the one of this start. -/
inductive MayLink (row : Invite) (user : ℕ) : Invite → Prop
  | kept : MayLink row user row
  | linked : MayLink row user { row with setupUser := some user }

theorem MayLink.effect {row' : Invite} (h : MayLink row user row') :
    StartEffect (rowOutline row) false (rowOutline row') := by
  cases h with
  | kept => exact .kept
  | linked => exact .linked

theorem MayLink.setupUser {row' : Invite} (h : MayLink row user row') :
    row'.setupUser = row.setupUser ∨ row'.setupUser = some user := by
  cases h with
  | kept => exact .inl rfl
  | linked => exact .inr rfl

theorem solo_encryptMfaSecret (user : ℕ) (created : Bool) :
    Solo acceptanceExec t (Acceptance.encryptMfaSecret w.row user created)
      (fun _ w' => MayLink w.row user w'.row) w := by
  refine (solo_update w.row (.link user created)).tryCatch (fun _ w' hw' => ?_) fun _ w' hw' => ?_
  · have hlinked : w.row.apply w.row w.nextToken (.link user created) =
        { w.row with setupUser := some user } :=
      congrArg (fun setupUser => { w.row with setupUser })
        (written_self (some user) w.row.setupUser)
    rw [hw', hlinked]
    exact .linked
  · have hkept : MayLink w.row user w'.row := by
      rw [hw']
      exact .kept
    exact hkept

/-- What the clean-up leaves. -/
theorem outline_clear {unlinked : Bool} (hsetUp : unlinked = false → row.setupUser = none)
    (statusChanged deleted : Bool) (nextToken : ℕ) :
    rowOutline (row.apply row nextToken (.clear statusChanged unlinked deleted)) =
      ⟨false, false⟩ := by
  have hbound : written row.workplaceCode none row.workplaceCode = none := written_self ..
  have hcleared : (if unlinked then written row.setupUser none row.setupUser else row.setupUser) =
      none := by
    cases unlinked with
    | true => exact written_self ..
    | false => exact hsetUp rfl
  exact congrArg₂ (fun setupUser code => StartOutline.mk setupUser.isSome code.isSome)
    hcleared hbound

theorem solo_clearFailedStart (hset : o.setUp = false)
    (hkept : StartEffect o false (rowOutline w.row))
    (hmay : w.row.setupUser = none ∨ w.row.setupUser = some user) :
    Solo acceptanceExec t (clearFailedStart user)
      (fun _ w' => StartEffect o false (rowOutline w'.row)) w := by
  have hupdate {unlinked : Bool} (hsetUp : unlinked = false → w.row.setupUser = none)
      (statusChanged deleted : Bool) : Solo acceptanceExec t
        (Acceptance.update w.row (.clear statusChanged unlinked deleted))
        (fun _ w' => StartEffect o false (rowOutline w'.row)) w := by
    refine (solo_update w.row (.clear statusChanged unlinked deleted)).mono fun r w' hw' => ?_
    cases r with
    | ok _ =>
        rw [hw', outline_clear hsetUp]
        exact .cleared hset
    | error _ =>
        rw [hw']
        exact hkept
  refine solo_get (solo_ask fun statusPending => ?_)
  split
  · exact solo_ask fun userReady => @hupdate true (fun h => nomatch h) _ _
  · next hnot => exact hupdate (fun _ => hmay.resolve_right hnot) _ _

theorem solo_failedStart {created : Bool} (hset : created = true → o.setUp = false)
    (hkept : StartEffect o false (rowOutline w.row))
    (hmay : created = true → w.row.setupUser = none ∨ w.row.setupUser = some user) :
    Solo acceptanceExec t (Acceptance.failedStart user created)
      (fun r w' => StartEffect o (returns r) (rowOutline w'.row)) w := by
  refine solo_rollback ?_
  cases created with
  | true =>
      refine Holds.bind (solo_clearFailedStart (hset rfl) hkept (hmay rfl)) ?_ ?_
      · exact fun _ _ h => h
      · exact fun _ _ h => h
  | false => exact hkept

theorem solo_finishStart {created : Bool} (hcreated : created = true → w.row.setupUser = none) :
    Solo acceptanceExec t (Acceptance.finishStart w.row user created)
      (fun r w' => StartEffect (rowOutline w.row) (returns r) (rowOutline w'.row)) w := by
  refine (solo_encryptMfaSecret user created).bind ?_ fun _ _ h => h.effect
  intro _ w₁ hmay
  refine solo_get (solo_ask fun statusStarted => ?_)
  have hfailed (w' : AcceptanceWorld) (hrow : w'.row = w₁.row) :
      Solo acceptanceExec t (Acceptance.failedStart user created)
        (fun r w' => StartEffect (rowOutline w.row) (returns r) (rowOutline w'.row)) w' := by
    refine solo_failedStart (fun h => ?_) ?_ fun h => ?_
    · exact congrArg Option.isSome (hcreated h)
    · rw [hrow]
      exact hmay.effect
    · rw [hrow, ← hcreated h]
      exact hmay.setupUser
  refine Holds.tryCatch (M := fun r w' => match r with
    | .ok _ => rowOutline w'.row = ⟨(rowOutline w₁.row).setUp, true⟩
    | .error _ => w'.row = w₁.row) ?_ (fun _ w' hw' => ?_) fun _ w' hw' => hfailed w' hw'
  · refine solo_ask fun sent => ?_
    split
    · refine (solo_update w₁.row (.start user (!statusStarted))).mono fun r w' hw' => ?_
      cases r with
      | ok _ =>
          have hstarted : w'.row = _ := hw'
          show rowOutline w'.row = _
          rw [hstarted]
          rfl
      | error _ => exact hw'
    · rfl
  · have hstarted : rowOutline w'.row = _ := hw'
    rw [hstarted]
    exact .recorded _ _ hmay.effect.setUp

/-- Other columns are written before the request is refused. -/
theorem solo_updateAndDeny {change : Acceptance.Change}
    (hkeeps : rowOutline (w.row.apply w.row w.nextToken change) = rowOutline w.row)
    (hQ : ∀ e w', rowOutline w'.row = rowOutline w.row → Q (.error e) w') :
    Solo acceptanceExec t (Acceptance.update w.row change >>= fun _ => deny) Q w := by
  refine (solo_update w.row change).bind (fun _ w' hw' => hQ _ w' ?_) fun e w' hw' => hQ e w' ?_
  · have hrow : w'.row = w.row.apply w.row w.nextToken change := hw'
    rw [hrow, hkeeps]
  · have hrow : w'.row = w.row := hw'
    rw [hrow]

theorem solo_activeInviteByToken (token : ℕ) (lock verification : Bool) :
    Solo acceptanceExec t (Acceptance.activeInviteByToken token lock verification)
      (fun r w' => match r with
      | .ok invite => w'.row = w.row ∧ invite = w.row
      | .error _ => rowOutline w'.row = rowOutline w.row) w := by
  refine Solo.op ?_
  intro c r w' he
  simp only [acceptanceExec] at he
  split at he
  · cases he
  cases he
  unfold AcceptanceWorld.load
  split
  · refine solo_ask fun expired => ?_
    split
    · exact solo_updateAndDeny rfl fun _ _ h => h
    split
    · rfl
    · exact ⟨rfl, rfl⟩
  · rfl

/-- A start that nobody interferes with. -/
theorem solo_startInviteAcceptance (token : ℕ) :
    Solo acceptanceExec t (Acceptance.startInviteAcceptance token)
      (fun r w' => StartEffect (rowOutline w.row) (returns r) (rowOutline w'.row)) w := by
  have hkept (e : AcceptanceError) (w' : AcceptanceWorld)
      (hw' : rowOutline w'.row = rowOutline w.row) :
      StartEffect (rowOutline w.row) false (rowOutline w'.row) := by
    rw [hw']
    exact .kept
  refine solo_ask fun refused => ?_
  split
  · exact StartEffect.kept
  refine (solo_activeInviteByToken token true false).bind ?_ fun e w' hw' => hkept e w' hw'
  rintro _ w' ⟨hrow, rfl⟩
  rw [← hrow] at hkept ⊢
  refine solo_ask fun admitted => ?_
  split
  · split
    · next user huser =>
        refine solo_ask fun userReady => ?_
        split
        · exact solo_finishStart fun h => nomatch h
        · exact StartEffect.kept
    · next hnone =>
        refine solo_ask fun duplicate => ?_
        split
        · exact StartEffect.kept
        refine Solo.op ?_
        rintro c _ _ ⟨rfl⟩
        exact solo_finishStart fun _ => hnone
  · exact solo_updateAndDeny rfl hkept

end Acceptances

/-! ### Among the requests that verify codes -/

section Guesses

open Attempts

variable {w : GuessWorld} {t : ℕ} {α : Type} {found : Guarded}

def hasSetUp (w : GuessWorld) : Bool := w.row.any (·.setUp)

/-- The operations that leave a setup user where it is. -/
def LeavesSetUp : GuessOp → Prop
  | .update _ .close | .update _ .lock | .update _ .setUp | .update _ (.reopen _) => True
  | .update .. | .insert _ | .delete .. => False
  | _ => True

theorem setUp_apply {r record : Guarded} {change : Attempts.Change}
    (hop : LeavesSetUp (.update record change)) (hr : r.setUp = true) :
    (r.apply record change).setUp = true := by
  cases change with
  | close | lock | reopen statusChanged => exact hr
  | setUp => rfl
  | count | store | revoke | accept | clearByRoot | clearFailed => exact hop.elim

theorem hasSetUp_updated {record : Guarded} {change : Attempts.Change}
    (hop : LeavesSetUp (.update record change)) (hw : hasSetUp w = true) :
    hasSetUp (w.updated t record change).2 = true := by
  have hrecord (v : GuessWorld) : (v.record t change).row = v.row := by
    cases change <;> rfl
  unfold GuessWorld.updated
  split
  · next r hrow =>
      split
      · have hr : r.setUp = true := by
          unfold hasSetUp at hw
          rwa [hrow] at hw
        unfold hasSetUp GuessWorld.release
        rw [hrecord]
        exact setUp_apply hop hr
      · exact hw
  · exact hw

theorem solo_leavesSetUp {p : GuessReq α} (hp : Prog.All LeavesSetUp p) (hw : hasSetUp w = true) :
    Solo guessExec t p (fun _ w' => hasSetUp w' = true) w := by
  refine Holds.of_all (fun _ _ hI h => h ▸ hI) (fun o c r w w' hop hw _ _ he => ?_) hp hw
  refine ⟨trivial, trivial, ?_⟩
  cases o with
  | ask q | compare tested | rollback =>
      cases he
      exact hw
  | load lock =>
      simp only [guessExec] at he
      split at he
      · cases he
      · cases he
        exact hw
  | refresh id =>
      simp only [guessExec] at he
      split at he
      · split at he
        · cases he
          exact hw
        · cases he
          exact hw
      · cases he
        exact hw
  | update record change =>
      simp only [guessExec] at he
      split at he
      · cases he
      split at he
      · cases he
        exact hw
      · have hupdated := congrArg Prod.snd (Option.some.inj he)
        have hkept : hasSetUp (w.updated t record change).2 = true := hasSetUp_updated hop hw
        rwa [hupdated] at hkept
  | insert change => exact hop.elim
  | delete record tooMany => exact hop.elim
  | commit =>
      simp only [guessExec] at he
      split at he
      · cases he
        exact hw
      · cases he
        exact hw

theorem guess_ask {q : Attempts.Question} {f : Bool → GuessReq α}
    {Q : Except GuessError α → GuessWorld → Prop} (h : ∀ yes, Solo guessExec t (f yes) Q w) :
    Solo guessExec t (Attempts.ask q >>= f) Q w := by
  refine Solo.op ?_
  rintro c _ _ ⟨rfl⟩
  exact h c.yes

theorem leavesSetUp_updateAndDeny {record : Guarded} {change : Attempts.Change}
    (hop : LeavesSetUp (.update record change)) :
    Prog.All LeavesSetUp (Attempts.update record change >>= fun _ => deny : GuessReq α) :=
  Prog.All.bind (.perform hop) fun _ => trivial

theorem leavesSetUp_ask {q : Attempts.Question} {f : Bool → GuessReq α}
    (h : ∀ yes, Prog.All LeavesSetUp (f yes)) :
    Prog.All LeavesSetUp (Attempts.ask q >>= f) := Prog.All.bind (.perform trivial) h

/-- The invite that is found has the setup user of the row. -/
theorem solo_findInvite (hw : hasSetUp w = true) :
    Solo guessExec t Attempts.activeInviteByToken (fun r w' => hasSetUp w' = true ∧
      ∀ found, r = .ok found → found.setUp = true) w := by
  refine guess_ask fun known => ?_
  split
  · refine Solo.op ?_
    intro c r w' he
    simp only [guessExec] at he
    split at he
    · cases he
    cases he
    obtain ⟨invite, hrow, hsetUp⟩ := (Option.any_eq_true ..).mp hw
    simp only [hrow]
    refine guess_ask fun expired => ?_
    split
    · refine Holds.bind (solo_leavesSetUp (p := Attempts.update invite .close)
        (.perform trivial) hsetUp) (fun _ _ h => ⟨h, fun _ hr => nomatch hr⟩) ?_
      exact fun _ _ h => ⟨h, fun _ hr => nomatch hr⟩
    split
    · exact ⟨hsetUp, fun _ h => nomatch h⟩
    split
    · refine ⟨hsetUp, ?_⟩
      rintro _ ⟨rfl⟩
      exact hsetUp
    · exact ⟨hsetUp, fun _ h => nomatch h⟩
  · exact ⟨hw, fun _ h => nomatch h⟩

theorem leavesSetUp_encryptMfaSecret (found : Guarded) :
    Prog.All LeavesSetUp (Attempts.encryptMfaSecret found) := by
  refine Prog.All.tryCatch ?_ fun _ => .perform trivial
  split
  · exact .perform trivial
  · exact .perform trivial

theorem leavesSetUp_finishStart (invite : Guarded) :
    Prog.All LeavesSetUp (Attempts.finishStart invite) := by
  refine leavesSetUp_ask fun started => ?_
  split
  · exact leavesSetUp_ask fun statusPending => .perform trivial
  · trivial

theorem leavesSetUp_clearFailed (hfound : found.setUp = true) :
    Prog.All LeavesSetUp (Attempts.clearFailedInviteAcceptanceStart found) := by
  unfold Attempts.clearFailedInviteAcceptanceStart
  rw [if_pos hfound]
  trivial

/-- A start that nobody interferes with leaves the setup user of an earlier one. -/
theorem solo_start_leavesSetUp (hw : hasSetUp w = true) :
    Solo guessExec t Attempts.startInviteAcceptance (fun _ w' => hasSetUp w' = true) w := by
  refine (solo_findInvite hw).bind ?_ fun _ _ h => h.1
  rintro found w' ⟨hw', hfound⟩
  refine solo_leavesSetUp ?_ hw'
  refine leavesSetUp_ask fun tooMany => ?_
  split
  · exact leavesSetUp_updateAndDeny trivial
  refine leavesSetUp_ask fun admitted => ?_
  split
  · refine (leavesSetUp_encryptMfaSecret found).bind fun _ => ?_
    refine Prog.All.bind (.perform trivial) fun invite => ?_
    refine (leavesSetUp_finishStart invite).tryCatch fun _ => ?_
    refine Prog.All.bind (.perform trivial) fun _ => ?_
    exact (leavesSetUp_clearFailed (hfound found rfl)).bind fun _ => trivial
  · trivial

/-- This model does not have the browser that an invite is bound to. -/
theorem solo_start_effect (bound : Bool) :
    Solo guessExec t Attempts.startInviteAcceptance (fun r w' => ∃ bound',
      StartEffect ⟨hasSetUp w, bound⟩ (returns r) ⟨hasSetUp w', bound'⟩) w := by
  cases hw : hasSetUp w with
  | true =>
      refine (solo_start_leavesSetUp hw).mono fun r w' hw' => ⟨true, .recorded _ _ fun _ => hw'⟩
  | false => exact Solo.of_forall (fun r w' => ⟨true, .recorded _ _ fun h => nomatch h⟩) w

end Guesses

end SitBank.Admin.StartOutlines
