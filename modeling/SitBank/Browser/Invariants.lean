import SitBank.Browser.Requests

/-!
Properties that go with a session.

A property `T` of a session id and its entries, after some history, is carried by
a state when every stored payload and the open session have it. Most of what a
request does moves payloads without changing them; the lemmas below say so for
any `T`.
-/

namespace SitBank.Browser

open SitBank.Sessions (EndReason)

/-- A property of a session, after a history. -/
abbrev Trait := List Event → ℕ → Items → Prop

/-- Every stored payload has the property. -/
structure Stored (T : Trait) (st : State) : Prop where
  numbered : ∀ r, r ∈ st.records ∨ r ∈ st.pending → r.sid < st.nextSid
  payload : ∀ r, r ∈ st.records ∨ r ∈ st.pending → ∀ items, r.payload = some items →
    T st.history r.sid items

/-- And so has the open session. -/
structure Carried (T : Trait) (st : State) : Prop extends Stored T st where
  opened : st.session.sid < st.nextSid
  current : T st.history st.session.sid st.session.items

section Carrying

variable {T : Trait} {st : State}

theorem Stored.mono {T' : Trait} (h : Stored T st)
    (himp : ∀ sid items, T st.history sid items → T' st.history sid items) : Stored T' st where
  numbered := h.numbered
  payload r hr items hitems := himp _ _ (h.payload r hr items hitems)

theorem Carried.mono {T' : Trait} (h : Carried T st)
    (himp : ∀ sid items, T st.history sid items → T' st.history sid items) : Carried T' st where
  toStored := h.toStored.mono himp
  opened := h.opened
  current := himp _ _ h.current

/-- The records change, but no payload appears. -/
theorem Stored.setPending (h : Stored T st) {f : Record → Record} (hsid : ∀ r, (f r).sid = r.sid)
    (hpayload : ∀ r items, (f r).payload = some items → r.payload = some items) :
    Stored T (st.setPending f) where
  numbered r hr := by
    rcases hr with hr | hr
    · exact h.numbered r (.inl hr)
    · obtain ⟨r₀, hr₀, rfl⟩ := List.mem_map.mp hr
      rw [hsid]
      exact h.numbered r₀ (.inr hr₀)
  payload r hr items hitems := by
    rcases hr with hr | hr
    · exact h.payload r (.inl hr) items hitems
    · obtain ⟨r₀, hr₀, rfl⟩ := List.mem_map.mp hr
      rw [hsid]
      exact h.payload r₀ (.inr hr₀) items (hpayload r₀ items hitems)

theorem endSessionRecord_sid (reason : EndReason) (r : Record) :
    (State.endSessionRecord reason r).sid = r.sid := by
  unfold State.endSessionRecord
  split <;> rfl

theorem endSessionRecord_payload {reason : EndReason} {r : Record} {items : Items}
    (h : (State.endSessionRecord reason r).payload = some items) : r.payload = some items := by
  unfold State.endSessionRecord at h
  split at h
  · exact h
  · cases h

theorem Stored.endSessions (h : Stored T st) (p : Record → Bool) (reason : EndReason) :
    Stored T (st.endSessions p reason) := by
  refine h.setPending (fun r => ?_) fun r items hitems => ?_
  · split
    · exact endSessionRecord_sid reason r
    · rfl
  · split at hitems
    · exact endSessionRecord_payload hitems
    · exact hitems

theorem Stored.commit (h : Stored T st) : Stored T st.commit where
  numbered r hr := h.numbered r (.inr (hr.elim id id))
  payload r hr := h.payload r (.inr (hr.elim id id))

theorem Stored.rollback (h : Stored T st) : Stored T st.rollback where
  numbered r hr := h.numbered r (.inl (hr.elim id id))
  payload r hr := h.payload r (.inl (hr.elim id id))

theorem Stored.auditEvent (h : Stored T st) (written : Bool) :
    Stored T (st.auditEvent written) := by
  unfold State.auditEvent
  split
  · exact h.commit
  · exact h.rollback

/-- A record without a payload. -/
theorem Stored.addRecord (h : Stored T st) {r : Record} (hlt : r.sid < st.nextSid)
    (hnone : r.payload = none) : Stored T { st with pending := st.pending ++ [r] } where
  numbered r' hr' := by
    rcases hr' with hr' | hr'
    · exact h.numbered r' (.inl hr')
    rcases List.mem_append.mp hr' with hr' | hr'
    · exact h.numbered r' (.inr hr')
    · rw [List.mem_singleton.mp hr']
      exact hlt
  payload r' hr' items hitems := by
    rcases hr' with hr' | hr'
    · exact h.payload r' (.inl hr') items hitems
    rcases List.mem_append.mp hr' with hr' | hr'
    · exact h.payload r' (.inr hr') items hitems
    · rw [List.mem_singleton.mp hr', hnone] at hitems
      cases hitems

/-- Events that leave the property of every stored session alone. -/
theorem Stored.log (h : Stored T st) {e : Event}
    (hlog : ∀ r, r ∈ st.records ∨ r ∈ st.pending → ∀ items,
      T st.history r.sid items → T (e :: st.history) r.sid items) : Stored T (st.log e) where
  numbered := h.numbered
  payload r hr items hitems := hlog r hr items (h.payload r hr items hitems)

/-- A new id is not that of a stored session. -/
theorem Stored.regenerate (h : Stored T st)
    (hlog : ∀ sid items, sid < st.nextSid → T st.history sid items →
      T (.rotated st.session.sid st.nextSid :: st.history) sid items) : Stored T st.regenerate := by
  have hended := h.endSessions (fun r => r.sid = st.session.sid) .rotated
  exact {
    numbered := fun r hr => Nat.lt_succ_of_lt (hended.numbered r hr)
    payload := fun r hr items hitems =>
      hlog r.sid items (hended.numbered r hr) (hended.payload r hr items hitems) }

/-- A step that leaves the open session alone. -/
theorem Carried.of_stored {st' : State} (h : Carried T st) (h' : Stored T st')
    (hsession : st'.session = st.session) (hhistory : st'.history = st.history)
    (hnext : st'.nextSid = st.nextSid) : Carried T st' where
  toStored := h'
  opened := by
    rw [hsession, hnext]
    exact h.opened
  current := by
    rw [hsession, hhistory]
    exact h.current

theorem Carried.endSessions (h : Carried T st) (p : Record → Bool) (reason : EndReason) :
    Carried T (st.endSessions p reason) :=
  h.of_stored (h.toStored.endSessions p reason) rfl rfl rfl

theorem Carried.addRecord (h : Carried T st) {r : Record} (hlt : r.sid < st.nextSid)
    (hnone : r.payload = none) : Carried T { st with pending := st.pending ++ [r] } :=
  h.of_stored (h.toStored.addRecord hlt hnone) rfl rfl rfl

theorem Carried.commit (h : Carried T st) : Carried T st.commit :=
  h.of_stored h.toStored.commit rfl rfl rfl

theorem Carried.rollback (h : Carried T st) : Carried T st.rollback :=
  h.of_stored h.toStored.rollback rfl rfl rfl

theorem Carried.auditEvent (h : Carried T st) (written : Bool) :
    Carried T (st.auditEvent written) := by
  unfold State.auditEvent
  split
  · exact h.commit
  · exact h.rollback

theorem Carried.wait (h : Carried T st) (microseconds : ℕ) : Carried T (st.wait microseconds) :=
  h.of_stored ⟨h.numbered, h.payload⟩ rfl rfl rfl

theorem Carried.update (h : Carried T st) {f : Items → Items}
    (hf : T st.history st.session.sid (f st.session.items)) : Carried T (st.update f) where
  toStored := ⟨h.numbered, h.payload⟩
  opened := h.opened
  current := hf

theorem Carried.log (h : Carried T st) {e : Event}
    (hlog : ∀ sid items, T st.history sid items → T (e :: st.history) sid items) :
    Carried T (st.log e) where
  toStored := h.toStored.log fun r _ items => hlog r.sid items
  opened := h.opened
  current := hlog _ _ h.current

theorem Stored.newSession (h : Stored T st)
    (hempty : T st.history st.nextSid .empty) : Carried T st.newSession where
  numbered r hr := Nat.lt_succ_of_lt (h.numbered r hr)
  payload := h.payload
  opened := Nat.lt_succ_self _
  current := hempty

end Carrying

/-! ### Requests -/

/-- A property of authenticated sessions that the rotation of another one keeps. -/
structure Trait.Personal (T : Trait) : Prop where
  signedOut : ∀ history sid items, items.userId = none → T history sid items
  rotated : ∀ history old new sid items, sid ≠ new → T history sid items →
    T (.rotated old new :: history) sid items

section Personal

variable {T : Trait} (hT : T.Personal) {st : State}

include hT

theorem Carried.clear (h : Carried T st) : Carried T st.clear :=
  h.update (hT.signedOut _ _ _ rfl)

theorem Carried.revokeCurrentSession (h : Carried T st) (reason : EndReason) :
    Carried T (st.revokeCurrentSession reason) :=
  (h.endSessions _ reason).clear hT

/-- A rotation into an id that has the property. -/
theorem Carried.regenerate (h : Stored T st)
    (hnew : T (.rotated st.session.sid st.nextSid :: st.history) st.nextSid st.session.items) :
    Carried T st.regenerate where
  toStored := h.regenerate fun sid items hlt hsid =>
    hT.rotated _ _ _ sid items (Nat.ne_of_lt hlt) hsid
  opened := Nat.lt_succ_self _
  current := hnew

/-- The rotation of a session without a user. -/
theorem Carried.rotateSignedOut (h : Carried T st) (hnone : st.session.items.userId = none) :
    Carried T st.rotateSessionId := by
  unfold State.rotateSessionId
  split
  · exact h
  · exact Carried.regenerate hT h.toStored (hT.signedOut _ _ _ hnone)

theorem Stored.toNewSession (h : Stored T st) : Carried T st.newSession :=
  h.newSession (hT.signedOut _ _ _ rfl)

/-- The session of a record that passed every check of its opening. -/
theorem Stored.openRecord (h : Stored T st) (visit : Visit) {r : Record} (hr : r ∈ st.pending) :
    Carried T (st.openRecord visit r) := by
  unfold State.openRecord
  split
  · exact h.toNewSession hT
  split
  · exact (h.endSessions _ .expired).commit.toNewSession hT
  split
  · exact (h.endSessions _ .ended).commit.toNewSession hT
  · next items hitems =>
      split
      · exact ((h.endSessions _ .integrityFailure).auditEvent visit.auditWritten).toNewSession hT
      · have hlt := h.numbered r (.inr hr)
        have htrait := h.payload r (.inr hr) items hitems
        dsimp only
        split
        · exact ⟨⟨h.numbered, h.payload⟩, hlt, htrait⟩
        · have htouched := h.setPending (f := fun r' =>
              if r'.sid = r.sid then { r' with lastActivityAt := st.clock } else r')
            (fun r' => by split <;> rfl) fun r' items' hitems' => by
              split at hitems' <;> exact hitems'
          exact ⟨⟨htouched.numbered, htouched.payload⟩, hlt, htrait⟩

theorem Stored.openSession (h : Stored T st) (visit : Visit) :
    Carried T (st.openSession visit) := by
  unfold State.openSession
  split
  · exact h.toNewSession hT
  · next r hr =>
      obtain ⟨sid, -, hfind⟩ := Option.bind_eq_some_iff.mp hr
      exact h.openRecord hT visit (List.mem_of_find?_eq_some hfind)

theorem Carried.pendingMfaExpiryResponse (h : Carried T st) (visit : Visit) :
    Carried T (st.pendingMfaExpiryResponse visit) := by
  have hrevoked := (h.revokeCurrentSession hT .expired).auditEvent visit.auditWritten
  have hnone : ((st.revokeCurrentSession .expired).auditEvent
      visit.auditWritten).session.items.userId = none := by
    unfold State.auditEvent
    split <;> rfl
  unfold State.pendingMfaExpiryResponse
  dsimp only
  split
  · exact hrevoked
  · have hupdated := hrevoked.update (f := fun items =>
      { items with others := "_flashes" :: items.others }) (hT.signedOut _ _ _ hnone)
    exact hupdated.rotateSignedOut hT hnone

omit hT in
theorem Carried.updateSessionActivity (h : Carried T st) (cfg : Config) :
    Carried T (st.updateSessionActivity cfg) := by
  unfold State.updateSessionActivity
  split
  · exact h
  · refine h.of_stored (h.toStored.setPending (fun r => by split <;> rfl) ?_) rfl rfl rfl
    intro r items hitems
    split at hitems <;> exact hitems

omit hT in
theorem Carried.registerSessionMetadata (h : Carried T st) (cfg : Config) (user : ℕ) :
    Carried T (st.registerSessionMetadata cfg user) := by
  have hset : ∀ st₁ : State, Carried T st₁ → Carried T
      (st₁.setPending fun r => if r.sid = st₁.session.sid then
        { r with
          userId := some user, lastActivityAt := st₁.clock, expiresAt := st₁.sessionExpiresAt cfg }
        else r) := by
    intro st₁ h₁
    refine h₁.of_stored (h₁.toStored.setPending (fun r => by split <;> rfl) ?_) rfl rfl rfl
    intro r items hitems
    split at hitems <;> exact hitems
  unfold State.registerSessionMetadata
  dsimp only
  split
  · exact hset st h
  · exact hset _ (h.addRecord h.opened rfl)

omit hT in
theorem Carried.enforceActiveSessionCap (h : Carried T st) (user : ℕ) :
    Carried T (st.enforceActiveSessionCap user) := by
  have hended := (h.endSessions (State.isStale user st.clock) .expired).endSessions
    (fun r => State.isActive user st.clock r && r.sid ≠ st.session.sid) .sessionCap
  unfold State.enforceActiveSessionCap
  dsimp only
  split
  · exact hended.commit
  · exact hended

omit hT in
/-- What is saved is the open session. -/
theorem Carried.saveRecord (h : Carried T st) (cfg : Config) (visit : Visit) :
    Carried T (st.setPending fun r =>
      if r.sid = st.session.sid then st.saveRecord cfg visit r else r) := by
  refine h.of_stored ⟨fun r hr => ?_, fun r hr items hitems => ?_⟩ rfl rfl rfl
  · rcases hr with hr | hr
    · exact h.numbered r (.inl hr)
    · obtain ⟨r₀, hr₀, rfl⟩ := List.mem_map.mp hr
      have hlt := h.numbered r₀ (.inr hr₀)
      split <;> exact hlt
  · rcases hr with hr | hr
    · exact h.payload r (.inl hr) items hitems
    · obtain ⟨r₀, hr₀, rfl⟩ := List.mem_map.mp hr
      split at hitems
      · next hsid =>
          cases hitems
          rw [if_pos hsid]
          show T st.history r₀.sid st.session.items
          rw [hsid]
          exact h.current
      · next hsid =>
          rw [if_neg hsid]
          exact h.payload r₀ (.inr hr₀) items hitems

omit hT in
theorem Carried.commitQuietly (h : Carried T st) (visit : Visit) :
    Carried T (st.commitQuietly visit) := by
  unfold State.commitQuietly
  split
  · exact h.commit
  · exact h.rollback

omit hT in
theorem Carried.setCookie (h : Carried T st) (visit : Visit) (cookie : Option ℕ) :
    Carried T (st.setCookie visit cookie) := by
  unfold State.setCookie
  split
  · exact h
  · exact h.of_stored ⟨h.numbered, h.payload⟩ rfl rfl rfl

end Personal

/-! ### Quiet steps -/

/-- No time passes, nothing happens but rotations, and no session id is taken back. -/
inductive Quiet (st : State) : State → Prop
  | same {st' : State} : st'.clock = st.clock → st'.history = st.history →
      st.nextSid ≤ st'.nextSid → Quiet st st'
  | rotated {st₁ st' : State} {old new : ℕ} : Quiet st st₁ → st'.clock = st₁.clock →
      st'.history = .rotated old new :: st₁.history → st₁.nextSid ≤ st'.nextSid → Quiet st st'

namespace Quiet

variable {st st₁ st₂ : State}

theorem refl (st : State) : Quiet st st := .same rfl rfl le_rfl

theorem trans (h : Quiet st st₁) (h' : Quiet st₁ st₂) : Quiet st st₂ := by
  induction h' with
  | same hclock hhistory hnext =>
      cases h with
      | same hclock' hhistory' hnext' =>
          exact .same (hclock.trans hclock') (hhistory.trans hhistory') (hnext'.trans hnext)
      | rotated hq hclock' hhistory' hnext' =>
          exact .rotated hq (hclock.trans hclock') (hhistory.trans hhistory') (hnext'.trans hnext)
  | rotated _ hclock hhistory hnext ih => exact .rotated ih hclock hhistory hnext

theorem clock (h : Quiet st st₁) : st₁.clock = st.clock := by
  induction h with
  | same hclock _ _ => exact hclock
  | rotated _ hclock _ _ ih => exact hclock.trans ih

theorem nextSid (h : Quiet st st₁) : st.nextSid ≤ st₁.nextSid := by
  induction h with
  | same _ _ hnext => exact hnext
  | rotated _ _ _ hnext ih => exact ih.trans hnext

/-- What holds of the history still does, if rotations do not matter to it. -/
theorem history {P : List Event → Prop} (h : Quiet st st₁)
    (hrotated : ∀ events old new, P events → P (.rotated old new :: events)) (hst : P st.history) :
    P st₁.history := by
  induction h with
  | same _ hhistory _ =>
      rw [hhistory]
      exact hst
  | rotated _ _ hhistory _ ih =>
      rw [hhistory]
      exact hrotated _ _ _ ih

theorem auditEvent (written : Bool) (st : State) : Quiet st (st.auditEvent written) := by
  unfold State.auditEvent
  split <;> exact .same rfl rfl le_rfl

theorem update (f : Items → Items) (st : State) : Quiet st (st.update f) := .same rfl rfl le_rfl

theorem setPending (f : Record → Record) (st : State) : Quiet st (st.setPending f) :=
    .same rfl rfl le_rfl

theorem rollback (st : State) : Quiet st st.rollback := .same rfl rfl le_rfl

theorem rotateSessionId (st : State) : Quiet st st.rotateSessionId := by
  unfold State.rotateSessionId
  split
  · exact .refl st
  · exact .rotated (.refl st) rfl rfl (Nat.le_succ _)

theorem openSession (visit : Visit) (st : State) : Quiet st (st.openSession visit) := by
  unfold State.openSession
  split
  · exact .same rfl rfl (Nat.le_succ _)
  · next r _ =>
      unfold State.openRecord
      split
      · exact .same rfl rfl (Nat.le_succ _)
      split
      · exact .same rfl rfl (Nat.le_succ _)
      split
      · exact .same rfl rfl (Nat.le_succ _)
      split
      · have hended : Quiet st (st.endSessionId r.sid .integrityFailure) := .same rfl rfl le_rfl
        have hevent := hended.trans (Quiet.auditEvent visit.auditWritten _)
        exact hevent.trans (.same rfl rfl (Nat.le_succ _))
      · dsimp only
        split <;> exact .same rfl rfl le_rfl

theorem pendingMfaExpiryResponse (visit : Visit) (st : State) :
    Quiet st (st.pendingMfaExpiryResponse visit) := by
  have hended : Quiet st (st.revokeCurrentSession .expired) := .same rfl rfl le_rfl
  have hrevoked := hended.trans (Quiet.auditEvent visit.auditWritten _)
  unfold State.pendingMfaExpiryResponse
  dsimp only
  split
  · exact hrevoked
  · exact hrevoked.trans ((Quiet.update _ _).trans (Quiet.rotateSessionId _))

theorem updateSessionActivity (cfg : Config) (st : State) :
    Quiet st (st.updateSessionActivity cfg) := by
  unfold State.updateSessionActivity
  split <;> exact .same rfl rfl le_rfl

theorem registerSessionMetadata (cfg : Config) (user : ℕ) (st : State) :
    Quiet st (st.registerSessionMetadata cfg user) := by
  unfold State.registerSessionMetadata
  dsimp only
  split <;> exact .same rfl rfl le_rfl

theorem enforceActiveSessionCap (user : ℕ) (st : State) :
    Quiet st (st.enforceActiveSessionCap user) := by
  unfold State.enforceActiveSessionCap
  dsimp only
  split <;> exact .same rfl rfl le_rfl

theorem commitQuietly (visit : Visit) (st : State) : Quiet st (st.commitQuietly visit) := by
  unfold State.commitQuietly
  split <;> exact .same rfl rfl le_rfl

theorem setCookie (visit : Visit) (cookie : Option ℕ) (st : State) :
    Quiet st (st.setCookie visit cookie) := by
  unfold State.setCookie
  split <;> exact .same rfl rfl le_rfl

theorem enforceAuthenticatedSessionContext (cfg : Config) (visit : Visit) (st : State) :
    Quiet st (st.enforceAuthenticatedSessionContext cfg visit).1 := by
  unfold State.enforceAuthenticatedSessionContext
  split
  · exact .refl st
  split
  · exact .same rfl rfl le_rfl
  · exact Quiet.trans (Quiet.auditEvent visit.auditWritten st) (.same rfl rfl le_rfl)
  · dsimp only
    split
    · exact .same rfl rfl le_rfl
    · exact Quiet.trans (Quiet.auditEvent visit.auditWritten st) (.same rfl rfl le_rfl)
  · exact Quiet.trans (Quiet.auditEvent visit.auditWritten st) (.same rfl rfl le_rfl)

end Quiet

end SitBank.Browser
