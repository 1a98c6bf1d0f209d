import SitBank.Auth.SignInFlow

/-!
Whoever is served has proved who he is.

A request that is served as a user came with a session id that a request got when it completed
the login of that user: at once, when the account had no second factor, or with a code, sent
with a session id that a request got when it gave the password. Otherwise the id was given to a
served request that sent a code, in exchange for such an id. So an id that somebody had before,
or that he has planted in another browser, is of no use to him.

The proof follows what each id was issued for (`WhyOk`). A session says no more than what its
own id was issued for (`ItemsOk`).
-/

namespace SitBank.Auth.SignIn

open SitBank.Interaction

/-! ### What the history warrants -/

/-- A user may give the first factor of a login, and the second. -/
def MayLogIn (cfg : Config) (user : Account) : Prop :=
  user.isFrozen = false ∧ user.securityLocked = false ∧
    if cfg.admin then isActiveStaffUser user = true ∧ user.workplaceEmailVerified = true
    else user.accountType = .customer

def MayFinish (cfg : Config) (user : Account) : Prop :=
  if cfg.admin then isActiveStaffUser user = true
  else user.mfaEnabled = true ∧ user.isFrozen = false ∧ user.securityLocked = false

/-- The user and the sign-in of a session whose id was issued for this. -/
def Why.signedIn : Why → Option (ℕ × ℕ)
  | .bootstrap user since => some (user, since)
  | .factors user since => some (user, since)
  | .stepUp user _ since => some (user, since)
  | _ => none

/-- The id stands for a sign-in of the user at that time. -/
def StandsFor (h : List Event) (user sid since : ℕ) : Prop :=
  ∃ r why, .issued r sid why ∈ h ∧ why.signedIn = some (user, since)

def WhyOk (h : List Event) (request : ℕ) : Why → Prop
  | .opened => True
  | .password user at_ => ∃ seen, .password request user seen true at_ ∈ h
  | .bootstrap user _ => ∃ seen at_, .password request user seen false at_ ∈ h
  | .factors user _ => ∃ sid seen, .code request user sid seen .login ∈ h
  | .stepUp user previous since =>
      (∃ seen, .code request user previous seen .stepUp ∈ h) ∧ StandsFor h user previous since
  | .other => True

def CodeOk (cfg : Config) (h : List Event) (request user sid : ℕ) (seen : Account) :
    Purpose → Prop
  | .login => MayFinish cfg seen ∧ ∃ at_, .resumed request user sid at_ ∈ h
  | .stepUp => ∃ at_, .served request user sid at_ ∈ h

def Warranted (cfg : Config) (h : List Event) : Event → Prop
  | .issued request _ why => WhyOk h request why
  | .password _ _ seen mfaEnabled _ => MayLogIn cfg seen ∧ (mfaEnabled = false → cfg.admin = false)
  | .resumed _ user sid at_ => ∃ r since, .issued r sid (.password user since) ∈ h ∧
      at_ ≤ since + cfg.pendingMfaMaxAgeSeconds
  | .code request user sid seen purpose => CodeOk cfg h request user sid seen purpose
  | .served _ user sid at_ => ∃ since, StandsFor h user sid since ∧
      at_ ≤ since + cfg.sessionAbsoluteLifetimeSeconds

/-- What a session says is what its id was issued for. -/
structure ItemsOk (h : List Event) (s : Items) : Prop where
  pending : ∀ user, s.pendingMfaUserId = some user → ∃ r since,
    s.passwordAuthenticatedAt = some since ∧ .issued r s.sid (.password user since) ∈ h
  signedIn : ∀ user, s.userId = some user → ∃ since,
    s.authCreatedAt = some since ∧ StandsFor h user s.sid since
  apart : s.userId = none ∨ s.pendingMfaUserId = none

section Lasting

variable {cfg : Config} {h h' : List Event} (hh : h <:+ h')

include hh

theorem StandsFor.later {user sid since : ℕ} (hs : StandsFor h user sid since) :
    StandsFor h' user sid since := by
  obtain ⟨r, why, hissued, hwhy⟩ := hs
  exact ⟨r, why, hh.mem hissued, hwhy⟩

theorem WhyOk.later {request : ℕ} {why : Why} (hw : WhyOk h request why) :
    WhyOk h' request why := by
  cases why with
  | opened => trivial
  | password user at_ => exact hw.imp fun _ hmem => hh.mem hmem
  | bootstrap user since =>
      obtain ⟨seen, at_, hmem⟩ := hw
      exact ⟨seen, at_, hh.mem hmem⟩
  | factors user since =>
      obtain ⟨sid, seen, hmem⟩ := hw
      exact ⟨sid, seen, hh.mem hmem⟩
  | stepUp user previous since =>
      obtain ⟨⟨seen, hmem⟩, hstands⟩ := hw
      exact ⟨⟨seen, hh.mem hmem⟩, hstands.later hh⟩
  | other => trivial

theorem CodeOk.later {request user sid : ℕ} {seen : Account} {purpose : Purpose}
    (hc : CodeOk cfg h request user sid seen purpose) :
    CodeOk cfg h' request user sid seen purpose := by
  cases purpose with
  | login => exact ⟨hc.1, hc.2.imp fun _ hmem => hh.mem hmem⟩
  | stepUp => exact hc.imp fun _ hmem => hh.mem hmem

theorem Warranted.later {e : Event} (he : Warranted cfg h e) : Warranted cfg h' e := by
  cases e with
  | issued request sid why => exact WhyOk.later hh he
  | password request user seen mfaEnabled at_ => exact he
  | resumed request user sid at_ =>
      obtain ⟨r, since, hissued, htime⟩ := he
      exact ⟨r, since, hh.mem hissued, htime⟩
  | code request user sid seen purpose => exact CodeOk.later hh he
  | served request user sid at_ => exact he.imp fun _ hs => ⟨hs.1.later hh, hs.2⟩

theorem ItemsOk.later {s : Items} (hs : ItemsOk h s) : ItemsOk h' s where
  pending user hu := by
    obtain ⟨r, since, htime, hissued⟩ := hs.pending user hu
    exact ⟨r, since, htime, hh.mem hissued⟩
  signedIn user hu := by
    obtain ⟨since, htime, hstands⟩ := hs.signedIn user hu
    exact ⟨since, htime, hstands.later hh⟩
  apart := hs.apart

end Lasting

/-- Nobody is signed in. -/
theorem itemsOk_anonymous {h : List Event} {s : Items} (hp : s.pendingMfaUserId = none)
    (hu : s.userId = none) : ItemsOk h s where
  pending user h' := by
    rw [hp] at h'
    cases h'
  signedIn user h' := by
    rw [hu] at h'
    cases h'
  apart := .inl hu

/-! ### The state -/

/-- Session ids are drawn once. -/
def Event.sid : Event → Option ℕ
  | .issued _ sid _ => some sid
  | _ => none

structure Ok (cfg : Config) (w : World) : Prop where
  saved : ∀ s ∈ w.saved, ItemsOk w.history s
  honest : Honest (Warranted cfg) w.history
  sids : Numbered Event.sid w.nextSid w.history

section Steps

variable {cfg : Config} {w : World} (hw : Ok cfg w)

include hw

theorem Ok.tick (n : ℕ) : Ok cfg { w with clock := w.clock + n } := ⟨hw.saved, hw.honest, hw.sids⟩

theorem Ok.saved_later (e : Event) : ∀ s ∈ w.saved, ItemsOk (e :: w.history) s :=
  fun s hs => (hw.saved s hs).later (List.suffix_cons _ _)

theorem Ok.note {e : Event} (hsid : e.sid = none) (he : Warranted cfg w.history e) :
    Ok cfg { w with history := e :: w.history } where
  saved := hw.saved_later e
  honest := ⟨he, hw.honest⟩
  sids := hw.sids.skip hsid

theorem Ok.issue {request : ℕ} {why : Why} (hwhy : WhyOk w.history request why) :
    Ok cfg (w.issue request why) where
  saved := hw.saved_later _
  honest := ⟨hwhy, hw.honest⟩
  sids := hw.sids.draw rfl

theorem Ok.save {s : Items} (hs : ItemsOk w.history s) :
    Ok cfg { w with saved := s :: w.saved } where
  saved s' hs' := by
    rcases List.mem_cons.mp hs' with rfl | hs'
    · exact hs
    · exact hw.saved s' hs'
  honest := hw.honest
  sids := hw.sids

end Steps

/-! ### The operations -/

def Before (cfg : Config) (h : List Event) : Op → Prop
  | .regenerate request why => WhyOk h request why
  | .save items => ItemsOk h items
  | .note e => e.sid = none ∧ Warranted cfg h e
  | _ => True

def After (h : List Event) : (o : Op) → Res o → Prop
  | .open_ _ _, items => let items : Items := items; ItemsOk h items
  | .regenerate request why, sid => .issued request sid why ∈ h
  | .note e, _ => e ∈ h
  | _, _ => True

variable {cfg : Config}

theorem Before.later {h h' : List Event} (hh : h <:+ h') {o : Op} (ho : Before cfg h o) :
    Before cfg h' o := by
  cases o with
  | ask | time | account | open_ => trivial
  | regenerate request why => exact WhyOk.later hh ho
  | save items => exact ItemsOk.later hh ho
  | note e => exact ⟨ho.1, ho.2.later hh⟩

theorem act_sound {w : World} (hw : Ok cfg w) {o : Op} (ho : Before cfg w.history o) (c : Choice) :
    w ≤ (act o c w).2 ∧ Ok cfg (act o c w).2 ∧ After (act o c w).2.history o (act o c w).1 := by
  cases o with
  | ask | time | account => exact ⟨le_refl w, hw, trivial⟩
  | open_ request cookie =>
      cases hfound : (w.savedUnder cookie)[c.number]? with
      | none =>
          simp only [act, hfound]
          exact ⟨⟨Nat.le_refl _, List.suffix_cons ..⟩, hw.issue trivial, itemsOk_anonymous rfl rfl⟩
      | some s =>
          simp only [act, hfound]
          exact ⟨le_refl w, hw, hw.saved s (List.mem_filter.mp (List.mem_of_getElem? hfound)).1⟩
  | regenerate request why =>
      exact ⟨⟨Nat.le_refl _, List.suffix_cons ..⟩, hw.issue ho, .head _⟩
  | save items =>
      dsimp only [act]
      split
      · exact ⟨le_refl w, hw, trivial⟩
      · exact ⟨le_refl w, hw.save ho, trivial⟩
  | note e => exact ⟨⟨Nat.le_refl _, List.suffix_cons ..⟩, hw.note ho.1 ho.2, .head _⟩

def contract (cfg : Config) : Contract exec (Ok cfg) where
  pre o w := Before cfg w.history o
  post o r w := ∀ a, r = .ok a → After w.history o a
  lasts _ _ _ hle ho := ho.later hle.2
  sound _ o c r w w' ho hw he := by
    cases he
    dsimp only
    obtain ⟨hle, hok, hafter⟩ := act_sound hw ho c
    split
    · exact ⟨⟨Nat.le_add_right .., List.suffix_refl _⟩, hw.tick _, fun a ha => by cases ha⟩
    · refine ⟨le_trans hle ⟨Nat.le_add_right .., List.suffix_refl _⟩, hok.tick _, fun a ha => ?_⟩
      cases ha
      exact hafter

/-! ### Handlers -/

/-- The session of a handler is in order. -/
def InOrder (s : Items) (w : World) : Prop := ItemsOk w.history s

theorem inOrder_monotone (s : Items) : Monotone (InOrder s) :=
  fun _ _ hle hs => ItemsOk.later hle.2 hs

/-- Nothing is said about the result. -/
def Any {α : Type} (_ : α) (_ : Items) (_ : World) : Prop := True

section Handlers

variable {α : Type} {V : α → Items → World → Prop} {s : Items} {w : World} {r : ℕ}

abbrev Serves (cfg : Config) (m : Req α) (V : α → Items → World → Prop) (s : Items) (w : World) :
    Prop :=
  (contract cfg).Serves m (Contract.keeping InOrder V) s w

/-- What follows an operation that needs no warrant. -/
theorem serves_act {o : Op} {f : Res o → Req α} (hs : InOrder s w) (hpre : Before cfg w.history o)
    (hf : ∀ a w', w ≤ w' → InOrder s w' → After w'.history o a → Serves cfg (f a) V s w') :
    Serves cfg (Handler.perform o >>= f) V s w :=
  .act (inOrder_monotone s) hs hpre fun a w' hle hs' hafter => hf a w' hle hs' (hafter a rfl)

theorem serves_require_next (hs : InOrder s w) {q : Question} {status : ℕ} {f : Unit → Req α}
    (hf : ∀ w', w ≤ w' → InOrder s w' → Serves cfg (f ()) V s w') :
    Serves cfg (require q status >>= f) V s w := by
  have hrequire : Serves cfg (require q status) (fun _ s' _ => s' = s) s w := by
    refine serves_act hs trivial fun yes w' _ hs' _ => ?_
    cases yes
    · exact hs'
    · exact ⟨hs', rfl⟩
  refine hrequire.next fun _ s' w' hle hs' hsame => ?_
  cases hsame
  exact hf w' hle hs'

/-! ### Sessions -/

/-- The session of a request need not be in order before it gets its new id. -/
theorem serves_rotateSessionId {why : Why} (hwhy : WhyOk w.history r why)
    (hnew : ∀ sid w', w ≤ w' → .issued r sid why ∈ w'.history → InOrder { s with sid := sid } w') :
    Serves cfg (rotateSessionId r why) Any s w := by
  refine .get_bind ?_
  split
  · next hempty =>
      rw [hempty]
      exact ⟨itemsOk_anonymous rfl rfl, trivial⟩
  · refine Contract.Serves.bind (M := fun result s' w' =>
        (∀ sid, result = .ok sid → s' = s ∧ w ≤ w' ∧ .issued r sid why ∈ w'.history) ∧
        ∀ e, result = .error e → InOrder s' w') ?_ ?_ fun e s' w' _ h => h.2 e rfl
    · refine Contract.Serves.tryCatch (M := fun result s' w' => s' = s ∧ w ≤ w' ∧
        ∀ sid, result = .ok sid → .issued r sid why ∈ w'.history) ?_ ?_ ?_
      · exact .perform hwhy fun result w' hle hafter => ⟨rfl, hle, fun sid hsid => hafter sid hsid⟩
      · rintro sid s' w' - ⟨hsame, hle, hissued⟩
        refine ⟨fun sid' hsid => ?_, fun _ h => by cases h⟩
        cases hsid
        exact ⟨hsame, hle, hissued sid rfl⟩
      · exact fun e s' w' _ _ => ⟨fun _ h => (by cases h), fun _ _ => itemsOk_anonymous rfl rfl⟩
    · intro sid s' w' _ h
      obtain ⟨rfl, hle, hissued⟩ := h.1 sid rfl
      exact .modify ⟨hnew sid w' hle hissued, trivial⟩

theorem serves_beginPasswordAuthenticatedSession (hs : InOrder s w) {user : ℕ} {seen : Account}
    (hmay : MayLogIn cfg seen) :
    Serves cfg (beginPasswordAuthenticatedSession r user seen) Any s w := by
  refine serves_act hs trivial fun passwordAt w₁ _ hs₁ _ => ?_
  refine serves_act hs₁ ⟨rfl, hmay, fun h => by cases h⟩ fun _ w₂ _ hs₂ hpassword => ?_
  refine serves_act hs₂ trivial fun now w₃ hle₃ hs₃ _ => .change ?_
  refine serves_rotateSessionId ⟨seen, hle₃.2.mem hpassword⟩ fun sid w₄ _ hissued => ?_
  refine ⟨fun user' hu => ?_, fun user' hu => (by cases hu), .inl rfl⟩
  cases hu
  exact ⟨r, seconds passwordAt, rfl, hissued⟩

theorem serves_establishAuthenticatedSession (hs : InOrder s w) {user : ℕ} {why : ℕ → ℕ → Why}
    (hsigned : ∀ since, (why user since).signedIn = some (user, since))
    (hwhy : ∀ since, WhyOk w.history r (why user since)) :
    Serves cfg (establishAuthenticatedSession r user why) Any s w := by
  refine serves_act hs trivial fun now w₁ hle₁ _ _ => .change ?_
  have hrotate : Serves cfg (rotateSessionId r (why user (seconds now))) Any
      { Items.empty s.sid with
        userId := some user
        authCreatedAt := some (seconds now)
        lastActivityAt := some (seconds now)
        others := true } w₁ := by
    refine serves_rotateSessionId ((hwhy _).later hle₁.2) fun sid w₂ _ hissued => ?_
    refine ⟨fun user' hu => (by cases hu), fun user' hu => ?_, .inr rfl⟩
    cases hu
    exact ⟨seconds now, rfl, r, _, hissued, hsigned _⟩
  exact hrotate.next fun _ s₂ w₂ _ hs₂ _ => serves_act hs₂ trivial fun _ _ _ hs₃ _ => ⟨hs₃, trivial⟩

/-- The times of the session say nothing about who is signed in. -/
theorem inOrder_touch (hs : InOrder s w) (at_ : Option ℕ) (others : Bool) :
    InOrder { s with lastActivityAt := at_, others := others } w :=
  ⟨hs.pending, hs.signedIn, hs.apart⟩

theorem serves_markFreshMfa_next (hs : InOrder s w) {f : Unit → Req α}
    (hf : ∀ at_ w', w ≤ w' → InOrder { s with lastActivityAt := at_, others := true } w' →
      Serves cfg (f ()) V { s with lastActivityAt := at_, others := true } w') :
    Serves cfg (markFreshMfa >>= f) V s w := by
  have hmark : Serves cfg markFreshMfa
      (fun _ s' _ => ∃ at_, s' = { s with lastActivityAt := at_, others := true }) s w :=
    serves_act hs trivial fun now w₁ _ hs₁ _ =>
      .modify ⟨inOrder_touch hs₁ _ true, some (seconds now), rfl⟩
  refine hmark.next fun _ s' w' hle hs' hsame => ?_
  obtain ⟨at_, rfl⟩ := hsame
  exact hf at_ w' hle hs'

theorem serves_rotateAuthenticatedSessionAfterMfa (hs : InOrder s w) {user : ℕ} {seen : Account}
    (hu : s.userId = some user) (hcode : .code r user s.sid seen .stepUp ∈ w.history) :
    Serves cfg (rotateAuthenticatedSessionAfterMfa r user) Any s w := by
  obtain ⟨since, hsince, hstands⟩ := hs.signedIn user hu
  refine serves_markFreshMfa_next hs fun at_ w₁ hle₁ hs₁ => .get_bind ?_
  have hwhy : WhyOk w₁.history r (.stepUp user s.sid (s.authCreatedAt.getD 0)) := by
    rw [hsince]
    exact ⟨⟨seen, hle₁.2.mem hcode⟩, hstands.later hle₁.2⟩
  have hrotate : Serves cfg (rotateSessionId r (.stepUp user s.sid (s.authCreatedAt.getD 0))) Any
      { s with lastActivityAt := at_, others := true } w₁ := by
    refine serves_rotateSessionId hwhy fun sid w₂ _ hissued => ?_
    refine ⟨fun user' hp => ?_, fun user' hu' => ?_, hs.apart⟩
    · rcases hs.apart with h | h
      · cases h.symm.trans hu
      · cases h.symm.trans hp
    · cases hu.symm.trans hu'
      refine ⟨since, hsince, r, _, hissued, ?_⟩
      rw [hsince]
      rfl
  exact hrotate.next fun _ s₂ w₂ _ hs₂ _ => serves_act hs₂ trivial fun _ _ _ hs₃ _ => ⟨hs₃, trivial⟩

/-! ### The hook -/

/-- What the hook of request `r` has made sure of. -/
structure Passed (cfg : Config) (r passedAt : ℕ) (s : Items) (w : World) : Prop where
  resumed : ∀ user, s.pendingMfaUserId = some user →
    ∃ at_, .resumed r user s.sid at_ ∈ w.history
  signedIn : ∀ user, s.userId = some user → ∃ since, StandsFor w.history user s.sid since ∧
    passedAt ≤ since + cfg.sessionAbsoluteLifetimeSeconds

theorem serves_askIf_next (hs : InOrder s w) {c : Bool} {q : Question} {f : Bool → Req α}
    (hf : ∀ yes w', w ≤ w' → InOrder s w' → Serves cfg (f yes) V s w') :
    Serves cfg (askIf c q >>= f) V s w := by
  cases c with
  | false => exact hf false w le_rfl hs
  | true => exact serves_act hs trivial fun yes w' hle hs' _ => hf yes w' hle hs'

theorem inOrder_clear (s : Items) (w : World) : InOrder (clear s) w := itemsOk_anonymous rfl rfl

theorem serves_revokeCurrentSession {V : Unit → Items → World → Prop} (hs : InOrder s w) :
    Serves cfg revokeCurrentSession V s w :=
  serves_act hs trivial fun _ w' _ _ _ => .change (inOrder_clear s w')

theorem serves_pendingMfaExpiryResponse {V : Unit → Items → World → Prop} (hs : InOrder s w)
    (authPath : Bool) : Serves cfg (pendingMfaExpiryResponse r authPath) V s w := by
  refine serves_act hs trivial fun _ w₁ _ _ _ => .change ?_
  split
  · exact inOrder_clear s w₁
  · have hrotate : Serves cfg (rotateSessionId r .other) Any { clear s with others := true } w₁ :=
      serves_rotateSessionId trivial fun _ _ _ _ => itemsOk_anonymous rfl rfl
    exact .change (hrotate.next fun _ _ _ _ hs₂ _ => hs₂)

theorem withAuthCreatedAt_eq (hs : InOrder s w) (now : ℕ) : withAuthCreatedAt now s = s := by
  unfold withAuthCreatedAt
  cases hu : s.userId with
  | none => rfl
  | some user =>
      obtain ⟨since, hsince, -⟩ := hs.signedIn user hu
      rw [hsince]
      rfl

theorem serves_passHook (hs : InOrder s w) {now : ℕ} {exempt : Bool}
    (hpending : pendingMfaExpired cfg s now = false)
    (hlifetime : lifetimeExpired cfg s now = false) :
    Serves cfg (passHook r exempt now s) (fun _ s' w' => Passed cfg r now s' w') s w := by
  have hsignedIn : ∀ user, s.userId = some user → ∃ since, StandsFor w.history user s.sid since ∧
      now ≤ since + cfg.sessionAbsoluteLifetimeSeconds := by
    intro user hu
    obtain ⟨since, hsince, hstands⟩ := hs.signedIn user hu
    refine ⟨since, hstands, ?_⟩
    simp only [lifetimeExpired, hu, hsince, Option.isSome_some, Bool.true_and, Option.any_some,
      Bool.or_eq_false_iff, decide_eq_false_iff_not, Nat.not_lt] at hlifetime
    exact hlifetime.2
  have hresumed : ∀ user, s.pendingMfaUserId = some user →
      Warranted cfg w.history (.resumed r user s.sid now) := by
    intro user hu
    obtain ⟨r₁, since, hsince, hissued⟩ := hs.pending user hu
    refine ⟨r₁, since, hissued, ?_⟩
    simp only [pendingMfaExpired, hu, hsince, Option.isSome_some, Bool.true_and, Option.all_some,
      Bool.or_eq_false_iff, decide_eq_false_iff_not, Nat.not_lt] at hpending
    exact hpending.2
  have htouched : ∃ at_, (if exempt then s else { s with lastActivityAt := some now }) =
      { s with lastActivityAt := at_, others := s.others } := by
    cases exempt with
    | true => exact ⟨s.lastActivityAt, rfl⟩
    | false => exact ⟨some now, rfl⟩
  obtain ⟨at_, htouched⟩ := htouched
  refine .change ?_
  rw [htouched]
  have hs' := inOrder_touch hs at_ s.others
  split
  · next hp => exact ⟨hs', ⟨fun user hu => (by cases hp.symm.trans hu), hsignedIn⟩⟩
  · next user hp =>
      refine .last (inOrder_monotone _) hs' ⟨rfl, hresumed user hp⟩ fun _ w' hle _ hmem => ?_
      refine ⟨fun user' hu => ?_, fun user' hu => ?_⟩
      · cases hp.symm.trans hu
        exact ⟨now, hmem _ rfl⟩
      · exact (hsignedIn user' hu).imp fun since h => ⟨h.1.later hle.2, h.2⟩

theorem serves_enforceSessionLifetime (hs : InOrder s w) (authPath exempt : Bool) (now : ℕ) :
    Serves cfg (enforceSessionLifetime cfg r authPath exempt now)
      (fun _ s' w' => Passed cfg r now s' w') s w := by
  refine .get_bind ?_
  split
  · exact serves_pendingMfaExpiryResponse hs authPath
  · next hpending =>
      split
      · exact serves_revokeCurrentSession hs
      · next hlifetime =>
          refine .change ?_
          rw [withAuthCreatedAt_eq hs]
          split
          · exact serves_revokeCurrentSession hs
          · refine serves_askIf_next hs fun risky w₁ _ hs₁ => ?_
            split
            · exact serves_revokeCurrentSession hs₁
            · exact serves_passHook hs₁ (Bool.eq_false_iff.mpr hpending)
                (Bool.eq_false_iff.mpr hlifetime)

theorem serves_enforceSessionActivity (hs : InOrder s w) (visit : Visit) :
    Serves cfg (enforceSessionActivity cfg r visit)
      (fun passedAt s' w' => Passed cfg r passedAt s' w') s w := by
  have hanonymous : ∀ (s : Items) (w : World) (passedAt : ℕ), s.userId = none →
      s.pendingMfaUserId = none → Passed cfg r passedAt s w := by
    intro s w passedAt hu hp
    exact ⟨fun user h => (by cases hp.symm.trans h), fun user h => (by cases hu.symm.trans h)⟩
  refine .get_bind (serves_askIf_next hs fun revoked w₁ _ hs₁ => ?_)
  split
  · refine .change ?_
    split
    · exact ⟨inOrder_clear s w₁, hanonymous _ _ 0 rfl rfl⟩
    · exact inOrder_clear s w₁
  · split
    · next hnobody => exact ⟨hs₁, hanonymous s w₁ 0 hnobody.1 hnobody.2⟩
    · refine serves_act hs₁ trivial fun now w₂ _ hs₂ _ => ?_
      exact (serves_enforceSessionLifetime hs₂ _ _ (seconds now)).next
        fun _ s₃ w₃ _ hs₃ hpassed => ⟨hs₃, hpassed⟩

/-! ### Views -/

theorem serves_requireRole (hs : InOrder s w) (seen : Account) :
    Serves cfg (requireRole cfg seen) (fun _ s' w' => s' = s ∧ w' = w) s w := by
  unfold requireRole
  split
  · cases isActiveStaffUser seen
    · exact hs
    · exact ⟨hs, rfl, rfl⟩
  · split
    · exact ⟨hs, rfl, rfl⟩
    · exact .change (inOrder_clear s w)

theorem serves_currentUser_next (hs : InOrder s w) {passedAt : ℕ} (hp : Passed cfg r passedAt s w)
    {f : ℕ × Account → Req α}
    (hf : ∀ user seen w', w ≤ w' → InOrder s w' → s.userId = some user →
      .served r user s.sid passedAt ∈ w'.history → Serves cfg (f (user, seen)) V s w') :
    Serves cfg (currentUser cfg r passedAt >>= f) V s w := by
  have huser : Serves cfg (currentUser cfg r passedAt) (fun u s' w' => s' = s ∧
      s.userId = some u.1 ∧ .served r u.1 s.sid passedAt ∈ w'.history) s w := by
    refine .get_bind ?_
    split
    · exact hs
    · next user hu =>
        refine serves_act hs trivial fun (found : Option Account) w₁ hle₁ hs₁ _ => ?_
        cases found with
        | none => exact hs₁
        | some seen =>
            refine (serves_requireRole hs₁ seen).next fun _ s₂ w₂ _ hs₂ hsame => ?_
            obtain ⟨rfl, rfl⟩ := hsame
            obtain ⟨since, hstands, htime⟩ := hp.signedIn user hu
            have hwarrant : Warranted cfg w₂.history (.served r user s₂.sid passedAt) :=
              ⟨since, hstands.later hle₁.2, htime⟩
            exact serves_act hs₂ ⟨rfl, hwarrant⟩ fun _ w₃ _ hs₃ hserved => ⟨hs₃, rfl, hu, hserved⟩
  refine huser.next fun u s' w' hle hs' hsame => ?_
  obtain ⟨rfl, hu, hserved⟩ := hsame
  exact hf u.1 u.2 w' hle hs' hu hserved

theorem mayLogIn_customer {seen : Account} (hadmin : cfg.admin = false)
    (htype : seen.accountType = .customer) (hfree : customerLoginRefusal seen = none) :
    MayLogIn cfg seen := by
  unfold customerLoginRefusal at hfree
  split at hfree
  · cases hfree
  · split at hfree
    · cases hfree
    · next hfrozen =>
        split at hfree
        · cases hfree
        · next hlocked =>
            refine ⟨Bool.eq_false_iff.mpr hfrozen, Bool.eq_false_iff.mpr hlocked, ?_⟩
            rw [hadmin]
            exact htype

theorem serves_authenticatePrimary (hs : InOrder s w) (hadmin : cfg.admin = false)
    (named : Option ℕ) : Serves cfg (authenticatePrimary r named) Any s w := by
  cases named with
  | none =>
      exact serves_require_next hs fun w₁ _ hs₁ => serves_act hs₁ trivial fun _ _ _ hs₂ _ => hs₂
  | some user =>
      refine serves_act hs trivial fun (found : Option Account) w₁ _ hs₁ _ => ?_
      refine serves_require_next hs₁ fun w₂ _ hs₂ => serves_require_next hs₂ fun w₃ _ hs₃ => ?_
      cases found with
      | none => exact hs₃
      | some seen =>
          refine .unless hs₃ fun htype => ?_
          have htype := of_not_not (of_decide_eq_false htype)
          split
          · exact hs₃
          · next hfree =>
              have hmay := mayLogIn_customer hadmin htype hfree
              refine serves_act hs₃ trivial fun (reloaded : Option Account) w₄ _ hs₄ _ => ?_
              cases reloaded with
              | none => exact hs₄
              | some current =>
                  refine (?_ : Serves cfg (if current.mfaEnabled then _ else _) Any s w₄)
                  split
                  · exact serves_beginPasswordAuthenticatedSession hs₄ hmay
                  · refine serves_act hs₄ trivial fun (at_ : ℕ) w₅ _ hs₅ _ => ?_
                    have hwarrant : Warranted cfg w₅.history
                        (.password r user seen false (seconds at_)) := ⟨hmay, fun _ => hadmin⟩
                    refine serves_act hs₅ ⟨rfl, hwarrant⟩ fun _ w₆ _ hs₆ hpassword => ?_
                    exact serves_establishAuthenticatedSession hs₆ (fun _ => rfl)
                      fun _ => ⟨seen, _, hpassword⟩

/-- The end of a login, once its code is known to be right. -/
theorem serves_finishLogin (hs : InOrder s w) {user sid : ℕ} {seen : Account}
    (hcode : .code r user sid seen .login ∈ w.history) (fresh : Bool) :
    Serves cfg (do
      markFreshMfaIf fresh
      let _ ← ask .booked
      establishAuthenticatedSession r user .factors) Any s w := by
  have hlast : ∀ (s : Items) (w' : World), w ≤ w' → InOrder s w' → Serves cfg (do
      let _ ← ask .booked
      establishAuthenticatedSession r user .factors) Any s w' := by
    intro s w₁ hle₁ hs₁
    refine serves_act hs₁ trivial fun _ w₂ hle₂ hs₂ _ => ?_
    exact serves_establishAuthenticatedSession hs₂ (fun _ => rfl)
      fun _ => ⟨sid, seen, (le_trans hle₁ hle₂).2.mem hcode⟩
  cases fresh with
  | false => exact hlast s w le_rfl hs
  | true => exact serves_markFreshMfa_next hs fun at_ w₁ hle₁ hs₁ => hlast _ w₁ hle₁ hs₁

theorem serves_completePendingMfa (hs : InOrder s w) (hadmin : cfg.admin = false) {passedAt : ℕ}
    (hp : Passed cfg r passedAt s w) (recovery : Bool) :
    Serves cfg (completePendingMfa r recovery) Any s w := by
  refine .get_bind ?_
  split
  · exact hs
  · next user hu =>
      obtain ⟨at_, hresumed⟩ := hp.resumed user hu
      refine serves_act hs trivial fun (found : Option Account) w₁ hle₁ hs₁ _ => ?_
      cases found with
      | none => exact hs₁
      | some seen =>
          refine .unless hs₁ fun hmfa => .unless hs₁ fun hfree => ?_
          refine serves_require_next hs₁ fun w₂ hle₂ hs₂ =>
            serves_require_next hs₂ fun w₃ hle₃ hs₃ => ?_
          have hmay : MayFinish cfg seen := by
            rw [Bool.or_eq_false_iff] at hfree
            rw [MayFinish, hadmin]
            exact ⟨by simpa using hmfa, hfree⟩
          have hresumed₃ := (le_trans hle₁ (le_trans hle₂ hle₃)).2.mem hresumed
          exact serves_act hs₃ ⟨rfl, hmay, at_, hresumed₃⟩ fun _ w₄ _ hs₄ hcode =>
            serves_finishLogin hs₄ hcode (!recovery)

theorem serves_authenticateAdminPrimary (hs : InOrder s w) (hadmin : cfg.admin = true)
    (named : Option ℕ) : Serves cfg (authenticateAdminPrimary r named) Any s w := by
  refine serves_require_next hs fun w₁ _ hs₁ => ?_
  cases named with
  | none => exact serves_act hs₁ trivial fun _ _ _ hs₂ _ => hs₂
  | some user =>
      refine serves_act hs₁ trivial fun (found : Option Account) w₂ _ hs₂ _ => ?_
      refine serves_require_next hs₂ fun w₃ _ hs₃ => ?_
      cases found with
      | none => exact hs₃
      | some seen =>
          refine .unless hs₃ fun hstaff => .unless hs₃ fun hfree => ?_
          have hmay : MayLogIn cfg seen := by
            rw [Bool.or_eq_false_iff] at hfree
            rw [Bool.not_eq_false', Bool.and_eq_true] at hstaff
            refine ⟨hfree.1, hfree.2, ?_⟩
            rw [hadmin]
            exact hstaff
          exact serves_act hs₃ trivial fun _ _ _ hs₄ _ =>
            serves_beginPasswordAuthenticatedSession hs₄ hmay

theorem serves_completeAdminMfaLogin (hs : InOrder s w) (hadmin : cfg.admin = true) {passedAt : ℕ}
    (hp : Passed cfg r passedAt s w) : Serves cfg (completeAdminMfaLogin r) Any s w := by
  refine .get_bind ?_
  split
  · exact hs
  · next user hu =>
      obtain ⟨at_, hresumed⟩ := hp.resumed user hu
      refine serves_act hs trivial fun (found : Option Account) w₁ hle₁ hs₁ _ => ?_
      cases found with
      | none => exact hs₁
      | some seen =>
          refine .unless hs₁ fun hstaff => ?_
          refine serves_require_next hs₁ fun w₂ hle₂ hs₂ =>
            serves_require_next hs₂ fun w₃ hle₃ hs₃ => ?_
          have hmay : MayFinish cfg seen := by
            rw [MayFinish, hadmin]
            simpa using hstaff
          have hresumed₃ := (le_trans hle₁ (le_trans hle₂ hle₃)).2.mem hresumed
          exact serves_act hs₃ ⟨rfl, hmay, at_, hresumed₃⟩ fun _ w₄ _ hs₄ hcode =>
            serves_finishLogin hs₄ hcode true

theorem serves_stepUp (hs : InOrder s w) {user passedAt : ℕ} (hu : s.userId = some user)
    (hserved : .served r user s.sid passedAt ∈ w.history) (seen : Account) :
    Serves cfg (stepUp r user seen) Any s w := by
  refine serves_require_next hs fun w₁ hle₁ hs₁ => serves_require_next hs₁ fun w₂ hle₂ hs₂ => ?_
  have hserved₂ := (le_trans hle₁ hle₂).2.mem hserved
  refine .get_bind (serves_act hs₂ ⟨rfl, passedAt, hserved₂⟩ fun _ w₃ _ hs₃ hcode => ?_)
  exact serves_markFreshMfa_next hs₃ fun at_ w₄ hle₄ hs₄ =>
    serves_rotateAuthenticatedSessionAfterMfa hs₄ hu (hle₄.2.mem hcode)

theorem serves_handler (hs : InOrder s w) (q : Request) :
    Serves cfg (q.handler cfg r) Any s w := by
  refine (serves_enforceSessionActivity hs q.visit).next fun passedAt s₁ w₁ _ hs₁ hp => ?_
  cases q.view with
  | login named =>
      refine (?_ : Serves cfg (if cfg.admin then _ else _) Any s₁ w₁)
      split
      · next hadmin => exact serves_authenticateAdminPrimary hs₁ hadmin named
      · next hadmin => exact serves_authenticatePrimary hs₁ (Bool.eq_false_iff.mpr hadmin) named
  | mfaVerify recovery =>
      refine (?_ : Serves cfg (if cfg.admin then _ else _) Any s₁ w₁)
      split
      · next hadmin => exact serves_completeAdminMfaLogin hs₁ hadmin hp
      · next hadmin =>
          exact serves_completePendingMfa hs₁ (Bool.eq_false_iff.mpr hadmin) hp recovery
  | page onboarding =>
      refine serves_currentUser_next hs₁ hp fun user seen w₂ _ hs₂ _ _ => ?_
      refine (?_ : Serves cfg (if onboarding then _ else _) Any s₁ w₂)
      split
      · unfold enforceMfaOnboarding
        cases seen.mfaEnabled
        · exact hs₂
        · exact ⟨hs₂, trivial⟩
      · exact ⟨hs₂, trivial⟩
  | stepUp =>
      exact serves_currentUser_next hs₁ hp fun user seen w₂ _ hs₂ hu hserved =>
        serves_stepUp hs₂ hu hserved seen
  | logout => exact serves_act hs₁ trivial fun _ w₂ _ _ _ => .modify ⟨inOrder_clear s₁ w₂, trivial⟩
  | resetExchange =>
      refine serves_act hs₁ trivial fun now w₂ _ _ _ => .change ?_
      exact serves_rotateSessionId trivial fun _ _ _ _ => itemsOk_anonymous rfl rfl
  | forEveryone => exact .modify ⟨inOrder_touch hs₁ _ true, trivial⟩

theorem meets_serve (q : Request) (w : World) :
    (contract cfg).Meets (serve cfg r q) (fun _ _ => True) w := by
  refine (Contract.Meets.perform trivial fun result w' _ hafter => ?_).bind
    (M := fun result w' => ∀ s, result = .ok s → InOrder s w') (fun s w₁ _ hs => ?_)
    fun _ _ _ _ => trivial
  · exact fun s hs => hafter s hs
  · refine Contract.Meets.bind (serves_handler (hs s rfl) q) (fun result w₂ _ hend => ?_)
      fun _ _ _ h => absurd h not_false
    refine Contract.Meets.perform ?_ fun _ _ _ _ => trivial
    obtain ⟨result, s'⟩ := result
    cases result with
    | ok a => exact hend.1
    | error e => exact hend

end Handlers

theorem ok_start (clock : ℕ) : Ok cfg ⟨clock, [], 0, []⟩ where
  saved _ hs := absurd hs List.not_mem_nil
  honest := trivial
  sids := numbered_nil _

theorem ok_reached {requests : ℕ → Request} {clock : ℕ} {x : Conf Op Res FlowError Unit World}
    (hx : Reach exec (fun _ _ _ => True) (start cfg requests clock) x) : Ok cfg x.world :=
  Contract.reach_inv (κ := contract cfg) (x := start cfg requests clock) (ok_start clock)
    (fun t => meets_serve (requests t) _) hx

/-! ### Signing in -/

/-- In this history somebody has signed in as the user, at that time, and the session id goes
back to it. Histories have the newest event first. -/
inductive SignedIn (cfg : Config) (user : ℕ) : List Event → ℕ → ℕ → Prop
  /-- With the password alone, for an account without a second factor. -/
  | bootstrap {h : List Event} {r sid since at_ : ℕ} {seen : Account} (customer : cfg.admin = false)
      (may : MayLogIn cfg seen)
      (events : List.Sublist
        [.issued r sid (.bootstrap user since), .password r user seen false at_] h) :
      SignedIn cfg user h sid since
  /-- With a code that was sent with the id which the password was given for. -/
  | factors {h : List Event} {r₁ sid₁ at₁ r₂ sid₂ at₂ since : ℕ} {seen₁ seen₂ : Account}
      (may₁ : MayLogIn cfg seen₁) (may₂ : MayFinish cfg seen₂)
      (time : at₂ ≤ at₁ + cfg.pendingMfaMaxAgeSeconds)
      (events : List.Sublist
        [.issued r₂ sid₂ (.factors user since), .code r₂ user sid₁ seen₂ .login,
          .resumed r₂ user sid₁ at₂, .issued r₁ sid₁ (.password user at₁),
          .password r₁ user seen₁ true at₁] h) : SignedIn cfg user h sid₂ since
  /-- The id was given for another one, with a code. -/
  | stepUp {newer h : List Event} {r sid sid₁ since at_ : ℕ} {seen : Account}
      (before : SignedIn cfg user h sid₁ since)
      (events : List.Sublist
        [.issued r sid (.stepUp user sid₁ since), .code r user sid₁ seen .stepUp,
          .served r user sid₁ at_] newer) : SignedIn cfg user (newer ++ h) sid since

section Provenance

variable {user sid since : ℕ} {h h' : List Event}

theorem sublist_before {e : Event} {n l : List Event} (hs : e :: (n ++ h) <:+ h')
    (hl : List.Sublist l n) : ∃ newer, h' = newer ++ h ∧ List.Sublist (e :: l) newer := by
  obtain ⟨newest, rfl⟩ := hs
  refine ⟨newest ++ e :: n, ?_, (hl.cons_cons e).trans (List.sublist_append_right newest _)⟩
  rw [List.append_assoc, List.cons_append]

/-- A session id is issued once. -/
theorem Ok.issued_unique {w : World} (hw : Ok cfg w) {r r' : ℕ} {why why' : Why}
    (h : .issued r sid why ∈ w.history) (h' : .issued r' sid why' ∈ w.history) :
    r = r' ∧ why = why' := by
  have heq := hw.sids.unique _ h _ h' sid rfl rfl
  cases heq
  exact ⟨rfl, rfl⟩

theorem standsFor_unique {w : World} (hw : Ok cfg w) {since' : ℕ}
    (h : StandsFor w.history user sid since) (h' : StandsFor w.history user sid since') :
    since = since' := by
  obtain ⟨r, why, hissued, hwhy⟩ := h
  obtain ⟨r', why', hissued', hwhy'⟩ := h'
  obtain ⟨-, rfl⟩ := hw.issued_unique hissued hissued'
  cases hwhy.symm.trans hwhy'
  rfl

section Cases

variable {w : World} (hw : Ok cfg w) (hh : h <:+ w.history) {r : ℕ}

include hw hh

theorem signedIn_of_bootstrap (hissued : .issued r sid (.bootstrap user since) ∈ h) :
    SignedIn cfg user h sid since := by
  have honest := hw.honest.older hh
  obtain ⟨h₁, hh₁, seen, at_, hpassword⟩ := honest.of_mem hissued
  obtain ⟨_, _, hmay⟩ := (honest.of_suffix hh₁).of_mem hpassword
  exact .bootstrap (hmay.2 rfl) hmay.1
    (sublist_of_suffix hh₁ (List.singleton_sublist.mpr hpassword))

theorem signedIn_of_factors (hissued : .issued r sid (.factors user since) ∈ h) :
    SignedIn cfg user h sid since := by
  have honest := hw.honest.older hh
  obtain ⟨h₁, hh₁, sid₁, seen₂, hcode⟩ := honest.of_mem hissued
  have honest₁ := honest.of_suffix hh₁
  obtain ⟨h₂, hh₂, hmay₂, at₂, hresumed⟩ := honest₁.of_mem hcode
  have honest₂ := honest₁.of_suffix hh₂
  obtain ⟨h₃, hh₃, r₁, at₁, hissued₁, htime⟩ := honest₂.of_mem hresumed
  have honest₃ := honest₂.of_suffix hh₃
  obtain ⟨h₄, hh₄, seen₁, hpassword⟩ := honest₃.of_mem hissued₁
  obtain ⟨_, _, hmay₁⟩ := (honest₃.of_suffix hh₄).of_mem hpassword
  exact .factors hmay₁.1 hmay₂ htime (sublist_of_suffix hh₁ (sublist_of_suffix hh₂
    (sublist_of_suffix hh₃ (sublist_of_suffix hh₄ (List.singleton_sublist.mpr hpassword)))))

/-- What is older than the step-up says that its first id stands for the same sign-in. -/
theorem stepUp_before {previous : ℕ} (hissued : .issued r sid (.stepUp user previous since) ∈ h) :
    ∃ newer h₁ seen at_, h = newer ++ h₁ ∧ h₁.length < h.length ∧
      StandsFor h₁ user previous since ∧ List.Sublist
        [.issued r sid (.stepUp user previous since), .code r user previous seen .stepUp,
          .served r user previous at_] newer := by
  have honest := hw.honest.older hh
  obtain ⟨h₁, hh₁, ⟨seen, hcode⟩, hstands⟩ := honest.of_mem hissued
  have honest₁ := honest.of_suffix hh₁
  obtain ⟨h₂, hh₂, at_, hserved⟩ := honest₁.of_mem hcode
  obtain ⟨h₃, hh₃, since', hstands', -⟩ := (honest₁.of_suffix hh₂).of_mem hserved
  have hsuffix₁ : h₁ <:+ h := (List.suffix_cons _ _).trans hh₁
  have hsuffix₃ : h₃ <:+ h := ((List.suffix_cons _ _).trans hh₃).trans
    (((List.suffix_cons _ _).trans hh₂).trans hsuffix₁)
  have hsame := standsFor_unique hw (hstands.later (hsuffix₁.trans hh))
    (hstands'.later (hsuffix₃.trans hh))
  rw [← hsame] at hstands'
  obtain ⟨n₁, rfl, hl₁⟩ := sublist_before (n := []) hh₃ (List.nil_sublist _)
  obtain ⟨n₂, rfl, hl₂⟩ := sublist_before hh₂ hl₁
  obtain ⟨n₃, rfl, hl₃⟩ := sublist_before hh₁ hl₂
  refine ⟨n₃, h₃, seen, at_, rfl, ?_, hstands', hl₃⟩
  have hlength : 3 ≤ n₃.length := hl₃.length_le
  rw [List.length_append]
  omega

end Cases

/-- By recursion on the history: an id leads back to older events. -/
theorem signedIn_of_standsFor {w : World} (hw : Ok cfg w) {n : ℕ} (hn : h.length ≤ n)
    (hh : h <:+ w.history) (hs : StandsFor h user sid since) : SignedIn cfg user h sid since := by
  induction n generalizing h sid with
  | zero =>
      obtain ⟨r, why, hissued, -⟩ := hs
      have := List.length_pos_of_mem hissued
      omega
  | succ n ih =>
      obtain ⟨r, why, hissued, hwhy⟩ := hs
      cases why with
      | opened | password | other => cases hwhy
      | bootstrap =>
          cases hwhy
          exact signedIn_of_bootstrap hw hh hissued
      | factors =>
          cases hwhy
          exact signedIn_of_factors hw hh hissued
      | stepUp user' previous since' =>
          cases hwhy
          obtain ⟨newer, h₁, seen, at_, rfl, hlength, hstands, events⟩ :=
            stepUp_before hw hh hissued
          exact .stepUp (ih (by omega) ((List.suffix_append newer h₁).trans hh) hstands) events

end Provenance

/-- In every run of any requests with any cookies, interleaved at every operation and with any
operation failing, a session id is issued once, and whoever is served as a user shows the id of a
session in which that user has signed in, not longer ago than a session may last. -/
theorem served_signed_in {requests : ℕ → Request} {clock : ℕ}
    {x : Conf Op Res FlowError Unit World}
    (hx : Reach exec (fun _ _ _ => True) (start cfg requests clock) x) :
    (∀ r user sid at_, .served r user sid at_ ∈ x.world.history →
      ∃ h since, .served r user sid at_ :: h <:+ x.world.history ∧
        SignedIn cfg user h sid since ∧ at_ ≤ since + cfg.sessionAbsoluteLifetimeSeconds) ∧
    ∀ sid r r' why why', .issued r sid why ∈ x.world.history →
      .issued r' sid why' ∈ x.world.history → r = r' ∧ why = why' := by
  have hok := ok_reached hx
  refine ⟨fun r user sid at_ hserved => ?_, fun sid r r' why why' h h' => hok.issued_unique h h'⟩
  obtain ⟨h, hh, since, hstands, htime⟩ := hok.honest.of_mem hserved
  have hsuffix : h <:+ x.world.history := (List.suffix_cons _ _).trans hh
  have hsigned := signedIn_of_standsFor hok (Nat.le_refl _) hsuffix hstands
  exact ⟨h, since, hh, hsigned, htime⟩

def sampleConfig : Config := ⟨false, 300, 43200, 900⟩

def sampleAccount : Account := ⟨.customer, true, false, false, true, false, false, ""⟩

/-- A login in two steps, a step-up and a page, each with the id that the one before got. -/
def sampleRequests : ℕ → Request
  | 0 => ⟨none, ⟨false, false, true⟩, .login (some 7)⟩
  | 1 => ⟨some 1, ⟨false, false, false⟩, .mfaVerify false⟩
  | 2 => ⟨some 2, ⟨false, false, false⟩, .stepUp⟩
  | _ => ⟨some 3, ⟨false, false, false⟩, .page true⟩

/-- The account is always the same, and nothing fails. -/
def answers (t : ℕ) (replies : List Bool) : List (ℕ × Choice) :=
  replies.map fun yes => (t, ⟨yes, 0, some sampleAccount, false, 0⟩)

def sampleSchedule : List (ℕ × Choice) :=
  answers 0 (List.replicate 10 true) ++ answers 1 (true :: false :: List.replicate 12 true) ++
    answers 2 ([true, false, true, false] ++ List.replicate 10 true) ++
    answers 3 [true, false, true, false, true, true, true]

theorem served_signed_in_sample : ∃ x : Conf Op Res FlowError Unit World,
    Reach exec (fun _ _ _ => True) (start sampleConfig sampleRequests 1000000000) x ∧
      .served 3 7 3 1000 ∈ x.world.history ∧ ∃ h since, SignedIn sampleConfig 7 h 3 since := by
  have hrun : ((run exec (start sampleConfig sampleRequests 1000000000) sampleSchedule).any
      fun x => x.world.history.any fun e => decide (e = .served 3 7 3 1000)) = true := by
    decide +kernel
  obtain ⟨x, hx, hany⟩ := (Option.any_eq_true ..).mp hrun
  obtain ⟨e, he, hserved⟩ := List.any_eq_true.mp hany
  rw [of_decide_eq_true hserved] at he
  have hreach := reach_of_run exec .refl hx
  obtain ⟨h, since, -, hsigned, -⟩ := (served_signed_in hreach).1 3 7 3 1000 he
  exact ⟨x, hreach, he, h, since, hsigned⟩

end SitBank.Auth.SignIn
