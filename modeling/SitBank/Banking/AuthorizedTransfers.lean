import SitBank.Banking.TransferFlow

/-!
Every transfer was authorised in steps.

A local transfer was staged with an authenticator code of the sender for exactly its payee,
amount and reference, and confirmed in the same browser before it had expired. The payee was
requested with a code of its own, confirmed in time in the browser of the request, and old
enough. For PayUp, the recipient was looked up and the transfer staged in the browser that
confirmed it, and without a code only what the risk policy allows is sent. No order of the
statements of any requests leads to another transfer.

What a row or a session says is warranted by the history (`Warranted`, `ItemsOk`), and numbers
that are drawn once tie the row that is confirmed to the event of its staging.
-/

namespace SitBank.Banking.Staged

open SitBank.Interaction SitBank.Python

/-! ### What the history warrants -/

/-- The three kinds of numbers. -/
def Event.user : Event → Option ℕ
  | .registered user _ => some user
  | _ => none

def Event.payee : Event → Option ℕ
  | .added _ p _ => some p.id
  | _ => none

def Event.token : Event → Option ℕ
  | .staged _ n _ _ _ => some n
  | _ => none

/-- Events that handlers note. -/
def Event.noted : Event → Bool
  | .authorized _ _ _ => true
  | .requested _ _ _ _ => true
  | .lookedUp _ _ _ _ _ => true
  | .allowed _ => true
  | _ => false

section Warrants

variable (cfg : Config) (browser : ℕ → ℕ)

/-- The payee was requested, in the browser of request `t`, for its owner. -/
def AddOk (h : List Event) (t : ℕ) (p : Payee) (confirmedAt : ℕ) : Prop :=
  ∃ t₀ at_, browser t₀ = browser t ∧ .requested t₀ p.userId p.accountNumber at_ ∈ h ∧
    confirmedAt ≤ at_ + ttl

/-- The transfer may be staged in request `t`. -/
def StageOk (h : List Event) (t : ℕ) (terms : Terms) (checkedAt : ℕ) : Prop :=
  match terms.target with
  | .payee id => .authorized t terms.userId (.send terms) ∈ h ∧ ∃ t₁ p confirmedAt,
      .added t₁ p confirmedAt ∈ h ∧ p.id = id ∧ p.userId = terms.userId ∧
        p.createdAt + cfg.cooldown ≤ checkedAt
  | .recipient id => ∃ t₁ phone at_, browser t₁ = browser t ∧
      .lookedUp t₁ terms.userId id phone at_ ∈ h ∧ checkedAt ≤ at_ + ttl

/-- The transaction goes where the confirmed transfer goes. -/
def Settles (h : List Event) (t : ℕ) (terms : Terms) (txn : Transaction) : Prop :=
  match terms.target with
  | .payee id => txn.payeeId = some id ∧ ∃ t₁ p confirmedAt, .added t₁ p confirmedAt ∈ h ∧
      p.id = id ∧ .registered txn.recipientId (some p.accountNumber) ∈ h
  | .recipient id => txn.payeeId = none ∧ txn.recipientId = id ∧
      (.allowed t ∈ h ∨ .authorized t terms.userId (.send terms) ∈ h)

/-- The transfer may be sent in request `t`. -/
def SendOk (h : List Event) (t : ℕ) (terms : Terms) (txn : Transaction) (startedAt : ℕ) :
    Prop :=
  (∃ t₂ n checkedAt at_, browser t₂ = browser t ∧ .staged t₂ n terms checkedAt at_ ∈ h ∧
    startedAt ≤ at_ + ttl) ∧
  (txn.senderId = terms.userId ∧ txn.recipientId ≠ terms.userId ∧ txn.amount = terms.amount ∧
    txn.reference = terms.reference.take 128) ∧
  Settles h t terms txn

def Warranted (h : List Event) : Event → Prop
  | .requested t user account _ => .authorized t user (.payeeAdd account) ∈ h
  | .added t p confirmedAt => AddOk browser h t p confirmedAt
  | .staged t _ terms checkedAt _ => StageOk cfg browser h t terms checkedAt
  | .sent t terms txn startedAt => SendOk browser h t terms txn startedAt
  | _ => True

/-- The row was staged, and can be confirmed with the token of that. -/
def PendingOk (h : List Event) (r : PendingTransfer) : Prop :=
  ∃ t n checkedAt at_, .staged t n r.terms checkedAt at_ ∈ h ∧
    r.token = r.terms.target.channel.tokenVerifier cfg (cfg.secrets.token n) ∧
    r.expiresAt = at_ + ttl

/-- The text is the token of a transfer that was staged in browser `b`. -/
def TokenOk (h : List Event) (b : ℕ) (token : PyStr) : Prop :=
  ∃ t n terms checkedAt at_, browser t = b ∧ .staged t n terms checkedAt at_ ∈ h ∧
    token = cfg.secrets.token n

/-- What the session of a browser says. -/
structure ItemsOk (b : ℕ) (s : Items) (h : List Event) : Prop where
  payee : ∀ p, s.pendingPayee = some p → ∃ user t at_, s.userId = some user ∧ browser t = b ∧
    .requested t user p.accountNumber at_ ∈ h ∧ p.expiresAt = at_ + ttl
  transfer : ∀ x, s.pendingTransferToken = some x → TokenOk cfg browser h b x
  recipient : ∀ r, s.pendingPayupRecipient = some r → ∃ user t phone at_,
    s.userId = some user ∧ browser t = b ∧
      .lookedUp t user r.recipientUserId phone at_ ∈ h ∧ r.expiresAt = at_ + ttl
  payup : ∀ x, s.pendingPayupToken = some x → TokenOk cfg browser h b x

end Warrants

variable {cfg : Config} {browser : ℕ → ℕ}

section Lasting

variable {h h' : List Event} (hh : h <:+ h')

include hh

theorem AddOk.later {t : ℕ} {p : Payee} {confirmedAt : ℕ} (hp : AddOk browser h t p confirmedAt) :
    AddOk browser h' t p confirmedAt := by
  obtain ⟨t₀, at_, hb, hrequested, htime⟩ := hp
  exact ⟨t₀, at_, hb, hh.mem hrequested, htime⟩

theorem StageOk.later {t : ℕ} {terms : Terms} {checkedAt : ℕ}
    (hs : StageOk cfg browser h t terms checkedAt) :
    StageOk cfg browser h' t terms checkedAt := by
  unfold StageOk at hs ⊢
  split at hs
  · obtain ⟨hauthorized, t₁, p, c, hadded, hrest⟩ := hs
    exact ⟨hh.mem hauthorized, t₁, p, c, hh.mem hadded, hrest⟩
  · obtain ⟨t₁, phone, at_, hb, hlooked, htime⟩ := hs
    exact ⟨t₁, phone, at_, hb, hh.mem hlooked, htime⟩

theorem Settles.later {t : ℕ} {terms : Terms} {txn : Transaction}
    (hs : Settles h t terms txn) : Settles h' t terms txn := by
  unfold Settles at hs ⊢
  split at hs
  · obtain ⟨hpayee, t₁, p, c, hadded, hid, hregistered⟩ := hs
    exact ⟨hpayee, t₁, p, c, hh.mem hadded, hid, hh.mem hregistered⟩
  · exact ⟨hs.1, hs.2.1, hs.2.2.imp (fun hmem => hh.mem hmem) fun hmem => hh.mem hmem⟩

theorem SendOk.later {t : ℕ} {terms : Terms} {txn : Transaction} {startedAt : ℕ}
    (hs : SendOk browser h t terms txn startedAt) : SendOk browser h' t terms txn startedAt := by
  obtain ⟨⟨t₂, n, c, at_, hb, hstaged, htime⟩, hsame, hsettles⟩ := hs
  exact ⟨⟨t₂, n, c, at_, hb, hh.mem hstaged, htime⟩, hsame, hsettles.later hh⟩

theorem Warranted.later {e : Event} (he : Warranted cfg browser h e) :
    Warranted cfg browser h' e := by
  cases e with
  | requested => exact hh.mem he
  | added => exact AddOk.later hh he
  | staged => exact StageOk.later hh he
  | sent => exact SendOk.later hh he
  | registered | authorized | lookedUp | allowed => trivial

theorem PendingOk.later {r : PendingTransfer} (hr : PendingOk cfg h r) : PendingOk cfg h' r := by
  obtain ⟨t, n, c, at_, hstaged, hrest⟩ := hr
  exact ⟨t, n, c, at_, hh.mem hstaged, hrest⟩

theorem TokenOk.later {b : ℕ} {x : PyStr} (hx : TokenOk cfg browser h b x) :
    TokenOk cfg browser h' b x := by
  obtain ⟨t, n, terms, c, at_, hb, hstaged, htoken⟩ := hx
  exact ⟨t, n, terms, c, at_, hb, hh.mem hstaged, htoken⟩

theorem ItemsOk.later {b : ℕ} {s : Items} (hs : ItemsOk cfg browser b s h) :
    ItemsOk cfg browser b s h' where
  payee p hp := by
    obtain ⟨user, t, at_, huser, hb, hrequested, hexpires⟩ := hs.payee p hp
    exact ⟨user, t, at_, huser, hb, hh.mem hrequested, hexpires⟩
  transfer x hx := (hs.transfer x hx).later hh
  recipient r hr := by
    obtain ⟨user, t, phone, at_, huser, hb, hlooked, hexpires⟩ := hs.recipient r hr
    exact ⟨user, t, phone, at_, huser, hb, hh.mem hlooked, hexpires⟩
  payup x hx := (hs.payup x hx).later hh

end Lasting

/-! ### The invariant -/

structure Ok (cfg : Config) (browser : ℕ → ℕ) (w : Desk) : Prop where
  honest : Honest (Warranted cfg browser) w.history
  userNumbers : Numbered Event.user w.nextUser w.history
  payeeNumbers : Numbered Event.payee w.nextPayee w.history
  tokenNumbers : Numbered Event.token w.nextToken w.history
  users : ∀ u ∈ w.users, .registered u.id u.accountNumber ∈ w.history
  payees : ∀ p ∈ w.payees, ∃ t c, .added t p c ∈ w.history
  pending : ∀ r ∈ w.pendingTransfers, PendingOk cfg w.history r
  transactions : ∀ txn ∈ w.transactions, ∃ t terms s, .sent t terms txn s ∈ w.history

section Steps

variable {w : Desk}

theorem Ok.tick (hw : Ok cfg browser w) (n : ℕ) :
    Ok cfg browser { w with clock := w.clock + n } :=
  ⟨hw.honest, hw.userNumbers, hw.payeeNumbers, hw.tokenNumbers, hw.users, hw.payees, hw.pending,
    hw.transactions⟩

/-- What the rows say is not affected by another event. -/
structure RowsOk (cfg : Config) (w : Desk) (h : List Event) : Prop where
  users : ∀ u ∈ w.users, .registered u.id u.accountNumber ∈ h
  payees : ∀ p ∈ w.payees, ∃ t c, .added t p c ∈ h
  pending : ∀ r ∈ w.pendingTransfers, PendingOk cfg h r
  transactions : ∀ txn ∈ w.transactions, ∃ t terms s, .sent t terms txn s ∈ h

theorem Ok.rows (hw : Ok cfg browser w) (e : Event) : RowsOk cfg w (e :: w.history) where
  users u hu := .tail _ (hw.users u hu)
  payees p hp := by
    obtain ⟨t, c, hadded⟩ := hw.payees p hp
    exact ⟨t, c, .tail _ hadded⟩
  pending r hr := (hw.pending r hr).later (List.suffix_cons ..)
  transactions txn htxn := by
    obtain ⟨t, terms, s, hsent⟩ := hw.transactions txn htxn
    exact ⟨t, terms, s, .tail _ hsent⟩

theorem Ok.note (hw : Ok cfg browser w) {e : Event} (hnoted : e.noted = true)
    (he : Warranted cfg browser w.history e) :
    Ok cfg browser { w with history := e :: w.history } := by
  have hrows := hw.rows e
  have hnumbers : e.user = none ∧ e.payee = none ∧ e.token = none := by
    cases e with
    | authorized | requested | lookedUp | allowed => exact ⟨rfl, rfl, rfl⟩
    | registered | added | staged | sent => cases hnoted
  exact ⟨⟨he, hw.honest⟩, hw.userNumbers.skip hnumbers.1, hw.payeeNumbers.skip hnumbers.2.1,
    hw.tokenNumbers.skip hnumbers.2.2, hrows.users, hrows.payees, hrows.pending,
    hrows.transactions⟩

theorem Ok.insertUser (hw : Ok cfg browser w) (u : User) :
    w ≤ (w.insertUser u).2 ∧ Ok cfg browser (w.insertUser u).2 := by
  unfold Desk.insertUser
  split
  · exact ⟨le_rfl, hw⟩
  have hrows := hw.rows (.registered w.nextUser u.accountNumber)
  refine ⟨⟨le_rfl, List.suffix_cons ..⟩, ⟨trivial, hw.honest⟩, hw.userNumbers.draw rfl,
    hw.payeeNumbers.skip rfl, hw.tokenNumbers.skip rfl, fun v hv => ?_, hrows.payees,
    hrows.pending, hrows.transactions⟩
  rcases List.mem_cons.mp hv with rfl | hv
  · exact .head _
  · exact hrows.users v hv

theorem Ok.insertPayee (hw : Ok cfg browser w) {t : ℕ} {p : Payee} {confirmedAt : ℕ}
    (hp : AddOk browser w.history t p confirmedAt) :
    w ≤ (w.insertPayee t p confirmedAt).2 ∧ Ok cfg browser (w.insertPayee t p confirmedAt).2 := by
  unfold Desk.insertPayee
  split
  · exact ⟨le_rfl, hw⟩
  have hrows := hw.rows (.added t { p with id := w.nextPayee } confirmedAt)
  refine ⟨⟨le_rfl, List.suffix_cons ..⟩, ⟨hp, hw.honest⟩, hw.userNumbers.skip rfl,
    hw.payeeNumbers.draw rfl, hw.tokenNumbers.skip rfl, hrows.users, fun q hq => ?_,
    hrows.pending, hrows.transactions⟩
  rcases List.mem_cons.mp hq with rfl | hq
  · exact ⟨t, confirmedAt, .head _⟩
  · exact hrows.payees q hq

theorem Ok.insertPendingTransfer (hw : Ok cfg browser w) {t : ℕ} {terms : Terms}
    {checkedAt : ℕ} (at_ : ℕ) (hstage : StageOk cfg browser w.history t terms checkedAt) :
    w ≤ (w.insertPendingTransfer cfg t terms checkedAt at_).2 ∧
      Ok cfg browser (w.insertPendingTransfer cfg t terms checkedAt at_).2 := by
  have hrows := hw.rows (.staged t w.nextToken terms checkedAt at_)
  refine ⟨⟨le_refl w.clock, List.suffix_cons ..⟩, ⟨hstage, hw.honest⟩, hw.userNumbers.skip rfl,
    hw.payeeNumbers.skip rfl, hw.tokenNumbers.draw rfl, hrows.users, hrows.payees,
    fun r hr => ?_, hrows.transactions⟩
  rcases List.mem_cons.mp hr with rfl | hr
  · exact ⟨t, w.nextToken, checkedAt, at_, .head _, rfl, rfl⟩
  · exact hrows.pending r hr

theorem Ok.consume (hw : Ok cfg browser w) (seen : PendingTransfer) (at_ : ℕ) :
    Ok cfg browser (w.consume seen at_) := by
  refine ⟨hw.honest, hw.userNumbers, hw.payeeNumbers, hw.tokenNumbers, hw.users, hw.payees,
    fun r hr => ?_, hw.transactions⟩
  obtain ⟨r₀, hr₀, rfl⟩ := List.mem_map.mp hr
  split
  · exact hw.pending r₀ hr₀
  · exact hw.pending r₀ hr₀

theorem Ok.settle (hw : Ok cfg browser w) {t : ℕ} {seen : PendingTransfer} {txn : Transaction}
    {startedAt : ℕ} (hsend : SendOk browser w.history t seen.terms txn startedAt) :
    Ok cfg browser (w.settle t seen txn startedAt) := by
  have hrows := (hw.consume seen startedAt).rows (.sent t seen.terms txn startedAt)
  refine ⟨⟨hsend, hw.honest⟩, hw.userNumbers.skip rfl, hw.payeeNumbers.skip rfl,
    hw.tokenNumbers.skip rfl, hrows.users, hrows.payees, hrows.pending, fun txn' htxn => ?_⟩
  rcases List.mem_cons.mp htxn with rfl | htxn
  · exact ⟨t, seen.terms, startedAt, .head _⟩
  · exact hrows.transactions txn' htxn

/-- A telephone number says nothing about an account. -/
theorem Ok.updatePhone (hw : Ok cfg browser w) (user : ℕ) (phone : Option PyStr) :
    Ok cfg browser { w with users := w.users.map fun u =>
      if u.id = user then { u with phoneNumber := phone } else u } := by
  refine ⟨hw.honest, hw.userNumbers, hw.payeeNumbers, hw.tokenNumbers, fun u hu => ?_, hw.payees,
    hw.pending, hw.transactions⟩
  obtain ⟨u₀, hu₀, rfl⟩ := List.mem_map.mp hu
  split
  · exact hw.users u₀ hu₀
  · exact hw.users u₀ hu₀

theorem Ok.deletePayee (hw : Ok cfg browser w) (payee : ℕ) :
    Ok cfg browser { w with payees := w.payees.filter fun p => p.id ≠ payee } :=
  ⟨hw.honest, hw.userNumbers, hw.payeeNumbers, hw.tokenNumbers, hw.users,
    fun p hp => hw.payees p (List.mem_of_mem_filter hp), hw.pending, hw.transactions⟩

end Steps

/-! ### The contract of the operations -/

section Contracts

variable (cfg : Config) (browser : ℕ → ℕ)

/-- What has to be known before an operation. -/
def Before (h : List Event) : Op → Prop
  | .note e => e.noted = true ∧ Warranted cfg browser h e
  | .insertPayee t p confirmedAt => AddOk browser h t p confirmedAt
  | .insertPendingTransfer t terms checkedAt _ => StageOk cfg browser h t terms checkedAt
  | .settle t seen txn startedAt => SendOk browser h t seen.terms txn startedAt
  | _ => True

/-- The row comes from the only staging with its token. -/
def Found (h : List Event) (r : PendingTransfer) : Prop :=
  ∃ t n checkedAt at_, .staged t n r.terms checkedAt at_ ∈ h ∧
    r.token = r.terms.target.channel.tokenVerifier cfg (cfg.secrets.token n) ∧
    r.expiresAt = at_ + ttl ∧ ∀ t' terms checkedAt' at_', .staged t' n terms checkedAt' at_' ∈ h →
      t' = t ∧ terms = r.terms

/-- What is known after it. -/
def After (h : List Event) : (o : Op) → Res o → Prop
  | .note e, _ => e ∈ h
  | .selectUsers p, us =>
      let users : List User := us
      ∀ u ∈ users, p u = true ∧ .registered u.id u.accountNumber ∈ h
  | .selectPayees p, ps =>
      let payees : List Payee := ps
      ∀ q ∈ payees, p q = true ∧ ∃ t c, .added t q c ∈ h
  | .insertPendingTransfer t terms checkedAt at_, x =>
      ∃ n, x = cfg.secrets.token n ∧ .staged t n terms checkedAt at_ ∈ h
  | .selectPendingTransfers p, rs =>
      let rows : List PendingTransfer := rs
      ∀ r ∈ rows, p r = true ∧ Found cfg h r
  | _, _ => True

end Contracts

theorem Before.later {h h' : List Event} (hh : h <:+ h') {o : Op} (ho : Before cfg browser h o) :
    Before cfg browser h' o := by
  cases o with
  | note e => exact ⟨ho.1, ho.2.later hh⟩
  | insertPayee => exact AddOk.later hh ho
  | insertPendingTransfer => exact StageOk.later hh ho
  | settle => exact SendOk.later hh ho
  | ask | assess | time | selectUsers | insertUser | updatePhone | selectPayees | deletePayee
  | selectPendingTransfers | consume => trivial

theorem found_of_ok {w : Desk} (hw : Ok cfg browser w) {r : PendingTransfer}
    (hr : r ∈ w.pendingTransfers) : Found cfg w.history r := by
  obtain ⟨t, n, c, at_, hstaged, htoken, hexpires⟩ := hw.pending r hr
  refine ⟨t, n, c, at_, hstaged, htoken, hexpires, fun t' terms c' at_' hstaged' => ?_⟩
  have heq := hw.tokenNumbers.unique _ hstaged' _ hstaged n rfl rfl
  cases heq
  exact ⟨rfl, rfl⟩

theorem act_sound {w : Desk} (hw : Ok cfg browser w) {o : Op}
    (ho : Before cfg browser w.history o) (c : Choice) :
    w ≤ (act cfg o c w).2 ∧ Ok cfg browser (act cfg o c w).2 ∧
      ∀ a, (act cfg o c w).1 = .ok a → After cfg (act cfg o c w).2.history o a := by
  cases o with
  | ask | assess | time => exact ⟨le_refl w, hw, fun _ _ => trivial⟩
  | note e => exact ⟨⟨le_rfl, List.suffix_cons ..⟩, hw.note ho.1 ho.2, fun _ _ => .head _⟩
  | selectUsers p =>
      refine ⟨le_refl w, hw, fun us hus u hu => ?_⟩
      rw [← Except.ok.inj hus] at hu
      exact ⟨List.of_mem_filter hu, hw.users u (List.mem_of_mem_filter hu)⟩
  | insertUser u =>
      obtain ⟨hle, hok⟩ := hw.insertUser u
      exact ⟨hle, hok, fun _ _ => trivial⟩
  | updatePhone user phone => exact ⟨le_refl w, hw.updatePhone user phone, fun _ _ => trivial⟩
  | selectPayees p =>
      refine ⟨le_refl w, hw, fun ps hps q hq => ?_⟩
      rw [← Except.ok.inj hps] at hq
      exact ⟨List.of_mem_filter hq, hw.payees q (List.mem_of_mem_filter hq)⟩
  | insertPayee t p confirmedAt =>
      obtain ⟨hle, hok⟩ := hw.insertPayee ho
      exact ⟨hle, hok, fun _ _ => trivial⟩
  | deletePayee payee => exact ⟨le_refl w, hw.deletePayee payee, fun _ _ => trivial⟩
  | insertPendingTransfer t terms checkedAt at_ =>
      obtain ⟨hle, hok⟩ := hw.insertPendingTransfer at_ ho
      refine ⟨hle, hok, fun x hx => ⟨w.nextToken, (Except.ok.inj hx).symm, .head _⟩⟩
  | selectPendingTransfers p =>
      refine ⟨le_refl w, hw, fun rs hrs r hr => ?_⟩
      rw [← Except.ok.inj hrs] at hr
      exact ⟨List.of_mem_filter hr, found_of_ok hw (List.mem_of_mem_filter hr)⟩
  | consume seen at_ => exact ⟨le_refl w, hw.consume seen at_, fun _ _ => trivial⟩
  | settle t seen txn startedAt =>
      exact ⟨⟨le_refl w.clock, List.suffix_cons ..⟩, hw.settle ho, fun _ _ => trivial⟩

def contract (cfg : Config) (browser : ℕ → ℕ) : Contract (exec cfg) (Ok cfg browser) where
  pre o w := Before cfg browser w.history o
  post o r w := ∀ a, r = .ok a → After cfg w.history o a
  lasts _ _ _ hle ho := ho.later hle.2
  sound _ o c r w w' ho hw he := by
    cases he
    dsimp only
    split
    · exact ⟨⟨Nat.le_add_right .., List.suffix_refl _⟩, hw.tick _, fun a ha => by cases ha⟩
    · obtain ⟨hle, hok, hafter⟩ := act_sound hw ho c
      exact ⟨le_trans hle ⟨Nat.le_add_right .., List.suffix_refl _⟩, hok.tick _, hafter⟩

/-! ### Handlers -/

/-- The session of a handler is in order. -/
def InOrder (cfg : Config) (browser : ℕ → ℕ) (b : ℕ) (s : Items) (w : Desk) : Prop :=
  ItemsOk cfg browser b s w.history

theorem inOrder_monotone (b : ℕ) (s : Items) : Monotone (InOrder cfg browser b s) :=
  fun _ _ hle hs => ItemsOk.later hle.2 hs

section Handlers

variable {b : ℕ} {s : Items} {w : Desk} {α : Type} {V : α → Items → Desk → Prop}

/-- A handler that hands back a session in order, and results that satisfy `V`. -/
abbrev Serves (cfg : Config) (browser : ℕ → ℕ) (b : ℕ) (m : Req α)
    (V : α → Items → Desk → Prop) (s : Items) (w : Desk) : Prop :=
  (contract cfg browser).Serves m (Contract.keeping (InOrder cfg browser b) V) s w

/-- What follows an operation that needs no warrant. -/
theorem serves_act {o : Op} {f : Res o → Req α} (hs : InOrder cfg browser b s w)
    (hpre : Before cfg browser w.history o)
    (hf : ∀ a w', w ≤ w' → InOrder cfg browser b s w' → After cfg w'.history o a →
      Serves cfg browser b (f a) V s w') :
    Serves cfg browser b (Handler.perform o >>= f) V s w :=
  .act (inOrder_monotone b s) hs hpre fun a w' hle hs' hafter => hf a w' hle hs' (hafter a rfl)

theorem serves_require_next (hs : InOrder cfg browser b s w) {q : Question} {status : ℕ}
    {f : Unit → Req α}
    (hf : ∀ w', w ≤ w' → InOrder cfg browser b s w' → Serves cfg browser b (f ()) V s w') :
    Serves cfg browser b (require q status >>= f) V s w := by
  have hrequire : Serves cfg browser b (require q status) (fun _ s' _ => s' = s) s w := by
    refine serves_act hs trivial fun yes w' _ hs' _ => ?_
    cases yes
    · exact hs'
    · exact ⟨hs', rfl⟩
  refine hrequire.next fun _ s' w' hle hs' hsame => ?_
  cases hsame
  exact hf w' hle hs'

/-- The session belongs to the user of the page. -/
theorem serves_currentUser_next (hs : InOrder cfg browser b s w) {f : User → Req α}
    (hf : ∀ u w', w ≤ w' → InOrder cfg browser b s w' → s.userId = some u.id →
      Serves cfg browser b (f u) V s w') :
    Serves cfg browser b (currentUser >>= f) V s w := by
  have huser : Serves cfg browser b currentUser
      (fun u s' _ => s' = s ∧ s.userId = some u.id) s w := by
    refine .get_bind (serves_require_next hs fun w₁ _ hs₁ => ?_)
    split
    · exact hs₁
    · next id hid =>
        refine serves_act hs₁ trivial fun found w₂ _ hs₂ hfound => ?_
        cases found with
        | nil => exact hs₂
        | cons u us =>
            have huid := of_decide_eq_true (hfound u (.head _)).1
            exact ⟨hs₂, rfl, by rw [hid, huid]⟩
  refine huser.next fun u s' w' hle hs' hsame => ?_
  obtain ⟨rfl, hid⟩ := hsame
  exact hf u w' hle hs' hid

theorem serves_ownPayee_next (hs : InOrder cfg browser b s w) {user : User} {payee : ℕ}
    {f : Payee → Req α}
    (hf : ∀ p w', w ≤ w' → InOrder cfg browser b s w' → p.id = payee → p.userId = user.id →
      (∃ t c, .added t p c ∈ w'.history) → Serves cfg browser b (f p) V s w') :
    Serves cfg browser b (ownPayee user payee >>= f) V s w := by
  have hown : Serves cfg browser b (ownPayee user payee)
      (fun p s' w' => s' = s ∧ p.id = payee ∧ p.userId = user.id ∧
        ∃ t c, .added t p c ∈ w'.history) s w := by
    refine serves_act hs trivial fun found w₁ _ hs₁ hfound => ?_
    cases found with
    | nil => exact hs₁
    | cons p ps =>
        obtain ⟨hp, hadded⟩ := hfound p (.head _)
        rw [Bool.and_eq_true, decide_eq_true_eq, decide_eq_true_eq] at hp
        exact ⟨hs₁, rfl, hp.1, hp.2, hadded⟩
  refine hown.next fun p s' w' hle hs' hsame => ?_
  obtain ⟨rfl, hid, howner, hadded⟩ := hsame
  exact hf p w' hle hs' hid howner hadded

theorem serves_authorize_next (hs : InOrder cfg browser b s w) {t : ℕ} {user : User}
    {what : Authorization} {f : Unit → Req α}
    (hf : ∀ w', w ≤ w' → InOrder cfg browser b s w' → .authorized t user.id what ∈ w'.history →
      Serves cfg browser b (f ()) V s w') :
    Serves cfg browser b (verifyHighRiskAuthorization t user what >>= f) V s w := by
  have hauthorize : Serves cfg browser b (verifyHighRiskAuthorization t user what)
      (fun _ s' w' => s' = s ∧ .authorized t user.id what ∈ w'.history) s w := by
    refine serves_require_next hs fun w₁ _ hs₁ => ?_
    exact .last (inOrder_monotone b s) hs₁ ⟨rfl, trivial⟩ fun _ w₂ _ _ hmem => ⟨rfl, hmem _ rfl⟩
  refine hauthorize.next fun _ s' w' hle hs' hsame => ?_
  obtain ⟨rfl, hmem⟩ := hsame
  exact hf w' hle hs' hmem

/-! ### Payees -/

/-- Nothing is said about the result. -/
def Any (_ : α) (_ : Items) (_ : Desk) : Prop := True

theorem dropPayee_ok (hs : InOrder cfg browser b s w) :
    InOrder cfg browser b { s with pendingPayee := none } w :=
  ⟨fun _ hp => (by cases hp), hs.transfer, hs.recipient, hs.payup⟩

theorem dropToken_ok (hs : InOrder cfg browser b s w) :
    InOrder cfg browser b { s with pendingTransferToken := none } w :=
  ⟨hs.payee, fun _ hx => (by cases hx), hs.recipient, hs.payup⟩

theorem dropRecipient_ok (hs : InOrder cfg browser b s w) :
    InOrder cfg browser b { s with pendingPayupRecipient := none } w :=
  ⟨hs.payee, hs.transfer, fun _ hr => (by cases hr), hs.payup⟩

theorem dropPayup_ok (hs : InOrder cfg browser b s w) :
    InOrder cfg browser b { s with pendingPayupToken := none } w :=
  ⟨hs.payee, hs.transfer, hs.recipient, fun _ hx => (by cases hx)⟩

theorem serves_payeesAddSubmit (hs : InOrder cfg browser b s w) {t : ℕ} (ht : browser t = b)
    (nickname accountNumber : PyStr) :
    Serves cfg browser b (payeesAddSubmit t nickname accountNumber) Any s w := by
  refine serves_require_next hs fun w₁ _ hs₁ => serves_currentUser_next hs₁
    fun user w₂ _ hs₂ huser => serves_require_next hs₂ fun w₃ _ hs₃ => ?_
  refine .unless hs₃ fun _ => .unless hs₃ fun _ => ?_
  refine serves_authorize_next hs₃ fun w₄ _ hs₄ hauthorized => ?_
  refine serves_act hs₄ trivial fun recipients w₅ hle₅ hs₅ _ => ?_
  cases recipients with
  | nil => exact serves_require_next hs₅ fun w₆ _ hs₆ => hs₆
  | cons recipient _ =>
      refine serves_act hs₅ trivial fun existing w₆ hle₆ hs₆ _ => .unless hs₆ fun _ => ?_
      refine serves_act hs₆ trivial fun now w₇ hle₇ hs₇ _ => ?_
      have hwarrant : .authorized t user.id (.payeeAdd (PyStr.strip accountNumber)) ∈ w₇.history :=
        (le_trans hle₅ (le_trans hle₆ hle₇)).2.mem hauthorized
      refine serves_act hs₇ ⟨rfl, hwarrant⟩ fun _ w₈ _ hs₈ hrequested => ?_
      refine .modify ⟨⟨fun p hp => ?_, hs₈.transfer, hs₈.recipient, hs₈.payup⟩, trivial⟩
      cases hp
      exact ⟨user.id, t, now, huser, ht, hrequested, rfl⟩

theorem serves_payeesConfirm (hs : InOrder cfg browser b s w) :
    Serves cfg browser b payeesConfirm Any s w := by
  refine serves_currentUser_next hs fun user w₁ _ hs₁ _ => .get_bind ?_
  split
  · exact hs₁
  · refine serves_act hs₁ trivial fun now w₂ _ hs₂ _ => ?_
    split
    · exact .change (dropPayee_ok hs₂)
    · exact ⟨hs₂, trivial⟩

/-- Only what was requested in this browser is added. -/
theorem serves_confirmPayee (hs : InOrder cfg browser b s w) {t : ℕ} (ht : browser t = b)
    {user : User} {pending : PendingPayee} (huser : s.userId = some user.id)
    (hpending : ∃ t₀ at_, browser t₀ = b ∧
      .requested t₀ user.id pending.accountNumber at_ ∈ w.history ∧
      pending.expiresAt = at_ + ttl) :
    Serves cfg browser b (confirmPayee t user pending) Any s w := by
  obtain ⟨t₀, at_, hb, hrequested, hexpires⟩ := hpending
  refine serves_act hs trivial fun (now : ℕ) w₁ hle₁ hs₁ _ => .unless hs₁ fun hnow => ?_
  refine .unless hs₁ fun _ => serves_act hs₁ trivial fun formValid w₂ hle₂ hs₂ _ => ?_
  have hmem₂ := (le_trans hle₁ hle₂).2.mem hrequested
  cases formValid with
  | false =>
      refine .change (⟨fun p hp => ?_, hs₂.transfer, hs₂.recipient, hs₂.payup⟩ :
        ItemsOk cfg browser b { s with pendingPayee := some pending } w₂.history)
      cases hp
      exact ⟨user.id, t₀, at_, huser, hb, hmem₂, hexpires⟩
  | true =>
      refine .unless hs₂ fun _ => serves_act hs₂ trivial fun recipients w₃ hle₃ hs₃ _ => ?_
      cases recipients with
      | nil => exact hs₃
      | cons recipient _ =>
          refine serves_act hs₃ trivial fun existing w₄ hle₄ hs₄ _ => .unless hs₄ fun _ => ?_
          refine serves_require_next hs₄ fun w₅ hle₅ hs₅ => ?_
          refine serves_act hs₅ trivial fun createdAt w₆ hle₆ hs₆ _ => ?_
          have hle : w₂ ≤ w₆ := hle₃.trans <| hle₄.trans <| hle₅.trans hle₆
          have htime : now ≤ at_ + ttl := by
            rw [← hexpires]
            exact Nat.le_of_not_lt (of_decide_eq_false hnow)
          refine .last (inOrder_monotone b s) hs₆ ?_ fun _ _ _ _ _ => trivial
          exact ⟨t₀, at_, hb.trans ht.symm, hle.2.mem hmem₂, htime⟩

theorem serves_payeesConfirmSubmit (hs : InOrder cfg browser b s w) {t : ℕ}
    (ht : browser t = b) : Serves cfg browser b (payeesConfirmSubmit t) Any s w := by
  refine serves_require_next hs fun w₁ _ hs₁ => serves_currentUser_next hs₁
    fun user w₂ _ hs₂ huser => .get_bind (.change ?_)
  split
  · exact dropPayee_ok hs₂
  · next pending hp =>
      obtain ⟨user', t₀, at_, huser', hb, hrequested, hexpires⟩ := hs₂.payee pending hp
      cases huser.symm.trans huser'
      exact serves_confirmPayee (dropPayee_ok hs₂) ht huser ⟨t₀, at_, hb, hrequested, hexpires⟩

theorem serves_payeesCancel (hs : InOrder cfg browser b s w) :
    Serves cfg browser b payeesCancel Any s w := by
  refine serves_require_next hs fun w₁ _ hs₁ => serves_currentUser_next hs₁
    fun user w₂ _ hs₂ _ => .get_bind (.unless hs₂ fun _ => ?_)
  exact serves_require_next hs₂ fun w₃ _ hs₃ => .modify ⟨dropPayee_ok hs₃, trivial⟩

theorem serves_payeesRemoveSubmit (hs : InOrder cfg browser b s w) (t payee : ℕ) :
    Serves cfg browser b (payeesRemoveSubmit t payee) Any s w := by
  refine serves_require_next hs fun w₁ _ hs₁ => serves_currentUser_next hs₁
    fun user w₂ _ hs₂ _ => serves_ownPayee_next hs₂ fun p w₃ _ hs₃ _ _ _ => ?_
  refine serves_require_next hs₃ fun w₄ _ hs₄ => serves_authorize_next hs₄ fun w₅ _ hs₅ _ => ?_
  exact serves_require_next hs₅ fun w₆ _ hs₆ =>
    .last (inOrder_monotone b s) hs₆ trivial fun _ _ _ _ _ => trivial

/-! ### Local transfers -/

theorem tokenVerifier_inj {channel : Channel} {x y : PyStr}
    (h : channel.tokenVerifier cfg x = channel.tokenVerifier cfg y) : x = y := by
  cases channel with
  | localTransfer => exact List.append_cancel_left (cfg.secrets.hex_injective h)
  | payup => exact List.append_cancel_left (cfg.secrets.hex_injective h)

/-- A row that is found with a token of this browser was staged in it. -/
theorem Found.inBrowser {h : List Event} {r : PendingTransfer} (hr : Found cfg h r)
    {channel : Channel} (hchannel : r.terms.target.channel = channel) {x : PyStr}
    (hx : r.token = channel.tokenVerifier cfg x) (htoken : TokenOk cfg browser h b x) :
    (∃ t n checkedAt at_, browser t = b ∧ .staged t n r.terms checkedAt at_ ∈ h ∧
      r.expiresAt = at_ + ttl) ∧
    ∀ t n terms checkedAt at_, .staged t n terms checkedAt at_ ∈ h → x = cfg.secrets.token n →
      terms = r.terms := by
  obtain ⟨t, n, c, at_, hstaged, hverifier, hexpires, hunique⟩ := hr
  rw [hx, hchannel] at hverifier
  have hxn : x = cfg.secrets.token n := tokenVerifier_inj hverifier
  have hsame : ∀ n', x = cfg.secrets.token n' → n' = n := fun n' hn' =>
    cfg.secrets.token_injective (hn'.symm.trans hxn)
  refine ⟨?_, fun t' n' terms c' at_' hstaged' hn' => ?_⟩
  · obtain ⟨t', n', terms, c', at_', hb, hstaged', hn'⟩ := htoken
    rw [hsame n' hn'] at hstaged'
    obtain ⟨rfl, -⟩ := hunique _ _ _ _ hstaged'
    exact ⟨t', n, c, at_, hb, hstaged, hexpires⟩
  · rw [hsame n' hn'] at hstaged'
    exact (hunique _ _ _ _ hstaged').2

theorem serves_transferSubmit (hs : InOrder cfg browser b s w) {t : ℕ} (ht : browser t = b)
    (payee amount : ℕ) (reference : PyStr) :
    Serves cfg browser b (transferSubmit cfg t payee amount reference) Any s w := by
  refine serves_require_next hs fun w₁ _ hs₁ => serves_currentUser_next hs₁
    fun user w₂ _ hs₂ _ => serves_ownPayee_next hs₂ fun p w₃ _ hs₃ hid howner hadded => ?_
  obtain ⟨t₁, c, hadded⟩ := hadded
  refine serves_act hs₃ trivial fun (checkedAt : ℕ) w₄ hle₄ hs₄ _ => .unless hs₄ fun hold => ?_
  refine serves_require_next hs₄ fun w₅ hle₅ hs₅ => .unless hs₅ fun _ => ?_
  refine serves_require_next hs₅ fun w₆ hle₆ hs₆ => ?_
  refine serves_authorize_next hs₆ fun w₇ hle₇ hs₇ hauthorized => ?_
  refine serves_act hs₇ trivial fun now w₈ hle₈ hs₈ _ => ?_
  have hle : w₃ ≤ w₈ := hle₄.trans <| hle₅.trans <| hle₆.trans <| hle₇.trans hle₈
  have hstage : StageOk cfg browser w₈.history t
      ⟨user.id, .payee payee, amount, referenceText reference⟩ checkedAt :=
    ⟨hle₈.2.mem hauthorized, t₁, p, c, hle.2.mem hadded, hid, howner,
      Nat.le_of_not_lt (of_decide_eq_false hold)⟩
  refine serves_act hs₈ hstage fun x w₉ _ hs₉ hstaged => ?_
  obtain ⟨n, hx, hstaged⟩ := hstaged
  refine .modify ⟨⟨hs₉.payee, fun y hy => ?_, hs₉.recipient, hs₉.payup⟩, trivial⟩
  cases hy
  exact ⟨t, n, _, checkedAt, now, ht, hstaged, hx⟩

theorem serves_transferConfirm (hs : InOrder cfg browser b s w) (payee : ℕ) :
    Serves cfg browser b (transferConfirm cfg payee) Any s w := by
  refine serves_currentUser_next hs fun user w₁ _ hs₁ _ => .get_bind ?_
  split
  · exact hs₁
  · refine serves_act hs₁ trivial fun found w₂ _ hs₂ _ =>
      serves_act hs₂ trivial fun now w₃ _ hs₃ _ => ?_
    split
    · exact ⟨hs₃, trivial⟩
    · exact .change (dropToken_ok hs₃)

theorem serves_localTransferRecipient (hs : InOrder cfg browser b s w) (sender : User)
    (p : Payee) : Serves cfg browser b (localTransferRecipient sender p)
      (fun recipient s' w' => s' = s ∧ recipient.id ≠ sender.id ∧
        .registered recipient.id (some p.accountNumber) ∈ w'.history) s w := by
  refine serves_act hs trivial fun found w₁ _ hs₁ hfound => ?_
  cases found with
  | nil => exact hs₁
  | cons recipient _ =>
      obtain ⟨haccount, hregistered⟩ := hfound recipient (.head _)
      rw [of_decide_eq_true haccount] at hregistered
      refine .unless hs₁ fun hself => serves_require_next hs₁ fun w₂ hle₂ hs₂ => ?_
      exact ⟨hs₂, rfl, of_decide_eq_false hself, hle₂.2.mem hregistered⟩

theorem serves_requireOrConsume_next (hs : InOrder cfg browser b s w) {q : Question}
    {seen : PendingTransfer} {now : ℕ} {f : Unit → Req α}
    (hf : ∀ w', w ≤ w' → InOrder cfg browser b s w' → Serves cfg browser b (f ()) V s w') :
    Serves cfg browser b (requireOrConsume q seen now >>= f) V s w := by
  have hrequire : Serves cfg browser b (requireOrConsume q seen now)
      (fun _ s' _ => s' = s) s w := by
    refine serves_act hs trivial fun yes w₁ _ hs₁ _ => ?_
    cases yes
    · exact serves_act hs₁ trivial fun _ w₂ _ hs₂ _ => hs₂
    · exact ⟨hs₁, rfl⟩
  refine hrequire.next fun _ s' w' hle hs' hsame => ?_
  cases hsame
  exact hf w' hle hs'

theorem serves_book (hs : InOrder cfg browser b s w) {t : ℕ} {seen : PendingTransfer}
    {recipient : ℕ} {payee : Option ℕ} {startedAt : ℕ}
    (hsend : ∀ createdAt, SendOk browser w.history t seen.terms ⟨seen.terms.userId, recipient,
      payee, seen.terms.amount, seen.terms.reference.take 128, createdAt⟩ startedAt) :
    Serves cfg browser b (book t seen recipient payee startedAt) Any s w := by
  refine serves_require_next hs fun w₁ hle₁ hs₁ => serves_act hs₁ trivial
    fun createdAt w₂ hle₂ hs₂ _ => serves_require_next hs₂ fun w₃ hle₃ hs₃ => ?_
  have hle : w ≤ w₃ := hle₁.trans (hle₂.trans hle₃)
  exact .last (inOrder_monotone b s) hs₃ ((hsend createdAt).later hle.2) fun _ _ _ _ _ => trivial

theorem serves_executeLocalTransfer (hs : InOrder cfg browser b s w) {t : ℕ}
    (ht : browser t = b) {sender : User} {p : Payee} {x : PyStr}
    (hadded : ∃ t₁ c, .added t₁ p c ∈ w.history) (hx : TokenOk cfg browser w.history b x) :
    Serves cfg browser b (executeLocalTransfer cfg t sender p x) Any s w := by
  obtain ⟨t₁, c, hadded⟩ := hadded
  refine serves_require_next hs fun w₁ hle₁ hs₁ => ?_
  refine (serves_localTransferRecipient hs₁ sender p).next fun recipient s₂ w₂ hle₂ hs₂ hr => ?_
  obtain ⟨rfl, hother, hregistered⟩ := hr
  refine serves_act hs₂ trivial fun (now : ℕ) w₃ hle₃ hs₃ _ => .unless hs₃ fun _ => ?_
  refine serves_act hs₃ trivial fun found w₄ hle₄ hs₄ hfound => ?_
  cases found with
  | nil => exact hs₄
  | cons r _ =>
      obtain ⟨hlabels, hr⟩ := hfound r (.head _)
      simp only [Bool.and_eq_true, decide_eq_true_eq] at hlabels
      obtain ⟨⟨⟨⟨hchannel, htoken⟩, hsender⟩, -⟩, htarget⟩ := hlabels
      have hle : w ≤ w₄ := hle₁.trans <| hle₂.trans <| hle₃.trans hle₄
      obtain ⟨⟨t₂, n, c₂, at_, hb, hstaged, hexpires⟩, -⟩ :=
        hr.inBrowser hchannel htoken (hx.later hle.2)
      refine .unless hs₄ fun hlate => ?_
      have htime : now ≤ at_ + ttl := by
        rw [← hexpires]
        exact Nat.le_of_not_lt (of_decide_eq_false hlate)
      have hsend : ∀ createdAt, SendOk browser w₄.history t r.terms ⟨r.terms.userId,
          recipient.id, some p.id, r.terms.amount, r.terms.reference.take 128, createdAt⟩ now := by
        refine fun createdAt => ⟨⟨t₂, n, c₂, at_, hb.trans ht.symm, hstaged, htime⟩,
          ⟨rfl, hsender ▸ hother, rfl, rfl⟩, ?_⟩
        unfold Settles
        rw [htarget]
        exact ⟨rfl, t₁, p, c, hle.2.mem hadded, rfl, (hle₃.trans hle₄).2.mem hregistered⟩
      split
      · refine serves_requireOrConsume_next hs₄ fun w₅ hle₅ hs₅ =>
          serves_requireOrConsume_next hs₅ fun w₆ hle₆ hs₆ => ?_
        exact serves_book hs₆ fun createdAt => (hsend createdAt).later (hle₅.trans hle₆).2
      · exact serves_act hs₄ trivial fun _ w₅ _ hs₅ _ => hs₅

theorem serves_transferConfirmSubmit (hs : InOrder cfg browser b s w) {t : ℕ}
    (ht : browser t = b) (payee : ℕ) :
    Serves cfg browser b (transferConfirmSubmit cfg t payee) Any s w := by
  refine serves_require_next hs fun w₁ _ hs₁ => serves_currentUser_next hs₁
    fun user w₂ _ hs₂ _ => .get_bind (.change ?_)
  split
  · exact dropToken_ok hs₂
  · next x hx =>
      have htoken := hs₂.transfer x hx
      refine serves_require_next (dropToken_ok hs₂) fun w₃ hle₃ hs₃ => ?_
      refine serves_ownPayee_next hs₃ fun p w₄ hle₄ hs₄ _ _ hadded => ?_
      exact serves_executeLocalTransfer hs₄ ht hadded (htoken.later (hle₃.trans hle₄).2)

/-! ### PayUp -/

theorem serves_requireNickname_next (hs : InOrder cfg browser b s w) {f : Unit → Req α}
    (hf : ∀ w', w ≤ w' → InOrder cfg browser b s w' → Serves cfg browser b (f ()) V s w') :
    Serves cfg browser b (requireNickname >>= f) V s w := by
  have hrequire : Serves cfg browser b requireNickname (fun _ s' _ => s' = s) s w := by
    refine serves_act hs trivial fun ready w₁ _ hs₁ _ => ?_
    cases ready
    · exact .change (dropPayup_ok (dropRecipient_ok hs₁))
    · exact ⟨hs₁, rfl⟩
  refine hrequire.next fun _ s' w' hle hs' hsame => ?_
  cases hsame
  exact hf w' hle hs'

theorem serves_payupSubmit (hs : InOrder cfg browser b s w) {t : ℕ} (ht : browser t = b)
    (phoneNumber : PyStr) : Serves cfg browser b (payupSubmit t phoneNumber) Any s w := by
  refine serves_currentUser_next hs fun user w₁ _ hs₁ huser =>
    serves_requireNickname_next hs₁ fun w₂ _ hs₂ => serves_require_next hs₂ fun w₃ _ hs₃ =>
      serves_require_next hs₃ fun w₄ _ hs₄ => ?_
  refine serves_act hs₄ trivial fun found w₅ _ hs₅ _ => ?_
  cases found with
  | nil => exact hs₅
  | cons recipient _ =>
      refine .unless hs₅ fun _ => serves_require_next hs₅ fun w₆ _ hs₆ => ?_
      refine serves_act hs₆ trivial fun now w₇ _ hs₇ _ => ?_
      refine serves_act hs₇ ⟨rfl, trivial⟩ fun _ w₈ _ hs₈ hlooked => ?_
      refine .modify ⟨⟨hs₈.payee, hs₈.transfer, fun r hr => ?_, hs₈.payup⟩, trivial⟩
      cases hr
      exact ⟨user.id, t, _, now, huser, ht, hlooked, rfl⟩

theorem serves_recipientIsAvailable (hs : InOrder cfg browser b s w) (user : User)
    (recipient : ℕ) : Serves cfg browser b (payupRecipientIsAvailable user recipient)
      (fun available s' _ => s' = s ∧ (available = true → recipient ≠ user.id)) s w := by
  refine serves_act hs trivial fun found w₁ _ hs₁ hfound => ?_
  cases found with
  | nil => exact ⟨hs₁, rfl, fun h => by cases h⟩
  | cons r _ =>
      refine serves_act hs₁ trivial fun (available : Bool) w₂ _ hs₂ _ => ⟨hs₂, rfl, fun h => ?_⟩
      rw [← of_decide_eq_true (hfound r (.head _)).1]
      simp only [Bool.and_eq_true, decide_eq_true_eq] at h
      exact h.1.2

/-- The recipient was looked up in this browser, for this user. -/
theorem serves_requireRecipient (hs : InOrder cfg browser b s w) {user : User}
    (huser : s.userId = some user.id) : Serves cfg browser b (requireRecipient user)
      (fun r s' w' => s' = s ∧ ∃ t phone at_, browser t = b ∧
        .lookedUp t user.id r.1 phone at_ ∈ w'.history ∧ r.2 ≤ at_ + ttl) s w := by
  have hpending : Serves cfg browser b (pendingPayupRecipient user)
      (fun r s' w' => s' = s ∧ ∀ x, r = some x → ∃ t phone at_, browser t = b ∧
        .lookedUp t user.id x.1 phone at_ ∈ w'.history ∧ x.2 ≤ at_ + ttl) s w := by
    refine .get_bind ?_
    split
    · exact ⟨hs, rfl, fun _ h => by cases h⟩
    · next pending hp =>
        obtain ⟨user', t, phone, at_, huser', hb, hlooked, hexpires⟩ := hs.recipient pending hp
        cases huser.symm.trans huser'
        refine serves_act hs trivial fun (now : ℕ) w₁ hle₁ hs₁ _ => ?_
        split
        · exact ⟨hs₁, rfl, fun _ h => by cases h⟩
        · next hlate =>
            refine (serves_recipientIsAvailable hs₁ user _).next
              fun available s₂ w₂ hle₂ hs₂ hsame => ⟨hs₂, hsame.1, fun x hx => ?_⟩
            split at hx
            · cases hx
              exact ⟨t, phone, at_, hb, (hle₁.trans hle₂).2.mem hlooked,
                hexpires ▸ Nat.le_of_not_lt hlate⟩
            · cases hx
  refine hpending.next fun r s₁ w₁ _ hs₁ hr => ?_
  obtain ⟨rfl, hr⟩ := hr
  cases r with
  | none => exact .change (dropRecipient_ok hs₁)
  | some r => exact ⟨hs₁, rfl, hr r rfl⟩

theorem serves_payupAmount (hs : InOrder cfg browser b s w) :
    Serves cfg browser b payupAmount Any s w :=
  serves_currentUser_next hs fun _ _ _ hs₁ huser => serves_requireNickname_next hs₁
    fun _ _ hs₂ => (serves_requireRecipient hs₂ huser).next fun _ _ _ _ hs₃ _ => ⟨hs₃, trivial⟩

theorem serves_payupAmountSubmit (hs : InOrder cfg browser b s w) {t : ℕ} (ht : browser t = b)
    (amount : ℕ) (reference : PyStr) :
    Serves cfg browser b (payupAmountSubmit t amount reference) Any s w := by
  refine serves_currentUser_next hs fun user w₁ _ hs₁ huser =>
    serves_requireNickname_next hs₁ fun w₂ _ hs₂ => ?_
  refine (serves_requireRecipient hs₂ huser).next fun r s₃ w₃ _ hs₃ hr => ?_
  obtain ⟨rfl, t₁, phone, at_, hb, hlooked, htime⟩ := hr
  refine serves_require_next hs₃ fun w₄ hle₄ hs₄ => .unless hs₄ fun _ => ?_
  refine serves_require_next hs₄ fun w₅ hle₅ hs₅ => serves_require_next hs₅ fun w₆ hle₆ hs₆ => ?_
  refine serves_act hs₆ trivial fun now w₇ hle₇ hs₇ _ => ?_
  have hle : w₃ ≤ w₇ := hle₄.trans <| hle₅.trans <| hle₆.trans hle₇
  have hstage : StageOk cfg browser w₇.history t
      ⟨user.id, .recipient r.1, amount, referenceText reference⟩ r.2 :=
    ⟨t₁, phone, at_, hb.trans ht.symm, hle.2.mem hlooked, htime⟩
  refine serves_act hs₇ hstage fun x w₈ _ hs₈ hstaged => ?_
  obtain ⟨n, hx, hstaged⟩ := hstaged
  refine .modify ⟨⟨hs₈.payee, hs₈.transfer, fun _ h => (by cases h), fun y hy => ?_⟩, trivial⟩
  cases hy
  exact ⟨t, n, _, r.2, now, ht, hstaged, hx⟩

theorem serves_payupConfirm (hs : InOrder cfg browser b s w) :
    Serves cfg browser b (payupConfirm cfg) Any s w := by
  refine serves_currentUser_next hs fun user w₁ _ hs₁ _ =>
    serves_requireNickname_next hs₁ fun w₂ _ hs₂ => .get_bind ?_
  split
  · exact hs₂
  refine serves_act hs₂ trivial fun found w₃ _ hs₃ _ => ?_
  have hshown : ∀ pending, Serves cfg browser b (payupShown user pending)
      (fun _ s' _ => s' = s) s w₃ := by
    refine fun pending => serves_act hs₃ trivial fun now w₄ _ hs₄ _ => ?_
    split
    · exact ⟨hs₄, rfl⟩
    split
    · exact ⟨hs₄, rfl⟩
    refine (serves_recipientIsAvailable hs₄ user _).next fun available s₅ w₅ _ hs₅ hsame => ?_
    obtain ⟨rfl, -⟩ := hsame
    cases available
    · exact ⟨hs₅, rfl⟩
    · exact serves_act hs₅ trivial fun risk w₆ _ hs₆ _ => ⟨hs₆, rfl⟩
  have hfirst : Serves cfg browser b (firstPayupShown user found) (fun _ s' _ => s' = s) s w₃ := by
    cases found with
    | nil => exact ⟨hs₃, rfl⟩
    | cons pending _ => exact hshown pending
  refine hfirst.next fun shown s₄ w₄ _ hs₄ _ => ?_
  cases shown
  · exact .change (dropPayup_ok hs₄)
  · exact ⟨hs₄, trivial⟩

/-- Without a code the policy has to allow the transfer. -/
theorem serves_reauthorize_next (hs : InOrder cfg browser b s w) {t : ℕ}
    {pending : PendingTransfer} {authorized : Bool} {now : ℕ} {f : Unit → Req α}
    (hf : ∀ w', w ≤ w' → InOrder cfg browser b s w' →
      (.allowed t ∈ w'.history ∨ authorized = true) →
      Serves cfg browser b (f ()) V s w') :
    Serves cfg browser b (reauthorize t pending authorized now >>= f) V s w := by
  have hallowed : Serves cfg browser b (reauthorize t pending authorized now)
      (fun _ s' w' => s' = s ∧ (.allowed t ∈ w'.history ∨ authorized = true)) s w := by
    refine serves_act hs trivial fun risk w₁ _ hs₁ _ => ?_
    split
    · exact .last (inOrder_monotone b s) hs₁ ⟨rfl, trivial⟩
        fun _ _ _ _ hmem => ⟨rfl, .inl (hmem _ rfl)⟩
    split
    · next hstep => exact ⟨hs₁, rfl, .inr hstep.2⟩
    · exact serves_act hs₁ trivial fun _ w₂ _ hs₂ _ => hs₂
  refine hallowed.next fun _ s' w' hle hs' hsame => ?_
  obtain ⟨rfl, hauthorized⟩ := hsame
  exact hf w' hle hs' hauthorized

/-- What is known of a row that is found with a PayUp token of this browser. -/
theorem After.payup {h : List Event} {user : ℕ} {x : PyStr} {r : PendingTransfer}
    (hr : (decide (r.terms.target.channel = .payup) &&
      decide (r.token = Channel.payup.tokenVerifier cfg x) && decide (r.terms.userId = user) &&
      r.consumedAt.isNone && true) = true ∧ Found cfg h r) (hx : TokenOk cfg browser h b x) :
    r.terms.userId = user ∧ (∃ t n checkedAt at_, browser t = b ∧
      .staged t n r.terms checkedAt at_ ∈ h ∧ r.expiresAt = at_ + ttl) ∧
    ∀ t n terms checkedAt at_, .staged t n terms checkedAt at_ ∈ h → x = cfg.secrets.token n →
      terms = r.terms := by
  obtain ⟨hlabels, hfound⟩ := hr
  simp only [Bool.and_eq_true, decide_eq_true_eq] at hlabels
  obtain ⟨⟨⟨⟨hchannel, htoken⟩, huser⟩, -⟩, -⟩ := hlabels
  exact ⟨huser, hfound.inBrowser hchannel htoken hx⟩

/-- `terms` is what the user has seen and, with a code, authorised. -/
theorem serves_executePayupTransfer (hs : InOrder cfg browser b s w) {t : ℕ}
    (ht : browser t = b) {sender : User} {x : PyStr} {authorized : Bool} {terms : Terms}
    (hx : TokenOk cfg browser w.history b x)
    (hterms : ∃ t₂ n c at_, .staged t₂ n terms c at_ ∈ w.history ∧ x = cfg.secrets.token n)
    (hauthorized : authorized = true → .authorized t sender.id (.send terms) ∈ w.history) :
    Serves cfg browser b (executePayupTransfer cfg t sender x authorized) Any s w := by
  obtain ⟨t', n', c', at', hstaged', hx'⟩ := hterms
  refine serves_require_next hs fun w₁ hle₁ hs₁ => serves_require_next hs₁
    fun w₂ hle₂ hs₂ => serves_act hs₂ trivial fun found w₃ hle₃ hs₃ hfound => ?_
  cases found with
  | nil => exact hs₃
  | cons r _ =>
      have hle : w ≤ w₃ := hle₁.trans (hle₂.trans hle₃)
      obtain ⟨hsender, ⟨t₂, n, c, at_, hb, hstaged, hexpires⟩, hunique⟩ :=
        After.payup (hfound r (.head _)) (hx.later hle.2)
      obtain rfl := hunique _ _ _ _ _ (hle.2.mem hstaged') hx'
      refine serves_act hs₃ trivial fun (now : ℕ) w₄ hle₄ hs₄ _ => .unless hs₄ fun hlate => ?_
      have htime : now ≤ at_ + ttl := by
        rw [← hexpires]
        exact Nat.le_of_not_lt (of_decide_eq_false hlate)
      split
      · exact hs₄
      next recipient htarget =>
      refine (serves_recipientIsAvailable hs₄ sender recipient).next
        fun available s₅ w₅ hle₅ hs₅ havailable => ?_
      obtain ⟨rfl, hother⟩ := havailable
      split
      · next hok =>
          refine serves_reauthorize_next hs₅ fun w₆ hle₆ hs₆ hallowed =>
            serves_requireOrConsume_next hs₆ fun w₇ hle₇ hs₇ => serves_book hs₇ fun createdAt => ?_
          have hle' : w₃ ≤ w₇ := hle₄.trans <| hle₅.trans <| hle₆.trans hle₇
          refine ⟨⟨t₂, n, c, at_, hb.trans ht.symm, hle'.2.mem hstaged, htime⟩,
            ⟨rfl, hsender ▸ hother hok.2, rfl, rfl⟩, ?_⟩
          unfold Settles
          rw [htarget]
          refine ⟨rfl, rfl, hallowed.imp (fun hmem => hle₇.2.mem hmem) fun h => ?_⟩
          exact hsender ▸ (hle.trans hle').2.mem (hauthorized h)
      · exact serves_act hs₅ trivial fun _ w₆ _ hs₆ _ => hs₆

theorem serves_payupStepUp (hs : InOrder cfg browser b s w) {t : ℕ} {user : User} {x : PyStr}
    (hx : TokenOk cfg browser w.history b x) (terms : Terms) :
    Serves cfg browser b (payupStepUp t user x terms) (fun authorized s' w' => s' = s ∧
      (authorized = true → .authorized t user.id (.send terms) ∈ w'.history)) s w := by
  refine serves_act hs trivial fun risk w₁ hle₁ hs₁ _ => ?_
  split
  · have hcode : (contract cfg browser).Serves (require .codeAccepted 401)
        (fun _ s' w' => s' = s ∧ w₁ ≤ w') s w₁ :=
      .perform_bind trivial (fun yes w₂ hle₂ _ => (by cases yes <;> exact ⟨rfl, hle₂⟩))
        fun e w₂ hle₂ _ => ⟨rfl, hle₂⟩
    have hverify : (contract cfg browser).Serves
        (verifyHighRiskAuthorization t user (.send terms)) (fun r s' w' => s' = s ∧ w₁ ≤ w' ∧
          (r = .ok () → .authorized t user.id (.send terms) ∈ w'.history)) s w₁ := by
      refine hcode.bind (fun _ s₂ w₂ _ h => ?_) fun _ _ _ _ h => ⟨h.1, h.2, fun he => by cases he⟩
      obtain ⟨rfl, hle₂⟩ := h
      exact .perform ⟨rfl, trivial⟩ fun r w₃ hle₃ hmem =>
        ⟨rfl, hle₂.trans hle₃, fun hr => hmem () hr⟩
    have hguarded : Serves cfg browser b (Handler.tryCatch
        (verifyHighRiskAuthorization t user (.send terms)) fun e => do
          Handler.modify fun items => { items with pendingPayupToken := some x }
          Handler.throw e) (fun _ s' w' => s' = s ∧
            .authorized t user.id (.send terms) ∈ w'.history) s w₁ := by
      refine Contract.Serves.tryCatch hverify (fun a s₂ w₂ _ h => ?_) fun e s₂ w₂ _ h => ?_
      · obtain ⟨rfl, hle₂, hauthorized⟩ := h
        exact ⟨inOrder_monotone b _ hle₂ hs₁, rfl, hauthorized rfl⟩
      · obtain ⟨rfl, hle₂, -⟩ := h
        have hs₂ := inOrder_monotone b _ hle₂ hs₁
        refine .change (⟨hs₂.payee, hs₂.transfer, hs₂.recipient, fun y hy => ?_⟩ :
          ItemsOk cfg browser b { s₂ with pendingPayupToken := some x } w₂.history)
        cases hy
        exact hx.later (hle₁.trans hle₂).2
    refine hguarded.next fun _ s₂ w₂ _ hs₂ h => ⟨hs₂, h.1, fun _ => h.2⟩
  · exact ⟨hs₁, rfl, fun h => by cases h⟩

theorem serves_confirmPayup (hs : InOrder cfg browser b s w) {t : ℕ} (ht : browser t = b)
    {user : User} {x : PyStr} (hx : TokenOk cfg browser w.history b x) :
    Serves cfg browser b (confirmPayup cfg t user x) Any s w := by
  refine serves_require_next hs fun w₁ hle₁ hs₁ => serves_act hs₁ trivial
    fun found w₂ hle₂ hs₂ hfound => ?_
  cases found with
  | nil => exact hs₂
  | cons r _ =>
      have hx₂ := hx.later (hle₁.trans hle₂).2
      obtain ⟨-, ⟨t₂, n, c, at_, -, hstaged, -⟩, hunique⟩ :=
        After.payup (hfound r (.head _)) hx₂
      have hterms : ∃ t₂ n c at_, .staged t₂ n r.terms c at_ ∈ w₂.history ∧
          x = cfg.secrets.token n := by
        obtain ⟨t₃, n₃, terms, c₃, at₃, -, hstaged₃, hn⟩ := hx₂
        obtain rfl := hunique _ _ _ _ _ hstaged₃ hn
        exact ⟨t₃, n₃, c₃, at₃, hstaged₃, hn⟩
      dsimp only
      split
      · exact hs₂
      refine (serves_recipientIsAvailable hs₂ user _).next fun available s₃ w₃ hle₃ hs₃ hsame => ?_
      obtain ⟨rfl, -⟩ := hsame
      refine .unless hs₃ fun _ => serves_require_next hs₃ fun w₄ hle₄ hs₄ => ?_
      have hx₄ := hx₂.later (hle₃.trans hle₄).2
      refine (serves_payupStepUp hs₄ hx₄ r.terms).next
        fun authorized s₅ w₅ hle₅ hs₅ hauthorized => ?_
      obtain ⟨rfl, hauthorized⟩ := hauthorized
      refine serves_executePayupTransfer hs₅ ht (hx₄.later hle₅.2) ?_ hauthorized
      obtain ⟨t₃, n₃, c₃, at₃, hstaged₃, hn⟩ := hterms
      exact ⟨t₃, n₃, c₃, at₃, (hle₃.trans (hle₄.trans hle₅)).2.mem hstaged₃, hn⟩

theorem serves_payupConfirmSubmit (hs : InOrder cfg browser b s w) {t : ℕ}
    (ht : browser t = b) : Serves cfg browser b (payupConfirmSubmit cfg t) Any s w := by
  refine serves_currentUser_next hs fun user w₁ _ hs₁ _ =>
    serves_requireNickname_next hs₁ fun w₂ _ hs₂ => .get_bind (.change ?_)
  split
  · exact dropPayup_ok hs₂
  · next x hx => exact serves_confirmPayup (dropPayup_ok hs₂) ht (hs₂.payup x hx)

/-! ### Requests -/

/-- Every request hands back a session that is in order. -/
theorem serves_handler (hs : InOrder cfg browser b s w) {t : ℕ} (ht : browser t = b)
    (r : Request) : Serves cfg browser b (r.handler cfg t) Any s w := by
  cases r with
  | payeesAddSubmit nickname accountNumber =>
      exact serves_payeesAddSubmit hs ht nickname accountNumber
  | payeesConfirm => exact serves_payeesConfirm hs
  | payeesConfirmSubmit => exact serves_payeesConfirmSubmit hs ht
  | payeesCancel => exact serves_payeesCancel hs
  | payeesRemoveSubmit payee => exact serves_payeesRemoveSubmit hs t payee
  | transferSubmit payee amount reference =>
      exact serves_transferSubmit hs ht payee amount reference
  | transferConfirm payee => exact serves_transferConfirm hs payee
  | transferConfirmSubmit payee => exact serves_transferConfirmSubmit hs ht payee
  | payupSubmit phoneNumber => exact serves_payupSubmit hs ht phoneNumber
  | payupAmount => exact serves_payupAmount hs
  | payupAmountSubmit amount reference => exact serves_payupAmountSubmit hs ht amount reference
  | payupConfirm => exact serves_payupConfirm hs
  | payupConfirmSubmit => exact serves_payupConfirmSubmit hs ht
  | register u => exact .last (inOrder_monotone b s) hs trivial fun _ _ _ _ _ => trivial
  | changePhone user phone =>
      exact .last (inOrder_monotone b s) hs trivial fun _ _ _ _ _ => trivial
  | signIn user => exact .modify ⟨⟨fun _ h => (by cases h), fun _ h => (by cases h),
      fun _ h => (by cases h), fun _ h => by cases h⟩, trivial⟩
  | signOut => exact .modify ⟨⟨fun _ h => (by cases h), fun _ h => (by cases h),
      fun _ h => (by cases h), fun _ h => by cases h⟩, trivial⟩

end Handlers

theorem trusted (cfg : Config) (browser : ℕ → ℕ) :
    Contract.Trusted (Ok cfg browser) blank fun w b s => InOrder cfg browser b s w where
  lasts b s := inOrder_monotone b s
  opens w b hw := by
    refine ⟨le_refl w, hw, ⟨fun _ h => ?_, fun _ h => ?_, fun _ h => ?_, fun _ h => ?_⟩⟩ <;> cases h

theorem ok_start (cfg : Config) (browser : ℕ → ℕ) (clock : ℕ) :
    Ok cfg browser ⟨clock, [], [], [], [], 0, 0, 0, []⟩ where
  honest := trivial
  userNumbers := numbered_nil _
  payeeNumbers := numbered_nil _
  tokenNumbers := numbered_nil _
  users _ hu := absurd hu List.not_mem_nil
  payees _ hp := absurd hp List.not_mem_nil
  pending _ hr := absurd hr List.not_mem_nil
  transactions _ htxn := absurd htxn List.not_mem_nil

/-! ### Runs -/

section Runs

variable (cfg : Config) (browser : ℕ → ℕ)

/-- The transfer was staged with a code for exactly these terms, and confirmed in the browser
of the staging before it expired. The payee was requested with a code, confirmed in the browser
of the request before that expired, and old enough when the transfer was staged. Histories have
the newest event first. -/
def ByPayee (w : Desk) (txn : Transaction) : Prop :=
  ∃ sending staging confirming requesting n startedAt checkedAt stagedAt confirmedAt requestedAt,
  ∃ (p : Payee) (terms : Terms),
    txn.payeeId = some p.id ∧ p.userId = txn.senderId ∧
    (terms.userId = txn.senderId ∧ terms.target = .payee p.id ∧ terms.amount = txn.amount ∧
      terms.reference.take 128 = txn.reference) ∧
    List.Sublist [.sent sending terms txn startedAt, .staged staging n terms checkedAt stagedAt,
      .authorized staging txn.senderId (.send terms)] w.history ∧
    List.Sublist [.sent sending terms txn startedAt, .staged staging n terms checkedAt stagedAt,
      .added confirming p confirmedAt,
      .requested requesting txn.senderId p.accountNumber requestedAt,
      .authorized requesting txn.senderId (.payeeAdd p.accountNumber)] w.history ∧
    (browser staging = browser sending ∧ browser requesting = browser confirming) ∧
    (startedAt ≤ stagedAt + ttl ∧ p.createdAt + cfg.cooldown ≤ checkedAt ∧
      confirmedAt ≤ requestedAt + ttl) ∧
    txn.recipientId ≠ txn.senderId ∧
    ∀ u ∈ w.users, u.id = txn.recipientId → u.accountNumber = some p.accountNumber

/-- The recipient was looked up, and the transfer staged and confirmed, in one browser and in
time, and it was authorised with a code or allowed by the policy. -/
def ByPhone (w : Desk) (txn : Transaction) : Prop :=
  ∃ sending staging looking n phone startedAt checkedAt stagedAt lookedAt, ∃ terms : Terms,
    txn.payeeId = none ∧
    (terms.userId = txn.senderId ∧ terms.target = .recipient txn.recipientId ∧
      terms.amount = txn.amount ∧ terms.reference.take 128 = txn.reference) ∧
    List.Sublist [.sent sending terms txn startedAt, .staged staging n terms checkedAt stagedAt,
      .lookedUp looking txn.senderId txn.recipientId phone lookedAt] w.history ∧
    (List.Sublist [.sent sending terms txn startedAt, .allowed sending] w.history ∨
      List.Sublist [.sent sending terms txn startedAt,
        .authorized sending txn.senderId (.send terms)] w.history) ∧
    (browser staging = browser sending ∧ browser looking = browser sending) ∧
    (startedAt ≤ stagedAt + ttl ∧ checkedAt ≤ lookedAt + ttl) ∧
    txn.recipientId ≠ txn.senderId

end Runs

/-- The payee of the history is the only one with its number. -/
theorem added_unique {w : Desk} (hw : Ok cfg browser w) {t t' c c' : ℕ} {p p' : Payee}
    (h : .added t p c ∈ w.history) (h' : .added t' p' c' ∈ w.history) (hid : p.id = p'.id) :
    p = p' := by
  have heq := hw.payeeNumbers.unique _ h _ h' p.id rfl (congrArg some hid.symm)
  cases heq
  rfl

theorem byPayee_of_ok {w : Desk} (hw : Ok cfg browser w) {t : ℕ} {terms : Terms}
    {txn : Transaction} {startedAt : ℕ} (hsent : .sent t terms txn startedAt ∈ w.history)
    {id : ℕ} (htarget : terms.target = .payee id) : ByPayee cfg browser w txn := by
  obtain ⟨h₁, hsuffix, ⟨t₂, n, checkedAt, at_, hb, hstaged, htime⟩, hsame, hsettles⟩ :=
    hw.honest.of_mem hsent
  obtain ⟨hsender, hother, hamount, hreference⟩ := hsame
  unfold Settles at hsettles
  rw [htarget] at hsettles
  obtain ⟨hpayee, t₁, p, c₁, hadded, hid, hregistered⟩ := hsettles
  have hmem₁ : ∀ e ∈ h₁, e ∈ w.history := fun e he => hsuffix.mem (.tail _ he)
  have hhonest₁ := hw.honest.of_suffix hsuffix
  obtain ⟨h₂, hsuffix₂, hstage⟩ := hhonest₁.of_mem hstaged
  replace hstage : StageOk cfg browser h₂ t₂ terms checkedAt := hstage
  unfold StageOk at hstage
  rw [htarget] at hstage
  obtain ⟨hauthorized, t₁', p', c, hadded', hid', howner, hold⟩ := hstage
  have hmem₂ : ∀ e ∈ h₂, e ∈ w.history := fun e he => hmem₁ e (hsuffix₂.mem (.tail _ he))
  -- the payee of the staging is the payee of the transfer
  obtain rfl := added_unique hw (hmem₁ _ hadded) (hmem₂ _ hadded') (hid.trans hid'.symm)
  obtain ⟨h₃, hsuffix₃, t₀, at₀, hb₀, hrequested, htime₀⟩ :=
    (hhonest₁.of_suffix hsuffix₂).of_mem hadded'
  obtain ⟨h₄, hsuffix₄, hcode⟩ :=
    ((hhonest₁.of_suffix hsuffix₂).of_suffix hsuffix₃).of_mem hrequested
  rw [← hsender] at hauthorized howner hother
  rw [howner] at hcode hrequested hsuffix₄
  refine ⟨t, t₂, t₁', t₀, n, startedAt, checkedAt, at_, c, at₀, p, terms,
    hid ▸ hpayee, howner, ⟨hsender.symm, hid ▸ htarget, hamount.symm, hreference.symm⟩, ?_, ?_,
    ⟨hb, hb₀⟩, ⟨htime, hold, htime₀⟩, hother, fun u hu huid => ?_⟩
  · exact sublist_of_suffix hsuffix (sublist_of_suffix hsuffix₂
      (List.singleton_sublist.mpr hauthorized))
  · exact sublist_of_suffix hsuffix (sublist_of_suffix hsuffix₂ (sublist_of_suffix hsuffix₃
      (sublist_of_suffix hsuffix₄ (List.singleton_sublist.mpr hcode))))
  · have heq := hw.userNumbers.unique _ (hw.users u hu) _ (hmem₁ _ hregistered) u.id rfl
      (congrArg some huid.symm)
    exact (Event.registered.inj heq).2

theorem byPhone_of_ok {w : Desk} (hw : Ok cfg browser w) {t : ℕ} {terms : Terms}
    {txn : Transaction} {startedAt : ℕ} (hsent : .sent t terms txn startedAt ∈ w.history)
    {id : ℕ} (htarget : terms.target = .recipient id) : ByPhone browser w txn := by
  obtain ⟨h₁, hsuffix, ⟨t₂, n, checkedAt, at_, hb, hstaged, htime⟩, hsame, hsettles⟩ :=
    hw.honest.of_mem hsent
  obtain ⟨hsender, hother, hamount, hreference⟩ := hsame
  unfold Settles at hsettles
  rw [htarget] at hsettles
  obtain ⟨hpayee, rfl, hallowed⟩ := hsettles
  obtain ⟨h₂, hsuffix₂, hstage⟩ := (hw.honest.of_suffix hsuffix).of_mem hstaged
  replace hstage : StageOk cfg browser h₂ t₂ terms checkedAt := hstage
  unfold StageOk at hstage
  rw [htarget] at hstage
  obtain ⟨t₁, phone, at₁, hb₁, hlooked, htime₁⟩ := hstage
  rw [← hsender] at hlooked hallowed hother
  refine ⟨t, t₂, t₁, n, phone, startedAt, checkedAt, at_, at₁, terms, hpayee,
    ⟨hsender.symm, htarget, hamount.symm, hreference.symm⟩, ?_, ?_, ⟨hb, hb₁.trans hb⟩,
    ⟨htime, htime₁⟩, hother⟩
  · exact sublist_of_suffix hsuffix (sublist_of_suffix hsuffix₂
      (List.singleton_sublist.mpr hlooked))
  · exact hallowed.imp
      (fun hmem => sublist_of_suffix hsuffix (List.singleton_sublist.mpr hmem))
      fun hmem => sublist_of_suffix hsuffix (List.singleton_sublist.mpr hmem)

/-- In every run of any requests of any browsers, every transaction was staged and confirmed in
one browser, in time and on its own terms: either with a code, to a payee that was itself added
with a code and is old enough, or to a recipient that was looked up, with a code or as the risk
policy allows. -/
theorem transfers_authorized {cfg : Config} {browser : ℕ → ℕ} {requests : ℕ → Request}
    {clock : ℕ} {x : VisitConf Op Res FlowError Items Desk}
    (hx : Reach (visitExec browser blank (exec cfg)) (fun _ _ _ => True)
      (start cfg requests clock) x) {txn : Transaction}
    (htxn : txn ∈ x.world.world.transactions) :
    ByPayee cfg browser x.world.world txn ∨ ByPhone browser x.world.world txn := by
  have hw : Ok cfg browser x.world.world := by
    refine ((contract cfg browser).reach_sessions (trusted cfg browser) (fun t s w hs => ?_)
      (ok_start cfg browser clock) hx).1
    refine (serves_handler hs rfl (requests t)).mono fun r s' w' _ hr => ?_
    cases r with
    | ok _ => exact hr.1
    | error _ => exact hr
  obtain ⟨t, terms, startedAt, hsent⟩ := hw.transactions txn htxn
  cases htarget : terms.target with
  | payee id => exact .inl (byPayee_of_ok hw hsent htarget)
  | recipient id => exact .inr (byPhone_of_ok hw hsent htarget)

/-! ### An example run -/

def sampleConfig : Config where
  secrets := {
    hex := id
    hex_injective := Function.injective_id
    token := fun n => [n]
    token_injective := fun _ _ h => (List.cons.inj h).1 }
  payeeCooldownSeconds := 60

/-- Ann adds Bob as a payee and sends him five dollars. Then she sends to his phone number
twice. -/
def sampleRequests : ℕ → Request
  | 0 => .register ⟨0, some (.ofString "000000000001"), none, .ofString "Ann"⟩
  | 1 => .register
      ⟨0, some (.ofString "000000000002"), some (.ofString "91234567"), .ofString "Bob"⟩
  | 2 => .signIn 0
  | 3 => .payeesAddSubmit (.ofString "Bob") (.ofString "000000000002")
  | 4 => .payeesConfirmSubmit
  | 5 => .transferSubmit 0 500 (.ofString "rent")
  | 6 => .transferConfirmSubmit 0
  | 7 => .payupSubmit (.ofString "91234567")
  | 8 => .payupAmountSubmit 300 (.ofString "lunch")
  | 9 => .payupConfirmSubmit
  | 10 => .payupSubmit (.ofString "91234567")
  | 11 => .payupAmountSubmit 400 (.ofString "dinner")
  | _ => .payupConfirmSubmit

def sampleStart : VisitConf Op Res FlowError Items Desk := start sampleConfig sampleRequests 0

def sampleExec : Exec (VisitOp Items Op) (VisitRes Items Res) FlowError
    (Interaction.Site Items Desk) (ℕ × Choice) :=
  visitExec (fun _ => 0) blank (exec sampleConfig)

/-- One request after the other, with a minute between the payee and the transfer; the last one
needs a code. -/
def sampleSchedule : List (ℕ × ℕ × Choice) :=
  let answer (risk : Risk) (tick t : ℕ) : ℕ × ℕ × Choice := (t, 0, ⟨true, risk, false, tick⟩)
  let answers (t n : ℕ) : List (ℕ × ℕ × Choice) := List.replicate n (answer .allow 1 t)
  answers 0 3 ++ answers 1 3 ++ answers 2 2 ++ answers 3 12 ++ answers 4 12 ++
    [answer .allow 1 5, answer .allow 60000000 5] ++ answers 5 11 ++ answers 6 18 ++
    answers 7 11 ++ answers 8 13 ++ answers 9 24 ++ answers 10 11 ++ answers 11 13 ++
    List.replicate 25 (answer .stepUp 1 12)

theorem payeeId_of_byPayee {cfg : Config} {browser : ℕ → ℕ} {w : Desk} {txn : Transaction}
    (h : ByPayee cfg browser w txn) : txn.payeeId ≠ none := by
  obtain ⟨_, _, _, _, _, _, _, _, _, _, p, _, hpayee, -⟩ := h
  rw [hpayee]
  exact Option.some_ne_none _

theorem payeeId_of_byPhone {browser : ℕ → ℕ} {w : Desk} {txn : Transaction}
    (h : ByPhone browser w txn) : txn.payeeId = none := by
  obtain ⟨_, _, _, _, _, _, _, _, _, _, hpayee, -⟩ := h
  exact hpayee

/-- A transfer to the payee, and two to the phone number. -/
theorem transfers_authorized_sample : ∃ x : VisitConf Op Res FlowError Items Desk,
    Reach sampleExec (fun _ _ _ => True) sampleStart x ∧
      x.world.world.transactions.map (·.amount) = [400, 300, 500] ∧
      ∀ txn ∈ x.world.world.transactions,
        (txn.amount = 500 → ByPayee sampleConfig (fun _ => 0) x.world.world txn) ∧
        (txn.amount ≠ 500 → ByPhone (fun _ => 0) x.world.world txn) := by
  have hrun : ((run sampleExec sampleStart sampleSchedule).any fun x =>
      x.world.world.transactions.map (·.amount) = [400, 300, 500] &&
        x.world.world.transactions.all fun txn => txn.payeeId.isNone = (txn.amount ≠ 500)) =
      true := by decide +kernel
  obtain ⟨x, hx, hend⟩ := (Option.any_eq_true ..).mp hrun
  rw [Bool.and_eq_true, decide_eq_true_eq, List.all_eq_true] at hend
  obtain ⟨hamounts, hpayees⟩ := hend
  have hreach := reach_of_run sampleExec .refl hx
  refine ⟨x, hreach, hamounts, fun txn htxn => ?_⟩
  have hpayee : (txn.payeeId.isNone = true) = (txn.amount ≠ 500) :=
    of_decide_eq_true (hpayees txn htxn)
  rcases transfers_authorized hreach htxn with hby | hby
  · refine ⟨fun _ => hby, fun hne => ?_⟩
    rw [← hpayee, Option.isNone_iff_eq_none] at hne
    exact absurd hne (payeeId_of_byPayee hby)
  · refine ⟨fun heq => ?_, fun _ => hby⟩
    have hnone := payeeId_of_byPhone hby
    rw [← Option.isNone_iff_eq_none, hpayee] at hnone
    exact absurd heq hnone

end SitBank.Banking.Staged
