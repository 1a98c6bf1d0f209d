import Mathlib.Data.List.Nodup
import SitBank.Browser.Timeouts

/-!
Rows of browser sessions, with at most one live row for each user.

A row is live for a user when it is active and its payload is authenticated as the user.
The lemmas say what may happen to the rows of a table: they fade, a row without a payload
is added, or the row of the open session is written.
-/

namespace SitBank.Browser

open SitBank.Sessions (EndReason)

/-- Active, and authenticated as the user. -/
def live (user : ℕ) (clock : ℤ) (r : Record) : Bool :=
  State.isActive user clock r && r.payload.any fun items => items.userId = some user

/-- The session goes back to the latest authentication of the user that the rows know. -/
def Latest (history : List Event) (rows : List Record) (user sid : ℕ) : Prop :=
  ∃ a, origin sid history = some a ∧ ∀ r ∈ rows, r.userId = some user →
    ∀ a', .authenticated r.sid a' ∈ history → a' ≤ a

/-- What the committed rows, and those of the transaction, satisfy. -/
structure Rows (history : List Event) (clock : ℤ) (nextSid : ℕ) (rows : List Record) : Prop where
  distinct : (rows.map Record.sid).Nodup
  numbered : ∀ r ∈ rows, r.sid < nextSid
  columns : ∀ r ∈ rows, ∀ items ∈ r.payload, ∀ user ∈ items.userId, r.userId = some user
  unsigned : ∀ r ∈ rows, ∀ items ∈ r.payload, items.pendingMfaUserId.isSome →
    ∀ a, .authenticated r.sid a ∉ history
  unique : ∀ user, ∀ r ∈ rows, ∀ r' ∈ rows, live user clock r → live user clock r' →
    r.sid = r'.sid
  latest : ∀ user, ∀ r ∈ rows, live user clock r → Latest history rows user r.sid

/-- An id is authenticated once, and its origin is that authentication. -/
structure Logins (history : List Event) (clock : ℤ) (nextSid : ℕ) : Prop where
  past : ∀ sid a, .authenticated sid a ∈ history → a ≤ clock
  numbered : ∀ sid a, .authenticated sid a ∈ history → sid < nextSid
  direct : ∀ sid a, .authenticated sid a ∈ history → origin sid history = some a

section Rows

variable {history : List Event} {clock : ℤ} {nextSid : ℕ} {rows : List Record} {user : ℕ}

theorem live_iff {r : Record} : live user clock r ↔ r.userId = some user ∧ r.ended = none ∧
    clock < r.expiresAt ∧ ∃ items, r.payload = some items ∧ items.userId = some user := by
  cases hpayload : r.payload with
  | none => simp [live, State.isActive, hpayload]
  | some items => simp [live, State.isActive, hpayload, and_assoc]

theorem live_later {r : Record} {clock' : ℤ} (hle : clock ≤ clock') (h : live user clock' r) :
    live user clock r := by
  obtain ⟨huser, hended, hexpires, hitems⟩ := live_iff.mp h
  exact live_iff.mpr ⟨huser, hended, by omega, hitems⟩

/-- A record that loses nothing but its liveness. -/
structure Fades (r r' : Record) : Prop where
  sid : r'.sid = r.sid
  userId : r'.userId = r.userId
  payload : ∀ items ∈ r'.payload, items ∈ r.payload
  live : ∀ user clock, live user clock r' → live user clock r

theorem Fades.refl (r : Record) : Fades r r := ⟨rfl, rfl, fun _ h => h, fun _ _ h => h⟩

theorem fades_endSessionRecord (reason : EndReason) (r : Record) :
    Fades r (State.endSessionRecord reason r) := by
  unfold State.endSessionRecord
  split
  · exact .refl r
  · refine ⟨rfl, rfl, fun items hitems => ?_, fun user clock h => ?_⟩
    · exact absurd hitems (Option.not_mem_none items)
    · cases (live_iff.mp h).2.1

theorem not_live_endSessionRecord (reason : EndReason) (r : Record) :
    ¬live user clock (State.endSessionRecord reason r) := by
  intro h
  obtain ⟨-, hended, -⟩ := live_iff.mp h
  unfold State.endSessionRecord at hended
  split at hended
  · next hsome =>
      rw [hended] at hsome
      cases hsome
  · cases hended

theorem Latest.fade {f : Record → Record} (hf : ∀ r ∈ rows, Fades r (f r)) {sid : ℕ}
    (h : Latest history rows user sid) : Latest history (rows.map f) user sid := by
  obtain ⟨a, horigin, hlatest⟩ := h
  refine ⟨a, horigin, fun r hr huser a' ha' => ?_⟩
  obtain ⟨r₀, hr₀, rfl⟩ := List.mem_map.mp hr
  rw [(hf r₀ hr₀).userId] at huser
  rw [(hf r₀ hr₀).sid] at ha'
  exact hlatest r₀ hr₀ huser a' ha'

theorem Rows.fade (h : Rows history clock nextSid rows) {f : Record → Record}
    (hf : ∀ r ∈ rows, Fades r (f r)) : Rows history clock nextSid (rows.map f) where
  distinct := by
    have hsids : (rows.map f).map Record.sid = rows.map Record.sid := by
      rw [List.map_map]
      exact List.map_congr_left fun r hr => (hf r hr).sid
    rw [hsids]
    exact h.distinct
  numbered r hr := by
    obtain ⟨r₀, hr₀, rfl⟩ := List.mem_map.mp hr
    rw [(hf r₀ hr₀).sid]
    exact h.numbered r₀ hr₀
  columns r hr items hitems user huser := by
    obtain ⟨r₀, hr₀, rfl⟩ := List.mem_map.mp hr
    rw [(hf r₀ hr₀).userId]
    exact h.columns r₀ hr₀ items ((hf r₀ hr₀).payload items hitems) user huser
  unsigned r hr items hitems hpending a ha := by
    obtain ⟨r₀, hr₀, rfl⟩ := List.mem_map.mp hr
    rw [(hf r₀ hr₀).sid] at ha
    exact h.unsigned r₀ hr₀ items ((hf r₀ hr₀).payload items hitems) hpending a ha
  unique user r hr r' hr' hlive hlive' := by
    obtain ⟨r₀, hr₀, rfl⟩ := List.mem_map.mp hr
    obtain ⟨r₁, hr₁, rfl⟩ := List.mem_map.mp hr'
    rw [(hf r₀ hr₀).sid, (hf r₁ hr₁).sid]
    exact h.unique user r₀ hr₀ r₁ hr₁ ((hf r₀ hr₀).live _ _ hlive) ((hf r₁ hr₁).live _ _ hlive')
  latest user r hr hlive := by
    obtain ⟨r₀, hr₀, rfl⟩ := List.mem_map.mp hr
    rw [(hf r₀ hr₀).sid]
    exact (h.latest user r₀ hr₀ ((hf r₀ hr₀).live _ _ hlive)).fade hf

theorem Rows.later (h : Rows history clock nextSid rows) {clock' : ℤ} (hle : clock ≤ clock') :
    Rows history clock' nextSid rows where
  distinct := h.distinct
  numbered := h.numbered
  columns := h.columns
  unsigned := h.unsigned
  unique user r hr r' hr' hlive hlive' :=
    h.unique user r hr r' hr' (live_later hle hlive) (live_later hle hlive')
  latest user r hr hlive := h.latest user r hr (live_later hle hlive)

theorem Latest.extend {history' : List Event} {sid : ℕ} (h : Latest history rows user sid)
    (horigin : origin sid history' = origin sid history)
    (hsigned : ∀ r ∈ rows, ∀ a, .authenticated r.sid a ∈ history' →
      .authenticated r.sid a ∈ history) :
    Latest history' rows user sid := by
  obtain ⟨a, ha, hlatest⟩ := h
  exact ⟨a, horigin.trans ha, fun r hr huser a' ha' => hlatest r hr huser a' (hsigned r hr a' ha')⟩

/-- Events that are not about the ids of the rows. -/
theorem Rows.extend (h : Rows history clock nextSid rows) {history' : List Event} {nextSid' : ℕ}
    (hnext : nextSid ≤ nextSid')
    (horigin : ∀ r ∈ rows, origin r.sid history' = origin r.sid history)
    (hsigned : ∀ r ∈ rows, ∀ a, .authenticated r.sid a ∈ history' →
      .authenticated r.sid a ∈ history) :
    Rows history' clock nextSid' rows where
  distinct := h.distinct
  numbered r hr := (h.numbered r hr).trans_le hnext
  columns := h.columns
  unsigned r hr items hitems hpending a ha :=
    h.unsigned r hr items hitems hpending a (hsigned r hr a ha)
  unique := h.unique
  latest user r hr hlive := (h.latest user r hr hlive).extend (horigin r hr) hsigned

/-- A new record without a payload, of a user without a live session. -/
theorem Rows.append (h : Rows history clock nextSid rows) {r : Record}
    (hnew : ∀ r' ∈ rows, r'.sid ≠ r.sid) (hlt : r.sid < nextSid) (hpayload : r.payload = none)
    (hnone : ∀ user ∈ r.userId, ∀ r' ∈ rows, ¬live user clock r') :
    Rows history clock nextSid (rows ++ [r]) := by
  -- without a payload the new row is live for nobody
  have hdead : ∀ user, ¬live user clock r := by
    intro user hlive
    obtain ⟨-, -, -, items, hitems, -⟩ := live_iff.mp hlive
    rw [hpayload] at hitems
    cases hitems
  have hold : ∀ r' ∈ rows ++ [r], ∀ items ∈ r'.payload, r' ∈ rows := by
    intro r' hr' items hitems
    rcases List.mem_append.mp hr' with hr' | hr'
    · exact hr'
    · rw [List.mem_singleton.mp hr', hpayload] at hitems
      cases hitems
  have hliving : ∀ user, ∀ r' ∈ rows ++ [r], live user clock r' → r' ∈ rows := by
    intro user r' hr' hlive
    obtain ⟨-, -, -, items, hitems, -⟩ := live_iff.mp hlive
    exact hold r' hr' items hitems
  exact {
    distinct := by
      rw [List.map_append, List.nodup_append]
      refine ⟨h.distinct, List.pairwise_singleton _ _, ?_⟩
      intro sid hsid sid' hsid'
      obtain ⟨r', hr', rfl⟩ := List.mem_map.mp hsid
      rw [List.mem_singleton.mp hsid']
      exact hnew r' hr'
    numbered := by
      intro r' hr'
      rcases List.mem_append.mp hr' with hr' | hr'
      · exact h.numbered r' hr'
      · rw [List.mem_singleton.mp hr']
        exact hlt
    columns := fun r' hr' items hitems => h.columns r' (hold r' hr' items hitems) items hitems
    unsigned := fun r' hr' items hitems => h.unsigned r' (hold r' hr' items hitems) items hitems
    unique := fun user r' hr' r'' hr'' hlive hlive' =>
      h.unique user r' (hliving user r' hr' hlive) r'' (hliving user r'' hr'' hlive') hlive hlive'
    latest := by
      intro user r' hr' hlive
      have hr₀ := hliving user r' hr' hlive
      obtain ⟨a, horigin, hlatest⟩ := h.latest user r' hr₀ hlive
      refine ⟨a, horigin, fun r'' hr'' huser => ?_⟩
      rcases List.mem_append.mp hr'' with hr'' | hr''
      · exact hlatest r'' hr'' huser
      · rw [List.mem_singleton.mp hr''] at huser
        exact absurd hlive (hnone user huser r' hr₀) }

/-- A record that is written for the open session with these entries. -/
structure Claimed (history : List Event) (sid : ℕ) (items : Items) (r : Record) : Prop where
  same : r.sid = sid
  payload : ∀ i ∈ r.payload, i.userId = items.userId ∧
    (i.pendingMfaUserId.isSome → ∀ a, .authenticated sid a ∉ history)
  column : ∀ user ∈ items.userId, r.userId = some user
  foreign : ∀ user ∈ r.userId, items.userId = some user ∨ ∀ a, .authenticated sid a ∉ history

section Claims

variable {sid : ℕ} {items : Items} {f : Record → Record}

theorem Latest.claim (hlogins : Logins history clock nextSid)
    (hf : ∀ r ∈ rows, r.sid = sid → Claimed history sid items (f r)) {s : ℕ}
    (h : Latest history rows user s) (hsid : items.userId = some user → s = sid) :
    Latest history (rows.map fun r => if r.sid = sid then f r else r) user s := by
  obtain ⟨a, horigin, hlatest⟩ := h
  refine ⟨a, horigin, fun r hr huser a' ha' => ?_⟩
  obtain ⟨r₀, hr₀, rfl⟩ := List.mem_map.mp hr
  by_cases heq : r₀.sid = sid
  · rw [if_pos heq] at huser ha'
    have hclaimed := hf r₀ hr₀ heq
    rw [hclaimed.same] at ha'
    rcases hclaimed.foreign user huser with hown | hunsigned
    · rw [hsid hown, hlogins.direct sid a' ha'] at horigin
      cases horigin
      exact le_rfl
    · exact absurd ha' (hunsigned a')
  · rw [if_neg heq] at huser ha'
    exact hlatest r₀ hr₀ huser a' ha'

theorem Rows.claim (h : Rows history clock nextSid rows) (hlogins : Logins history clock nextSid)
    (hf : ∀ r ∈ rows, r.sid = sid → Claimed history sid items (f r))
    (hrecent : ∀ user ∈ items.userId, Latest history rows user sid)
    (hown : ∀ user ∈ items.userId, ∀ r ∈ rows, live user clock r → r.sid = sid) :
    Rows history clock nextSid (rows.map fun r => if r.sid = sid then f r else r) := by
  have hkept : ∀ r ∈ rows, (if r.sid = sid then f r else r).sid = r.sid := by
    intro r hr
    split
    · next heq => rw [(hf r hr heq).same, heq]
    · rfl
  -- A live row is that of the open session, or was live before.
  have hliving : ∀ user, ∀ r ∈ rows, live user clock (if r.sid = sid then f r else r) →
      r.sid = sid ∧ items.userId = some user ∨ live user clock r ∧ items.userId ≠ some user := by
    intro user r hr hlive
    split at hlive
    · next heq =>
        obtain ⟨-, -, -, i, hi, huser⟩ := live_iff.mp hlive
        rw [((hf r hr heq).payload i hi).1] at huser
        exact .inl ⟨heq, huser⟩
    · next hne => exact .inr ⟨hlive, fun huser => hne (hown user huser r hr hlive)⟩
  exact {
    distinct := by
      have hsids : (rows.map fun r => if r.sid = sid then f r else r).map Record.sid =
          rows.map Record.sid := by
        rw [List.map_map]
        exact List.map_congr_left hkept
      rw [hsids]
      exact h.distinct
    numbered := by
      intro r hr
      obtain ⟨r₀, hr₀, rfl⟩ := List.mem_map.mp hr
      rw [hkept r₀ hr₀]
      exact h.numbered r₀ hr₀
    columns := by
      intro r hr i hi user huser
      obtain ⟨r₀, hr₀, rfl⟩ := List.mem_map.mp hr
      by_cases heq : r₀.sid = sid
      · rw [if_pos heq] at hi ⊢
        rw [((hf r₀ hr₀ heq).payload i hi).1] at huser
        exact (hf r₀ hr₀ heq).column user huser
      · rw [if_neg heq] at hi ⊢
        exact h.columns r₀ hr₀ i hi user huser
    unsigned := by
      intro r hr i hi hpending a ha
      obtain ⟨r₀, hr₀, rfl⟩ := List.mem_map.mp hr
      by_cases heq : r₀.sid = sid
      · rw [if_pos heq] at hi ha
        rw [(hf r₀ hr₀ heq).same] at ha
        exact ((hf r₀ hr₀ heq).payload i hi).2 hpending a ha
      · rw [if_neg heq] at hi ha
        exact h.unsigned r₀ hr₀ i hi hpending a ha
    unique := by
      intro user r hr r' hr' hlive hlive'
      obtain ⟨r₀, hr₀, rfl⟩ := List.mem_map.mp hr
      obtain ⟨r₁, hr₁, rfl⟩ := List.mem_map.mp hr'
      rw [hkept r₀ hr₀, hkept r₁ hr₁]
      rcases hliving user r₀ hr₀ hlive with ⟨hsid, huser⟩ | ⟨hold, hother⟩
      · rcases hliving user r₁ hr₁ hlive' with ⟨hsid', -⟩ | ⟨-, hother⟩
        · rw [hsid, hsid']
        · exact absurd huser hother
      · rcases hliving user r₁ hr₁ hlive' with ⟨-, huser⟩ | ⟨hold', -⟩
        · exact absurd huser hother
        · exact h.unique user r₀ hr₀ r₁ hr₁ hold hold'
    latest := by
      intro user r hr hlive
      obtain ⟨r₀, hr₀, rfl⟩ := List.mem_map.mp hr
      rw [hkept r₀ hr₀]
      rcases hliving user r₀ hr₀ hlive with ⟨hsid, huser⟩ | ⟨hold, hother⟩
      · rw [hsid]
        exact (hrecent user huser).claim hlogins hf fun _ => rfl
      · exact (h.latest user r₀ hr₀ hold).claim hlogins hf fun huser => absurd huser hother }

end Claims

end Rows

end SitBank.Browser
