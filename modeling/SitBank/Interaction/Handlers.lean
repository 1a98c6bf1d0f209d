import Mathlib.Order.Monotone.Defs
import SitBank.Interaction.Machine

/-!
Request handlers that work on a copy of their browser's session.

What is wanted of such handlers is often that a fact does not appear from nowhere: a
session says something only after something else has happened. Such facts last. A world is
later than another one if everything that has happened there has happened here too, and
what is known stays known (`Monotone`).

`Contract` says of each operation what has to be known before it and what is known
afterwards. Handlers are checked against a contract alone (`Contract.Serves`), as if nobody
else were there; that other requests act in between is no concern, because their operations
lead to later worlds as well. `Contract.reach_sessions` puts the requests together: each of
them loads some session that its browser had before, or a new one, and saves it at its end.
-/

namespace SitBank.Interaction

universe u

variable {Op : Type u} {Res : Op → Type} {ε α β S W C : Type}

/-- A program with a session in its hands. What it has changed in the session stays changed
when it raises an exception. -/
def Handler (Op : Type u) (Res : Op → Type) (ε S α : Type) : Type u :=
  S → Prog Op Res ε (Except ε α × S)

namespace Handler

def ret (a : α) : Handler Op Res ε S α := fun s => .ret (.ok a, s)

def throw (e : ε) : Handler Op Res ε S α := fun s => .ret (.error e, s)

/-- The session. -/
def get : Handler Op Res ε S S := fun s => .ret (.ok s, s)

def modify (f : S → S) : Handler Op Res ε S Unit := fun s => .ret (.ok (), f s)

/-- One operation; its error answers are raised. -/
def perform (o : Op) : Handler Op Res ε S (Res o) := fun s => .op o fun r => .ret (r, s)

/-- Go on with the result, or give up. -/
def proceed (f : α → Handler Op Res ε S β) : Except ε α × S → Prog Op Res ε (Except ε β × S)
  | (.ok a, s) => f a s
  | (.error e, s) => .ret (.error e, s)

def recover (h : ε → Handler Op Res ε S α) : Except ε α × S → Prog Op Res ε (Except ε α × S)
  | (.ok a, s) => .ret (.ok a, s)
  | (.error e, s) => h e s

instance : Monad (Handler Op Res ε S) where
  pure := ret
  bind m f := fun s => (m s).bind (proceed f)

/-- `try m except e: h e`. -/
def tryCatch (m : Handler Op Res ε S α) (h : ε → Handler Op Res ε S α) : Handler Op Res ε S α :=
  fun s => (m s).bind (recover h)

def raiseIf (c : Bool) (e : ε) : Handler Op Res ε S Unit := if c then throw e else ret ()

end Handler

/-! ### Histories -/

section Histories

variable {E : Type}

/-- Later worlds: time has passed, and more has happened. Histories have the newest event
first. -/
@[reducible] def laterBy (clock : W → ℕ) (history : W → List E) : Preorder W where
  le w w' := clock w ≤ clock w' ∧ history w <:+ history w'
  le_refl w := ⟨Nat.le_refl _, List.suffix_refl _⟩
  le_trans _ _ _ h h' := ⟨Nat.le_trans h.1 h'.1, h.2.trans h'.2⟩

/-- Every event was warranted by those before it. -/
def Honest (warrant : List E → E → Prop) : List E → Prop
  | [] => True
  | e :: h => warrant h e ∧ Honest warrant h

theorem Honest.of_mem {warrant : List E → E → Prop} {h : List E} (hh : Honest warrant h) {e : E}
    (he : e ∈ h) : ∃ h₁, e :: h₁ <:+ h ∧ warrant h₁ e := by
  induction h with
  | nil => cases he
  | cons e' h ih =>
      rcases List.mem_cons.mp he with rfl | he
      · exact ⟨h, List.suffix_refl _, hh.1⟩
      · obtain ⟨h₁, hsuffix, hwarrant⟩ := ih hh.2 he
        exact ⟨h₁, hsuffix.trans (List.suffix_cons e' h), hwarrant⟩

theorem Honest.older {warrant : List E → E → Prop} {h h₁ : List E} (hh : Honest warrant h)
    (hsuffix : h₁ <:+ h) : Honest warrant h₁ := by
  obtain ⟨newer, rfl⟩ := hsuffix
  induction newer with
  | nil => exact hh
  | cons e newer ih => exact ih hh.2

theorem Honest.of_suffix {warrant : List E → E → Prop} {h : List E} (hh : Honest warrant h) {e : E}
    {h₁ : List E} (hsuffix : e :: h₁ <:+ h) : Honest warrant h₁ := (hh.older hsuffix).2

/-- Events in their order, the newest first. -/
theorem sublist_of_suffix {e : E} {h h₁ l : List E} (hsuffix : e :: h₁ <:+ h)
    (hl : List.Sublist l h₁) : List.Sublist (e :: l) h := (hl.cons_cons e).trans hsuffix.sublist

/-- Some events carry a number, and each number is drawn for one of them. -/
structure Numbered (number : E → Option ℕ) (next : ℕ) (h : List E) : Prop where
  below : ∀ e ∈ h, ∀ n, number e = some n → n < next
  unique : ∀ e ∈ h, ∀ e' ∈ h, ∀ n, number e = some n → number e' = some n → e = e'

theorem numbered_nil (number : E → Option ℕ) : Numbered number 0 [] where
  below _ he := absurd he List.not_mem_nil
  unique _ he := absurd he List.not_mem_nil

section Numbers

variable {number : E → Option ℕ} {next : ℕ} {h : List E} (hn : Numbered number next h) {e : E}

include hn

theorem Numbered.skip (he : number e = none) : Numbered number next (e :: h) := by
  have key : ∀ e' ∈ e :: h, ∀ n, number e' = some n → e' ∈ h := by
    intro e' he' n hnumber
    rcases List.mem_cons.mp he' with rfl | he'
    · rw [he] at hnumber
      cases hnumber
    · exact he'
  exact ⟨fun e' he' n hnumber => hn.below e' (key e' he' n hnumber) n hnumber,
    fun e' he' e'' he'' n hnumber hnumber' => hn.unique e' (key e' he' n hnumber) e''
      (key e'' he'' n hnumber') n hnumber hnumber'⟩

theorem Numbered.draw (he : number e = some next) : Numbered number (next + 1) (e :: h) := by
  refine ⟨fun e' he' n hnumber => ?_, fun e' he' e'' he'' n hnumber hnumber' => ?_⟩
  · rcases List.mem_cons.mp he' with rfl | he'
    · cases he.symm.trans hnumber
      exact Nat.lt_succ_self _
    · exact Nat.lt_succ_of_lt (hn.below e' he' n hnumber)
  · rcases List.mem_cons.mp he' with rfl | hold
    · cases he.symm.trans hnumber
      rcases List.mem_cons.mp he'' with rfl | hold'
      · rfl
      · exact absurd (hn.below e'' hold' _ hnumber') (Nat.lt_irrefl _)
    · rcases List.mem_cons.mp he'' with rfl | hold'
      · cases he.symm.trans hnumber'
        exact absurd (hn.below e' hold _ hnumber) (Nat.lt_irrefl _)
      · exact hn.unique e' hold e'' hold' n hnumber hnumber'

end Numbers

end Histories

/-! ### Contracts -/

variable [Preorder W]

/-- What has to be known before an operation, and what is known after it. -/
structure Contract (exec : Exec Op Res ε W C) (inv : W → Prop) where
  pre : Op → W → Prop
  post : (o : Op) → Except ε (Res o) → W → Prop
  lasts : ∀ o, Monotone (pre o)
  sound : ∀ t o c r w w', pre o w → inv w → exec t o c w = some (r, w') →
    w ≤ w' ∧ inv w' ∧ post o r w'

namespace Contract

variable {exec : Exec Op Res ε W C} {inv : W → Prop} (κ : Contract exec inv)

/-- Knowing what holds in `w`, the program may perform all its operations, and ends in `Q`. -/
def Meets : Prog Op Res ε α → (Except ε α → W → Prop) → W → Prop
  | .ret a, Q, w => Q (.ok a) w
  | .raise e, Q, w => Q (.error e) w
  | .op o k, Q, w => κ.pre o w ∧ ∀ r w', w ≤ w' → κ.post o r w' → Meets (k r) Q w'

/-- The end of a handler; the tree of a handler raises nothing. -/
def ends (Q : Except ε α → S → W → Prop) : Except ε (Except ε α × S) → W → Prop
  | .ok r, w => Q r.1 r.2 w
  | .error _, _ => False

/-- Knowing what holds in `w`, the handler may perform all its operations, and ends in `Q`. -/
def Serves (m : Handler Op Res ε S α) (Q : Except ε α → S → W → Prop) (s : S) (w : W) : Prop :=
  κ.Meets (m s) (ends Q) w

variable {κ}

theorem Meets.mono {p : Prog Op Res ε α} {Q Q' : Except ε α → W → Prop} {w : W}
    (h : κ.Meets p Q w) (hQ : ∀ r w', w ≤ w' → Q r w' → Q' r w') : κ.Meets p Q' w := by
  induction p generalizing w with
  | ret a => exact hQ _ _ le_rfl h
  | raise e => exact hQ _ _ le_rfl h
  | op o k ih =>
      refine ⟨h.1, fun r w' hle hpost => ih r (h.2 r w' hle hpost) fun r' w'' hle' hq => ?_⟩
      exact hQ r' w'' (hle.trans hle') hq

theorem Meets.bind {p : Prog Op Res ε α} {f : α → Prog Op Res ε β} {M : Except ε α → W → Prop}
    {Q : Except ε β → W → Prop} {w : W} (hp : κ.Meets p M w)
    (hok : ∀ a w', w ≤ w' → M (.ok a) w' → κ.Meets (f a) Q w')
    (herr : ∀ e w', w ≤ w' → M (.error e) w' → Q (.error e) w') : κ.Meets (p.bind f) Q w := by
  induction p generalizing w with
  | ret a => exact hok a w le_rfl hp
  | raise e => exact herr e w le_rfl hp
  | op o k ih =>
      refine ⟨hp.1, fun r w' hle hpost => ih r (hp.2 r w' hle hpost) ?_ ?_⟩
      · exact fun a w'' hle' => hok a w'' (hle.trans hle')
      · exact fun e w'' hle' => herr e w'' (hle.trans hle')

/-- Every step leads to a later world and keeps the invariant. That is all that is known of
the others. -/
def onward (inv : W → Prop) : Rules Op W where
  rely _ w w' := w ≤ w'
  guar _ w w' := w ≤ w'
  inv := inv
  cond _ _ _ := True

theorem onward_sound : (onward inv : Rules Op W).Sound where
  refl _ w := le_refl w
  trans _ _ _ _ h h' := le_trans h h'
  others _ _ _ _ _ _ h := h

/-- What is checked against the contract holds among other requests. -/
theorem Meets.holds {p : Prog Op Res ε α} {Q : Except ε α → W → Prop} {w : W}
    (h : κ.Meets p Q w) (t : ℕ) : Holds exec (onward inv) t p Q w := by
  induction p generalizing w with
  | ret a => exact h
  | raise e => exact h
  | op o k ih =>
      intro w₁ hle hinv _ c r w₂ he
      obtain ⟨hle', hinv', hpost⟩ := κ.sound t o c r w₁ w₂ (κ.lasts o hle h.1) hinv he
      exact ⟨hle', hinv', ih r (h.2 r w₂ (hle.trans hle') hpost)⟩

theorem Meets.perform {o : Op} {Q : Except ε (Res o) → W → Prop} {w : W} (hpre : κ.pre o w)
    (hQ : ∀ r w', w ≤ w' → κ.post o r w' → Q r w') : κ.Meets (Prog.perform o) Q w := by
  refine ⟨hpre, fun r w' hle hpost => ?_⟩
  cases r <;> exact hQ _ w' hle hpost

/-- In every run of programs that are checked against the contract, the invariant is kept. -/
theorem reach_inv {x y : Conf Op Res ε α W} (hx : inv x.world)
    (hp : ∀ t, κ.Meets (x.prog t) (fun _ _ => True) x.world)
    (hy : Reach exec (fun _ _ _ => True) x y) : inv y.world :=
  (reach_holds (ρ := onward inv) onward_sound ⟨hx, fun t => (hp t).holds t⟩ hy).1

/-! ### Rules for handlers -/

section Rules

variable {Q : Except ε α → S → W → Prop} {s : S} {w : W}

theorem Serves.mono {m : Handler Op Res ε S α} {Q' : Except ε α → S → W → Prop}
    (h : κ.Serves m Q s w) (hQ : ∀ r s' w', w ≤ w' → Q r s' w' → Q' r s' w') :
    κ.Serves m Q' s w := by
  refine Meets.mono h fun r w' hle hends => ?_
  cases r with
  | ok r => exact hQ r.1 r.2 w' hle hends
  | error e => exact hends

theorem Serves.bind {m : Handler Op Res ε S β} {f : β → Handler Op Res ε S α}
    {M : Except ε β → S → W → Prop} (hm : κ.Serves m M s w)
    (hok : ∀ b s' w', w ≤ w' → M (.ok b) s' w' → κ.Serves (f b) Q s' w')
    (herr : ∀ e s' w', w ≤ w' → M (.error e) s' w' → Q (.error e) s' w') :
    κ.Serves (m >>= f) Q s w := by
  refine Meets.bind hm (fun r w' hle hends => ?_) fun _ _ _ hends => absurd hends not_false
  obtain ⟨r, s'⟩ := r
  cases r with
  | ok b => exact hok b s' w' hle hends
  | error e => exact herr e s' w' hle hends

theorem Serves.tryCatch {m : Handler Op Res ε S α} {h : ε → Handler Op Res ε S α}
    {M : Except ε α → S → W → Prop} (hm : κ.Serves m M s w)
    (hok : ∀ a s' w', w ≤ w' → M (.ok a) s' w' → Q (.ok a) s' w')
    (herr : ∀ e s' w', w ≤ w' → M (.error e) s' w' → κ.Serves (h e) Q s' w') :
    κ.Serves (Handler.tryCatch m h) Q s w := by
  refine Meets.bind hm (fun r w' hle hends => ?_) fun _ _ _ hends => absurd hends not_false
  obtain ⟨r, s'⟩ := r
  cases r with
  | ok a => exact hok a s' w' hle hends
  | error e => exact herr e s' w' hle hends

theorem Serves.get_bind {f : S → Handler Op Res ε S α} (h : κ.Serves (f s) Q s w) :
    κ.Serves (Handler.get >>= f) Q s w := h

theorem Serves.modify {g : S → S} {Q : Except ε Unit → S → W → Prop} (h : Q (.ok ()) (g s) w) :
    κ.Serves (Handler.modify g) Q s w := h

theorem Serves.perform_bind {o : Op} {f : Res o → Handler Op Res ε S α} (hpre : κ.pre o w)
    (hok : ∀ b w', w ≤ w' → κ.post o (.ok b) w' → κ.Serves (f b) Q s w')
    (herr : ∀ e w', w ≤ w' → κ.post o (.error e) w' → Q (.error e) s w') :
    κ.Serves (Handler.perform o >>= f) Q s w := by
  refine ⟨hpre, fun r w' hle hpost => ?_⟩
  cases r with
  | ok b => exact hok b w' hle hpost
  | error e => exact herr e w' hle hpost

theorem Serves.perform {o : Op} {Q : Except ε (Res o) → S → W → Prop} (hpre : κ.pre o w)
    (hQ : ∀ r w', w ≤ w' → κ.post o r w' → Q r s w') : κ.Serves (Handler.perform o) Q s w :=
  ⟨hpre, hQ⟩

theorem Serves.raiseIf_bind {c : Bool} {e : ε} {f : Unit → Handler Op Res ε S α}
    (hraise : c = true → Q (.error e) s w) (hpass : c = false → κ.Serves (f ()) Q s w) :
    κ.Serves (Handler.raiseIf c e >>= f) Q s w := by
  cases c with
  | true => exact hraise rfl
  | false => exact hpass rfl

end Rules

/-! ### Handlers that keep something of the session -/

/-- The session is kept in order, and if the handler returns, so is its result. -/
def keeping (K : S → W → Prop) (V : α → S → W → Prop) : Except ε α → S → W → Prop
  | .ok a, s, w => K s w ∧ V a s w
  | .error _, s, w => K s w

section Keeping

variable {K : S → W → Prop} {V : α → S → W → Prop} {s : S} {w : W}

theorem Serves.next {m : Handler Op Res ε S β} {f : β → Handler Op Res ε S α}
    {M : β → S → W → Prop} (hm : κ.Serves m (keeping K M) s w)
    (hf : ∀ b s' w', w ≤ w' → K s' w' → M b s' w' → κ.Serves (f b) (keeping K V) s' w') :
    κ.Serves (m >>= f) (keeping K V) s w :=
  hm.bind (fun b s' w' hle hb => hf b s' w' hle hb.1 hb.2) fun _ _ _ _ he => he

theorem Serves.act {o : Op} {f : Res o → Handler Op Res ε S α} (hK : Monotone (K s)) (hs : K s w)
    (hpre : κ.pre o w)
    (hf : ∀ b w', w ≤ w' → K s w' → κ.post o (.ok b) w' → κ.Serves (f b) (keeping K V) s w') :
    κ.Serves (Handler.perform o >>= f) (keeping K V) s w :=
  .perform_bind hpre (fun b w' hle hpost => hf b w' hle (hK hle hs) hpost)
    fun _ _ hle _ => hK hle hs

theorem Serves.last {o : Op} {V : Res o → S → W → Prop} (hK : Monotone (K s)) (hs : K s w)
    (hpre : κ.pre o w)
    (hV : ∀ b w', w ≤ w' → K s w' → κ.post o (.ok b) w' → V b s w') :
    κ.Serves (Handler.perform o) (keeping K V) s w := by
  refine .perform hpre fun r w' hle hpost => ?_
  cases r with
  | ok b => exact ⟨hK hle hs, hV b w' hle (hK hle hs) hpost⟩
  | error e => exact hK hle hs

theorem Serves.change {g : S → S} {f : Unit → Handler Op Res ε S α}
    (h : κ.Serves (f ()) (keeping K V) (g s) w) :
    κ.Serves (Handler.modify g >>= f) (keeping K V) s w := h

theorem Serves.unless {c : Bool} {e : ε} {f : Unit → Handler Op Res ε S α} (hs : K s w)
    (hf : c = false → κ.Serves (f ()) (keeping K V) s w) :
    κ.Serves (Handler.raiseIf c e >>= f) (keeping K V) s w :=
  .raiseIf_bind (fun _ => hs) hf

end Keeping

end Contract

/-! ### Requests of many browsers -/

/-- The sessions that requests have saved, each with its browser. -/
structure Site (S W : Type) where
  saved : List (ℕ × S)
  world : W

/-- The shared part of the world decides what is later. -/
instance : Preorder (Site S W) := Preorder.lift Site.world

inductive VisitOp (S : Type) (Op : Type u) : Type u
  | load
  | save (s : S)
  | act (o : Op)

def VisitRes (S : Type) (Res : Op → Type) : VisitOp S Op → Type
  | .load => S
  | .save _ => Unit
  | .act o => Res o

/-- Request `t` comes from `browser t`. Which of the sessions saved for that browser it loads
is left open: the last one, one that another request has replaced meanwhile, or none, and
then it gets a blank one. -/
def visitExec (browser : ℕ → ℕ) (blank : ℕ → W → S × W) (exec : Exec Op Res ε W C) :
    Exec (VisitOp S Op) (VisitRes S Res) ε (Site S W) (ℕ × C)
  | t, .load, c, x =>
      match (x.saved.filter fun e => e.1 = browser t)[c.1]? with
      | some e => some (.ok e.2, x)
      | none =>
          let new := blank (browser t) x.world
          some (.ok new.1, { x with world := new.2 })
  | t, .save s, _, x => some (.ok (), { x with saved := (browser t, s) :: x.saved })
  | t, .act o, c, x => (exec t o c.2 x.world).map fun r => (r.1, { x with world := r.2 })

def Prog.lift : Prog Op Res ε α → Prog (VisitOp S Op) (VisitRes S Res) ε α
  | .ret a => .ret a
  | .raise e => .raise e
  | .op o k => .op (.act o) fun r => (k r).lift

/-- The session is saved whatever the handler ends in. -/
def visit (m : Handler Op Res ε S α) : Prog (VisitOp S Op) (VisitRes S Res) ε Unit :=
  (Prog.perform (.load : VisitOp S Op)).bind fun s =>
    (m s).lift.bind fun r => Prog.perform (.save r.2 : VisitOp S Op)

abbrev VisitConf (Op : Type u) (Res : Op → Type) (ε S W : Type) :=
  Conf (VisitOp S Op) (VisitRes S Res) ε Unit (Site S W)

/-- No session yet, and any number of requests that have not started. -/
def opening (w : W) (m : ℕ → Handler Op Res ε S Unit) : VisitConf Op Res ε S W where
  world := ⟨[], w⟩
  prog t := visit (m t)

namespace Contract

variable {exec : Exec Op Res ε W C} {inv : W → Prop} (κ : Contract exec inv)

/-- What is known of the sessions: `J w b s` of a session `s` of browser `b`. -/
structure Trusted (inv : W → Prop) (blank : ℕ → W → S × W) (J : W → ℕ → S → Prop) : Prop where
  lasts : ∀ b s, Monotone fun w => J w b s
  opens : ∀ w b, inv w → w ≤ (blank b w).2 ∧ inv (blank b w).2 ∧ J (blank b w).2 b (blank b w).1

variable {browser : ℕ → ℕ} {blank : ℕ → W → S × W} {J : W → ℕ → S → Prop}

def siteInv (inv : W → Prop) (J : W → ℕ → S → Prop) (x : Site S W) : Prop :=
  inv x.world ∧ ∀ e ∈ x.saved, J x.world e.1 e.2

/-- A program that is checked against the contract, among requests that load and save. -/
theorem Meets.holds_lift (hJ : Trusted inv blank J) {κ : Contract exec inv}
    {p : Prog Op Res ε α} {Q : Except ε α → W → Prop} (t : ℕ) (x : Site S W)
    (h : κ.Meets p Q x.world) :
    Holds (visitExec browser blank exec) (onward (siteInv inv J)) t p.lift
      (fun r x' => Q r x'.world) x := by
  induction p generalizing x with
  | ret a => exact h
  | raise e => exact h
  | op o k ih =>
      intro x₁ hle hinv _ c r x₂ he
      obtain ⟨⟨r', w'⟩, he', heq⟩ := Option.map_eq_some_iff.mp he
      cases heq
      obtain ⟨hle', hinv', hpost⟩ :=
        κ.sound t o c.2 r' x₁.world w' (κ.lasts o hle h.1) hinv.1 he'
      refine ⟨hle', ⟨hinv', fun e he => hJ.lasts e.1 e.2 hle' (hinv.2 e he)⟩, ih r' _ ?_⟩
      exact h.2 r' w' (le_trans hle hle') hpost

theorem holds_load (hJ : Trusted inv blank J) (t : ℕ) (x : Site S W) :
    Holds (visitExec browser blank exec) (onward (siteInv inv J)) t
      (Prog.perform (.load : VisitOp S Op))
      (fun r x' => ∀ s, r = .ok s → J x'.world (browser t) s) x := by
  refine Holds.perform fun x₁ _ hinv _ c r x₂ he => ?_
  dsimp only [visitExec] at he
  split at he
  · next e hfound =>
      -- a session of this browser that was saved before
      cases he
      obtain ⟨hmem, hbrowser⟩ := List.mem_filter.mp (List.mem_of_getElem? hfound)
      refine ⟨le_rfl, hinv, fun s hs => ?_⟩
      cases hs
      rw [← of_decide_eq_true hbrowser]
      exact hinv.2 e hmem
  · cases he
    obtain ⟨hle, hinv', hnew⟩ := hJ.opens x₁.world (browser t) hinv.1
    refine ⟨hle, ⟨hinv', fun e he => hJ.lasts e.1 e.2 hle (hinv.2 e he)⟩, fun s hs => ?_⟩
    cases hs
    exact hnew

theorem holds_save (hJ : Trusted inv blank J) (t : ℕ) {s : S} {x : Site S W}
    (h : J x.world (browser t) s) :
    Holds (visitExec browser blank exec) (onward (siteInv inv J)) t
      (Prog.perform (.save s : VisitOp S Op)) (fun _ _ => True) x := by
  refine Holds.perform fun x₁ hle hinv _ c r x₂ he => ?_
  cases he
  refine ⟨le_rfl, ⟨hinv.1, fun e he => ?_⟩, trivial⟩
  rcases List.mem_cons.mp he with rfl | he
  · exact hJ.lasts _ _ hle h
  · exact hinv.2 e he

/-- In every run of requests of any browsers, the invariant is kept, and every saved session
is as it should be, provided that each handler hands back such a session. -/
theorem reach_sessions (hJ : Trusted inv blank J) {m : ℕ → Handler Op Res ε S Unit}
    (hm : ∀ t s w, J w (browser t) s → κ.Serves (m t) (fun _ s' w' => J w' (browser t) s') s w)
    {w : W} (hw : inv w) {x : VisitConf Op Res ε S W}
    (hx : Reach (visitExec browser blank exec) (fun _ _ _ => True) (opening w m) x) :
    siteInv inv J x.world := by
  refine (reach_holds (ρ := onward (siteInv inv J)) onward_sound
    (x := opening w m) ⟨⟨hw, ?_⟩, ?_⟩ hx).1
  · exact fun e he => absurd he List.not_mem_nil
  · intro t
    refine (holds_load hJ t _).bind (fun s x₁ hs => ?_) fun _ _ _ => trivial
    refine (Meets.holds_lift hJ t x₁ (hm t s x₁.world (hs s rfl))).bind
      (fun r x₂ hr => holds_save hJ t hr) fun _ _ h => absurd h not_false

end Contract

end SitBank.Interaction
