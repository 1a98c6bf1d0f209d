import Mathlib.Data.Int.Notation
import SitBank.Interaction.Machine

/-!
A relational store under READ COMMITTED, seen through an object-relational
session.

Every request owns one session. The session keeps an identity map: a row that
was loaded keeps the attribute values of that moment until a commit or a
rollback expires them, also when a later `SELECT ... FOR UPDATE` returns the
same row. A row that is loaded brings the rows of its eager relationships along,
and these are instances from then on too. Attribute assignments are collected and
written by the commit, one `UPDATE` per dirty row that sets the columns whose value
differs from the loaded one. Row locks are held to the end of the transaction.

Two statements are atomic here that the database performs row by row: the lock
of several rows and the flush of several rows. In between, the database holds
the locks it already has and the committed state does not change, so the
committed states that can be reached are the same. An early flush of dirty rows
is not modelled either: it only takes locks earlier.
-/

namespace SitBank.Orm

open SitBank.Interaction

/-- The tables a store consists of. `Ins` are the rows of insert-only tables;
`Point` names the places of a program that a statement about it refers to. -/
structure Schema where
  Key : Type
  Row : Key → Type
  Ins : Type
  Point : Type
  decEq : DecidableEq Key
  /-- `merge k loaded current stored` is the stored row after an `UPDATE` of the
  columns in which `current` differs from `loaded`. -/
  merge : ∀ k, Row k → Row k → Row k → Row k
  /-- `CHECK` constraints of a row. -/
  rowOk : ∀ k, Row k → Bool
  /-- Uniqueness constraints: the second list may be appended to the first. -/
  insOk : List Ins → List Ins → Bool
  /-- The rows that are loaded together with a row (`lazy="selectin"`). -/
  brings : (∀ k, Option (Row k)) → Key → Key → Bool

instance (S : Schema) : DecidableEq S.Key := S.decEq

/-- A row in the identity map: its values when it was loaded (`none` for an
instance that was added and has no row yet), and its values now. -/
structure Entry (S : Schema) (k : S.Key) where
  loaded : Option (S.Row k)
  current : S.Row k

/-- The committed state. -/
structure Db (S : Schema) where
  row : ∀ k : S.Key, Option (S.Row k)
  log : List S.Ins

/-- The state of one request's session. -/
structure Session (S : Schema) where
  cache : ∀ k : S.Key, Option (Entry S k)
  dirty : List S.Key
  new : List S.Ins

def Session.empty (S : Schema) : Session S := ⟨fun _ => none, [], []⟩

structure World (S : Schema) where
  db : Db S
  lock : S.Key → Option ℕ
  sess : ℕ → Session S
  clock : ℤ

/-- Everything a request does not decide itself: whether a fallible step fails,
how much time passes after it, the identifier drawn by `uuid4` and the answer
of a component outside the model. -/
structure Choice where
  fail : Bool
  tick : ℕ
  fresh : String
  answer : Bool

inductive DbError
  | operational
  | integrity
  | noRow
  deriving DecidableEq, Repr

/-- Exceptions: those of the database layer, and the application's own. -/
inductive Exc (A : Type)
  | db (e : DbError)
  | app (a : A)
  deriving DecidableEq, Repr

/-- The operations of a request. `check`, the selections, `query` and `commit` can
fail; `load` can fail when the row has to be read. -/
inductive Op (S : Schema) (A : Type) : Type 1
  | load (k : S.Key)
  | select (q : Db S → Option S.Key)
  | selectAll (q : Db S → List S.Key)
  | lockRows (ks : List S.Key)
  | lockWhere (q : Db S → Option S.Key)
  | assign (k : S.Key) (f : S.Row k → S.Row k)
  | addRow (k : S.Key) (r : S.Row k)
  | add (i : S.Ins)
  | query (α : Type) (q : Db S → α)
  | commit
  | rollback
  | now
  | uuid4
  | ask
  | check (a : A)
  | mark (p : S.Point)

def Res (S : Schema) (A : Type) : Op S A → Type
  | .load k => S.Row k
  | .select _ => Option S.Key
  | .selectAll _ => List S.Key
  | .lockRows _ => Unit
  | .lockWhere _ => Option S.Key
  | .assign _ _ => Unit
  | .addRow _ _ => Unit
  | .add _ => Unit
  | .query α _ => α
  | .commit => Unit
  | .rollback => Unit
  | .now => ℤ
  | .uuid4 => String
  | .ask => Bool
  | .check _ => Unit
  | .mark _ => Unit

/-- Operations that leave the session's changes alone, or end its transaction. -/
def Op.passive {S : Schema} {A : Type} : Op S A → Prop
  | .assign _ _ => False
  | .addRow _ _ => False
  | .add _ => False
  | .mark _ => False
  | _ => True

abbrev Req (S : Schema) (A α : Type) := Prog (Op S A) (Res S A) (Exc A) α

/-- A program that changes nothing in the session. -/
abbrev Passive {S : Schema} {A α : Type} (p : Req S A α) : Prop := Prog.All Op.passive p

/-! ### The operations as programs -/

section Operations

variable {S : Schema} {A : Type}

def load (k : S.Key) : Req S A (S.Row k) := Prog.perform (Op.load k : Op S A)

def select (q : Db S → Option S.Key) : Req S A (Option S.Key) :=
  Prog.perform (Op.select q : Op S A)

def selectAll (q : Db S → List S.Key) : Req S A (List S.Key) :=
  Prog.perform (Op.selectAll q : Op S A)

def lockRows (ks : List S.Key) : Req S A Unit := Prog.perform (Op.lockRows ks : Op S A)

def lockWhere (q : Db S → Option S.Key) : Req S A (Option S.Key) :=
  Prog.perform (Op.lockWhere q : Op S A)

def assign (k : S.Key) (f : S.Row k → S.Row k) : Req S A Unit :=
  Prog.perform (Op.assign k f : Op S A)

def addRow (k : S.Key) (r : S.Row k) : Req S A Unit := Prog.perform (Op.addRow k r : Op S A)

def add (i : S.Ins) : Req S A Unit := Prog.perform (Op.add i : Op S A)

def query {α : Type} (q : Db S → α) : Req S A α := Prog.perform (Op.query α q : Op S A)

def commit : Req S A Unit := Prog.perform (Op.commit : Op S A)

def rollback : Req S A Unit := Prog.perform (Op.rollback : Op S A)

def now : Req S A ℤ := Prog.perform (Op.now : Op S A)

def uuid4 : Req S A String := Prog.perform (Op.uuid4 : Op S A)

/-- The answer of a component outside the model. -/
def ask : Req S A Bool := Prog.perform (Op.ask : Op S A)

/-- A step outside the database that may raise `a`. -/
def check (a : A) : Req S A Unit := Prog.perform (Op.check a : Op S A)

/-- The program is at the place `p`. -/
def mark (p : S.Point) : Req S A Unit := Prog.perform (Op.mark p : Op S A)

def raise {α : Type} (a : A) : Req S A α := .raise (.app a)

end Operations

section Semantics

variable {S : Schema} {A : Type}

/-- The stored row once the session's changes to it are written. -/
def Entry.write {k : S.Key} (e : Entry S k) : Option (S.Row k) → Option (S.Row k)
  | none => match e.loaded with
      | none => some e.current
      | some _ => none
  | some d => match e.loaded with
      | none => some d
      | some l => some (S.merge k l e.current d)

/-- An instance is changed. -/
def Session.put (s : Session S) (k : S.Key) (e : Entry S k) : Session S :=
  { s with cache := Function.update s.cache k (some e), dirty := k :: s.dirty }

/-- The committed state with the session's own changes. -/
def Session.apply (s : Session S) (d : Db S) : Db S where
  row k := if k ∈ s.dirty then
      match s.cache k with
      | none => d.row k
      | some e => e.write (d.row k)
    else d.row k
  log := d.log ++ s.new

/-- An added row whose key is already taken. -/
def Session.clashes (s : Session S) (d : Db S) (k : S.Key) : Bool :=
  match s.cache k, d.row k with
  | some ⟨none, _⟩, some _ => true
  | _, _ => false

/-- The constraints that the flush of a session checks. -/
def Session.admissible (s : Session S) (d : Db S) : Bool :=
  s.dirty.all (fun k => !s.clashes d k && ((s.apply d).row k).all (S.rowOk k)) &&
    S.insOk d.log s.new

namespace World

def setSess (w : World S) (t : ℕ) (s : Session S) : World S :=
  { w with sess := Function.update w.sess t s }

def tick (w : World S) (n : ℕ) : World S := { w with clock := w.clock + n }

/-- End of a transaction: locks are released and every instance expires. -/
def release (w : World S) (t : ℕ) : World S :=
  { w with
    lock := fun k => if w.lock k = some t then none else w.lock k
    sess := Function.update w.sess t (Session.empty S) }

def free (w : World S) (t : ℕ) (k : S.Key) : Bool :=
  w.lock k = none || w.lock k = some t

/-- The identity map after `k` was loaded: instances that were there stay as they
are. -/
def loaded (w : World S) (t : ℕ) (k j : S.Key) : Option (Entry S j) :=
  match (w.sess t).cache j with
  | some e => some e
  | none =>
      if j = k || S.brings w.db.row k j then (w.db.row j).map fun r => ⟨some r, r⟩ else none

/-- The row enters the identity map with what it brings, unless it is there
already. -/
def cacheRow (w : World S) (t : ℕ) (k : S.Key) : World S :=
  match (w.sess t).cache k, w.db.row k with
  | none, some _ => w.setSess t { w.sess t with cache := w.loaded t k }
  | _, _ => w

def lockRow (w : World S) (t : ℕ) (k : S.Key) : World S :=
  ({ w with lock := Function.update w.lock k (some t) }).cacheRow t k

def view (w : World S) (t : ℕ) : Db S := (w.sess t).apply w.db

end World

/-- A statement that fails takes the transaction with it. -/
def failed {α : Type} (w : World S) (t : ℕ) (e : DbError) :
    Option (Except (Exc A) α × World S) :=
  some (.error (.db e), w.release t)

def execLoad (t : ℕ) (k : S.Key) (c : Choice) (w : World S) :
    Option (Except (Exc A) (S.Row k) × World S) :=
  match (w.sess t).cache k with
  | some e => some (.ok e.current, w)
  | none =>
      if c.fail then failed w t .operational
      else match w.db.row k with
        | some r => some (.ok r, w.cacheRow t k)
        | none => some (.error (.db .noRow), w)

def execSelect (t : ℕ) (q : Db S → Option S.Key) (c : Choice) (w : World S) :
    Option (Except (Exc A) (Option S.Key) × World S) :=
  if c.fail then failed w t .operational
  else match q (w.view t) with
    | none => some (.ok none, w)
    | some k => some (.ok (some k), w.cacheRow t k)

def execSelectAll (t : ℕ) (q : Db S → List S.Key) (c : Choice) (w : World S) :
    Option (Except (Exc A) (List S.Key) × World S) :=
  if c.fail then failed w t .operational
  else some (.ok (q (w.view t)), (q (w.view t)).foldl (fun w k => w.cacheRow t k) w)

def execLockRows (t : ℕ) (ks : List S.Key) (c : Choice) (w : World S) :
    Option (Except (Exc A) Unit × World S) :=
  if c.fail then failed w t .operational
  else if ks.all (w.free t) then some (.ok (), ks.foldl (fun w k => w.lockRow t k) w)
  else none

/-- `SELECT ... WHERE ... FOR UPDATE`: the condition is evaluated again once the
lock is granted, so it is evaluated when the lock is available. -/
def execLockWhere (t : ℕ) (q : Db S → Option S.Key) (c : Choice) (w : World S) :
    Option (Except (Exc A) (Option S.Key) × World S) :=
  if c.fail then failed w t .operational
  else match q (w.view t) with
    | none => some (.ok none, w)
    | some k => if w.free t k then some (.ok (some k), w.lockRow t k) else none

def execAssign (t : ℕ) (k : S.Key) (f : S.Row k → S.Row k) (w : World S) :
    Option (Except (Exc A) Unit × World S) :=
  match (w.sess t).cache k with
  | none => some (.error (.db .noRow), w)
  | some e => some (.ok (), w.setSess t
      ((w.sess t).put k { e with current := f e.current }))

def execCommit (t : ℕ) (c : Choice) (w : World S) :
    Option (Except (Exc A) Unit × World S) :=
  if c.fail then failed w t .operational
  else if (w.sess t).dirty.all (w.free t) then
    if (w.sess t).admissible w.db then
      some (.ok (), ({ w with db := w.view t }).release t)
    else failed w t .integrity
  else none

/-- One operation of thread `t`. -/
def act (t : ℕ) (o : Op S A) (c : Choice) (w : World S) :
    Option (Except (Exc A) (Res S A o) × World S) :=
  match o with
  | .load k => execLoad t k c w
  | .select q => execSelect t q c w
  | .selectAll q => execSelectAll t q c w
  | .lockRows ks => execLockRows t ks c w
  | .lockWhere q => execLockWhere t q c w
  | .assign k f => execAssign t k f w
  | .addRow k r => some (.ok (), w.setSess t ((w.sess t).put k ⟨none, r⟩))
  | .add i => some (.ok (), w.setSess t { w.sess t with new := (w.sess t).new ++ [i] })
  | .query _ q => if c.fail then failed w t .operational else some (.ok (q (w.view t)), w)
  | .commit => execCommit t c w
  | .rollback => some (.ok (), w.release t)
  | .now => some (.ok w.clock, w)
  | .uuid4 => some (.ok c.fresh, w)
  | .ask => some (.ok c.answer, w)
  | .check a => if c.fail then some (.error (.app a), w) else some (.ok (), w)
  | .mark _ => some (.ok (), w)

/-- An operation, and the time that passes until the next one. -/
def exec (t : ℕ) (o : Op S A) (c : Choice) (w : World S) :
    Option (Except (Exc A) (Res S A o) × World S) :=
  (act t o c w).map fun r => (r.1, r.2.tick c.tick)

end Semantics

end SitBank.Orm
