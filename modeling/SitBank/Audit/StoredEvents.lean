import SitBank.Audit.Writer
import SitBank.Python.JsonReload
import SitBank.Redaction.Metadata

/-!
Audit events on their way through the database.

The metadata of an event is sanitized and hashed as it is in memory. The database keeps it as a
text, and the verification hashes what it reads from there. A string of which two neighbouring
surrogates become one character is written as before; a dictionary is, as long as its keys
compare as before (`keepsOrder`). Then the stored row has the hash of the event in memory
(`computeAuditEventHash_stored`).

A timestamp has microseconds on both sides, and its zone does not matter to the payload.
-/

namespace SitBank.Audit

open SitBank.Python SitBank.Redaction

/-! ### Sanitized metadata -/

mutual

/-- What `json.dumps` is given. No sanitized value is another object. -/
def valueJson : Value PyStr → Json
  | .scalar .null => .null
  | .scalar (.bool b) => .bool b
  | .scalar (.int n) => .int n
  | .scalar (.float x) => .float x
  | .text s => .str s
  | .other s => .str s
  | .mapping entries => .obj (entriesJson entries)
  | .sequence _ items => .arr (itemsJson items)

def entriesJson : List (PyStr × Value PyStr) → List (PyStr × Json)
  | [] => []
  | (key, value) :: entries => (key, valueJson value) :: entriesJson entries

def itemsJson : List (Value PyStr) → List Json
  | [] => []
  | value :: items => valueJson value :: itemsJson items

end

theorem entriesJson_eq (entries : List (PyStr × Value PyStr)) :
    entriesJson entries = entries.map fun p => (p.1, valueJson p.2) := by
  induction entries with
  | nil => rfl
  | cons p entries ih => rw [entriesJson, ih, List.map_cons]

theorem wellKeyedPairs_iff {pairs : List (PyStr × Json)} :
    wellKeyedPairs pairs = true ↔ ∀ p ∈ pairs, wellKeyed p.2 = true := by
  induction pairs with
  | nil => simp [wellKeyedPairs]
  | cons p pairs ih => simp [wellKeyedPairs, ih]

section Dict

variable {α : Type}

theorem keys_dictAfter (pairs : List (PyStr × α)) : ((dictAfter pairs).map Prod.fst).Nodup := by
  induction pairs with
  | nil => exact List.nodup_nil
  | cons p pairs ih =>
      have hsublist : ((dictAfter pairs).filter fun q => q.1 ≠ p.1).map Prod.fst |>.Sublist
          ((dictAfter pairs).map Prod.fst) := List.filter_sublist.map _
      rw [dictAfter, List.map_cons, List.nodup_cons]
      refine ⟨?_, hsublist.nodup ih⟩
      simp

theorem mem_of_lookup {key : PyStr} {value : α} {pairs : List (PyStr × α)}
    (h : pairs.lookup key = some value) : (key, value) ∈ pairs := by
  obtain ⟨before, after, rfl, -⟩ := List.lookup_eq_some_iff.mp h
  simp

/-- No value comes from nowhere. -/
theorem values_dictAfter {P : α → Prop} {pairs : List (PyStr × α)} (h : ∀ p ∈ pairs, P p.2) :
    ∀ p ∈ dictAfter pairs, P p.2 := by
  induction pairs with
  | nil => exact h
  | cons p pairs ih =>
      have hrest := ih fun q hq => h q (List.mem_cons_of_mem p hq)
      intro q hq
      rw [dictAfter] at hq
      rcases List.mem_cons.mp hq with rfl | hq
      · cases hlookup : (dictAfter pairs).lookup p.1 with
        | none => exact h p (List.mem_cons_self ..)
        | some value => exact hrest _ (mem_of_lookup hlookup)
      · exact hrest q (List.mem_of_mem_filter hq)

end Dict

/-- What Python can have in a dictionary: its keys are distinct, and its floats are given by
their `repr`. -/
structure JsonOk (floatOf : List Char → FloatText) (v : Json) : Prop where
  keyed : wellKeyed v = true
  floats : FloatReprs floatOf v

section Sanitized

variable {floatOf : List Char → FloatText}

theorem floatReprsPairs_iff {pairs : List (PyStr × Json)} :
    FloatReprsPairs floatOf pairs ↔ ∀ p ∈ pairs, FloatReprs floatOf p.2 := by
  induction pairs with
  | nil => simp [FloatReprsPairs]
  | cons p pairs ih => simp [FloatReprsPairs, ih]

theorem jsonOk_obj {pairs : List (PyStr × Json)} :
    JsonOk floatOf (.obj pairs) ↔
      (pairs.map Prod.fst).Nodup ∧ ∀ p ∈ pairs, JsonOk floatOf p.2 := by
  constructor
  · intro h
    have hkeyed := h.keyed
    rw [wellKeyed, Bool.and_eq_true, decide_eq_true_eq, wellKeyedPairs_iff] at hkeyed
    exact ⟨hkeyed.1, fun p hp => ⟨hkeyed.2 p hp, floatReprsPairs_iff.mp h.floats p hp⟩⟩
  · rintro ⟨hnodup, hpairs⟩
    refine ⟨?_, floatReprsPairs_iff.mpr fun p hp => (hpairs p hp).floats⟩
    rw [wellKeyed, Bool.and_eq_true, decide_eq_true_eq, wellKeyedPairs_iff]
    exact ⟨hnodup, fun p hp => (hpairs p hp).keyed⟩

theorem jsonOk_mapping {entries : List (PyStr × Value PyStr)}
    (h : ∀ p ∈ entries, JsonOk floatOf (valueJson p.2)) :
    JsonOk floatOf (.obj (entriesJson (dictAfter entries))) := by
  have hvalues := values_dictAfter (P := fun value => JsonOk floatOf (valueJson value)) h
  rw [entriesJson_eq, jsonOk_obj, List.map_map]
  refine ⟨keys_dictAfter entries, fun p hp => ?_⟩
  obtain ⟨q, hq, rfl⟩ := List.mem_map.mp hp
  exact hvalues q hq

theorem jsonOk_str (s : PyStr) : JsonOk floatOf (.str s) := ⟨rfl, trivial⟩

variable {Key : Type}

mutual

/-- The floats of a value are given by their `repr`. -/
def ValueReprs (floatOf : List Char → FloatText) : Value Key → Prop
  | .scalar (.float x) => floatOf x.text = x
  | .mapping entries => EntryReprs floatOf entries
  | .sequence _ items => ItemReprs floatOf items
  | _ => True

def EntryReprs (floatOf : List Char → FloatText) : List (Key × Value Key) → Prop
  | [] => True
  | (_, value) :: entries => ValueReprs floatOf value ∧ EntryReprs floatOf entries

def ItemReprs (floatOf : List Char → FloatText) : List (Value Key) → Prop
  | [] => True
  | value :: items => ValueReprs floatOf value ∧ ItemReprs floatOf items

end

variable (z : Sanitizer Key)

mutual

theorem jsonOk_sanitizeValue (keyLower : PyStr) (depth : ℕ) (value : Value Key)
    (h : ValueReprs floatOf value) :
    JsonOk floatOf (valueJson (sanitizeValue z keyLower depth value)) := by
  match value, h with
  | .scalar .null, _ => exact ⟨rfl, trivial⟩
  | .scalar (.bool _), _ => exact ⟨rfl, trivial⟩
  | .scalar (.int _), _ => exact ⟨rfl, trivial⟩
  | .scalar (.float _), h => exact ⟨rfl, h⟩
  | .text s, _ => exact jsonOk_str _
  | .other s, _ => exact jsonOk_str _
  | .mapping entries, h =>
      rw [sanitizeValue]
      split
      · exact jsonOk_mapping (jsonOk_sanitizeEntries (depth + 1) z.itemLimit entries h)
      · exact jsonOk_str _
  | .sequence kind items, h =>
      rw [sanitizeValue]
      split
      · exact jsonOk_sanitizeItems keyLower (depth + 1) z.itemLimit items h
      · exact jsonOk_str _

theorem jsonOk_sanitizeEntries (depth n : ℕ) (entries : List (Key × Value Key))
    (h : EntryReprs floatOf entries) :
    ∀ p ∈ sanitizeEntries z depth n entries, JsonOk floatOf (valueJson p.2) := by
  match n, entries, h with
  | _, [], _ => exact fun _ hp => absurd hp List.not_mem_nil
  | 0, _ :: _, _ => exact fun _ hp => absurd hp List.not_mem_nil
  | n + 1, (key, value) :: entries, ⟨hvalue, hentries⟩ =>
      intro p hp
      rw [sanitizeEntries] at hp
      rcases List.mem_cons.mp hp with rfl | hp
      · dsimp only
        split
        · exact jsonOk_str _
        · exact jsonOk_sanitizeValue (z.keyLower key) depth value hvalue
      · exact jsonOk_sanitizeEntries depth n entries hentries p hp

theorem jsonOk_sanitizeItems (keyLower : PyStr) (depth n : ℕ) (items : List (Value Key))
    (h : ItemReprs floatOf items) :
    JsonOk floatOf (.arr (itemsJson (sanitizeItems z keyLower depth n items))) := by
  match n, items, h with
  | _, [], _ => exact ⟨rfl, trivial⟩
  | 0, _ :: _, _ => exact ⟨rfl, trivial⟩
  | n + 1, value :: items, ⟨hvalue, hitems⟩ =>
      have hhead := jsonOk_sanitizeValue keyLower depth value hvalue
      have hrest := jsonOk_sanitizeItems keyLower depth n items hitems
      rw [sanitizeItems, itemsJson]
      exact ⟨Bool.and_eq_true_iff.mpr ⟨hhead.keyed, hrest.keyed⟩, hhead.floats, hrest.floats⟩

end

end Sanitized

section Metadata

variable {Key : Type} (text : RedactionText Key) (metadata : List (Key × Value Key))

/-- `_sanitize_metadata(metadata or {})`. -/
def auditMetadata : Json := .obj (entriesJson (sanitizeMetadata text metadata))

/-- `{**_sanitize_metadata(metadata or {}), "actor": "system"}`. -/
def systemAuditMetadata : Json :=
  .obj (dictOf.set (entriesJson (sanitizeMetadata text metadata))
    (.ofString "actor", textField "system"))

variable {metadata} {floatOf : List Char → FloatText}

theorem jsonOk_auditMetadata (h : EntryReprs floatOf metadata) :
    JsonOk floatOf (auditMetadata text metadata) :=
  jsonOk_mapping (jsonOk_sanitizeEntries _ 0 _ metadata h)

theorem mem_dictOf_set {d : List (PyStr × Json)} {p q : PyStr × Json}
    (h : q ∈ dictOf.set d p) : q = p ∨ q ∈ d := by
  induction d with
  | nil => exact .inl (List.mem_singleton.mp h)
  | cons r d ih =>
      rw [dictOf.set] at h
      split at h
      · rcases List.mem_cons.mp h with rfl | h
        · exact .inl rfl
        · exact .inr (List.mem_cons_of_mem r h)
      · rcases List.mem_cons.mp h with rfl | h
        · exact .inr (List.mem_cons_self ..)
        · rcases ih h with rfl | h
          · exact .inl rfl
          · exact .inr (List.mem_cons_of_mem r h)

theorem keys_dictOf_set {d : List (PyStr × Json)} (p : PyStr × Json)
    (h : (d.map Prod.fst).Nodup) : ((dictOf.set d p).map Prod.fst).Nodup := by
  induction d with
  | nil => exact List.nodup_singleton _
  | cons r d ih =>
      rw [List.map_cons, List.nodup_cons] at h
      rw [dictOf.set]
      split
      · next heq =>
          rw [List.map_cons, List.nodup_cons, ← heq]
          exact h
      · next hne =>
          rw [List.map_cons, List.nodup_cons]
          refine ⟨fun hmem => ?_, ih h.2⟩
          obtain ⟨q, hq, hkey⟩ := List.mem_map.mp hmem
          rcases mem_dictOf_set hq with rfl | hq
          · exact hne hkey.symm
          · exact h.1 (hkey ▸ List.mem_map_of_mem hq)

theorem jsonOk_systemAuditMetadata (h : EntryReprs floatOf metadata) :
    JsonOk floatOf (systemAuditMetadata text metadata) := by
  obtain ⟨hnodup, hvalues⟩ := jsonOk_obj.mp (jsonOk_auditMetadata text h)
  refine jsonOk_obj.mpr ⟨keys_dictOf_set _ hnodup, fun q hq => ?_⟩
  rcases mem_dictOf_set hq with rfl | hq
  · exact jsonOk_str _
  · exact hvalues q hq

end Metadata

/-! ### Hashes of stored rows -/

/-- The entries have the same keys and, as texts with sorted keys, the same values. -/
def SameTexts (pairs pairs' : List (PyStr × Json)) : Prop :=
  List.Forall₂ (fun p q => p.1 = q.1 ∧ dumps p.2 = dumps q.2) pairs pairs'

theorem SameTexts.insertPair {p q : PyStr × Json} {pairs pairs' : List (PyStr × Json)}
    (hpq : p.1 = q.1 ∧ dumps p.2 = dumps q.2) (h : SameTexts pairs pairs') :
    SameTexts (insertPair p pairs) (insertPair q pairs') := by
  induction h with
  | nil => exact .cons hpq .nil
  | cons hr hrest ih =>
      rw [Python.insertPair, Python.insertPair, hpq.1, hr.1]
      split
      · exact .cons hpq (.cons hr hrest)
      · exact .cons hr ih

theorem SameTexts.sortPairs {pairs pairs' : List (PyStr × Json)} (h : SameTexts pairs pairs') :
    SameTexts (sortPairs pairs) (sortPairs pairs') := by
  induction h with
  | nil => exact .nil
  | cons hp _ ih => exact ih.insertPair hp

theorem SameTexts.dumpsPairs {pairs pairs' : List (PyStr × Json)} (h : SameTexts pairs pairs') :
    dumpsPairs pairs = dumpsPairs pairs' := by
  induction h with
  | nil => rfl
  | @cons p q pairs pairs' hp hrest ih =>
      obtain ⟨k, v⟩ := p
      obtain ⟨k', v'⟩ := q
      obtain ⟨rfl, hv⟩ := hp
      dsimp only at hv
      cases hrest with
      | nil => rw [Python.dumpsPairs, Python.dumpsPairs, hv]
      | cons => rw [Python.dumpsPairs, Python.dumpsPairs, hv, ih]

theorem dumps_sortKeys_congr {pairs pairs' : List (PyStr × Json)}
    (h : SameTexts (sortKeysPairs pairs) (sortKeysPairs pairs')) :
    dumps (sortKeys (.obj pairs)) = dumps (sortKeys (.obj pairs')) := by
  rw [sortKeys, sortKeys, dumps, dumps, h.sortPairs.dumpsPairs]

theorem canonicalMetadata_obj (pairs : List (PyStr × Json)) :
    canonicalMetadata (.obj pairs) = .obj pairs := by
  cases pairs <;> rfl

/-- The payload depends on the text of the metadata only. -/
theorem canonicalAuditEventPayload_congr {e : SecurityAuditEvent}
    {pairs pairs' : List (PyStr × Json)} (he : e.eventMetadata = .obj pairs)
    (h : dumps (sortKeys (.obj pairs')) = dumps (sortKeys (.obj pairs))) :
    canonicalAuditEventPayload { e with eventMetadata := .obj pairs' } =
      canonicalAuditEventPayload e := by
  unfold canonicalAuditEventPayload payloadFields
  refine dumps_sortKeys_congr ?_
  rw [he, canonicalMetadata_obj, canonicalMetadata_obj]
  have hsame (p : PyStr × Json) : p.1 = p.1 ∧ dumps p.2 = dumps p.2 := ⟨rfl, rfl⟩
  exact .cons (hsame _) <| .cons (hsame _) <| .cons (hsame _) <| .cons (hsame _) <|
    .cons (hsame _) <| .cons (hsame _) <| .cons (hsame _) <| .cons ⟨rfl, h⟩ <|
    .cons (hsame _) <| .cons (hsame _) .nil

section Stored

variable (floatOf : List Char → FloatText)

/-- A row as it is read from the table; `none` where the column refuses the metadata. -/
def storedRow (e : SecurityAuditEvent) : Option SecurityAuditEvent :=
  if storable e.eventMetadata then
    (loads floatOf (dumpsWith [' '] e.eventMetadata)).map fun metadata =>
      { e with eventMetadata := metadata }
  else none

variable {floatOf}

theorem storedRow_some {e e' : SecurityAuditEvent} (hfloats : FloatReprs floatOf e.eventMetadata)
    (h : storedRow floatOf e = some e') :
    Readable floatOf e.eventMetadata ∧
      e' = { e with eventMetadata := reloaded e.eventMetadata } := by
  have hspace : ∀ c ∈ [' '], jsonSpace c = true := List.forall_mem_singleton.mpr rfl
  unfold storedRow at h
  split at h
  · next hstorable =>
      have hread := readable_of_storable e.eventMetadata hfloats hstorable
      have hloads := loads_dumpsWith hread hspace (List.forall_mem_nil fun c => jsonSpace c = true)
      rw [List.append_nil] at hloads
      rw [hloads] at h
      exact ⟨hread, (Option.some.inj h).symm⟩
  · cases h

/-- The verification computes the hash that the writer has computed. -/
theorem computeAuditEventHash_stored {cfg : AuditConfig} {e e' : SecurityAuditEvent}
    {pairs : List (PyStr × Json)} (he : e.eventMetadata = .obj pairs)
    (hok : JsonOk floatOf e.eventMetadata) (horder : keepsOrder e.eventMetadata = true)
    (h : storedRow floatOf e = some e') :
    computeAuditEventHash cfg e' = computeAuditEventHash cfg e := by
  obtain ⟨hread, rfl⟩ := storedRow_some hok.floats h
  have htext := dumps_sortKeys_reloaded e.eventMetadata hread hok.keyed horder
  rw [he] at htext
  have hpayload : canonicalAuditEventPayload { e with eventMetadata := reloaded e.eventMetadata } =
      canonicalAuditEventPayload e := by
    rw [he]
    exact canonicalAuditEventPayload_congr he htext
  unfold computeAuditEventHash
  rw [hpayload]
  rfl

end Stored

end SitBank.Audit
