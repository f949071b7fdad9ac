import ModuleArchive.Proofs.Cache.History
import ModuleArchive.Proofs.Cache.Sections

/-!
# What is fetched under a lock

A set and the content under a key are read in the same way: look what is stored, take the lock, look
again, ask the remote, and store what it answers. A read asks the remote at most once. One that
succeeds has found something, or has stored what it fetched before it leaves the lock.
-/
namespace ModuleArchive.Cache

open Procedure
open Index (StoredLast)
open Storage (keyOf)

/-! ### Targets -/

/-- What is fetched under a lock: a set, or the content under a key. -/
inductive Target where
  | set (s : Scope)
  | content (key : Storage.Key)

namespace Target

def lockKey : Target → String
  | set s => s.key
  | content key => contentLock key

/-- Whether a call asks for the target. -/
def IsAskedBy : Target → Call → Prop
  | set s, call => call = .set s
  | content key, call => ∃ path, call = .content path ∧ keyOf path = .ok key

/-- Whether a request is one to the remote for the target. -/
def isFetchedBy : Target → Request → Bool
  | set s, .fetchSet other => other = s
  | content key, .fetchContent path =>
    match keyOf path with
    | .ok other => other = key
    | .error _ => false
  | _, _ => false

/-- The request by which a task looks what is stored. -/
abbrev look : Target → Request
  | set s => .refreshedAt s
  | content key => .readContent (nameOf key)

/-- Whether such a look shows that nothing is stored. -/
def IsMissingIn : (t : Target) → t.look.Answer → Prop
  | set _, shown => shown = .ok none
  | content _, shown => ∃ e, shown = .error e

/-- Whether a request may change what such a look shows. -/
def IsWrittenBy : Target → Request → Prop
  | set s, request => ∃ items time, request = .replace s items time
  | content _, request => ∃ name content, request = .writeContent name content

/-- Whether an answer of the remote has been stored. Content has to be more than nothing. -/
def IsStoredBy (xs : List Exchange) : Target → Prop
  | set s => ∃ items time, ⟨.replace s items time, .ok ()⟩ ∈ xs
  | content key => ∃ content, content.bytes ≠ [] ∧ ⟨.writeContent (nameOf key) content, .ok ()⟩ ∈ xs

/-- Whether the set that was stored last has expired at a time. Content does not expire. -/
def HasExpired (p : CachePolicy) (xs : List Exchange) (now : Instant) : Target → Prop
  | set s => ∃ items time since, StoredLast (writes xs) s items time since ∧
      p.freshness (some (.ofSeconds time.seconds)) now = .stale
  | content _ => False

/-- Whether no other content is asked for than that under the key. -/
def IsAlone (calls : List Call) : Target → Prop
  | set _ => True
  | content key => ∀ path other, .content path ∈ calls → keyOf path = .ok other → other = key

end Target

variable {ρ : Type} {p : CachePolicy} {t : Target} {s : Scope} {key : Storage.Key}

lemma isFetchedBy_set {request : Request} :
    (Target.set s).isFetchedBy request = true ↔ request = .fetchSet s := by
  cases request <;> simp [Target.isFetchedBy]

lemma isFetchedBy_content {request : Request} :
    (Target.content key).isFetchedBy request = true ↔
      ∃ path, request = .fetchContent path ∧ keyOf path = .ok key := by
  cases request with
  | fetchContent path => cases hk : keyOf path <;> simp [Target.isFetchedBy, hk]
  | _ => simp [Target.isFetchedBy]

lemma Target.IsStoredBy.mono {xs ys : List Exchange} (h : t.IsStoredBy xs)
    (hxs : ∀ x ∈ xs, x ∈ ys) : t.IsStoredBy ys := by
  cases t with
  | set s =>
    obtain ⟨items, time, hx⟩ := h
    exact ⟨items, time, hxs _ hx⟩
  | content key =>
    obtain ⟨content, hne, hx⟩ := h
    exact ⟨content, hne, hxs _ hx⟩

/-- Only an exchange that writes stores anything. -/
lemma Target.IsStoredBy.of_append {xs : List Exchange} {x : Exchange}
    (h : t.IsStoredBy (xs ++ [x])) (hx : ¬ t.IsWrittenBy x.request) : t.IsStoredBy xs := by
  cases t with
  | set s =>
    obtain ⟨items, time, hm⟩ := h
    rcases List.mem_append.mp hm with hm | hm
    · exact ⟨items, time, hm⟩
    · obtain rfl := List.mem_singleton.mp hm
      exact absurd ⟨items, time, rfl⟩ hx
  | content key =>
    obtain ⟨content, hne, hm⟩ := h
    rcases List.mem_append.mp hm with hm | hm
    · exact ⟨content, hne, hm⟩
    · obtain rfl := List.mem_singleton.mp hm
      exact absurd ⟨_, content, rfl⟩ hx

lemma isAskedBy_of_placed {call : Call} {known : List Exchange} {request : Request}
    (hp : request.IsPlaced p call known) (hf : t.isFetchedBy request = true) :
    t.IsAskedBy call := by
  cases t with
  | set s =>
    obtain rfl := isFetchedBy_set.mp hf
    exact hp.1
  | content key =>
    obtain ⟨path, rfl, hk⟩ := isFetchedBy_content.mp hf
    exact ⟨path, hp.1, hk⟩

/-! ### Whole reads -/

/-- Whether an exchange fails by which something is fetched. Content has to be more than nothing;
that it cannot be read yet is no failure. -/
def Exchange.fails : Exchange → Bool
  | ⟨.refreshedAt _, .error _⟩ | ⟨.fetchSet _, .error _⟩ | ⟨.replace _ _ _, .error _⟩ => true
  | ⟨.fetchContent _, .error _⟩ | ⟨.writeContent _ _, .error _⟩ => true
  | ⟨.fetchContent _, .ok content⟩ => content.bytes.isEmpty
  | _ => false

/-- Whether some exchanges are those of a whole read of the target. -/
def Target.IsReadBy (p : CachePolicy) (xs : List Exchange) : Target → Prop
  | set s => ∃ result, SetRead p s xs result
  | content key => ∃ path, keyOf path = .ok key ∧ ContentRead key path xs

section Reads

variable {xs more : List Exchange} {call : Call}

lemma isReadBy_of_leads (ht : t.IsAskedBy call) {result : Reply}
    (h : Leads (call.procedure p) xs (done result)) : t.IsReadBy p xs := by
  cases t with
  | set s =>
    obtain rfl : call = .set s := ht
    obtain ⟨items, hread, -⟩ := Leads.of_map h
    exact ⟨items, setRead_of_leads hread⟩
  | content key =>
    obtain ⟨path, rfl, hk⟩ := ht
    obtain ⟨content, hread, -⟩ := Leads.of_map h
    exact ⟨path, hk, contentRead_of_leads hk hread⟩

lemma countP_isFetchedBy_le (h : t.IsReadBy p xs) :
    xs.countP (t.isFetchedBy ·.request) ≤ 1 := by
  cases t with
  | set s =>
    obtain ⟨result, h⟩ := h
    cases h with
    | unreadable e => simp [Target.isFetchedBy]
    | fresh found h => simp [judged, Target.isFetchedBy]
    | locked h hx => cases hx <;> simp [judged, Target.isFetchedBy]
  | content key =>
    obtain ⟨path, hk, h⟩ := h
    cases h with
    | found content => simp [Target.isFetchedBy]
    | locked e hx => cases hx <;> simp [Target.isFetchedBy, hk]

/-- A read that succeeds has found something, or has fetched something and stored it. -/
lemma found_or_stored (h : t.IsReadBy p xs) (hs : ∀ x ∈ xs, ¬ x.fails) :
    ((∀ x ∈ xs, t.isFetchedBy x.request = false) ∧
        ∃ shown, ⟨t.look, shown⟩ ∈ xs ∧ ¬ t.IsMissingIn shown) ∨
      (∃ x ∈ xs, t.isFetchedBy x.request = true) ∧ t.IsStoredBy xs := by
  cases t with
  | set s =>
    obtain ⟨result, h⟩ := h
    have hfound {refreshed : Option Instant} {now : Instant}
        (hf : p.freshness refreshed now = .fresh) :
        ¬ (Target.set s).IsMissingIn (.ok refreshed) := by
      intro hmissing
      obtain rfl := Except.ok.inj hmissing
      contradiction
    cases h with
    | unreadable e => exact absurd rfl (hs _ List.mem_cons_self)
    | fresh found hf =>
      exact .inl ⟨by simp [judged, Target.isFetchedBy], _, List.mem_cons_self, hfound hf⟩
    | locked hn hx =>
      cases hx with
      | unreadable e => exact absurd rfl (hs _ (mem_locked List.mem_cons_self))
      | fresh found hf =>
        exact .inl ⟨by simp [judged, Target.isFetchedBy], _, mem_locked List.mem_cons_self,
          hfound hf⟩
      | fetched items time stored hf =>
        cases stored with
        | error e => exact absurd rfl (hs ⟨.replace s items time, .error e⟩ (by simp))
        | ok =>
          have hfetched := isFetchedBy_set.mpr (rfl : Request.fetchSet s = .fetchSet s)
          exact .inr ⟨⟨⟨.fetchSet s, .ok items⟩, by simp, hfetched⟩, items, time, by simp⟩
      | stale cause found hf hp => exact absurd rfl (hs ⟨.fetchSet s, .error cause⟩ (by simp))
      | failed cause hf hp => exact absurd rfl (hs ⟨.fetchSet s, .error cause⟩ (by simp))
  | content key =>
    obtain ⟨path, hk, h⟩ := h
    cases h with
    | found content =>
      exact .inl ⟨by simp [Target.isFetchedBy], .ok content, by simp, by simp [Target.IsMissingIn]⟩
    | locked e hx =>
      cases hx with
      | found content =>
        exact .inl ⟨by simp [Target.isFetchedBy], .ok content, by simp,
          by simp [Target.IsMissingIn]⟩
      | failed e cause => exact absurd rfl (hs ⟨.fetchContent path, .error cause⟩ (by simp))
      | fetched e content stored =>
        have hne : content.bytes ≠ [] := by
          have hsome : ¬ content.bytes.isEmpty := hs ⟨.fetchContent path, .ok content⟩ (by simp)
          simpa using hsome
        cases stored with
        | error e =>
          exact absurd rfl (hs ⟨.writeContent (nameOf key) content, .error e⟩ (by simp))
        | ok =>
          refine .inr ⟨⟨⟨.fetchContent path, .ok content⟩, by simp, ?_⟩, content, hne, by simp⟩
          exact isFetchedBy_content.mpr ⟨path, rfl, hk⟩

/-- A read that has asked the remote is still inside its section, or over. -/
lemma inside_or_over (h : t.IsReadBy p (xs ++ more)) {x : Exchange} (hx : x ∈ xs)
    (hf : t.isFetchedBy x.request = true) : (∃ since, Inside t.lockKey since xs) ∨ more = [] := by
  cases t with
  | set s =>
    obtain ⟨result, h⟩ := h
    have hrequest := isFetchedBy_set.mp hf
    have hall : x ∈ xs ++ more := List.mem_append_left more hx
    generalize heq : xs ++ more = all at h hall
    cases h with
    | unreadable e =>
      obtain rfl := List.mem_singleton.mp hall
      contradiction
    | fresh found h =>
      simp [judged] at hall
      rcases hall with rfl | rfl | rfl <;> contradiction
    | locked hn hr =>
      refine inside_or_eq_nil _ heq ?_ hx ?_
      · cases hr <;> simp [judged]
      · intro hm
        simp [judged] at hm
        rcases hm with rfl | rfl <;> contradiction
  | content key =>
    obtain ⟨path, hk, h⟩ := h
    obtain ⟨asked, hrequest, -⟩ := isFetchedBy_content.mp hf
    have hall : x ∈ xs ++ more := List.mem_append_left more hx
    generalize heq : xs ++ more = all at h hall
    cases h with
    | found content =>
      obtain rfl := List.mem_singleton.mp hall
      contradiction
    | locked e hr =>
      refine inside_or_eq_nil [_] heq ?_ hx ?_
      · cases hr <;> simp
      · intro hm
        obtain rfl := List.mem_singleton.mp hm
        contradiction

/-- A read that is cut off is the beginning of a whole one. -/
lemma exists_isReadBy (remote : Catalog ρ) (w : State ρ) {call : Call} (ht : t.IsAskedBy call)
    {xs : List Exchange} {rest : Procedure Reply} (hl : Leads (call.procedure p) xs rest) :
    t.IsReadBy p (xs ++ rest.trace (answer remote) w) :=
  isReadBy_of_leads ht (hl.append (leads_trace (answer remote) rest w))

end Reads

end ModuleArchive.Cache
