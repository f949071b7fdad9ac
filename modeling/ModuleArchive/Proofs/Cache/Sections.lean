import ModuleArchive.Proofs.Cache.Interleaving
import ModuleArchive.Proofs.Cache.Lookup
import ModuleArchive.Proofs.Storage.Key

/-!
# What goes before a request

A call that fetches a set has just found, under the lock of the set, that the set is not fresh; it
stores what it has fetched under the same lock. A call that fetches content has just failed to read
it under the lock of its key. Only single records are fetched and written under no lock.
-/
namespace ModuleArchive.Cache

open Procedure
open Storage (keyOf)

/-- The path that a key of the content store spells. -/
def nameOf (key : Storage.Key) : String := String.ofList key.toPath

def contentLock (key : Storage.Key) : String := "content:" ++ nameOf key

/-- Whether a request of a call comes where it should: what has been done under the lock of a set
or a key before something is fetched or written for it, and what a single record is written
after. -/
def Request.IsPlaced (p : CachePolicy) (call : Call) (known : List Exchange) : Request → Prop
  | .fetchSet s => call = .set s ∧ ∃ pre refreshed now, p.freshness refreshed now ≠ .fresh ∧
      known = pre ++ ⟨.lock s.key, ()⟩ :: judged s refreshed now
  | .replace s items time => ∃ pre refreshed now,
      known = pre ++ ⟨.lock s.key, ()⟩ ::
        (judged s refreshed now ++ [⟨.fetchSet s, .ok items⟩, ⟨.now, time⟩])
  | .putGroup g group => ∃ pre id, known = pre ++ [⟨.fetchGroup g id, .ok (some group)⟩]
  | .fetchContent path => call = .content path ∧ ∃ pre key e, keyOf path = .ok key ∧
      known = pre ++ [⟨.lock (contentLock key), ()⟩, ⟨.readContent (nameOf key), .error e⟩]
  | .writeContent name content => ∃ pre path key e, call = .content path ∧ keyOf path = .ok key ∧
      name = nameOf key ∧ known = pre ++
        [⟨.lock (contentLock key), ()⟩, ⟨.readContent (nameOf key), .error e⟩,
          ⟨.fetchContent path, .ok content⟩]
  | _ => True

section Placed

variable {p : CachePolicy} {call : Call} {s : Scope} {known : List Exchange}

lemma placed_stored : (stored s).Always (fun known r => r.IsPlaced p call known) known := by
  refine ⟨trivial, fun answer => ?_⟩
  cases answer <;> trivial

lemma placed_judge {α : Type} {next : Freshness → Procedure (Except Catalog.Error α)}
    (h : ∀ refreshed now, (next (p.freshness refreshed now)).Always
      (fun known r => r.IsPlaced p call known) (known ++ judged s refreshed now)) :
    (judge p s next).Always (fun known r => r.IsPlaced p call known) known := by
  refine ⟨trivial, fun answer => ?_⟩
  cases answer with
  | error e => trivial
  | ok refreshed =>
    refine ⟨trivial, fun now => ?_⟩
    rw [List.append_assoc]
    exact h refreshed now

lemma placed_guarded {α : Type} {key : String} {body : Procedure α}
    (h : body.Always (fun known r => r.IsPlaced p call known) (known ++ [⟨.lock key, ()⟩])) :
    (guarded key body).Always (fun known r => r.IsPlaced p call known) known := by
  refine ⟨trivial, fun _ => Always.bind h fun more a => ?_⟩
  exact ⟨trivial, fun _ => trivial⟩

lemma placed_refresh {refreshed : Option Instant} {now : Instant} {freshness : Freshness}
    (hf : p.freshness refreshed now = freshness) (hn : freshness ≠ .fresh) :
    (refresh p s freshness).Always (fun known r => r.IsPlaced p (.set s) known)
      (known ++ ⟨.lock s.key, ()⟩ :: judged s refreshed now) := by
  refine ⟨⟨rfl, known, refreshed, now, hf ▸ hn, rfl⟩, fun answer => ?_⟩
  cases answer with
  | ok items =>
    refine ⟨trivial, fun time => ⟨⟨known, refreshed, now, ?_⟩, fun stored => ?_⟩⟩
    · simp
    · cases stored <;> trivial
  | error cause =>
    simp only
    split
    · exact placed_stored
    · trivial

lemma placed_readSet : (readSet p s).Always (fun known r => r.IsPlaced p (.set s) known) known := by
  refine placed_judge fun refreshed now => ?_
  have hlocked : (guarded s.key (reread p s)).Always (fun known r => r.IsPlaced p (.set s) known)
      (known ++ judged s refreshed now) := by
    refine placed_guarded (placed_judge fun refreshed now => ?_)
    rw [List.append_assoc, List.singleton_append]
    cases hf : p.freshness refreshed now with
    | fresh => exact placed_stored
    | stale => exact placed_refresh hf (by simp)
    | missing => exact placed_refresh hf (by simp)
  cases p.freshness refreshed now with
  | fresh => exact placed_stored
  | stale => exact hlocked
  | missing => exact hlocked

lemma placed_readGroup {g : Grouping} {id : UInt32} :
    (readGroup g id).Always (fun known r => r.IsPlaced p call known) known := by
  refine ⟨trivial, fun found => ?_⟩
  match found with
  | .error e => trivial
  | .ok (some group) => trivial
  | .ok none =>
    refine ⟨trivial, fun answer => ?_⟩
    match answer with
    | .error cause => trivial
    | .ok none => trivial
    | .ok (some group) =>
      refine ⟨⟨_, id, rfl⟩, fun stored => ?_⟩
      cases stored <;> trivial

lemma placed_readTrack {g : Grouping} {id : UInt32} {filename : String} :
    (readTrack g id filename).Always (fun known r => r.IsPlaced p call known) known := by
  refine ⟨trivial, fun found => ?_⟩
  match found with
  | .error e => trivial
  | .ok (some track) => trivial
  | .ok none =>
    refine ⟨trivial, fun answer => ?_⟩
    match answer with
    | .error cause => trivial
    | .ok none => trivial
    | .ok (some track) =>
      refine ⟨trivial, fun stored => ?_⟩
      cases stored <;> trivial

lemma placed_readContent {path : String} :
    (readContent path).Always (fun known r => r.IsPlaced p (.content path) known) known := by
  rw [readContent]
  cases hk : keyOf path with
  | error e => trivial
  | ok key =>
    refine ⟨trivial, fun found => ?_⟩
    cases found with
    | ok content => trivial
    | error e =>
      refine placed_guarded ⟨trivial, fun found => ?_⟩
      cases found with
      | ok content => trivial
      | error e =>
        rw [List.append_assoc]
        refine ⟨⟨rfl, _, key, e, hk, rfl⟩, fun answer => ?_⟩
        cases answer with
        | error cause => trivial
        | ok content =>
          rw [List.append_assoc]
          exact ⟨⟨_, path, key, e, rfl, hk, rfl, rfl⟩, fun _ => trivial⟩

theorem placed_procedure (p : CachePolicy) (call : Call) (known : List Exchange) :
    (call.procedure p).Always (fun known r => r.IsPlaced p call known) known := by
  cases call with
  | set s => exact placed_readSet.bind fun _ _ => trivial
  | group g id => exact placed_readGroup.bind fun _ _ => trivial
  | track g id filename => exact placed_readTrack.bind fun _ _ => trivial
  | content path => exact placed_readContent.bind fun _ _ => trivial

end Placed

/-! ### Calls side by side -/

section Calls

variable {ρ : Type} {p : CachePolicy} {remote : Catalog ρ} {calls : List Call} {w : State ρ}
  {es : List Event} {sys : System ρ Reply} {i : Nat}

lemma tasks_ofCalls (p : CachePolicy) (w : State ρ) {call : Call} (hi : calls[i]? = some call) :
    (System.ofCalls p calls w).tasks[i]? = some (call.procedure p) := by
  rw [System.ofCalls, List.getElem?_map, hi, Option.map_some]

lemma exists_call_of_tasks {q : Procedure Reply}
    (hq : (System.ofCalls p calls w).tasks[i]? = some q) :
    ∃ call ∈ calls, q = call.procedure p := by
  rw [System.ofCalls, List.getElem?_map, Option.map_eq_some_iff] at hq
  obtain ⟨call, hc, rfl⟩ := hq
  exact ⟨call, List.mem_of_getElem? hc, rfl⟩

lemma placed_of_ask (h : System.Reaches remote (.ofCalls p calls w) es sys) {request : Request}
    {resume : request.Answer → Procedure Reply} (ht : sys.tasks[i]? = some (.ask request resume)) :
    ∃ call ∈ calls, .cancelled i ∉ es ∧ Leads (call.procedure p) (own i es) (.ask request resume) ∧
      request.IsPlaced p call (own i es) := by
  obtain ⟨q, hq, hn, hl⟩ := h.leads_of_ask ht
  obtain ⟨call, hc, rfl⟩ := exists_call_of_tasks hq
  exact ⟨call, hc, hn, hl, (placed_procedure p call []).of_leads_ask hl⟩

lemma placed_of_own (h : System.Reaches remote (.ofCalls p calls w) es sys)
    {known later : List Exchange} {x : Exchange} (hx : own i es = known ++ x :: later) :
    ∃ call ∈ calls, ∃ rest, Leads (call.procedure p) (own i es) rest ∧
      x.request.IsPlaced p call known := by
  have hmem : x ∈ own i es := by
    rw [hx]
    exact List.mem_append_right _ List.mem_cons_self
  obtain ⟨q, rest, hq, hl⟩ := h.exists_leads hmem
  obtain ⟨call, hc, rfl⟩ := exists_call_of_tasks hq
  refine ⟨call, hc, rest, hl, ?_⟩
  rw [hx] at hl
  exact (placed_procedure p call []).of_leads hl

end Calls

/-! ### Whole calls -/

/-- What happens when content is read under the lock of its key. -/
inductive ContentRefresh (key : Storage.Key) (path : String) : List Exchange → Prop where
  | found (content : Content) : ContentRefresh key path [⟨.readContent (nameOf key), .ok content⟩]
  | failed (e : Storage.Error) (cause : Catalog.Error) :
      ContentRefresh key path
        [⟨.readContent (nameOf key), .error e⟩, ⟨.fetchContent path, .error cause⟩]
  | fetched (e : Storage.Error) (content : Content) (stored : Except Storage.Error Unit) :
      ContentRefresh key path
        [⟨.readContent (nameOf key), .error e⟩, ⟨.fetchContent path, .ok content⟩,
          ⟨.writeContent (nameOf key) content, stored⟩]

/-- What happens when content is read. -/
inductive ContentRead (key : Storage.Key) (path : String) : List Exchange → Prop where
  | found (content : Content) : ContentRead key path [⟨.readContent (nameOf key), .ok content⟩]
  | locked (e : Storage.Error) {xs : List Exchange} (hx : ContentRefresh key path xs) :
      ContentRead key path
        (⟨.readContent (nameOf key), .error e⟩ :: ⟨.lock (contentLock key), ()⟩ ::
          (xs ++ [⟨.unlock (contentLock key), ()⟩]))

lemma contentRead_of_leads {path : String} {key : Storage.Key} {xs : List Exchange}
    {result : Except Catalog.Error Content} (hk : keyOf path = .ok key)
    (h : Leads (readContent path) xs (done result)) : ContentRead key path xs := by
  rw [readContent, hk] at h
  cases h with
  | @ask _ _ found _ _ h =>
    cases found with
    | ok content =>
      obtain ⟨rfl, -⟩ := Leads.of_done h
      exact .found content
    | error e =>
      obtain ⟨ys, rfl, hbody⟩ := guarded_leads h
      refine .locked e ?_
      cases hbody with
      | @ask _ _ found _ _ hbody =>
        cases found with
        | ok content =>
          obtain ⟨rfl, -⟩ := Leads.of_done hbody
          exact .found content
        | error e =>
          cases hbody with
          | @ask _ _ fetched _ _ hbody =>
            cases fetched with
            | error cause =>
              obtain ⟨rfl, -⟩ := Leads.of_done hbody
              exact .failed e cause
            | ok content =>
              cases hbody with
              | @ask _ _ stored _ _ hbody =>
                obtain ⟨rfl, -⟩ := Leads.of_done hbody
                exact .fetched e content stored

/-- What ends with a section, and is cut off behind an exchange in it, is cut off inside. -/
lemma inside_or_eq_nil {key : String} (front : List Exchange) {body xs more : List Exchange}
    {x : Exchange}
    (h : xs ++ more = front ++ ⟨.lock key, ()⟩ :: (body ++ [⟨.unlock key, ()⟩]))
    (hb : ⟨.unlock key, ()⟩ ∉ body) (hx : x ∈ xs) (hfront : x ∉ front) :
    (∃ since, Inside key since xs) ∨ more = [] := by
  rcases cut_at h with ⟨since, hxs, hrest⟩ | ⟨ys, rfl⟩
  · rcases cut_at hrest.symm with ⟨zs, -, hnil⟩ | ⟨zs, rfl⟩
    · exact .inr (List.append_eq_nil_iff.mp hnil.symm).2
    · exact .inl ⟨since, front, hxs, fun hm => hb (List.mem_append_left zs hm)⟩
  · exact absurd (List.mem_append_left ys hx) hfront

lemma Leads.of_map {α β : Type} {f : α → β} {q : Procedure α} {xs : List Exchange} {b : β}
    (h : Leads (q.map f) xs (done b)) : ∃ a, Leads q xs (done a) ∧ b = f a := by
  obtain ⟨a, ys, zs, rfl, hq, hrest⟩ := Leads.of_bind h
  obtain ⟨rfl, rfl⟩ := Leads.of_done hrest
  exact ⟨a, by rwa [List.append_nil], rfl⟩

end ModuleArchive.Cache
