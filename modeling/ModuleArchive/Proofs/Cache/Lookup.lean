import ModuleArchive.Cache.Lookup
import ModuleArchive.Cache.Tasks
import ModuleArchive.Proofs.Cache.Exchange

/-!
# What reading through the cache asks for

Each procedure of the cache makes its requests in one of a few ways, and its result is settled by
the answers. Nothing is written that the remote has not answered before in the same procedure, and
no other content is fetched than that of the path asked for.
-/
namespace ModuleArchive.Cache

open Procedure

/-! ### Sets -/

/-- Finding out how fresh a set is. -/
def judged (s : Scope) (refreshed : Option Instant) (now : Instant) : List Exchange :=
  [⟨.refreshedAt s, .ok refreshed⟩, ⟨.now, now⟩]

/-- An answer of the index as one of the catalog. -/
def indexed {α : Type} (answer : Except Index.Error α) : Except Catalog.Error α :=
  answer.mapError fun e => .index (some e)

/-- Reading a set under its lock. -/
def reread (p : CachePolicy) (s : Scope) : Procedure (Except Catalog.Error (List s.Item)) :=
  judge p s fun
    | .fresh => stored s
    | freshness => refresh p s freshness

/-- How a set is read under its lock. -/
inductive SetRefresh (p : CachePolicy) (s : Scope) :
    List Exchange → Except Catalog.Error (List s.Item) → Prop where
  | unreadable (e : Index.Error) : SetRefresh p s [⟨.refreshedAt s, .error e⟩] (.error (.index e))
  | fresh {refreshed : Option Instant} {now : Instant} (found : Except Index.Error (List s.Item))
      (h : p.freshness refreshed now = .fresh) :
      SetRefresh p s (judged s refreshed now ++ [⟨.list s, found⟩]) (indexed found)
  | fetched {refreshed : Option Instant} {now : Instant} (items : List s.Item) (time : Instant)
      (stored : Except Index.Error Unit) (h : p.freshness refreshed now ≠ .fresh) :
      SetRefresh p s
        (judged s refreshed now ++
          [⟨.fetchSet s, .ok items⟩, ⟨.now, time⟩, ⟨.replace s items time, stored⟩])
        (indexed (stored.map fun _ => items))
  | stale {refreshed : Option Instant} {now : Instant} (cause : Catalog.Error)
      (found : Except Index.Error (List s.Item)) (h : p.freshness refreshed now = .stale)
      (hp : p.serveStale = true) :
      SetRefresh p s
        (judged s refreshed now ++ [⟨.fetchSet s, .error cause⟩, ⟨.list s, found⟩])
        (indexed found)
  | failed {refreshed : Option Instant} {now : Instant} (cause : Catalog.Error)
      (h : p.freshness refreshed now ≠ .fresh)
      (hp : ¬ (p.freshness refreshed now = .stale ∧ p.serveStale = true)) :
      SetRefresh p s (judged s refreshed now ++ [⟨.fetchSet s, .error cause⟩]) (.error cause)

/-- How a set is read. -/
inductive SetRead (p : CachePolicy) (s : Scope) :
    List Exchange → Except Catalog.Error (List s.Item) → Prop where
  | unreadable (e : Index.Error) : SetRead p s [⟨.refreshedAt s, .error e⟩] (.error (.index e))
  | fresh {refreshed : Option Instant} {now : Instant} (found : Except Index.Error (List s.Item))
      (h : p.freshness refreshed now = .fresh) :
      SetRead p s (judged s refreshed now ++ [⟨.list s, found⟩]) (indexed found)
  | locked {refreshed : Option Instant} {now : Instant} {xs : List Exchange}
      {result : Except Catalog.Error (List s.Item)} (h : p.freshness refreshed now ≠ .fresh)
      (hx : SetRefresh p s xs result) :
      SetRead p s
        (judged s refreshed now ++ ⟨.lock s.key, ()⟩ :: (xs ++ [⟨.unlock s.key, ()⟩])) result

/-- What happens under the lock of a set is part of what happens. -/
lemma mem_locked {s : Scope} {refreshed : Option Instant} {now : Instant} {xs : List Exchange}
    {x : Exchange} (h : x ∈ xs) :
    x ∈ judged s refreshed now ++ ⟨.lock s.key, ()⟩ :: (xs ++ [⟨.unlock s.key, ()⟩]) :=
  List.mem_append_right _ (List.mem_cons_of_mem _ (List.mem_append_left _ h))

lemma Leads.of_done {α : Type} {a b : α} {xs : List Exchange} (h : Leads (done a) xs (done b)) :
    xs = [] ∧ a = b := by
  cases h
  exact ⟨rfl, rfl⟩

lemma stored_leads {s : Scope} {xs : List Exchange} {result : Except Catalog.Error (List s.Item)}
    (h : Leads (stored s) xs (done result)) :
    ∃ found, xs = [⟨.list s, found⟩] ∧ result = indexed found := by
  cases h with
  | @ask _ _ found _ _ h =>
    cases found with
    | ok items =>
      obtain ⟨rfl, rfl⟩ := Leads.of_done h
      exact ⟨_, rfl, rfl⟩
    | error e =>
      obtain ⟨rfl, rfl⟩ := Leads.of_done h
      exact ⟨_, rfl, rfl⟩

/-- Judging a set ends with an unreadable time or goes on with the freshness. -/
lemma judge_leads {α : Type} {p : CachePolicy} {s : Scope}
    {next : Freshness → Procedure (Except Catalog.Error α)} {xs : List Exchange}
    {result : Except Catalog.Error α} (h : Leads (judge p s next) xs (done result)) :
    (∃ e : Index.Error, xs = [⟨.refreshedAt s, .error e⟩] ∧ result = .error (.index e)) ∨
      ∃ refreshed now ys, xs = judged s refreshed now ++ ys ∧
        Leads (next (p.freshness refreshed now)) ys (done result) := by
  cases h with
  | @ask _ _ answer _ _ h =>
    cases answer with
    | error e =>
      obtain ⟨rfl, rfl⟩ := Leads.of_done h
      exact .inl ⟨e, rfl, rfl⟩
    | ok refreshed =>
      cases h with
      | @ask _ _ now _ _ h => exact .inr ⟨refreshed, now, _, rfl, h⟩

lemma keep_leads {s : Scope} {items : List s.Item} {xs : List Exchange}
    {result : Except Catalog.Error (List s.Item)} (h : Leads (keep s items) xs (done result)) :
    ∃ time stored, xs = [⟨.now, time⟩, ⟨.replace s items time, stored⟩] ∧
      result = indexed (stored.map fun _ => items) := by
  cases h with
  | @ask _ _ time _ _ h =>
    cases h with
    | @ask _ _ stored _ _ h =>
      cases stored with
      | ok =>
        obtain ⟨rfl, rfl⟩ := Leads.of_done h
        exact ⟨time, .ok (), rfl, rfl⟩
      | error e =>
        obtain ⟨rfl, rfl⟩ := Leads.of_done h
        exact ⟨time, .error e, rfl, rfl⟩

lemma guarded_leads {α : Type} {key : String} {body : Procedure α} {xs : List Exchange}
    {result : α} (h : Leads (guarded key body) xs (done result)) :
    ∃ ys, xs = ⟨.lock key, ()⟩ :: (ys ++ [⟨.unlock key, ()⟩]) ∧ Leads body ys (done result) := by
  cases h with
  | @ask _ _ _ _ _ h =>
    obtain ⟨a, ys, zs, rfl, hbody, hrest⟩ := h.of_bind
    cases hrest with
    | @ask _ _ _ _ _ hrest =>
      obtain ⟨rfl, rfl⟩ := Leads.of_done hrest
      exact ⟨ys, rfl, hbody⟩

lemma refresh_leads {p : CachePolicy} {s : Scope} {refreshed : Option Instant} {now : Instant}
    {xs : List Exchange} {result : Except Catalog.Error (List s.Item)}
    (hf : p.freshness refreshed now ≠ .fresh)
    (h : Leads (refresh p s (p.freshness refreshed now)) xs (done result)) :
    SetRefresh p s (judged s refreshed now ++ xs) result := by
  cases h with
  | @ask _ _ answer _ _ h =>
    cases answer with
    | ok items =>
      obtain ⟨time, stored, rfl, rfl⟩ := keep_leads h
      exact .fetched items time stored hf
    | error cause =>
      simp only at h
      split at h
      · next hs =>
        obtain ⟨found, rfl, rfl⟩ := stored_leads h
        exact .stale cause found hs.1 hs.2
      · next hs =>
        obtain ⟨rfl, rfl⟩ := Leads.of_done h
        exact .failed cause hf hs

lemma setRefresh_of_leads {p : CachePolicy} {s : Scope} {xs : List Exchange}
    {result : Except Catalog.Error (List s.Item)}
    (h : Leads (reread p s) xs (done result)) : SetRefresh p s xs result := by
  obtain ⟨e, rfl, rfl⟩ | ⟨refreshed, now, xs, rfl, hnext⟩ := judge_leads h
  · exact .unreadable e
  · cases hf : p.freshness refreshed now with
    | fresh =>
      rw [hf] at hnext
      obtain ⟨found, rfl, rfl⟩ := stored_leads hnext
      exact .fresh found hf
    | stale =>
      refine refresh_leads (by rw [hf]; simp) ?_
      rwa [hf] at hnext ⊢
    | missing =>
      refine refresh_leads (by rw [hf]; simp) ?_
      rwa [hf] at hnext ⊢

/-- A set is read in one of these ways. -/
theorem setRead_of_leads {p : CachePolicy} {s : Scope} {xs : List Exchange}
    {result : Except Catalog.Error (List s.Item)} (h : Leads (readSet p s) xs (done result)) :
    SetRead p s xs result := by
  obtain ⟨e, rfl, rfl⟩ | ⟨refreshed, now, xs, rfl, hnext⟩ := judge_leads h
  · exact .unreadable e
  · cases hf : p.freshness refreshed now with
    | fresh =>
      rw [hf] at hnext
      obtain ⟨found, rfl, rfl⟩ := stored_leads hnext
      exact .fresh found hf
    | stale =>
      rw [hf] at hnext
      obtain ⟨ys, rfl, hbody⟩ := guarded_leads hnext
      exact .locked (by rw [hf]; simp) (setRefresh_of_leads hbody)
    | missing =>
      rw [hf] at hnext
      obtain ⟨ys, rfl, hbody⟩ := guarded_leads hnext
      exact .locked (by rw [hf]; simp) (setRefresh_of_leads hbody)

/-! ### Single records -/

/-- How a group is looked up. -/
inductive GroupRead (g : Grouping) (id : UInt32) :
    List Exchange → Except Catalog.Error (Option Group) → Prop where
  | unreadable (e : Index.Error) :
      GroupRead g id [⟨.getGroup g id, .error e⟩] (.error (.index e))
  | known (group : Group) :
      GroupRead g id [⟨.getGroup g id, .ok (some group)⟩] (.ok (some group))
  | failed (cause : Catalog.Error) :
      GroupRead g id [⟨.getGroup g id, .ok none⟩, ⟨.fetchGroup g id, .error cause⟩] (.error cause)
  | absent : GroupRead g id [⟨.getGroup g id, .ok none⟩, ⟨.fetchGroup g id, .ok none⟩] (.ok none)
  | fetched (group : Group) (stored : Except Index.Error Unit) :
      GroupRead g id
        [⟨.getGroup g id, .ok none⟩, ⟨.fetchGroup g id, .ok (some group)⟩,
          ⟨.putGroup g group, stored⟩]
        (indexed (stored.map fun _ => some group))

/-- How a track is looked up. -/
inductive TrackRead (g : Grouping) (id : UInt32) (filename : String) :
    List Exchange → Except Catalog.Error (Option Track) → Prop where
  | unreadable (e : Index.Error) :
      TrackRead g id filename [⟨.findTrack g id filename, .error e⟩] (.error (.index e))
  | known (track : Track) :
      TrackRead g id filename [⟨.findTrack g id filename, .ok (some track)⟩] (.ok (some track))
  | failed (cause : Catalog.Error) :
      TrackRead g id filename
        [⟨.findTrack g id filename, .ok none⟩, ⟨.fetchTrack g id filename, .error cause⟩]
        (.error cause)
  | absent :
      TrackRead g id filename
        [⟨.findTrack g id filename, .ok none⟩, ⟨.fetchTrack g id filename, .ok none⟩] (.ok none)
  | fetched (track : Track) (stored : Except Index.Error Unit) :
      TrackRead g id filename
        [⟨.findTrack g id filename, .ok none⟩, ⟨.fetchTrack g id filename, .ok (some track)⟩,
          ⟨.putTrack g id track, stored⟩]
        (indexed (stored.map fun _ => some track))

theorem groupRead_of_leads {g : Grouping} {id : UInt32} {xs : List Exchange}
    {result : Except Catalog.Error (Option Group)}
    (h : Leads (readGroup g id) xs (done result)) : GroupRead g id xs result := by
  cases h with
  | @ask _ _ found _ _ h =>
    match found with
    | .error e =>
      obtain ⟨rfl, rfl⟩ := Leads.of_done h
      exact .unreadable e
    | .ok (some group) =>
      obtain ⟨rfl, rfl⟩ := Leads.of_done h
      exact .known group
    | .ok none =>
      cases h with
      | @ask _ _ answer _ _ h =>
        match answer with
        | .error cause =>
          obtain ⟨rfl, rfl⟩ := Leads.of_done h
          exact .failed cause
        | .ok none =>
          obtain ⟨rfl, rfl⟩ := Leads.of_done h
          exact .absent
        | .ok (some group) =>
          cases h with
          | @ask _ _ stored _ _ h =>
            cases stored with
            | ok =>
              obtain ⟨rfl, rfl⟩ := Leads.of_done h
              exact .fetched group (.ok ())
            | error e =>
              obtain ⟨rfl, rfl⟩ := Leads.of_done h
              exact .fetched group (.error e)

theorem trackRead_of_leads {g : Grouping} {id : UInt32} {filename : String} {xs : List Exchange}
    {result : Except Catalog.Error (Option Track)}
    (h : Leads (readTrack g id filename) xs (done result)) : TrackRead g id filename xs result := by
  cases h with
  | @ask _ _ found _ _ h =>
    match found with
    | .error e =>
      obtain ⟨rfl, rfl⟩ := Leads.of_done h
      exact .unreadable e
    | .ok (some track) =>
      obtain ⟨rfl, rfl⟩ := Leads.of_done h
      exact .known track
    | .ok none =>
      cases h with
      | @ask _ _ answer _ _ h =>
        match answer with
        | .error cause =>
          obtain ⟨rfl, rfl⟩ := Leads.of_done h
          exact .failed cause
        | .ok none =>
          obtain ⟨rfl, rfl⟩ := Leads.of_done h
          exact .absent
        | .ok (some track) =>
          cases h with
          | @ask _ _ stored _ _ h =>
            cases stored with
            | ok =>
              obtain ⟨rfl, rfl⟩ := Leads.of_done h
              exact .fetched track (.ok ())
            | error e =>
              obtain ⟨rfl, rfl⟩ := Leads.of_done h
              exact .fetched track (.error e)

/-! ### Content -/

/-- Content that is read was found under the key of its path or fetched for the path. -/
lemma found_or_fetched {path : String} {xs : List Exchange} {content : Content}
    (h : Leads (readContent path) xs (done (.ok content))) :
    ∃ key, Storage.keyOf path = .ok key ∧ (⟨.fetchContent path, .ok content⟩ ∈ xs ∨
      ∃ before rest,
        xs = before ++ ⟨.readContent (String.ofList key.toPath), .ok content⟩ :: rest) := by
  unfold readContent at h
  cases hk : Storage.keyOf path with
  | error e =>
    rw [hk] at h
    obtain ⟨-, hresult⟩ := Leads.of_done h
    contradiction
  | ok key =>
    rw [hk] at h
    refine ⟨key, rfl, ?_⟩
    cases h with
    | @ask _ _ found _ _ h =>
      cases found with
      | ok found =>
        obtain ⟨rfl, hresult⟩ := Leads.of_done h
        obtain rfl := Except.ok.inj hresult
        exact .inr ⟨[], [], rfl⟩
      | error e =>
        obtain ⟨ys, rfl, hbody⟩ := guarded_leads h
        cases hbody with
        | @ask _ _ found _ _ hbody =>
          cases found with
          | ok found =>
            obtain ⟨rfl, hresult⟩ := Leads.of_done hbody
            obtain rfl := Except.ok.inj hresult
            exact .inr ⟨[_, _], [_], rfl⟩
          | error e =>
            cases hbody with
            | @ask _ _ fetched _ _ hbody =>
              cases fetched with
              | error cause =>
                obtain ⟨-, hresult⟩ := Leads.of_done hbody
                contradiction
              | ok fetched =>
                cases hbody with
                | ask hbody =>
                  obtain ⟨rfl, hresult⟩ := Leads.of_done hbody
                  obtain rfl := Except.ok.inj hresult
                  exact .inl (by simp)

/-! ### Requests that are due -/

/-- Whether a request of a call is due once some exchanges are known: what it writes has been
answered by the remote, the time of a set has been read from the clock, and content is fetched
for the path of the call only. -/
def Request.IsDue (call : Call) (known : List Exchange) : Request → Prop
  | .replace s items time => ⟨.fetchSet s, .ok items⟩ ∈ known ∧ ⟨.now, time⟩ ∈ known
  | .putGroup g group => ∃ id, ⟨.fetchGroup g id, .ok (some group)⟩ ∈ known
  | .putTrack g id track => ∃ filename, ⟨.fetchTrack g id filename, .ok (some track)⟩ ∈ known
  | .writeContent key content => ∃ path, ⟨.fetchContent path, .ok content⟩ ∈ known ∧
      (Storage.keyOf path).map (fun key => String.ofList key.toPath) = .ok key
  | .fetchContent path => call = .content path
  | _ => True

lemma always_stored (call : Call) (s : Scope) (known : List Exchange) :
    (stored s).Always (fun known r => r.IsDue call known) known := by
  refine ⟨trivial, fun answer => ?_⟩
  cases answer <;> trivial

lemma always_judge {α : Type} {call : Call} {p : CachePolicy} {s : Scope}
    {next : Freshness → Procedure (Except Catalog.Error α)} (known : List Exchange)
    (h : ∀ known freshness, (next freshness).Always (fun known r => r.IsDue call known) known) :
    (judge p s next).Always (fun known r => r.IsDue call known) known := by
  refine ⟨trivial, fun answer => ?_⟩
  cases answer with
  | error e => trivial
  | ok refreshed => exact ⟨trivial, fun now => h _ _⟩

lemma always_guarded {α : Type} {call : Call} {key : String} {body : Procedure α}
    (known : List Exchange) (h : ∀ known, body.Always (fun known r => r.IsDue call known) known) :
    (guarded key body).Always (fun known r => r.IsDue call known) known := by
  refine ⟨trivial, fun _ => Always.bind (h _) fun more a => ?_⟩
  exact ⟨trivial, fun _ => trivial⟩

lemma always_refresh (call : Call) (p : CachePolicy) (s : Scope) (freshness : Freshness)
    (known : List Exchange) :
    (refresh p s freshness).Always (fun known r => r.IsDue call known) known := by
  refine ⟨trivial, fun answer => ?_⟩
  cases answer with
  | ok items =>
    refine ⟨trivial, fun time => ⟨⟨by simp, by simp⟩, fun stored => ?_⟩⟩
    cases stored <;> trivial
  | error cause =>
    simp only
    split
    · exact always_stored call s _
    · trivial

lemma always_readSet (call : Call) (p : CachePolicy) (s : Scope) (known : List Exchange) :
    (readSet p s).Always (fun known r => r.IsDue call known) known := by
  refine always_judge known fun known freshness => ?_
  have hbody : ∀ known,
      (guarded s.key (reread p s)).Always (fun known r => r.IsDue call known) known := by
    intro known
    refine always_guarded known fun known => always_judge known fun known freshness => ?_
    cases freshness with
    | fresh => exact always_stored call s known
    | stale => exact always_refresh call p s .stale known
    | missing => exact always_refresh call p s .missing known
  cases freshness with
  | fresh => exact always_stored call s known
  | stale => exact hbody known
  | missing => exact hbody known

lemma always_readGroup (call : Call) (g : Grouping) (id : UInt32) (known : List Exchange) :
    (readGroup g id).Always (fun known r => r.IsDue call known) known := by
  refine ⟨trivial, fun found => ?_⟩
  match found with
  | .error e => trivial
  | .ok (some group) => trivial
  | .ok none =>
    refine ⟨trivial, fun answer => ?_⟩
    match answer with
    | .error cause => trivial
    | .ok none => trivial
    | .ok (some group) =>
      refine ⟨⟨id, by simp⟩, fun stored => ?_⟩
      cases stored <;> trivial

lemma always_readTrack (call : Call) (g : Grouping) (id : UInt32) (filename : String)
    (known : List Exchange) :
    (readTrack g id filename).Always (fun known r => r.IsDue call known) known := by
  refine ⟨trivial, fun found => ?_⟩
  match found with
  | .error e => trivial
  | .ok (some track) => trivial
  | .ok none =>
    refine ⟨trivial, fun answer => ?_⟩
    match answer with
    | .error cause => trivial
    | .ok none => trivial
    | .ok (some track) =>
      refine ⟨⟨filename, by simp⟩, fun stored => ?_⟩
      cases stored <;> trivial

lemma always_fetchContent {key path : String}
    (h : (Storage.keyOf path).map (fun key => String.ofList key.toPath) = .ok key)
    (known : List Exchange) :
    (fetchContent key path).Always (fun known r => r.IsDue (.content path) known) known := by
  refine ⟨rfl, fun answer => ?_⟩
  cases answer with
  | error cause => trivial
  | ok content => exact ⟨⟨path, by simp, h⟩, fun _ => trivial⟩

lemma always_readContent (path : String) (known : List Exchange) :
    (readContent path).Always (fun known r => r.IsDue (.content path) known) known := by
  rw [readContent]
  cases hk : Storage.keyOf path with
  | error e => trivial
  | ok key =>
    have hkey : (Storage.keyOf path).map (fun key => String.ofList key.toPath) =
        .ok (String.ofList key.toPath) := by
      rw [hk]
      rfl
    refine ⟨trivial, fun found => ?_⟩
    cases found with
    | ok content => trivial
    | error e =>
      refine always_guarded _ fun known => ⟨trivial, fun found => ?_⟩
      cases found with
      | ok content => trivial
      | error e => exact always_fetchContent hkey _

/-- A call makes no request that is not due. -/
theorem always_procedure (p : CachePolicy) (call : Call) (known : List Exchange) :
    (call.procedure p).Always (fun known r => r.IsDue call known) known := by
  cases call with
  | set s => exact (always_readSet _ p s known).bind fun _ _ => trivial
  | group g id => exact (always_readGroup _ g id known).bind fun _ _ => trivial
  | track g id filename => exact (always_readTrack _ g id filename known).bind fun _ _ => trivial
  | content path => exact (always_readContent path known).bind fun _ _ => trivial

end ModuleArchive.Cache
