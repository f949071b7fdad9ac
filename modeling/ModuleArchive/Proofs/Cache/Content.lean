import ModuleArchive.Proofs.Cache.Run
import ModuleArchive.Proofs.Remote.Address
import ModuleArchive.Proofs.Remote.Server
import ModuleArchive.Proofs.Storage.Store
import ModuleArchive.Proofs.Url.Base

/-!
# Content by its path

Content is kept under the key of its path and fetched from the address of its path. Over paths
that have the address of their keys the cache gives what the server serves for the path asked for;
any other path makes it mix up two contents. A path has the address of its key if it is direct,
and without tabs and line breaks only then.
-/
namespace ModuleArchive.Cache

open Procedure
open Remote (Archive Server)
open Storage (IsDirect steps keyOf)

/-! ### Keys and addresses -/

section Addresses

variable {site : Remote.Site} {path other : String} {key : Storage.Key}

/-- Whether a path has the address of its own key, if it has a key. -/
def KeepsAddress (site : Remote.Site) (path : String) : Prop :=
  ∀ key, keyOf path = .ok key →
    (site.fileUrl path).print = (site.fileUrl (String.ofList key.toPath)).print

lemma KeepsAddress.eq (hk : keyOf path = .ok key) (hk' : keyOf other = .ok key)
    (ha : KeepsAddress site path) (ha' : KeepsAddress site other) :
    (site.fileUrl path).print = (site.fileUrl other).print :=
  (ha key hk).trans (ha' key hk').symm

lemma steps_spelt (hk : keyOf path = .ok key) : steps (String.ofList key.toPath).toList = key := by
  rw [String.toList_ofList]
  exact Storage.steps_toPath (Storage.keyOf_eq_ok.mp hk)

lemma keepsAddress_spelt (site : Remote.Site) (hk : keyOf path = .ok key) :
    KeepsAddress site (String.ofList key.toPath) := by
  intro found hf
  rw [Storage.keyOf_toPath hk] at hf
  rw [Except.ok.inj hf]

lemma keepsAddress_of_isDirect (site : Remote.Site) (hd : IsDirect path.toList) :
    KeepsAddress site path := by
  intro key hk
  have hkey := Storage.keyOf_eq_ok.mp hk
  rw [Remote.Site.fileUrl_eq_of_steps site (Storage.steps_ne_nil hkey)]
  rw [steps_spelt hk, (Storage.steps_eq_iff hkey).mpr hd]

/-- Without tabs and line breaks only a direct path has the address of its key. -/
lemma isDirect_of_keepsAddress (hs : site.storage.IsBase) (hk : keyOf path = .ok key)
    (hu : Url.IsUnbroken path.toList) (ha : KeepsAddress site path) : IsDirect path.toList := by
  have hkey := Storage.keyOf_eq_ok.mp hk
  have hspelt := Storage.keyOf_eq_ok.mp (Storage.keyOf_toPath hk)
  have hunbroken : Url.IsUnbroken (String.ofList key.toPath).toList := by
    rw [String.toList_ofList]
    exact hu.of_mem fun _ hc => Storage.Key.mem_of_mem_toPath hkey hc
  have hsame := ha key hk
  rw [Remote.Site.print_fileUrl_inj hs.hasHost hs.hasNames (Storage.steps_ne_nil hkey)
    (Storage.steps_ne_nil hspelt) hu hunbroken, steps_spelt hk] at hsame
  exact (Storage.steps_eq_iff hkey).mp hsame

end Addresses

/-! ### The state -/

section State

variable {ρ : Type} {remote : Catalog ρ}

/-- What every operation of the remote keeps is kept by every request. -/
lemma remote_answer {I : ρ → Prop} (h : remote.Preserves I) {w : State ρ} (hw : I w.remote)
    (r : Request) : I (answer remote r w).2.remote := by
  cases r with
  | fetchSet s => exact (h.listing s).collectInto hw _ _
  | fetchGroup g id => exact h.group g id _ hw
  | fetchTrack g id filename => exact h.track g id filename _ hw
  | fetchContent path => exact h.content path _ hw
  | _ => exact hw

lemma remote_after {I : ρ → Prop} (h : remote.Preserves I) {w : State ρ} (hw : I w.remote)
    (xs : List Exchange) : I (after (answer remote) w xs).remote := by
  induction xs generalizing w with
  | nil => exact hw
  | cons x xs ih => exact ih (remote_answer h hw x.request)

end State

section Served

variable {a : Archive} {p : CachePolicy} {w : State Server} {run : List Attempt}

/-- Whether a payload is served at the address of a path with this key that is also the address
of the key. -/
def IsServed (a : Archive) (server : Server) (key : Storage.Key) (bytes : Bytes) : Prop :=
  ∃ path, KeepsAddress a.site path ∧ keyOf path = .ok key ∧
    server.Serves (a.site.fileUrl path) bytes

/-- Whether content is only asked for by paths that have the addresses of their keys. -/
def AsksByKey (site : Remote.Site) (run : List Attempt) : Prop :=
  ∀ attempt ∈ run, ∀ path, attempt.call = .content path → KeepsAddress site path

/-- Content that is fetched is served at the address of its path, as it was in the beginning. -/
lemma serves_of_fetchContent {xs : List Exchange} (h : Happens (answer a.catalog) w xs)
    {path : String} {content : Content} (hx : ⟨.fetchContent path, .ok content⟩ ∈ xs) :
    w.remote.Serves (a.site.fileUrl path) content.bytes := by
  obtain ⟨before, rest, rfl⟩ := List.append_of_mem hx
  have hanswer : (a.download (a.site.fileUrl path) (after (answer a.catalog) w before).remote).1 =
      .ok content := h.answer_eq.symm
  have hpages : (after (answer a.catalog) w before).remote.pages = w.remote.pages :=
    remote_after (I := Server.HasPages w.remote.pages) a.preserves_catalog rfl before
  exact (Server.serves_congr hpages).mp (Server.serves_of_download hanswer)

lemma history_content {ρ : Type} (p : CachePolicy) (remote : Catalog ρ) (w : State ρ)
    (path : String) : history p remote w [⟨.content path, none⟩] =
      (readContent path).trace (answer remote) w := by
  rw [history, history, List.append_nil]
  exact trace_map _ _ _

/-- One exchange leaves in the store what it keeps already, or writes to it. -/
lemma keeps_answer {P : Storage.Key → Bytes → Prop} (hw : w.store.Keeps P) (r : Request)
    (hP : ∀ path content, r = .writeContent path content →
      ∀ key, keyOf path = .ok key → P key content.bytes) :
    (answer a.catalog r w).2.store.Keeps P := by
  cases r with
  | readContent path => exact hw.read path
  | writeContent path content => exact hw.write (hP path content rfl)
  | _ => exact hw

/-- What the store keeps in a run that asks by keys is served. -/
lemma keeps_after (hw : w.store.IsEmpty) (hrun : AsksByKey a.site run) {xs rest : List Exchange}
    (h : history p a.catalog w run = xs ++ rest) :
    (after (answer a.catalog) w xs).store.Keeps (IsServed a w.remote) := by
  induction xs using List.reverseRecOn generalizing rest with
  | nil => exact hw.keeps
  | append_singleton xs x ih =>
    rw [List.append_assoc, List.singleton_append] at h
    rw [after_append]
    refine keeps_answer (ih h) x.request fun path content hx key hk => ?_
    obtain ⟨writer, _, hdue⟩ := isDue_history h
    rw [hx] at hdue
    obtain ⟨asked, hm, hkey⟩ := hdue
    obtain ⟨before, more, hsplit⟩ := List.append_of_mem hm
    have hhappens : Happens (answer a.catalog) w xs := by
      have hall : Happens (answer a.catalog) w (history p a.catalog w run) := happens_history run
      rw [h] at hall
      exact (happens_append.mp hall).1
    rw [hsplit, List.append_assoc, List.cons_append] at h
    obtain ⟨attempt, hattempt, hcall⟩ := isDue_history h
    refine ⟨asked, hrun attempt hattempt asked hcall, ?_, serves_of_fetchContent hhappens hm⟩
    cases hasked : keyOf asked with
    | error e =>
      rw [hasked] at hkey
      contradiction
    | ok found =>
      rw [hasked] at hkey
      obtain rfl := Except.ok.inj hkey
      rw [Storage.keyOf_toPath hasked] at hk
      exact hk

/-- In every run that asks by keys, content that is read is the one that is served at the address
of its path. -/
lemma serves_of_content (hw : w.store.IsEmpty) (hrun : AsksByKey a.site run) {path : String}
    (ha : KeepsAddress a.site path) {content : Content}
    (h : ((catalog p a.catalog).content path
      (after (answer a.catalog) w (history p a.catalog w run))).1 = .ok content) :
    w.remote.Serves (a.site.fileUrl path) content.bytes := by
  set reached := after (answer a.catalog) w (history p a.catalog w run)
  set own := (readContent path).trace (answer a.catalog) reached
  have hown : history p a.catalog w (run ++ [⟨.content path, none⟩]) =
      history p a.catalog w run ++ own := by
    rw [history_append, history_content]
  have hasks : AsksByKey a.site (run ++ [⟨.content path, none⟩]) := by
    intro attempt hm asked hcall
    rcases List.mem_append.mp hm with hm | hm
    · exact hrun attempt hm asked hcall
    · obtain rfl := List.mem_singleton.mp hm
      obtain rfl := Call.content.inj hcall
      exact ha
  have hleads : Leads (readContent path) own (done (.ok content)) := by
    rw [← h]
    exact leads_trace _ _ _
  have hhappens : Happens (answer a.catalog) w (history p a.catalog w run ++ own) := by
    rw [← hown]
    exact happens_history _
  obtain ⟨key, hkey, hf | ⟨before, rest, hb⟩⟩ := found_or_fetched hleads
  · exact serves_of_fetchContent hhappens (List.mem_append_right _ hf)
  · rw [hb, ← List.append_assoc] at hown hhappens
    have hkeeps := keeps_after hw hasks hown
    have hread := hkeeps.of_read (Storage.keyOf_toPath hkey) hhappens.answer_eq.symm
    obtain ⟨stored, hs, hk, hserved⟩ := hread
    exact (Server.serves_congr_url (ha.eq hkey hk hs)).mpr hserved

end Served

/-! ### Mixed up contents -/

section Mixed

variable {ρ : Type} {p : CachePolicy} {remote : Catalog ρ} {w : State ρ}
  {store : Storage.MemoryStore} {path : String} {key : Storage.Key} {content : Content}

lemma run_readContent_fetched (hk : keyOf path = .ok key) (hw : w.store = .memory store)
    (hn : store.get? key = none) (ha : store.refusesWrites = false)
    (hf : (remote.content path w.remote).1 = .ok content) :
    ∃ kept reached, (readContent path).run (answer remote) w = (.ok content, reached) ∧
      reached.store = .memory kept ∧ kept.get? key = some content.bytes := by
  have hkey := Storage.keyOf_toPath hk
  obtain ⟨left, hfetch⟩ : ∃ left, remote.content path w.remote = (.ok content, left) :=
    ⟨_, Prod.ext hf rfl⟩
  refine ⟨{ store.put key content.bytes with writes := store.writes + 1 },
    { w with
      remote := left
      store := .memory { store.put key content.bytes with writes := store.writes + 1 } },
    ?_, rfl, ?_⟩
  · simp [readContent, guarded, fetchContent, Procedure.bind, hk, answer, State.fetch, hw,
      Storage.Store.read, Storage.Store.write, Storage.MemoryStore.read, Storage.MemoryStore.write,
      hkey, hn, ha, hfetch]
  · have hput : (store.put key content.bytes).get? key = some content.bytes := by
      rw [Storage.MemoryStore.get?_put, if_pos rfl]
    exact hput

lemma run_readContent_found {data : Bytes} (hk : keyOf path = .ok key)
    (hw : w.store = .memory store) (hs : store.get? key = some data) (hd : data.isEmpty = false) :
    ((readContent path).run (answer remote) w).1 = .ok ⟨data, false⟩ := by
  have hkey := Storage.keyOf_toPath hk
  simp [readContent, hk, answer, hw, Storage.Store.read, Storage.MemoryStore.read, hkey, hs, hd]

lemma after_content (p : CachePolicy) (remote : Catalog ρ) (w : State ρ) (path : String) :
    after (answer remote) w (history p remote w [⟨.content path, none⟩]) =
      ((readContent path).run (answer remote) w).2 := by
  rw [run_eq, history_content]

/-- An archive with memory for all that is read. -/
def unlimited (a : Archive) : Archive := { a with alloc := fun _ _ => true }

/-- Whether over some server the cache, having read content by one path, reads content by the
other path that the server does not serve there. -/
def MixesUp (a : Archive) (p : CachePolicy) (path other : String) : Prop :=
  ∃ w : State Server, w.store.IsEmpty ∧ ∃ content,
    ((catalog p (unlimited a).catalog).content other (after (answer (unlimited a).catalog) w
      (history p (unlimited a).catalog w [⟨.content path, none⟩]))).1 = .ok content ∧
    ¬ w.remote.Serves (a.site.fileUrl other) content.bytes

/-- Two paths with one key and different addresses mix up contents. -/
lemma mixesUp_of_ne (a : Archive) (p : CachePolicy) {other : String} (hk : keyOf path = .ok key)
    (hk' : keyOf other = .ok key)
    (hne : (a.site.fileUrl other).print ≠ (a.site.fileUrl path).print) :
    MixesUp a p path other := by
  let server : Server :=
    { pages := [((a.site.fileUrl path).print, .ofBytes [1]),
        ((a.site.fileUrl other).print, .ofBytes [2])] }
  let new : State Server := { remote := server, clock := Instant.ofSeconds 0 }
  have hfetch : ((unlimited a).catalog.content path server).1 = .ok ⟨[1], false⟩ := by
    have hpage : server.page? (a.site.fileUrl path).print = some (.ofBytes [1]) := by
      simp [server, Server.page?]
    change (server.download a.reader (fun _ _ => true) (a.site.fileUrl path)).1 = _
    unfold Server.download Server.fetch
    simp only [hpage]
    rfl
  obtain ⟨kept, reached, hrun, hstore, hget⟩ :=
    run_readContent_fetched (w := new) hk rfl rfl rfl hfetch
  refine ⟨new, ?_, ⟨[1], false⟩, ?_, ?_⟩
  · intro key data h
    contradiction
  · rw [after_content, hrun]
    exact run_readContent_found hk' hstore hget rfl
  · rintro ⟨response, hpage, hbytes⟩
    have hother : server.page? (a.site.fileUrl other).print = some (.ofBytes [2]) := by
      simp [server, Server.page?, Ne.symm hne]
    rw [show new.remote = server from rfl, hother, Option.some_inj] at hpage
    rw [← hpage] at hbytes
    contradiction

end Mixed

/-- Paths that have the addresses of their keys can share keys: paths with one key have one
address, and content that is read by its path is the one that is served there. Any other path
mixes up its content with that of another one. Direct paths have the addresses of their keys, and
all paths that do are direct, unless they hold tabs or line breaks. -/
theorem content_by_key (a : Archive) (p : CachePolicy) :
    (∀ path other key, keyOf path = .ok key → keyOf other = .ok key →
      KeepsAddress a.site path → KeepsAddress a.site other →
      (a.site.fileUrl path).print = (a.site.fileUrl other).print) ∧
    (∀ (w : State Server) (run : List Attempt), w.store.IsEmpty → AsksByKey a.site run →
      ∀ path, KeepsAddress a.site path → ∀ content,
        ((catalog p a.catalog).content path
          (after (answer a.catalog) w (history p a.catalog w run))).1 = .ok content →
        w.remote.Serves (a.site.fileUrl path) content.bytes) ∧
    (∀ path key, keyOf path = .ok key → ¬ KeepsAddress a.site path →
      ∃ other, keyOf other = .ok key ∧ KeepsAddress a.site other ∧
        (a.site.fileUrl other).print ≠ (a.site.fileUrl path).print ∧ MixesUp a p path other) ∧
    (∀ path, IsDirect path.toList → KeepsAddress a.site path) ∧
    (a.site.storage.IsBase → ∀ path key, keyOf path = .ok key → Url.IsUnbroken path.toList →
      KeepsAddress a.site path → IsDirect path.toList) := by
  refine ⟨?_, ?_, ?_, ?_, ?_⟩
  · intro path other key hk hk' ha ha'
    exact ha.eq hk hk' ha'
  · intro w run hw hrun path ha content h
    exact serves_of_content hw hrun ha h
  · intro path key hk hn
    have hne : (a.site.fileUrl (String.ofList key.toPath)).print ≠ (a.site.fileUrl path).print := by
      intro heq
      refine hn fun found hf => ?_
      rw [← Except.ok.inj (hk.symm.trans hf)]
      exact heq.symm
    have hspelt := Storage.keyOf_toPath hk
    exact ⟨_, hspelt, keepsAddress_spelt a.site hk, hne, mixesUp_of_ne a p hk hspelt hne⟩
  · intro path hd
    exact keepsAddress_of_isDirect a.site hd
  · intro hs path key hk hu ha
    exact isDirect_of_keepsAddress hs hk hu ha

/-- An archive with its files at the root of a host. -/
def webArchive : Remote.Archive where
  site :=
    { pages := { scheme := "https".toList, host := some (.domain "example.com".toList) }
      storage :=
        { scheme := "https".toList, host := some (.domain "ftp.modland.com".toList),
          path := .segments [[]] } }
  reader := .standard
  alloc := fun _ _ => true

/-- A new cache over a server with two files whose paths differ in an empty segment. -/
def twoFiles : State Server where
  remote :=
    { pages := [("https://ftp.modland.com/pub//a.mod", .ofBytes (Utf8.encode "M.K. first".toList)),
        ("https://ftp.modland.com/pub/a.mod", .ofBytes (Utf8.encode "M.K. second".toList))] }
  clock := Instant.ofSeconds 0

/-- Direct paths of the second file, and the path of the first one. -/
theorem content_by_key_twoFiles :
    (webArchive.site.fileUrl "/pub/a.mod").print = (webArchive.site.fileUrl "pub/./a.mod").print ∧
      twoFiles.remote.Serves (webArchive.site.fileUrl "pub/./a.mod")
        (Utf8.encode "M.K. second".toList) ∧
      ∃ other, keyOf other = .ok ["pub".toList, "a.mod".toList] ∧
        KeepsAddress webArchive.site other ∧
        (webArchive.site.fileUrl other).print ≠ (webArchive.site.fileUrl "/pub//a.mod").print ∧
        MixesUp webArchive {} "/pub//a.mod" other := by
  have hempty : twoFiles.store.IsEmpty := fun key data h => by contradiction
  obtain ⟨haddress, hserved, hmixed, hdirect, honly⟩ := content_by_key webArchive {}
  have hplain : KeepsAddress webArchive.site "/pub/a.mod" := hdirect _ (by decide)
  have hdot : KeepsAddress webArchive.site "pub/./a.mod" := hdirect _ (by decide)
  have hgap : ¬ KeepsAddress webArchive.site "/pub//a.mod" := by
    intro ha
    have hd := honly ⟨rfl, rfl, rfl⟩ "/pub//a.mod" _ rfl ⟨by decide, by decide, by decide⟩ ha
    revert hd
    decide
  have hasks : AsksByKey webArchive.site [⟨.content "/pub/a.mod", none⟩] := by
    intro attempt hm path hcall
    obtain rfl := List.mem_singleton.mp hm
    obtain rfl := Call.content.inj hcall
    exact hplain
  refine ⟨haddress "/pub/a.mod" "pub/./a.mod" ["pub".toList, "a.mod".toList] rfl rfl hplain hdot,
    ?_, ?_⟩
  · exact hserved twoFiles [⟨.content "/pub/a.mod", none⟩] hempty hasks "pub/./a.mod" hdot
      ⟨Utf8.encode "M.K. second".toList, false⟩ rfl
  · exact hmixed "/pub//a.mod" _ rfl hgap

/-- The second file is asked for and the first one is read, as they have one key. -/
theorem content_mixed_up_twoFiles :
    keyOf "/pub//a.mod" = keyOf "/pub/a.mod" ∧
      (webArchive.site.fileUrl "/pub//a.mod").print ≠
        (webArchive.site.fileUrl "/pub/a.mod").print ∧
      ((catalog {} webArchive.catalog).content "/pub/a.mod"
        (after (answer webArchive.catalog) twoFiles
          (history {} webArchive.catalog twoFiles [⟨.content "/pub//a.mod", none⟩]))).1 =
            .ok ⟨Utf8.encode "M.K. first".toList, false⟩ ∧
      ¬ twoFiles.remote.Serves (webArchive.site.fileUrl "/pub/a.mod")
        (Utf8.encode "M.K. first".toList) := by
  refine ⟨rfl, by decide, rfl, ?_⟩
  rintro ⟨response, hpage, hbytes⟩
  have hsecond : twoFiles.remote.page? (webArchive.site.fileUrl "/pub/a.mod").print =
      some (.ofBytes (Utf8.encode "M.K. second".toList)) := rfl
  rw [hsecond, Option.some_inj] at hpage
  rw [← hpage] at hbytes
  revert hbytes
  decide

end ModuleArchive.Cache
