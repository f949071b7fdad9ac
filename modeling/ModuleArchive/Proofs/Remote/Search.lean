import ModuleArchive.Proofs.Catalog.Consuming
import ModuleArchive.Proofs.Remote.Entries

/-!
# Looking for a file page by page

A track is looked up in the pages of its group, one after the other. The first one with the file
name is the answer. No page after the one that shows it is asked for, so it does not matter whether
these can be read. There is no such track if all pages can be read and none of them shows one.
-/
namespace ModuleArchive

/-! ### Looking through a listing -/

namespace Listing

variable {σ α : Type} {p : α → Bool} {l rest : Listing σ α} {es : List (ListEvent α)}
  {items : List α} {w : σ}

/-- An item that is shown ends the search. -/
lemma find?_append_of_some {a : α} (h : (es.filterMap ListEvent.item?).find? p = some a) :
    find? p (append es rest) w = (.ok (some a), w) := by
  induction es with
  | nil => contradiction
  | cons e es ih =>
    cases e with
    | hint n => exact ih h
    | item b =>
      change (b :: es.filterMap ListEvent.item?).find? p = some a at h
      rw [List.find?_cons] at h
      rw [append, find?]
      cases hb : p b with
      | true =>
        rw [hb, Option.some_inj] at h
        rw [if_pos rfl, h]
      | false =>
        rw [hb] at h
        exact ih h

/-- Without one the search goes on. -/
lemma Yields.find?_eq {l' : Listing σ α} {w' : σ} (h : l.Yields w es l' w')
    (hnone : (es.filterMap ListEvent.item?).find? p = none) : find? p l w = find? p l' w' := by
  induction h with
  | refl => rfl
  | work _ ih => exact ih hnone
  | event e _ ih =>
    cases e with
    | hint n => exact ih hnone
    | item b =>
      obtain ⟨hb, hrest⟩ := List.forall_mem_cons.mp (List.find?_eq_none.mp hnone)
      rw [find?, if_neg hb]
      exact ih (List.find?_eq_none.mpr hrest)

/-- Nothing is found in a listing that comes to its end without such an item. -/
lemma find?_eq_ok_none :
    (find? p l w).1 = .ok none ↔ l.ending w = .complete ∧ (l.items w).find? p = none := by
  induction l generalizing w with
  | finished => exact iff_of_true rfl ⟨rfl, rfl⟩
  | failed cause => exact iff_of_false (fun h => by cases h) fun h => by cases h.1
  | event e rest ih =>
    cases e with
    | hint n => exact ih
    | item a =>
      rw [find?, items_item, List.find?_cons]
      cases p a with
      | true => exact iff_of_false (fun h => by cases h) fun h => by cases h.2
      | false => exact ih
  | work run rest ih => exact ih w

lemma fst_find?_of_collect {hint : Option Nat} (h : (l.collect w).1 = .ok (hint, items)) :
    (find? p l w).1 = .ok (items.find? p) := by
  obtain ⟨hend, hfound⟩ := collect_eq_ok_iff.mp h
  obtain rfl : items = l.items w := congrArg (·.2) hfound
  cases hfind : (l.items w).find? p with
  | none => exact find?_eq_ok_none.mpr ⟨hend, hfind⟩
  | some a => exact find?_eq_ok_some.mpr hfind

/-- Nothing is found exactly in a listing that can be collected and has no such item. -/
lemma find?_eq_ok_none_iff_collect : (find? p l w).1 = .ok none ↔
    ∃ hint items, (l.collect w).1 = .ok (hint, items) ∧ items.find? p = none := by
  constructor
  · intro h
    obtain ⟨hend, hfind⟩ := find?_eq_ok_none.mp h
    exact ⟨_, _, collect_of_complete hend, hfind⟩
  · rintro ⟨hint, items, hcollect, hfind⟩
    rw [fst_find?_of_collect hcollect, hfind]

end Listing

namespace Remote

/-! ### The search -/

section Pages

variable {ρ α : Type} {fetch : Nat → Action ρ (Page α)} {p : α → Bool}

/-- Whether none of some pages shows an item with a property. -/
def Lacks (p : α → Bool) (pages : List (Page α)) : Prop :=
  ∀ page ∈ pages, page.items.find? p = none

/-- What the search for an item on the pages of a listing comes to: an answer, with how many pages
asked for and in which state afterwards. Only the last of these pages decides, after others that
lead on and do not show such an item. -/
inductive Finds (fetch : Nat → Action ρ (Page α)) (p : α → Bool) (w : ρ) :
    Except Catalog.Error (Option α) → Nat → ρ → Prop
  /-- The page shows such an item. -/
  | found {before : List (Page α)} {w₁ w' : ρ} {page : Page α} {a : α}
      (hpasses : Passes fetch 1 w before w₁) (hlacks : Lacks p before)
      (h : fetch (before.length + 1) w₁ = (.ok page, w')) (ha : page.items.find? p = some a) :
      Finds fetch p w (.ok (some a)) (before.length + 1) w'
  /-- The page shows none either, and leads no further. -/
  | absent {before : List (Page α)} {w₁ w' : ρ} {page : Page α}
      (hpasses : Passes fetch 1 w before w₁) (hlacks : Lacks p before)
      (h : fetch (before.length + 1) w₁ = (.ok page, w')) (hnone : page.items.find? p = none)
      (hlast : ¬page.LeadsOn) : Finds fetch p w (.ok none) (before.length + 1) w'
  /-- The page cannot be read. -/
  | failed {before : List (Page α)} {w₁ w' : ρ} {cause : Catalog.Error}
      (hpasses : Passes fetch 1 w before w₁) (hlacks : Lacks p before)
      (h : fetch (before.length + 1) w₁ = (.error cause, w')) :
      Finds fetch p w (.error cause) (before.length + 1) w'

/-- Whether as many pages as the limit allows lead on and show no such item. -/
def RunsOut (fetch : Nat → Action ρ (Page α)) (p : α → Bool) (limit : Nat) (w : ρ) : Prop :=
  ∃ pages w', pages.length = limit ∧ Passes fetch 1 w pages w' ∧ Lacks p pages

variable {number limit : Nat} {w w' w₁ : ρ} {page : Page α} {pages before : List (Page α)}

lemma Lacks.find?_shownFrom (h : Lacks p pages) (number : Nat) :
    ((shownFrom number pages).filterMap ListEvent.item?).find? p = none := by
  rw [filterMap_shownFrom, List.find?_eq_none]
  intro a ha
  obtain ⟨page, hm, hitem⟩ := List.mem_flatMap.mp ha
  exact List.find?_eq_none.mp (h page hm) a hitem

/-- Pages that lead on and do not show such an item are passed. -/
lemma Passes.find?_eq (h : Passes fetch number w before w₁) (hlacks : Lacks p before) :
    Listing.find? p (pagesFrom fetch (before.length + limit) number) w =
      Listing.find? p (pagesFrom fetch limit (number + before.length)) w₁ :=
  h.yields.find?_eq (hlacks.find?_shownFrom number)

/-- Whatever the search comes to, some pages are passed, and one more is asked for. -/
lemma Finds.exists_passes {answer : Except Catalog.Error (Option α)} {r : Nat}
    (h : Finds fetch p w answer r w') : ∃ before w₁, r = before.length + 1 ∧
      Passes fetch 1 w before w₁ ∧ (fetch (before.length + 1) w₁).2 = w' := by
  cases h with
  | found hpasses _ h _ => exact ⟨_, _, rfl, hpasses, congrArg Prod.snd h⟩
  | absent hpasses _ h _ _ => exact ⟨_, _, rfl, hpasses, congrArg Prod.snd h⟩
  | failed hpasses _ h => exact ⟨_, _, rfl, hpasses, congrArg Prod.snd h⟩

/-- What the search comes to is the answer if the limit allows for it. -/
lemma Finds.find?_eq {answer : Except Catalog.Error (Option α)} {r : Nat}
    (h : Finds fetch p w answer r w') (hr : r ≤ limit) :
    Listing.find? p (pagesFrom fetch limit 1) w = (answer, w') := by
  obtain ⟨more, rfl⟩ := Nat.exists_eq_add_of_le hr
  have hpass {before : List (Page α)} {w₁ : ρ} (hpasses : Passes fetch 1 w before w₁)
      (hlacks : Lacks p before) :
      Listing.find? p (pagesFrom fetch (before.length + 1 + more) 1) w =
        Listing.find? p (pagesFrom fetch (more + 1) (before.length + 1)) w₁ := by
    rw [Nat.add_assoc, Nat.add_comm 1 more, hpasses.find?_eq hlacks, Nat.add_comm 1]
  cases h with
  | found hpasses hlacks h ha =>
    rw [hpass hpasses hlacks, (pagesFrom_of_ok _ h).find?_eq rfl]
    refine Listing.find?_append_of_some ?_
    rwa [Page.filterMap_shown]
  | absent hpasses hlacks h hnone hlast =>
    rw [hpass hpasses hlacks]
    refine (pagesFrom_of_last _ h hlast).find?_eq ?_
    rwa [Page.filterMap_shown]
  | failed hpasses hlacks h =>
    rw [hpass hpasses hlacks]
    exact (pagesFrom_of_error _ h).find?_eq rfl

/-- The search comes to something unless the limit runs out. -/
lemma exists_finds_or_runsOut (fetch : Nat → Action ρ (Page α)) (p : α → Bool) (limit : Nat)
    (w : ρ) : (∃ r ≤ limit, ∃ answer w', Finds fetch p w answer r w') ∨
      RunsOut fetch p limit w := by
  refine (exists_passes fetch (·.items.find? p = none) limit w).imp_left ?_
  rintro ⟨before, w₁, hlt, hpasses, hlacks, hlast⟩
  obtain ⟨read, w', h⟩ : ∃ read w', fetch (before.length + 1) w₁ = (read, w') := ⟨_, _, rfl⟩
  refine ⟨before.length + 1, hlt, ?_⟩
  cases read with
  | error cause => exact ⟨_, _, .failed hpasses hlacks h⟩
  | ok page =>
    cases hfind : page.items.find? p with
    | some a => exact ⟨_, _, .found hpasses hlacks h hfind⟩
    | none =>
      refine ⟨_, _, .absent hpasses hlacks h hfind fun hleads => ?_⟩
      exact hlast page (congrArg Prod.fst h) hleads hfind

/-- Where the limit runs out, it does so before the search comes to anything. -/
lemma Finds.lt_of_runsOut {answer : Except Catalog.Error (Option α)} {r : Nat}
    (h : Finds fetch p w answer r w') (hout : RunsOut fetch p limit w) : limit < r := by
  obtain ⟨pages, w₂, rfl, hpages, hnone⟩ := hout
  have hnext {before : List (Page α)} {w₁ : ρ} (hpasses : Passes fetch 1 w before w₁)
      (hlt : before.length < pages.length) : ∃ page, page.LeadsOn ∧
        page.items.find? p = none ∧ (fetch (before.length + 1) w₁).1 = .ok page := by
    have hm := List.getElem_mem hlt
    refine ⟨_, hpages.leadsOn _ hm, hnone _ hm, ?_⟩
    rw [← hpages.fst_fetch _ hlt, ← hpasses.eq_afterPages, Nat.add_comm]
  by_contra hle
  cases h with
  | found hpasses _ h ha =>
    obtain ⟨page, -, hlacks, hread⟩ := hnext hpasses (Nat.le_of_not_lt hle)
    rw [h] at hread
    obtain rfl := Except.ok.inj hread
    rw [ha] at hlacks
    contradiction
  | absent hpasses _ h _ hlast =>
    obtain ⟨page, hleads, -, hread⟩ := hnext hpasses (Nat.le_of_not_lt hle)
    rw [h] at hread
    obtain rfl := Except.ok.inj hread
    exact hlast hleads
  | failed hpasses _ h =>
    obtain ⟨page, -, -, hread⟩ := hnext hpasses (Nat.le_of_not_lt hle)
    rw [h] at hread
    contradiction

/-- Unless the limit runs out, the answer is what the search comes to. -/
theorem find?_pagesFrom_eq_iff {answer : Except Catalog.Error (Option α)} :
    Listing.find? p (pagesFrom fetch limit 1) w = (answer, w') ∧ ¬RunsOut fetch p limit w ↔
      ∃ r ≤ limit, Finds fetch p w answer r w' := by
  constructor
  · rintro ⟨hfind, hout⟩
    obtain ⟨r, hr, answer', w'', h⟩ := (exists_finds_or_runsOut fetch p limit w).resolve_right hout
    obtain ⟨rfl, rfl⟩ : _ ∧ _ := by simpa using hfind.symm.trans (h.find?_eq hr)
    exact ⟨r, hr, h⟩
  · rintro ⟨r, hr, h⟩
    exact ⟨h.find?_eq hr, fun hout => absurd (h.lt_of_runsOut hout) (Nat.not_lt_of_le hr)⟩

end Pages

/-! ### Archives -/

/-- Whoever answers requests for addresses, by the state it is in. -/
abbrev Provider (ρ : Type) := Url → ρ → Except Catalog.Error Delivery × ρ

/-- A server answers with its pages. -/
def Server.provider : Provider Server := fun url server =>
  let (answer, server) := server.fetch url
  (answer.map Response.delivery, server)

namespace Archive

variable {ρ : Type} (a : Archive)

/-- Ask a provider for a page of a listing and read it. -/
def askPage (provider : Provider ρ) (s : Scope) (number : Nat) : Action ρ (Page s.Item) := fun w =>
  let url := a.site.pageUrl s number
  let (answer, w) := provider url w
  (do
    let content ← receive a.reader a.alloc url answer
    Page.ofText a.site.storage s (Utf8.decodeLossy content.bytes), w)

/-- The listing of a set over a provider, of no more pages than a limit. -/
def listingOver (provider : Provider ρ) (limit : ρ → Nat) (s : Scope) : Listing ρ s.Item :=
  .work id fun w => pagesFrom (a.askPage provider s) (limit w) 1

/-- The catalog asks its server for the pages. -/
lemma askPage_server (s : Scope) : a.askPage Server.provider s = a.fetchPage s := by
  funext number server
  exact Prod.ext (a.fst_fetchPage_eq number server).symm (a.snd_fetchPage s number server).symm

lemma listing_eq_listingOver :
    a.listing = a.listingOver Server.provider (·.pages.length + 1) := by
  funext s
  simp only [listing, listingOver, askPage_server]

variable {a} {s : Scope} {r : Nat} {server server' : Server}

/-- The search over a server comes to something within its limit, which does not run out. -/
lemma find?_listing_eq_iff {p : s.Item → Bool} {answer : Except Catalog.Error (Option s.Item)} :
    Listing.find? p (a.listing s) server = (answer, server') ↔
      ∃ r, Finds (a.fetchPage s) p server answer r server' := by
  have hsearch : Listing.find? p (a.listing s) server =
      Listing.find? p (pagesFrom (a.fetchPage s) (server.pages.length + 1) 1) server := rfl
  rw [hsearch]
  constructor
  · intro h
    have hout : ¬RunsOut (a.fetchPage s) p (server.pages.length + 1) server := by
      rintro ⟨pages, server', hlength, hpasses, -⟩
      have hle := length_le_of_passes hpasses
      omega
    obtain ⟨r, -, hfinds⟩ := find?_pagesFrom_eq_iff.mp ⟨h, hout⟩
    exact ⟨r, hfinds⟩
  · rintro ⟨r, h⟩
    obtain ⟨before, passed, rfl, hpasses, -⟩ := h.exists_passes
    exact h.find?_eq (Nat.succ_le_succ (length_le_of_passes hpasses))

/-- What a search has asked a server for are the first pages, once and in order. -/
lemma requested_of_finds {p : s.Item → Bool} {answer : Except Catalog.Error (Option s.Item)}
    (h : Finds (a.fetchPage s) p server answer r server') :
    server'.requested = server.requested ++ a.addresses s 1 r := by
  obtain ⟨before, passed, rfl, hpasses, rfl⟩ := h.exists_passes
  rw [hpasses.snd_fetch_next, afterPages_fetchPage, Server.requested_asked]

/-- Whoever provides the pages: unless there are more of them than the limit, and none within it has
such a track, looking for a file name comes to the first track with exactly this name on the pages
of the group, or to the end of the pages without one, or to a page that cannot be read before that;
and no page is asked for after that one. The track is the first such item of the listing. There is
none exactly if the listing can be collected and has none, and if it can be collected, then the
search in what is collected has the same answer. In the catalog of an archive the limit of its
server never runs out; the pages of the search are asked for once and in order. -/
theorem track_is_first_on_pages (a : Archive) (g : Grouping) (id : UInt32) (filename : String) :
    let named : Track → Bool := fun t => t.filename = filename
    (∀ (ρ : Type) (provider : Provider ρ) (limit : ρ → Nat) (w : ρ),
      let fetch := a.askPage provider (.tracks g id)
      let listing := a.listingOver provider limit (.tracks g id)
      let search := Catalog.scan (a.listingOver provider limit) g id filename w
      (∀ answer w', search = (answer, w') ∧ ¬RunsOut fetch named (limit w) w ↔
        ∃ r ≤ limit w, Finds fetch named w answer r w') ∧
      (∀ t, search.1 = .ok (some t) ↔ (listing.items w).find? named = some t) ∧
      (search.1 = .ok none ↔ ∃ hint tracks,
        (listing.collect w).1 = .ok (hint, tracks) ∧ tracks.find? named = none) ∧
      ∀ hint tracks, (listing.collect w).1 = .ok (hint, tracks) →
        search.1 = .ok (tracks.find? named)) ∧
    a.catalog.listing = a.listingOver Server.provider (·.pages.length + 1) ∧
    a.catalog.track = Catalog.scan a.catalog.listing ∧
    ∀ server answer server', a.catalog.track g id filename server = (answer, server') ↔
      ∃ r, Finds (a.askPage Server.provider (.tracks g id)) named server answer r server' ∧
        server'.requested = server.requested ++ a.addresses (.tracks g id) 1 r := by
  intro named
  refine ⟨fun ρ provider limit w => ⟨fun answer w' => ?_, fun t => ?_, ?_, ?_⟩,
    a.listing_eq_listingOver, rfl, fun server answer server' => ?_⟩
  · exact find?_pagesFrom_eq_iff
  · exact Listing.find?_eq_ok_some
  · exact Listing.find?_eq_ok_none_iff_collect
  · exact fun hint tracks => Listing.fst_find?_of_collect
  · rw [askPage_server]
    refine (find?_listing_eq_iff (s := .tracks g id)).trans (exists_congr fun r => ?_)
    exact (and_iff_left_of_imp requested_of_finds).symm

end Archive

/-- The page of a group that leads on to a next one. -/
def leadingPage : Layout :=
  { linkPage "/pub/a%20b.mod" with next := some "?pg=2".toList }

def leadingServer : Server where
  pages := [("https://example.com/modland?md=aut&id=42&pg=1",
    .ofBytes (Utf8.encode leadingPage.text))]

lemma fetchPage_leadingServer :
    (modlandArchive.fetchPage (.tracks .authors 42) 1 leadingServer).1 =
      .ok ⟨some 1, some "Beispiel", [⟨"/pub/a b.mod", "a b.mod", 4⟩], true⟩ := by
  have hprint : (modlandArchive.site.pageUrl (.tracks .authors 42) 1).print =
      "https://example.com/modland?md=aut&id=42&pg=1" := by decide +kernel
  have hpage : leadingServer.page? (modlandArchive.site.pageUrl (.tracks .authors 42) 1).print =
      some (.ofBytes (Utf8.encode leadingPage.text)) := by
    rw [hprint, leadingServer, Server.page?, List.find?_cons_of_pos (by simp)]
    rfl
  rw [modlandArchive.fst_fetchPage_of_download (download_written (List.cons_ne_nil _ _) rfl hpage),
    Utf8.decodeLossy_encode]
  have hclean : leadingPage.IsClean := by
    constructor <;> simp [leadingPage, linkPage, IsStable, IsGap, Text.isAsciiBlank]
  have hentry : ∀ e ∈ leadingPage.entries, e.IsClean := by
    intro e he
    obtain rfl := List.mem_singleton.mp he
    exact ⟨by decide, by decide⟩
  change Page.ofDocument _ (Html.Document.ofPage leadingPage.text) = _
  rw [Layout.ofPage_text hclean hentry]
  rfl

/-- Why the next page cannot be read. -/
def missingPage : Catalog.Error :=
  .transport "404 Not Found: https://example.com/modland?md=aut&id=42&pg=2"

lemma fetchPage_leadingServer_next :
    (modlandArchive.fetchPage (.tracks .authors 42) 2 leadingServer).1 = .error missingPage := by
  have hdownload : (modlandArchive.download (modlandArchive.site.pageUrl (.tracks .authors 42) 2)
      leadingServer).1 = .error missingPage := by decide +kernel
  rw [modlandArchive.fst_fetchPage_eq, hdownload]
  rfl

/-- A file of the first page is found, and the next page, which cannot be read, is not asked for.
Looking for a file of another name fails. -/
theorem track_is_first_on_pages_missingPage :
    (∃ server', modlandArchive.catalog.track .authors 42 "a b.mod" leadingServer =
        (.ok (some ⟨"/pub/a b.mod", "a b.mod", 4⟩), server') ∧
      server'.requested = ["https://example.com/modland?md=aut&id=42&pg=1"]) ∧
    ∃ server', modlandArchive.catalog.track .authors 42 "b.mod" leadingServer =
        (.error missingPage, server') ∧
      server'.requested = ["https://example.com/modland?md=aut&id=42&pg=1",
        "https://example.com/modland?md=aut&id=42&pg=2"] := by
  let addresses := modlandArchive.addresses (.tracks .authors 42) 1
  have hfirst : modlandArchive.fetchPage (.tracks .authors 42) 1 leadingServer =
      (.ok ⟨some 1, some "Beispiel", [⟨"/pub/a b.mod", "a b.mod", 4⟩], true⟩,
        leadingServer.asked (addresses 1)) :=
    Prod.ext fetchPage_leadingServer (modlandArchive.snd_fetchPage _ _ _)
  constructor
  · obtain ⟨-, -, -, hsearch⟩ :=
      Archive.track_is_first_on_pages modlandArchive .authors 42 "a b.mod"
    refine ⟨leadingServer.asked (addresses 1), (hsearch _ _ _).mpr ⟨1, ?_, rfl⟩, ?_⟩
    · rw [Archive.askPage_server]
      exact .found (.refl 1 _) (fun _ h => absurd h List.not_mem_nil) hfirst rfl
    · decide +kernel
  · obtain ⟨-, -, -, hsearch⟩ :=
      Archive.track_is_first_on_pages modlandArchive .authors 42 "b.mod"
    have hsecond : modlandArchive.fetchPage (.tracks .authors 42) 2
        (leadingServer.asked (addresses 1)) =
          (.error missingPage, leadingServer.asked (addresses 2)) := by
      refine Prod.ext ?_ (modlandArchive.snd_fetchPage _ _ _)
      rw [modlandArchive.fst_fetchPage_asked, fetchPage_leadingServer_next]
    refine ⟨leadingServer.asked (addresses 2), (hsearch _ _ _).mpr ⟨2, ?_, rfl⟩, ?_⟩
    · rw [Archive.askPage_server]
      refine .failed (.step hfirst ⟨List.cons_ne_nil _ _, rfl⟩ (.refl _ _)) ?_ hsecond
      intro page hm
      obtain rfl := List.mem_singleton.mp hm
      rfl
    · decide +kernel

end Remote

end ModuleArchive
