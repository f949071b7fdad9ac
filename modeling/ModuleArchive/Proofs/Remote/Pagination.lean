import ModuleArchive.Proofs.Remote.PageUrl
import ModuleArchive.Proofs.Remote.Pages
import ModuleArchive.Proofs.Remote.Server
import Mathlib.Data.List.Perm.Subperm

/-!
# Listings page by page

A listing shows the entries of its pages, from the first one up to the one that shows none or links
to no next one, or up to the first that cannot be read. Each of these pages is asked for once, and
in order. A consumer that stops has had no page asked for but those that it has seen an event of,
and those before them.
-/
namespace ModuleArchive

/-! ### Consumers that stop -/

namespace Listing

variable {σ α : Type}

lemma take_zero (l : Listing σ α) (w : σ) : l.take (some 0) w = ([], .dropped, w) := by
  cases l <;> rfl

lemma take_work (run : σ → σ) (rest : σ → Listing σ α) (m : Nat) (w : σ) :
    (work run rest).take (some (m + 1)) w = (rest w).take (some (m + 1)) (run w) := rfl

/-- What follows some events is only worked for when all of them have been taken. -/
lemma snd_take_append (es : List (ListEvent α)) (l : Listing σ α) (m : Nat) (w : σ) :
    ((append es l).take (some m) w).2 = (l.take (some (m - es.length)) w).2 := by
  induction es generalizing m with
  | nil => rfl
  | cons e es ih =>
    cases m with
    | zero => simp [take_zero]
    | succ m =>
      rw [List.length_cons, Nat.add_sub_add_right, ← ih]
      rfl

end Listing

namespace Remote

/-! ### Requests -/

namespace Server

/-- The server after some addresses have been asked for. -/
def asked (server : Server) (addresses : List String) : Server :=
  { server with requests := addresses.reverse ++ server.requests }

lemma requested_asked (server : Server) (addresses : List String) :
    (server.asked addresses).requested = server.requested ++ addresses := by
  rw [requested, asked, List.reverse_append, List.reverse_reverse, requested]

lemma asked_asked (server : Server) (addresses later : List String) :
    (server.asked addresses).asked later = server.asked (addresses ++ later) := by
  simp [asked]

/-- What has been asked for before makes no difference to an answer. -/
lemma fst_download_asked (server : Server) (addresses : List String) (reader : Content.Reader)
    (alloc : Content.Allocator) (url : Url) :
    ((server.asked addresses).download reader alloc url).1 =
      (server.download reader alloc url).1 := by
  have hfetch : ((server.asked addresses).fetch url).1 = (server.fetch url).1 := rfl
  rw [fst_download, fst_download, hfetch]

end Server

namespace Archive

variable (a : Archive) {s : Scope} {server : Server}

lemma fst_fetchPage_eq (number : Nat) (server : Server) :
    (a.fetchPage s number server).1 = (a.download (a.site.pageUrl s number) server).1 >>=
      fun content => Page.ofText a.site.storage s (Utf8.decodeLossy content.bytes) := by
  unfold fetchPage
  split <;> next heq => rw [heq]; rfl

lemma fst_fetchPage_asked (number : Nat) (server : Server) (addresses : List String) :
    (a.fetchPage s number (server.asked addresses)).1 = (a.fetchPage s number server).1 := by
  have hdownload : (a.download (a.site.pageUrl s number) (server.asked addresses)).1 =
      (a.download (a.site.pageUrl s number) server).1 :=
    server.fst_download_asked addresses a.reader a.alloc _
  rw [fst_fetchPage_eq, fst_fetchPage_eq, hdownload]

lemma mem_pages_of_fetchPage {number : Nat} {page : Page s.Item}
    (h : (a.fetchPage s number server).1 = .ok page) :
    (a.site.pageUrl s number).print ∈ server.pages.map (·.1) := by
  rw [fst_fetchPage_eq, bind_eq_ok_iff] at h
  obtain ⟨content, hdownload, -⟩ := h
  obtain ⟨response, hpage, -⟩ := Server.serves_of_download hdownload
  rw [Server.page?, Option.map_eq_some_iff] at hpage
  obtain ⟨entry, hfind, -⟩ := hpage
  have haddress : entry.1 = (a.site.pageUrl s number).print := by
    simpa using List.find?_some hfind
  rw [← haddress]
  exact List.mem_map_of_mem (List.mem_of_find?_eq_some hfind)

/-- The addresses of some pages, one after the other. -/
def addresses (s : Scope) (first count : Nat) : List String :=
  (List.range' first count).map fun number => (a.site.pageUrl s number).print

lemma addresses_succ (s : Scope) (first count : Nat) :
    a.addresses s first (count + 1) =
      (a.site.pageUrl s first).print :: a.addresses s (first + 1) count := by
  rw [addresses, List.range'_succ, List.map_cons, addresses]

lemma nodup_addresses (s : Scope) (first count : Nat) : (a.addresses s first count).Nodup :=
  List.Nodup.map (a.site.print_pageUrl_injective s) List.nodup_range'

/-- Asking a server for pages does nothing but ask for their addresses. -/
lemma afterPages_fetchPage (s : Scope) (first count : Nat) (server : Server) :
    afterPages (a.fetchPage s) first count server = server.asked (a.addresses s first count) := by
  induction count generalizing first server with
  | zero => rfl
  | succ count ih =>
    have hlog : (a.fetchPage s first server).2 = server.asked [(a.site.pageUrl s first).print] :=
      a.snd_fetchPage s first server
    rw [afterPages, ih, hlog, Server.asked_asked, addresses_succ, List.singleton_append]

/-- No more pages can be read than the server has. -/
lemma le_length_pages {first count : Nat}
    (h : ∀ i < count, ∃ page, (a.fetchPage s (first + i) server).1 = .ok page) :
    count ≤ server.pages.length := by
  have hsubset : a.addresses s first count ⊆ server.pages.map (·.1) := by
    intro address hm
    obtain ⟨number, hn, rfl⟩ := List.mem_map.mp hm
    obtain ⟨hle, hlt⟩ := List.mem_range'_1.mp hn
    obtain ⟨page, hpage⟩ := h (number - first) (by omega)
    rw [Nat.add_sub_cancel' hle] at hpage
    exact a.mem_pages_of_fetchPage hpage
  have hlength := ((a.nodup_addresses s first count).subperm hsubset).length_le
  simpa [addresses] using hlength

variable {a} {first : Nat} {server' : Server} {pages : List (Page s.Item)}

/-- Pages that are passed are those that the server has, whatever it has been asked for before. -/
lemma fst_fetchPage_of_passes (h : Passes (a.fetchPage s) first server pages server') (i : Nat)
    (hi : i < pages.length) : (a.fetchPage s (first + i) server).1 = .ok pages[i] := by
  rw [← h.fst_fetch i hi, afterPages_fetchPage, fst_fetchPage_asked]

lemma fst_fetchPage_after_passes (h : Passes (a.fetchPage s) first server pages server')
    (number : Nat) : (a.fetchPage s number server').1 = (a.fetchPage s number server).1 := by
  rw [h.eq_afterPages, afterPages_fetchPage, fst_fetchPage_asked]

lemma length_le_of_passes (h : Passes (a.fetchPage s) first server pages server') :
    pages.length ≤ server.pages.length :=
  a.le_length_pages fun i hi => ⟨_, fst_fetchPage_of_passes h i hi⟩

end Archive

/-! ### Walks -/

section Walks

variable {ρ α : Type} {fetch : Nat → Action ρ (Page α)}

/-- A walk over the pages of a listing: over those that are passed from the first one on, and the
one after them, which leads no further; or up to the one after them, which cannot be read. -/
inductive Walk (fetch : Nat → Action ρ (Page α)) (w : ρ) :
    List (Page α) → Option Catalog.Error → ρ → Prop
  | last {before : List (Page α)} {w₁ w' : ρ} {page : Page α} (hpasses : Passes fetch 1 w before w₁)
      (h : fetch (before.length + 1) w₁ = (.ok page, w')) (hlast : ¬page.LeadsOn) :
      Walk fetch w (before ++ [page]) none w'
  | failed {before : List (Page α)} {w₁ w' : ρ} {cause : Catalog.Error}
      (hpasses : Passes fetch 1 w before w₁)
      (h : fetch (before.length + 1) w₁ = (.error cause, w')) : Walk fetch w before (some cause) w'

def endingOf : Option Catalog.Error → Listing.Ending
  | none => .complete
  | some cause => .failed cause

/-- How many pages are asked for: those that are read, and the one that cannot be. -/
def asks (pages : List (Page α)) (failure : Option Catalog.Error) : Nat :=
  pages.length + failure.toList.length

lemma asks_none (before : List (Page α)) (page : Page α) :
    asks (before ++ [page]) none = before.length + 1 := List.length_append

/-- What some pages show from the first one on: its count, if it has one, and the items of all. -/
def eventsOf (pages : List (Page α)) : List (ListEvent α) :=
  ((pages.head?.bind (·.count)).map .hint).toList ++ pages.flatMap fun page => page.items.map .item

lemma shownFrom_one (pages : List (Page α)) : shownFrom 1 pages = eventsOf pages := by
  have hlater : ∀ (number : Nat) (pages : List (Page α)), 1 < number →
      shownFrom number pages = pages.flatMap fun page => page.items.map .item := by
    intro number pages hn
    induction pages generalizing number with
    | nil => rfl
    | cons page pages ih =>
      have hshown : page.shown number = page.items.map .item := by
        rw [Page.shown]
        split
        · rw [if_neg (by omega), List.nil_append]
        · rfl
      rw [shownFrom, hshown, ih _ (by omega), List.flatMap_cons]
  cases pages with
  | nil => rfl
  | cons page pages =>
    rw [shownFrom, hlater 2 pages (by decide), Page.shown, eventsOf, List.flatMap_cons,
      List.append_assoc]
    cases hcount : page.count <;> simp [hcount]

/-- A consumer that takes some events has those pages asked for before which it has not been shown
as many, up to the page that is not passed. -/
lemma Passes.snd_take {number limit : Nat} {w w' : ρ} {pages : List (Page α)}
    (h : Passes fetch number w pages w')
    (hlast : ∀ page, (fetch (number + pages.length) w').1 = .ok page → ¬page.LeadsOn)
    (hlimit : pages.length < limit) (m : Nat) :
    ∃ r, ((pagesFrom fetch limit number).take (some m) w).2.2 = afterPages fetch number r w ∧
      ∀ i, i < r ↔ i < pages.length + 1 ∧ (shownFrom number (pages.take i)).length < m := by
  obtain ⟨limit, rfl⟩ := Nat.exists_eq_add_one_of_ne_zero (Nat.ne_zero_of_lt hlimit)
  -- a page that is passed uses up its events of the `m` that the consumer takes
  induction h generalizing limit m with
  | refl number w =>
    cases m with
    | zero => exact ⟨0, by rw [Listing.take_zero]; rfl, fun i => by simp⟩
    | succ m =>
      refine ⟨1, ?_, fun i => by simp [shownFrom]⟩
      rw [pagesFrom, Listing.take_work]
      cases hread : (fetch number w).1 with
      | error cause => rfl
      | ok page =>
        simp only
        rw [if_pos (Page.not_leadsOn_iff.mp (hlast page hread)), Listing.snd_take_append]
        cases m + 1 - (page.shown number).length <;> rfl
  | @step number w w₁ w' page pages h hleads _ ih =>
    cases m with
    | zero => exact ⟨0, by rw [Listing.take_zero]; rfl, fun i => by simp⟩
    | succ m =>
      obtain ⟨limit, rfl⟩ :=
        Nat.exists_eq_add_one_of_ne_zero (Nat.ne_zero_of_lt (Nat.lt_of_succ_lt_succ hlimit))
      rw [List.length_cons, ← Nat.add_assoc, Nat.add_right_comm] at hlast
      obtain ⟨r, hasked, hiff⟩ := ih hlast (m + 1 - (page.shown number).length) limit
        (Nat.lt_of_succ_lt_succ hlimit)
      refine ⟨r + 1, ?_, fun i => ?_⟩
      · rw [pagesFrom, Listing.take_work, h]
        simp only
        rw [if_neg (Page.leadsOn_iff.mp hleads), Listing.snd_take_append, hasked, afterPages, h]
      · cases i with
        | zero => simp [shownFrom]
        | succ i =>
          have hlength : (shownFrom number ((page :: pages).take (i + 1))).length =
              (page.shown number).length + (shownFrom (number + 1) (pages.take i)).length := by
            rw [List.take_succ_cons, shownFrom, List.length_append]
          rw [Nat.add_lt_add_iff_right, hiff, hlength, List.length_cons, Nat.add_lt_add_iff_right]
          refine and_congr_right fun _ => ?_
          omega

namespace Walk

variable {w w' : ρ} {pages : List (Page α)} {failure : Option Catalog.Error} {limit : Nat}

/-- A walk passes some pages, and asks for the one after them, which it does not pass. -/
lemma exists_passes (h : Walk fetch w pages failure w') :
    ∃ before w₁, Passes fetch 1 w before w₁ ∧ asks pages failure = before.length + 1 ∧
      (∀ i ≤ before.length, pages.take i = before.take i) ∧
      (fetch (before.length + 1) w₁).2 = w' ∧
      ∀ page, (fetch (before.length + 1) w₁).1 = .ok page → ¬page.LeadsOn := by
  cases h with
  | @last before w₁ w' page hpasses h hlast =>
    refine ⟨before, w₁, hpasses, asks_none before page, fun i => List.take_append_of_le_length,
      congrArg Prod.snd h, fun other hread => ?_⟩
    rw [h] at hread
    rwa [← Except.ok.inj hread]
  | @failed _ w₁ w' cause hpasses h =>
    refine ⟨pages, w₁, hpasses, rfl, fun i _ => rfl, congrArg Prod.snd h, fun other hread => ?_⟩
    rw [h] at hread
    contradiction

/-- It asks for these pages, one after the other. -/
lemma eq_afterPages (h : Walk fetch w pages failure w') :
    w' = afterPages fetch 1 (asks pages failure) w := by
  obtain ⟨before, w₁, hpasses, hasks, -, rfl, -⟩ := h.exists_passes
  rw [hasks, hpasses.snd_fetch_next]

/-- A consumer that takes everything is shown the pages of the walk. -/
lemma take_none (h : Walk fetch w pages failure w') (hlimit : asks pages failure ≤ limit) :
    (pagesFrom fetch limit 1).take none w = (eventsOf pages, endingOf failure, w') := by
  rw [← shownFrom_one]
  cases h with
  | @last before w₁ w' page hpasses h hlast =>
    obtain ⟨spare, rfl⟩ := Nat.exists_eq_add_of_le (asks_none before page ▸ hlimit)
    rw [Nat.add_comm before.length] at h
    have hall := hpasses.yields.trans (pagesFrom_of_last spare h hlast)
    rw [Nat.add_assoc, Nat.add_comm 1, hall.take_none, shownFrom_concat]
    exact congrArg (·, _) (List.append_nil _)
  | @failed _ w₁ w' cause hpasses h =>
    obtain ⟨spare, rfl⟩ := Nat.exists_eq_add_of_le hlimit
    rw [Nat.add_comm pages.length] at h
    have hall := hpasses.yields.trans (pagesFrom_of_error spare h)
    have hlength : asks pages (some cause) = pages.length + 1 := rfl
    rw [hlength, Nat.add_assoc, Nat.add_comm 1, hall.take_none]
    simp [Listing.take, endingOf]

/-- What a consumer that takes some events has asked for are the first pages of the walk. -/
lemma snd_take (h : Walk fetch w pages failure w') (hlimit : asks pages failure ≤ limit) (m : Nat) :
    ∃ r, ((pagesFrom fetch limit 1).take (some m) w).2.2 = afterPages fetch 1 r w ∧
      ∀ i, i < r ↔ i < asks pages failure ∧ (eventsOf (pages.take i)).length < m := by
  obtain ⟨before, w₁, hpasses, hasks, htake, -, hlast⟩ := h.exists_passes
  rw [Nat.add_comm] at hlast
  obtain ⟨r, hleft, hiff⟩ := hpasses.snd_take hlast (hasks ▸ hlimit) m
  refine ⟨r, hleft, fun i => (hiff i).trans ?_⟩
  rw [hasks]
  refine and_congr_right fun hi => ?_
  rw [htake i (Nat.le_of_lt_succ hi), shownFrom_one]

end Walk

end Walks

/-! ### Listings -/

namespace Archive

variable {a : Archive} {s : Scope} {server server' : Server} {pages : List (Page s.Item)}
  {failure : Option Catalog.Error}

/-- As a server has only so many pages, the walk comes to an end. -/
theorem exists_walk (a : Archive) (s : Scope) (server : Server) :
    ∃ pages failure server', Walk (a.fetchPage s) server pages failure server' := by
  obtain ⟨before, w₁, -, hpasses, -, hlast⟩ | ⟨pages, w₁, hlength, hpasses, -⟩ :=
    exists_passes (a.fetchPage s) (fun _ => True) (server.pages.length + 1) server
  · obtain ⟨read, server', h⟩ : ∃ read server', a.fetchPage s (before.length + 1) w₁ =
        (read, server') := ⟨_, _, rfl⟩
    cases read with
    | error cause => exact ⟨_, _, _, .failed hpasses h⟩
    | ok page =>
      refine ⟨_, _, _, .last hpasses h fun hleads => ?_⟩
      exact hlast page (congrArg Prod.fst h) hleads trivial
  · have hle := length_le_of_passes hpasses
    omega

/-- The pages of a walk are no more than the server has. -/
lemma asks_le (h : Walk (a.fetchPage s) server pages failure server') :
    asks pages failure ≤ server.pages.length + 1 := by
  obtain ⟨before, w₁, hpasses, hasks, -⟩ := h.exists_passes
  rw [hasks]
  exact Nat.succ_le_succ (length_le_of_passes hpasses)

lemma items_listing_of_walk (h : Walk (a.fetchPage s) server pages failure server') :
    (a.listing s).items server = pages.flatMap (·.items) := by
  have hevents : (a.listing s).events server = shownFrom 1 pages :=
    (congrArg (·.1) (h.take_none (asks_le h))).trans (shownFrom_one pages).symm
  rw [← filterMap_shownFrom 1, ← hevents]
  rfl

/-- The pages of a walk are those that the server has, whatever it has been asked for before. -/
lemma fst_fetchPage_of_walk (h : Walk (a.fetchPage s) server pages failure server') :
    (∀ i (hi : i < pages.length), (a.fetchPage s (i + 1) server).1 = .ok pages[i]) ∧
      ∀ cause ∈ failure, (a.fetchPage s (pages.length + 1) server).1 = .error cause := by
  cases h with
  | @last before server₁ _ page hpasses h _ =>
    refine ⟨fun i hi => ?_, nofun⟩
    have hle : i ≤ before.length := by simpa [Nat.lt_succ_iff] using hi
    obtain hlt | rfl := Nat.lt_or_eq_of_le hle
    · rw [List.getElem_append_left hlt, Nat.add_comm]
      exact fst_fetchPage_of_passes hpasses i hlt
    · rw [List.getElem_concat_length rfl, ← fst_fetchPage_after_passes hpasses, h]
  | @failed _ server₁ _ cause hpasses h =>
    refine ⟨fun i hi => ?_, fun other hm => ?_⟩
    · rw [Nat.add_comm]
      exact fst_fetchPage_of_passes hpasses i hi
    · rw [← fst_fetchPage_after_passes hpasses, h, Option.mem_some.mp hm]

/-- Whatever the server has, a listing has a walk over its pages, and these are what it answers for
each of them. Whoever takes all events is shown the count of the first page, if it has one, and the
items of the pages in order, and then the end or the error of the page that cannot be read; each
page of the walk is asked for once, in order, and these are at most one more than the server has.
Whoever stops after some events is shown the first of these, and only those pages have been asked
for before which there are fewer events than that. -/
theorem pages_are_delivered (a : Archive) (s : Scope) (server : Server) :
    (∃ pages failure server', Walk (a.fetchPage s) server pages failure server') ∧
    ∀ pages failure server', Walk (a.fetchPage s) server pages failure server' →
      (∀ i (hi : i < pages.length), (a.fetchPage s (i + 1) server).1 = .ok pages[i]) ∧
      (∀ cause ∈ failure, (a.fetchPage s (pages.length + 1) server).1 = .error cause) ∧
      (a.listing s).events server = eventsOf pages ∧
      (a.listing s).ending server = endingOf failure ∧
      (a.listing s).left server = server' ∧
      server'.requested = server.requested ++ a.addresses s 1 (asks pages failure) ∧
      asks pages failure ≤ server.pages.length + 1 ∧
      (a.addresses s 1 (asks pages failure)).Nodup ∧
      ∀ m, ((a.listing s).take (some m) server).1 = (eventsOf pages).take m ∧
        ∃ r, ((a.listing s).take (some m) server).2.2.requested =
            server.requested ++ a.addresses s 1 r ∧
          ∀ i, i < r ↔ i < asks pages failure ∧ (eventsOf (pages.take i)).length < m := by
  refine ⟨a.exists_walk s server, fun pages failure server' h => ?_⟩
  obtain ⟨hread, hfailure⟩ := fst_fetchPage_of_walk h
  have hall : (a.listing s).take none server = (eventsOf pages, endingOf failure, server') :=
    h.take_none (asks_le h)
  refine ⟨hread, hfailure, congrArg (·.1) hall, congrArg (·.2.1) hall, congrArg (·.2.2) hall, ?_,
    asks_le h, a.nodup_addresses s 1 _, fun m => ⟨?_, ?_⟩⟩
  · rw [h.eq_afterPages, afterPages_fetchPage, Server.requested_asked]
  · rw [Listing.events_take, Listing.events, hall]
  · obtain ⟨r, hleft, hiff⟩ := h.snd_take (asks_le h) m
    refine ⟨r, ?_, hiff⟩
    rw [← Server.requested_asked, ← afterPages_fetchPage, ← hleft]
    cases m with
    | zero => rw [Listing.take_zero, Listing.take_zero]
    | succ m => rfl

end Archive

end Remote

end ModuleArchive
