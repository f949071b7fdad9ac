import ModuleArchive.Proofs.Filesystem.Resolving
import ModuleArchive.Proofs.Remote.Count
import ModuleArchive.Proofs.Remote.Download
import ModuleArchive.Proofs.Url.Rooted

/-!
# Names of listed entries

A group that is listed or looked up has a name, and a track that is listed has a file name unless
the path of its link is empty. So every directory of the tree over an archive on the web has an
identifier, and every file has one whose link has a path.
-/
namespace ModuleArchive

/-! ### Trimmed texts -/

namespace Text

/-- Whether a text has no white space at its ends. -/
def IsTrimmed (text : List Char) : Prop :=
  (∀ c ∈ text.head?, isBlank c = false) ∧ ∀ c ∈ text.getLast?, isBlank c = false

lemma isTrimmed_trim (text : List Char) : IsTrimmed (trim text) := by
  have hhead (xs : List Char) : ∀ c ∈ (xs.dropWhile isBlank).head?, isBlank c = false := by
    intro c hc
    have hnot := List.head?_dropWhile_not isBlank xs
    rw [hc] at hnot
    simpa using hnot
  rw [trim, trimRight, trimLeft]
  constructor
  · -- what is dropped from the end leaves the start in place
    intro c hc
    obtain ⟨dropped, hdropped⟩ : ((text.dropWhile isBlank).reverse.dropWhile isBlank).reverse <+:
        text.dropWhile isBlank := by
      rw [← List.reverse_suffix, List.reverse_reverse]
      exact List.dropWhile_suffix _
    refine hhead text c ?_
    rw [← hdropped, List.head?_append, hc]
    rfl
  · intro c hc
    rw [List.getLast?_reverse] at hc
    exact hhead _ c hc

end Text

lemma ofList_ne_empty_iff {text : List Char} : String.ofList text ≠ "" ↔ text ≠ [] := by
  rw [Ne, Ne, ← String.toList_inj, String.toList_ofList]
  rfl

namespace Remote

open Html (Document)

/-! ### Groups -/

namespace Page

lemma name_of_readGroup {row link : Html.Node} {target : List Char} {group : Group}
    (h : readGroup row link target = .ok group) :
    group.name ≠ "" ∧ Text.IsTrimmed group.name.toList := by
  obtain ⟨hname, hne⟩ : group.name = String.ofList (shownText link) ∧ shownText link ≠ [] := by
    unfold readGroup at h
    split at h
    · split at h
      · simp only at h
        split at h
        · contradiction
        · next hname =>
          refine ⟨?_, by simpa using hname⟩
          split at h
          · obtain rfl := Except.ok.inj h
            rfl
          · obtain ⟨tracks, -, h⟩ := bind_eq_ok_iff.mp h
            split at h
            · obtain rfl := Except.ok.inj h
              rfl
            · contradiction
      · contradiction
    · contradiction
  rw [hname, String.toList_ofList]
  exact ⟨ofList_ne_empty_iff.mpr hne, Text.isTrimmed_trim _⟩

/-- The heading of a page is a name. -/
lemma ne_empty_of_heading {α : Type} {page : Page α} {d : Document}
    {readRow : Html.Node → Html.Node → List Char → Except Catalog.Error α}
    (h : ofDocument readRow d = .ok page) {name : String} (hname : page.heading = some name) :
    name ≠ "" := by
  obtain ⟨items, -, h⟩ := bind_eq_ok_iff.mp h
  obtain ⟨count, -, h⟩ := bind_eq_ok_iff.mp h
  obtain rfl := Except.ok.inj h
  change headingOf d = some name at hname
  unfold headingOf at hname
  split at hname
  · contradiction
  · simp only at hname
    split at hname
    · contradiction
    · next hne =>
      obtain rfl := Option.some_inj.mp hname
      exact ofList_ne_empty_iff.mpr (by simpa using hne)

/-! ### Tracks -/

/-- What is known of a track that is listed with a link to a URL. -/
structure IsLinked (url : Url) (track : Track) : Prop where
  path_eq : track.path.toList = Utf8.decodeLossy (Percent.decodeText url.pathText)
  /-- The file name is the last segment of the path. -/
  isLast : (Text.splitOn '/' track.path.toList).getLast? = some track.filename.toList
  noSlash : '/' ∉ track.filename.toList
  /-- It is empty only if the path of the link is. -/
  isNamed_iff : track.filename ≠ "" ↔ url.pathText ≠ []
  /-- The path starts with a slash if that of the link does, escaped or not. -/
  isAbsolute_iff : track.path.toList.head? = some '/' ↔
    (Percent.decodeText url.pathText).head? = some 0x2F

lemma isLinked_of_readTrack {storage : Url} (row link : Html.Node) {target : List Char}
    {track : Track} (h : readTrack storage row link target = .ok track) :
    ∃ url, storage.join? (String.ofList target) = some url ∧ IsLinked url track := by
  obtain ⟨url, path, size, hjoin, hpath, hlast, rfl⟩ := exists_of_readTrack row link h
  have hslash : (UInt8.ofNat '/'.toNat) = 0x2F := rfl
  have hfilename : (Track.ofPath (String.ofList path) size).filename.toList =
      Text.lastPiece '/' path := by
    rw [Track.ofPath, String.toList_ofList, String.toList_ofList]
  refine ⟨url, hjoin, ?_, ?_, ?_, ?_, ?_⟩
  · rw [Track.ofPath, String.toList_ofList, hpath]
  · rw [hfilename, Track.ofPath, String.toList_ofList, Text.lastPiece]
    exact List.getLast?_eq_some_getLast (Text.splitOn_ne_nil _ _) ▸ rfl
  · rw [hfilename]
    exact (Text.lastPiece_cases '/' path).1
  · rw [Track.ofPath, String.toList_ofList, ofList_ne_empty_iff, Ne, Text.lastPiece_eq_nil_iff,
      or_iff_left hlast, hpath, Utf8.decodeLossy_eq_nil_iff, Url.decodeText_eq_nil_iff]
  · rw [Track.ofPath, String.toList_ofList, hpath, Utf8.head?_decodeLossy (by decide), hslash]

/-- A link whose URL is neither opaque nor without a path leads to a track with an absolute path
and a file name. -/
lemma IsLinked.isAbsolute {url : Url} {track : Track} (h : IsLinked url track)
    (hurl : url.IsRooted) : track.path.toList.head? = some '/' ∧ track.filename ≠ "" :=
  ⟨h.isAbsolute_iff.mpr hurl.head?_decodeText, h.isNamed_iff.mpr (Url.isRooted_iff.mp hurl).2⟩

/-- The tracks of a page are linked from its rows. -/
lemma exists_link_of_ofText {storage : Url} {g : Grouping} {id : UInt32} {text : List Char}
    {page : Page Track} (h : ofText storage (.tracks g id) text = .ok page) :
    List.Forall₂ (fun target track => ∃ url, storage.join? (String.ofList target) = some url ∧
      IsLinked url track) (targets (Document.ofPage text)) page.items := by
  refine (forall₂_targets h).imp ?_
  rintro target track ⟨row, link, hread⟩
  exact isLinked_of_readTrack row link hread

lemma name_of_ofText {storage : Url} {g : Grouping} {b : Bucket} {text : List Char}
    {page : Page Group} (h : ofText storage (.bucket g b) text = .ok page) :
    ∀ group ∈ page.items, group.name ≠ "" ∧ Text.IsTrimmed group.name.toList := by
  intro group hm
  obtain ⟨target, -, row, link, hread⟩ := exists_of_mem_forall₂ (forall₂_targets h) hm
  exact name_of_readGroup hread

end Page

end Remote

/-! ### Listings -/

namespace Remote

namespace Archive

variable {a : Archive} {s : Scope} {server : Server}

lemma exists_page_of_mem_listing {item : s.Item} (h : item ∈ (a.listing s).items server) :
    ∃ number page, (a.fetchPage s number server).1 = .ok page ∧ item ∈ page.items := by
  obtain ⟨pages, failure, server', hwalk⟩ := a.exists_walk s server
  rw [items_listing_of_walk hwalk, List.mem_flatMap] at h
  obtain ⟨page, hm, hitem⟩ := h
  obtain ⟨i, hi, rfl⟩ := List.getElem_of_mem hm
  exact ⟨i + 1, _, (fst_fetchPage_of_walk hwalk).1 i hi, hitem⟩

lemma exists_content_of_fetchPage {number : Nat} {page : Page s.Item}
    (h : (a.fetchPage s number server).1 = .ok page) :
    ∃ content, (a.download (a.site.pageUrl s number) server).1 = .ok content ∧
      Page.ofText a.site.storage s (Utf8.decodeLossy content.bytes) = .ok page := by
  rw [fst_fetchPage_eq, bind_eq_ok_iff] at h
  exact h

lemma items_listing_of_last {page : Page s.Item} (h : (a.fetchPage s 1 server).1 = .ok page)
    (hlast : page.hasNext = false) : (a.listing s).items server = page.items := by
  have hwalk : Walk (a.fetchPage s) server [page] none (a.fetchPage s 1 server).2 := by
    refine .last (.refl 1 server) (Prod.ext h rfl) fun hleads => ?_
    exact Bool.false_ne_true (hlast.symm.trans hleads.2)
  rw [items_listing_of_walk hwalk, List.flatMap_singleton]

lemma ne_empty_of_group {g : Grouping} {id : UInt32} {group : Group} {server' : Server}
    (h : a.group g id server = (.ok (some group), server')) : group.name ≠ "" := by
  unfold Archive.group at h
  split at h
  · simp at h
  · next page server' hpage =>
    simp only [Prod.mk.injEq, Except.ok.injEq, Option.map_eq_some_iff] at h
    obtain ⟨⟨name, hname, rfl⟩, -⟩ := h
    obtain ⟨content, -, htext⟩ := exists_content_of_fetchPage (congrArg Prod.fst hpage)
    exact Page.ne_empty_of_heading htext hname

end Archive

end Remote

/-! ### The tree -/

namespace Filesystem

section Nodes

variable {σ : Type} {f : Filesystem σ} {n : Node} {l : Location}

/-- The nodes of a tree that one comes by: those that are looked up by an identifier or at a
location, and the children of directories. -/
inductive Obtained (f : Filesystem σ) : Node → Prop
  | resolved {n : Node} {identifier : String} {w w' : σ}
      (h : f.resolve identifier w = (.ok (some n), w')) : Obtained f n
  | located {n : Node} {l : Location} {w w' : σ}
      (h : f.resolveLocation l w = (.ok (some n), w')) : Obtained f n
  | child {n child : Node} {listing : Listing σ Node} {w : σ} (h : Obtained f n)
      (hl : f.children? n = some listing) (hm : child ∈ listing.items w) : Obtained f child

/-- What is listed in a directory: a part of the tree that is always there, or a record of the
catalog. -/
inductive IsListed (f : Filesystem σ) (w : σ) : Node → Node → Prop
  | category (g : Grouping) : IsListed f w .root (.category g)
  | bucket (g : Grouping) (b : Bucket) : IsListed f w (.category g) (.bucket g b)
  | group {g : Grouping} {b : Bucket} {group : Group}
      (h : group ∈ (f.catalog.listing (.bucket g b)).items w) :
      IsListed f w (.bucket g b) (.group g b group)
  | track {g : Grouping} {b : Bucket} {group : Group} {track : Track}
      (h : track ∈ (f.catalog.listing (.tracks g group.id)).items w) :
      IsListed f w (.group g b group) (.track g b group.toRef track)

lemma isListed_of_child {child : Node} {listing : Listing σ Node} {w : σ}
    (hl : f.children? n = some listing) (hm : child ∈ listing.items w) :
    f.IsListed w n child := by
  cases n with
  | root =>
    obtain rfl := Option.some_inj.mp hl
    rw [Listing.items_ofItems] at hm
    obtain ⟨g, -, rfl⟩ := List.mem_map.mp hm
    exact .category g
  | category g =>
    obtain rfl := Option.some_inj.mp hl
    rw [Listing.items_ofItems] at hm
    obtain ⟨b, -, rfl⟩ := List.mem_map.mp hm
    exact .bucket g b
  | bucket g b =>
    obtain rfl := Option.some_inj.mp hl
    rw [Listing.items_map] at hm
    obtain ⟨group, hgroup, rfl⟩ := List.mem_map.mp hm
    exact .group hgroup
  | group g b group =>
    obtain rfl := Option.some_inj.mp hl
    rw [Listing.items_map] at hm
    obtain ⟨track, htrack, rfl⟩ := List.mem_map.mp hm
    exact .track htrack
  | track => cases hl
  | detached => cases hl

lemma exists_identifier_iff (hl : n.location? = some l) :
    (∃ u, f.identifier n = .ok u) ↔ l.IsNamed := by
  constructor
  · rintro ⟨u, hu⟩
    exact Location.isNamed_of_encode (encode_of_identifier hl hu)
  · intro h
    rw [identifier_eq hl, encode, encodeLocation, Location.encode_eq_ok h]
    exact ⟨_, rfl⟩

/-- Whether a directory has a name where it needs one. -/
def IsNamedDirectory (n : Node) : Prop :=
  n.isFile = false → ∃ l, n.location? = some l ∧ l.IsNamed

end Nodes

section OverArchive

variable {a : Remote.Archive} {f : Filesystem Remote.Server} {n : Node}

lemma isNamedDirectory_of_finds (hf : f.catalog = a.catalog) {l : Location}
    {w w' : Remote.Server} (h : f.catalog.Finds l n w w') : IsNamedDirectory n := by
  rw [hf] at h
  cases h with
  | root => exact fun _ => ⟨_, rfl, trivial⟩
  | category => exact fun _ => ⟨_, rfl, trivial⟩
  | bucket => exact fun _ => ⟨_, rfl, trivial⟩
  | group b h => exact fun _ => ⟨_, rfl, Remote.Archive.ne_empty_of_group h⟩
  | track => exact fun hfile => Bool.noConfusion hfile

/-- One comes by a group that the archive knows. -/
lemma Obtained.of_group (hf : f.catalog = a.catalog) {g : Grouping} (b : Bucket) (r : GroupRef)
    {group : Group} {server : Remote.Server}
    (h : (a.group g r.id server).1 = .ok (some group)) : f.Obtained (.group g b group) := by
  have hgroup : f.catalog.group g r.id server =
      (.ok (some group), (f.catalog.group g r.id server).2) := by
    rw [hf]
    exact Prod.ext h rfl
  exact .located (resolveLocation_eq_iff.mpr (.group b hgroup))

lemma isNamedDirectory_of_obtained (hf : f.catalog = a.catalog) (h : f.Obtained n) :
    IsNamedDirectory n := by
  induction h with
  | resolved h =>
    obtain ⟨hd, -⟩ | ⟨-, l, -, hfinds⟩ := resolve_eq_iff.mp h
    · obtain ⟨url, track, rfl, -⟩ := exists_of_detached? hd
      exact fun hfile => Bool.noConfusion hfile
    · exact isNamedDirectory_of_finds hf hfinds
  | located h => exact isNamedDirectory_of_finds hf (resolveLocation_eq_iff.mp h)
  | child _ hl hm =>
    cases isListed_of_child hl hm with
    | category g => exact fun _ => ⟨_, rfl, trivial⟩
    | bucket g b => exact fun _ => ⟨_, rfl, trivial⟩
    | @group g b group hgroup =>
      rw [hf] at hgroup
      obtain ⟨number, page, hpage, hitem⟩ := Remote.Archive.exists_page_of_mem_listing hgroup
      obtain ⟨content, -, htext⟩ := Remote.Archive.exists_content_of_fetchPage hpage
      exact fun _ => ⟨_, rfl, (Remote.Page.name_of_ofText htext group hitem).1⟩
    | track => exact fun hfile => Bool.noConfusion hfile

lemma exists_identifier_of_directory (hf : f.catalog = a.catalog) (h : f.Obtained n)
    (hfile : n.isFile = false) : ∃ u, f.identifier n = .ok u := by
  obtain ⟨l, hl, hnamed⟩ := isNamedDirectory_of_obtained hf h hfile
  exact (exists_identifier_iff hl).mpr hnamed

/-- A file that is listed is linked from a page that was downloaded, and has an identifier
exactly if its link has a path. -/
lemma exists_link_of_child (hf : f.catalog = a.catalog) (h : f.Obtained n)
    {listing : Listing Remote.Server Node} (hl : f.children? n = some listing)
    {server : Remote.Server} {g : Grouping} {b : Bucket} {r : GroupRef} {track : Track}
    (hm : .track g b r track ∈ listing.items server) :
    ∃ number content target url,
      (a.download (a.site.pageUrl (.tracks g r.id) number) server).1 = .ok content ∧
      target ∈ Remote.Page.targets (Html.Document.ofPage (Utf8.decodeLossy content.bytes)) ∧
      a.site.storage.join? (String.ofList target) = some url ∧
      Remote.Page.IsLinked url track ∧
      ((∃ u, f.identifier (.track g b r track) = .ok u) ↔ url.pathText ≠ []) := by
  have hnamed := isNamedDirectory_of_obtained hf h
  cases isListed_of_child hl hm with
  | track htrack =>
    rw [hf] at htrack
    obtain ⟨number, page, hpage, hitem⟩ := Remote.Archive.exists_page_of_mem_listing htrack
    obtain ⟨content, hdownload, htext⟩ := Remote.Archive.exists_content_of_fetchPage hpage
    obtain ⟨target, htarget, url, hjoin, hlinked⟩ :=
      exists_of_mem_forall₂ (Remote.Page.exists_link_of_ofText htext) hitem
    refine ⟨number, content, target, url, hdownload, htarget, hjoin, hlinked, ?_⟩
    obtain ⟨l, hl, hgroup⟩ := hnamed rfl
    obtain rfl := Option.some_inj.mp hl
    rw [exists_identifier_iff rfl, ← hlinked.isNamed_iff]
    exact and_iff_right hgroup

end OverArchive

end Filesystem

namespace Remote

/-- A group that is read from a page has a name without white space at its ends. A track that is
read from a page has the last segment of its path as its file name. It has a file name exactly if
the path of its link is not empty, and its path starts with a slash exactly if that of the link
does; so both is the case if the link has a scheme with rules of its own, as that of the storage
host, or else is not opaque and has a path. In the tree over an archive every directory has an
identifier, and a file that is listed has one exactly if the path of its link is not empty. -/
theorem listed_entries_are_addressable {base : String} {a : Archive}
    (hbase : Url.parse? base = some a.site.storage) (hweb : a.site.storage.isWeb = true) :
    (∀ (g : Grouping) (b : Bucket) (text : List Char) (page : Page Group),
      Page.ofText a.site.storage (.bucket g b) text = .ok page →
      ∀ group ∈ page.items, group.name ≠ "" ∧ Text.IsTrimmed group.name.toList) ∧
    (∀ (g : Grouping) (id : UInt32) (text : List Char) (page : Page Track),
      Page.ofText a.site.storage (.tracks g id) text = .ok page →
      List.Forall₂ (fun target track =>
        ∃ url, a.site.storage.join? (String.ofList target) = some url ∧ Page.IsLinked url track ∧
          (url.isSpecial = true ∨ (url.isOpaque = false ∧ url.pathText ≠ []) →
            track.path.toList.head? = some '/' ∧ track.filename ≠ ""))
        (Page.targets (Html.Document.ofPage text)) page.items) ∧
    (∀ (f : Filesystem Server) (n : Node), f.catalog = a.catalog → f.Obtained n →
      (n.isFile = false → ∃ u, f.identifier n = .ok u) ∧
      ∀ listing, f.children? n = some listing → ∀ (server : Server),
        (∀ child ∈ listing.items server, child.isFile = false →
          ∃ u, f.identifier child = .ok u) ∧
        ∀ g b r track, .track g b r track ∈ listing.items server →
          ∃ number content target url,
            (a.download (a.site.pageUrl (.tracks g r.id) number) server).1 = .ok content ∧
            target ∈ Page.targets (Html.Document.ofPage (Utf8.decodeLossy content.bytes)) ∧
            a.site.storage.join? (String.ofList target) = some url ∧ Page.IsLinked url track ∧
            ((∃ u, f.identifier (.track g b r track) = .ok u) ↔ url.pathText ≠ []) ∧
            (url.isSpecial = true → url.pathText ≠ [])) := by
  have hrooted {target : List Char} {url : Url}
      (hjoin : a.site.storage.join? (String.ofList target) = some url)
      (hspecial : url.isSpecial = true) : url.IsRooted :=
    Url.isRooted_of_join? (Url.isResolved_of_parse? hbase hweb) hweb hjoin hspecial
  refine ⟨fun g b text page h => Page.name_of_ofText h, ?_, ?_⟩
  · intro g id text page h
    refine (Page.exists_link_of_ofText h).imp ?_
    rintro target track ⟨url, hjoin, hlinked⟩
    refine ⟨url, hjoin, hlinked, fun hurl => hlinked.isAbsolute ?_⟩
    exact hurl.elim (hrooted hjoin) Url.isRooted_iff.mpr
  · intro f n hf h
    refine ⟨Filesystem.exists_identifier_of_directory hf h, fun listing hl server =>
      ⟨fun child hm => ?_, fun g b r track hm => ?_⟩⟩
    · exact Filesystem.exists_identifier_of_directory hf (h.child hl hm)
    · obtain ⟨number, content, target, url, hdownload, htarget, hjoin, hlinked, hnamed⟩ :=
        Filesystem.exists_link_of_child hf h hl hm
      exact ⟨number, content, target, url, hdownload, htarget, hjoin, hlinked, hnamed,
        fun hspecial => (Url.isRooted_iff.mp (hrooted hjoin hspecial)).2⟩

/-! ### A page with one link -/

/-- The page of a group that lists one file, of four bytes. -/
def linkPage (target : String) : Layout where
  heading := some "Beispiel".toList
  found := some (1, .plain)
  entries := [⟨target.toList, "x".toList, 4, .plain⟩]

def linkServer (target : String) : Server where
  pages := [("https://example.com/modland?md=aut&id=42&pg=1",
    .ofBytes (Utf8.encode (linkPage target).text))]

/-- The tree over the archive at that server. -/
def modlandTree : Filesystem Server := ⟨"modland", modlandArchive.catalog, modland.storage⟩

def linkGroup (b : Bucket) : Node := .group .authors b ⟨42, "Beispiel", 1⟩

section Linked

variable {target : String} {track : Track}

lemma ofPage_linkPage (hs : IsStable target.toList) :
    Html.Document.ofPage (linkPage target).text = (linkPage target).document := by
  have hclean : (linkPage target).IsClean := by
    constructor <;> simp [linkPage, IsStable, IsGap, Text.isAsciiBlank]
  have hshown : IsStable "x".toList := by decide
  have hentry : ∀ e ∈ (linkPage target).entries, e.IsClean := by
    intro e he
    obtain rfl := List.mem_singleton.mp he
    exact ⟨hs, hshown⟩
  exact Layout.ofPage_text hclean hentry

lemma ofText_linkPage {s : Scope} {page : Page s.Item} (hs : IsStable target.toList)
    (h : Page.ofDocument (Page.readRow modland.storage s) (linkPage target).document = .ok page) :
    Page.ofText modland.storage s (linkPage target).text = .ok page := by
  rw [Page.ofText, ofPage_linkPage hs]
  exact h

lemma download_written {text : List Char} {server : Server} {url : Url} (htext : text ≠ [])
    (hfailing : server.isFailing = false)
    (hpage : server.page? url.print = some (.ofBytes (Utf8.encode text))) :
    (modlandArchive.download url server).1 = .ok ⟨Utf8.encode text, false⟩ := by
  have hfetch : (server.fetch url).1 = .ok (.ofBytes (Utf8.encode text)) := by
    simp [Server.fetch, hfailing, hpage]
  have hdelivered := Content.delivered_data (Utf8.encode text)
  change (server.download _ _ _).1 = _
  rw [Server.fst_download, hfetch, receive_eq_ok_iff]
  refine ⟨_, rfl, read_eq_ok_iff.mpr ⟨hdelivered.2, ?_, Utf8.encode_ne_nil htext, ?_⟩⟩
  · rw [Response.delivery, Response.ofBytes, hdelivered.1]
  · exact fun size h => (Option.some.inj h).symm

lemma download_linkServer (target : String) :
    (modlandArchive.download (modlandArchive.site.pageUrl (.tracks .authors 42) 1)
      (linkServer target)).1 = .ok ⟨Utf8.encode (linkPage target).text, false⟩ := by
  have hprint : (modlandArchive.site.pageUrl (.tracks .authors 42) 1).print =
      "https://example.com/modland?md=aut&id=42&pg=1" := by decide +kernel
  refine download_written (List.cons_ne_nil _ _) rfl ?_
  rw [hprint, linkServer, Server.page?, List.find?_cons_of_pos (by simp)]
  rfl

lemma fetchPage_linkServer {page : Page Track}
    (h : Page.ofText modland.storage (.tracks .authors 42) (linkPage target).text = .ok page) :
    (modlandArchive.fetchPage (.tracks .authors 42) 1 (linkServer target)).1 = .ok page := by
  rw [modlandArchive.fst_fetchPage_of_download (download_linkServer target),
    Utf8.decodeLossy_encode]
  exact h

/-- The group of the page is found, and lists the file. -/
lemma linkGroup_lists (b : Bucket) {server : Server}
    (h : (modlandArchive.fetchPage (.tracks .authors 42) 1 server).1 =
      .ok ⟨some 1, some "Beispiel", [track], false⟩) :
    modlandTree.Obtained (linkGroup b) ∧
      ∃ listing, modlandTree.children? (linkGroup b) = some listing ∧
        listing.items server = [.track .authors b ⟨42, "Beispiel"⟩ track] := by
  have hcount : UInt32.ofNat (min 1 (UInt32.size - 1)) = 1 := by decide
  have hgroup : (modlandArchive.group .authors 42 server).1 =
      .ok (some ⟨42, "Beispiel", 1⟩) := by
    rw [modlandArchive.fst_group h rfl, hcount]
    rfl
  constructor
  · exact .of_group rfl b ⟨42, "Beispiel"⟩ hgroup
  · refine ⟨_, rfl, ?_⟩
    rw [Listing.items_map]
    exact congrArg (List.map _) (Archive.items_listing_of_last h rfl)

end Linked

/-- A group has its name. A file on the storage host has its names, and an identifier. -/
theorem listed_entries_are_addressable_spaceInName :
    Page.ofText modland.storage (.bucket .authors (.letter 1)) (linkPage "?id=42").text =
        .ok ⟨some 1, some "Beispiel", [⟨42, "x", 4⟩], false⟩ ∧
      ("x" ≠ "" ∧ Text.IsTrimmed "x".toList) ∧
      Url.parse? "https://ftp.modland.com" = some modlandArchive.site.storage ∧
      modlandArchive.site.storage.isWeb = true ∧
      Page.ofText modland.storage (.tracks .authors 42) (linkPage "/pub/a%20b.mod").text =
        .ok ⟨some 1, some "Beispiel", [⟨"/pub/a b.mod", "a b.mod", 4⟩], false⟩ ∧
      (∃ url, modlandArchive.site.storage.join? "/pub/a%20b.mod" = some url ∧
        url.isSpecial = true ∧ "/pub/a b.mod".toList.head? = some '/' ∧ "a b.mod" ≠ "") ∧
      modlandTree.catalog = modlandArchive.catalog ∧ modlandTree.Obtained (linkGroup (.letter 1)) ∧
      (∃ u, modlandTree.identifier (linkGroup (.letter 1)) = .ok u) ∧
      ∃ listing, modlandTree.children? (linkGroup (.letter 1)) = some listing ∧
        listing.items (linkServer "/pub/a%20b.mod") =
          [.track .authors (.letter 1) ⟨42, "Beispiel"⟩ ⟨"/pub/a b.mod", "a b.mod", 4⟩] ∧
        ∃ u, modlandTree.identifier (.track .authors (.letter 1) ⟨42, "Beispiel"⟩
          ⟨"/pub/a b.mod", "a b.mod", 4⟩) = .ok u := by
  have hgroups : Page.ofText modland.storage (.bucket .authors (.letter 1))
      (linkPage "?id=42").text = .ok ⟨some 1, some "Beispiel", [⟨42, "x", 4⟩], false⟩ :=
    ofText_linkPage (by decide) rfl
  have hbase : Url.parse? "https://ftp.modland.com" = some modlandArchive.site.storage := by
    decide +kernel
  have hweb : modlandArchive.site.storage.isWeb = true := rfl
  have htracks : Page.ofText modland.storage (.tracks .authors 42)
      (linkPage "/pub/a%20b.mod").text =
        .ok ⟨some 1, some "Beispiel", [⟨"/pub/a b.mod", "a b.mod", 4⟩], false⟩ :=
    ofText_linkPage (by decide) rfl
  obtain ⟨hgroup, htrack, htree⟩ := listed_entries_are_addressable hbase hweb
  have hrows := htrack _ _ _ _ htracks
  rw [ofPage_linkPage (by decide)] at hrows
  obtain ⟨url, hjoin, -, hurl⟩ := (List.forall₂_cons.mp hrows).1
  have hspecial : (modlandArchive.site.storage.join? "/pub/a%20b.mod").map Url.isSpecial =
      some true := by decide +kernel
  rw [String.ofList_toList] at hjoin
  rw [hjoin] at hspecial
  have hspecial := Option.some_inj.mp hspecial
  obtain ⟨hobtained, listing, hlisting, hitems⟩ :=
    linkGroup_lists (.letter 1) (fetchPage_linkServer htracks)
  obtain ⟨hdirectory, hchildren⟩ := htree modlandTree (linkGroup (.letter 1)) rfl hobtained
  obtain ⟨-, hfiles⟩ := hchildren listing hlisting (linkServer "/pub/a%20b.mod")
  obtain ⟨_, _, _, _, -, -, -, hlinked, hnamed, -⟩ :=
    hfiles _ _ _ _ (hitems ▸ List.mem_singleton_self _)
  have hidentifier := hnamed.mpr (hlinked.isNamed_iff.mp (by decide))
  exact ⟨hgroups, hgroup _ _ _ _ hgroups _ (List.mem_singleton_self _), hbase, hweb, htracks,
    ⟨url, hjoin, hspecial, hurl (.inl hspecial)⟩, rfl, hobtained, hdirectory rfl, listing,
    hlisting, hitems, hidentifier⟩

/-- A link of another scheme is resolved too. If it has no path, then the file that is listed has
no name, and no identifier; and the path of a file need not start with a slash. -/
theorem listed_entry_has_no_name_mailto :
    Url.parse? "https://ftp.modland.com" = some modland.storage ∧ modland.storage.isWeb = true ∧
      Page.ofText modland.storage (.tracks .authors 42) (linkPage "mailto:").text =
        .ok ⟨some 1, some "Beispiel", [⟨"", "", 4⟩], false⟩ ∧
      Page.ofText modland.storage (.tracks .authors 42) (linkPage "mailto:a.mod").text =
        .ok ⟨some 1, some "Beispiel", [⟨"a.mod", "a.mod", 4⟩], false⟩ ∧
      modlandTree.Obtained (linkGroup (.letter 1)) ∧
      ∃ listing, modlandTree.children? (linkGroup (.letter 1)) = some listing ∧
        listing.items (linkServer "mailto:") =
          [.track .authors (.letter 1) ⟨42, "Beispiel"⟩ ⟨"", "", 4⟩] ∧
        modlandTree.identifier (.track .authors (.letter 1) ⟨42, "Beispiel"⟩ ⟨"", "", 4⟩) =
          .error (.malformed .emptySegment "modland") := by
  have hbase : Url.parse? "https://ftp.modland.com" = some modland.storage := by decide +kernel
  have hempty : Page.ofText modland.storage (.tracks .authors 42) (linkPage "mailto:").text =
      .ok ⟨some 1, some "Beispiel", [⟨"", "", 4⟩], false⟩ := ofText_linkPage (by decide) rfl
  have hrelative : Page.ofText modland.storage (.tracks .authors 42)
      (linkPage "mailto:a.mod").text =
        .ok ⟨some 1, some "Beispiel", [⟨"a.mod", "a.mod", 4⟩], false⟩ :=
    ofText_linkPage (by decide) rfl
  obtain ⟨hobtained, listing, hlisting, hitems⟩ :=
    linkGroup_lists (.letter 1) (fetchPage_linkServer hempty)
  exact ⟨hbase, rfl, hempty, hrelative, hobtained, listing, hlisting, hitems, by decide +kernel⟩

end Remote

end ModuleArchive
