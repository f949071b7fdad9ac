import ModuleArchive.Proofs.Remote.Link
import ModuleArchive.Proofs.Remote.Markup
import ModuleArchive.Proofs.Url.Printed

/-!
# Pages of tracks

The address of a track holds the path of the track, each name of it escaped. A page that lists
tracks links to their addresses, and is read as tracks with the same paths: nothing in a name is
taken for a mark of the address, and nothing is escaped or read twice.
-/
namespace ModuleArchive.Remote

open Html
open Decimal (Form)
open Storage (steps)

/-! ### Paths of tracks -/

/-- Whether a text is a name in the path of a track. -/
structure IsName (text : List Char) : Prop where
  noSlash : '/' ∉ text
  ne_nil : text ≠ []
  noDot : text ≠ ['.']
  noDots : text ≠ ['.', '.']
  unbroken : Url.IsUnbroken text

instance (text : List Char) : Decidable (IsName text) :=
  decidable_of_iff ('/' ∉ text ∧ text ≠ [] ∧ text ≠ ['.'] ∧ text ≠ ['.', '.'] ∧
      Url.IsUnbroken text)
    ⟨fun ⟨hs, hn, hd, hdd, hu⟩ => ⟨hs, hn, hd, hdd, hu⟩,
      fun h => ⟨h.noSlash, h.ne_nil, h.noDot, h.noDots, h.unbroken⟩⟩

/-- Whether a path consists of names, each of them behind a slash. -/
def IsTrackPath (path : String) : Prop :=
  ∃ names, names ≠ [] ∧ path.toList = names.flatMap ('/' :: ·) ∧ ∀ name ∈ names, IsName name

lemma getLast?_ne_slash {path : String} (h : IsTrackPath path) :
    path.toList.getLast? ≠ some '/' := by
  obtain ⟨names, hne, hpath, hnames⟩ := h
  obtain hnil | ⟨init, last, rfl⟩ := List.eq_nil_or_concat names
  · contradiction
  · have hname : IsName last := hnames last (by simp)
    obtain ⟨c, hc⟩ := Option.isSome_iff_exists.mp (List.getLast?_isSome.mpr hname.ne_nil)
    have hend : path.toList.getLast? = some c := by
      rw [hpath, List.concat_eq_append, List.flatMap_append, List.flatMap_singleton,
        List.getLast?_append, List.getLast?_cons, hc]
      rfl
    rw [hend, ne_eq, Option.some_inj]
    rintro rfl
    exact hname.noSlash (List.mem_of_getLast? hc)

section Address

variable {site : Site} {path : String}

/-- The names in the address of a track are those of its path, each one escaped. -/
lemma exists_names_fileUrl (hw : site.storage.isWeb = true) (ho : site.storage.isOpaque = false)
    (h : IsTrackPath path) : ∃ names, names ≠ [] ∧ path.toList = names.flatMap ('/' :: ·) ∧
      (∀ name ∈ names, IsName name) ∧ site.fileUrl path = { site.storage with
        path := .segments (names.map (Percent.encode (Url.escapeSegment true))) } := by
  obtain ⟨names, hne, hpath, hnames⟩ := h
  have hspecial : site.storage.isSpecial = true := (Url.isSpecialScheme_of_isWeb hw).1
  have hsteps : steps path.toList = names := by
    obtain ⟨first, rest, rfl⟩ := List.exists_cons_of_ne_nil hne
    rw [hpath]
    exact Site.steps_flatMap (hnames first List.mem_cons_self).ne_nil
      (fun name hn => (hnames name hn).noSlash)
      fun name hn => ⟨(hnames name hn).noDot, (hnames name hn).noDots⟩
  have hunbroken : Url.IsUnbroken path.toList := by
    rw [hpath]
    exact Url.isUnbroken_flatMap fun name hn => (hnames name hn).unbroken
  refine ⟨names, hne, hpath, hnames, ?_⟩
  rw [Site.segments_fileUrl ho (by rwa [hsteps]) hunbroken, hsteps, hspecial]

/-- The path of the address of a track stands for the path of the track. -/
theorem decodeText_fileUrl (hw : site.storage.isWeb = true) (ho : site.storage.isOpaque = false)
    (h : IsTrackPath path) :
    Percent.decodeText (site.fileUrl path).pathText = Utf8.encode path.toList := by
  obtain ⟨names, -, hpath, -, hurl⟩ := exists_names_fileUrl hw ho h
  have hback : Percent.decodeText ∘ Percent.encode (Url.escapeSegment true) = Utf8.encode :=
    funext fun text => Percent.decodeText_encode rfl text
  rw [hurl, hpath]
  exact Url.decodeText_pathText rfl (by rw [List.map_map, hback])

end Address

/-! ### Rows -/

/-- A track on a listing page. -/
structure TrackRow where
  path : String
  size : UInt64
  /-- The text of the link. -/
  shown : List Char
  /-- How the size is written. -/
  form : Form := .plain

namespace TrackRow

def track (r : TrackRow) : Track := Track.ofPath r.path r.size

/-- The entry of the listing page, whose link leads to the address of the track. -/
def entry (site : Site) (r : TrackRow) : Entry :=
  ⟨(site.fileUrl r.path).print.toList, r.shown, r.size.toNat, r.form⟩

section Reading

variable {site : Site} {r : TrackRow}

/-- The names in the address of a track are read as they are. -/
lemma exists_isFixed (hw : site.storage.isWeb = true) (ho : site.storage.isOpaque = false)
    (h : IsTrackPath r.path) : ∃ names, names ≠ [] ∧ (∀ name ∈ names, Url.IsFixed name) ∧
      site.fileUrl r.path = { site.storage with path := .segments names } := by
  obtain ⟨names, hne, -, hnames, hurl⟩ := exists_names_fileUrl hw ho h
  refine ⟨_, by simpa using hne, fun name hn => ?_, hurl⟩
  obtain ⟨text, ht, rfl⟩ := List.mem_map.mp hn
  exact Url.isFixed_encode (hnames text ht).noDot (hnames text ht).noDots

/-- The link of a track is written without characters that are changed while a page is read. -/
lemma isStable_target (hw : site.storage.isWeb = true) (hp : site.storage.IsPrintable)
    (ho : site.storage.isOpaque = false) (h : IsTrackPath r.path) :
    IsStable (r.entry site).target := by
  obtain ⟨names, -, hfixed, hurl⟩ := exists_isFixed hw ho h
  have hvisible : ∀ c ∈ (r.entry site).target, Url.IsVisible c := by
    rw [entry, hurl, Url.print, String.toList_ofList]
    exact hp.isVisible_of_isFixed hw hfixed
  constructor
  · intro hm
    exact absurd (hvisible _ hm) (by decide)
  · intro hm
    exact absurd (hvisible _ hm) (by decide)

lemma readTrack_row (hw : site.storage.isWeb = true) (hp : site.storage.IsPrintable)
    (hr : site.storage.IsResolved) (h : IsTrackPath r.path) :
    Page.readTrack site.storage (r.entry site).row (r.entry site).link (r.entry site).target =
      .ok r.track := by
  obtain ⟨names, hne, hfixed, hurl⟩ := exists_isFixed hw hr.isOpaque_eq h
  obtain ⟨url, hjoin, hjoined⟩ := Url.exists_join?_print hw hp hne hfixed
  rw [← hurl] at hjoin
  have htext : url.pathText = (site.fileUrl r.path).pathText := by
    rw [hurl, Url.pathText, hjoined, Url.pathText]
  have hread : Utf8.decodeLossy (Percent.decodeText url.pathText) = r.path.toList := by
    rw [htext, decodeText_fileUrl hw hr.isOpaque_eq h, Utf8.decodeLossy_encode]
  have hlast : r.path.toList.getLast? ≠ some '/' := getLast?_ne_slash h
  have hcell : Page.secondCell? (r.entry site).row = some (r.form.write r.size.toNat) :=
    Entry.secondCell?_row (r.entry site)
  have hsize : Page.readNumber (r.form.write r.size.toNat) = .ok r.size.toNat :=
    Page.readNumber_write r.form r.size.toNat_lt
  have htarget : String.ofList (r.entry site).target = (site.fileUrl r.path).print :=
    String.ofList_toList
  simp [Page.readTrack, htarget, hjoin, hread, hlast, hcell, hsize, track, bind, Except.bind,
    pure, Except.pure]

end Reading

end TrackRow

/-- The path of a track is what the path of its address stands for, and a page that links to the
addresses of tracks is read as these tracks, in the same order, and as linking to a next page if
it does so. -/
theorem tracks_of_text {base : String} {site : Site}
    (hstorage : Url.parse? base = some site.storage) (hweb : site.storage.isWeb = true) :
    (∀ path, IsTrackPath path →
      Percent.decodeText (site.fileUrl path).pathText = Utf8.encode path.toList) ∧
    ∀ (p : Layout) (rows : List TrackRow), p.entries = rows.map (TrackRow.entry site) →
      (∀ r ∈ rows, IsTrackPath r.path ∧ IsStable r.shown) → p.IsClean → p.CountFits →
        ∀ grouping id, ∃ page, Page.ofText site.storage (.tracks grouping id) p.text = .ok page ∧
          page.items = rows.map TrackRow.track ∧ page.hasNext = p.next.isSome := by
  have hresolved : site.storage.IsResolved :=
    Url.isResolved_of_parse? hstorage hweb
  have hprintable := Url.isPrintable_of_parse? hstorage hweb
  refine ⟨fun path h => decodeText_fileUrl hweb hresolved.isOpaque_eq h, ?_⟩
  intro p rows hentries hrows hclean hfits grouping id
  obtain ⟨page, hpage, hshown⟩ := p.exists_ofDocument hentries
    (fun r hr => TrackRow.readTrack_row hweb hprintable hresolved (hrows r hr).1) hfits
  have hentry : ∀ e ∈ p.entries, e.IsClean := by
    intro e he
    rw [hentries] at he
    obtain ⟨r, hr, rfl⟩ := List.mem_map.mp he
    exact ⟨TrackRow.isStable_target hweb hprintable hresolved.isOpaque_eq (hrows r hr).1,
      (hrows r hr).2⟩
  refine ⟨page, ?_, hshown⟩
  rw [Page.ofText, Layout.ofPage_text hclean hentry]
  exact hpage

/-- Two tracks whose names have marks of addresses and escapes in them. -/
def oddlyNamed : List TrackRow :=
  [⟨"/pub/Ad Lib/100%20 pure?.mod", 71424, "100%20 pure?.mod".toList, .grouped⟩,
    ⟨"/pub/café\\#1 & 2.xm", 512, "café\\#1 & 2.xm".toList, .plain⟩]

def pageOfOddlyNamed : Layout where
  columns := ["Filename".toList, "Size".toList]
  entries := oddlyNamed.map (TrackRow.entry modland)

theorem tracks_of_text_oddlyNamed :
    Url.parse? "https://ftp.modland.com" = some modland.storage ∧
    pageOfOddlyNamed.text = ("<table class=\"modland\"><tr><th>Filename</th><th>Size</th></tr>" ++
      "<tr><td><a href=\"https://ftp.modland.com/pub/Ad%20Lib/100%2520%20pure%3F.mod\">" ++
      "100%20 pure?.mod</a></td><td>71,424</td></tr>" ++
      "<tr><td><a href=\"https://ftp.modland.com/pub/caf%C3%A9%5C%231%20&amp;%202.xm\">" ++
      "café\\#1 &amp; 2.xm</a></td><td>512</td></tr></table>").toList ∧
    ∃ page, Page.ofText modland.storage (.tracks .authors 42) pageOfOddlyNamed.text = .ok page ∧
      page.items = [.ofPath "/pub/Ad Lib/100%20 pure?.mod" 71424,
        .ofPath "/pub/café\\#1 & 2.xm" 512] ∧ page.hasNext = false := by
  have hstorage : Url.parse? "https://ftp.modland.com" = some modland.storage := by decide +kernel
  have hrows : ∀ r ∈ oddlyNamed, IsTrackPath r.path ∧ IsStable r.shown := by
    have hfirst : IsTrackPath "/pub/Ad Lib/100%20 pure?.mod" :=
      ⟨["pub".toList, "Ad Lib".toList, "100%20 pure?.mod".toList], by decide, by decide +kernel,
        by decide +kernel⟩
    have hsecond : IsTrackPath "/pub/café\\#1 & 2.xm" :=
      ⟨["pub".toList, "café\\#1 & 2.xm".toList], by decide, by decide +kernel, by decide +kernel⟩
    exact List.forall_mem_cons.mpr ⟨⟨hfirst, by decide +kernel⟩,
      List.forall_mem_singleton.mpr ⟨hsecond, by decide +kernel⟩⟩
  have hclean : pageOfOddlyNamed.IsClean := by
    constructor <;> simp [pageOfOddlyNamed, IsStable, IsGap, Text.isAsciiBlank]
  have hfits : pageOfOddlyNamed.CountFits := by
    rintro found ⟨⟩
  refine ⟨hstorage, ?_, (tracks_of_text hstorage (by decide)).2 _ _ rfl hrows hclean hfits _ _⟩
  simp only [String.toList_append]
  decide +kernel

end ModuleArchive.Remote
