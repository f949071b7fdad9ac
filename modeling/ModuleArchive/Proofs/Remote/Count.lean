import ModuleArchive.Proofs.Remote.GroupPage
import ModuleArchive.Proofs.Remote.Link
import ModuleArchive.Proofs.Remote.Pagination

/-!
# The count of a listing

The first page of a listing says how many entries were found. What is read of that is the hint of
the listing and the number of tracks of a group. It is the number that is written there if it is
written with commas, or if its digits are no more than three or whole groups of three; otherwise
the last digit or the last two are lost.
-/
namespace ModuleArchive.Remote

open Html (Document)
open Decimal (Form digits)
open Page (resultsOf foundText readAs)

/-! ### Pages -/

lemma Page.countOf_of_ofDocument {α : Type} {page : Page α} {d : Document}
    {readRow : Html.Node → Html.Node → List Char → Except Catalog.Error α}
    (h : Page.ofDocument readRow d = .ok page) : Page.countOf d = .ok page.count := by
  rw [ofDocument, bind_eq_ok_iff] at h
  obtain ⟨items, -, h⟩ := h
  rw [bind_eq_ok_iff] at h
  obtain ⟨count, hcount, h⟩ := h
  obtain rfl := Except.ok.inj h
  exact hcount

/-- The count of a page that says how many entries were found. -/
lemma Page.count_of_ofText {storage : Url} {s : Scope} {text : List Char} {page : Page s.Item}
    {f : Form} {n : Nat} (hn : n < UInt64.size)
    (hfound : (resultsOf (Document.ofPage text)).head? = some (foundText f n))
    (h : Page.ofText storage s text = .ok page) : page.count = some (readAs f n) := by
  have hcount := Page.countOf_of_ofDocument h
  rw [Page.countOf_of_resultsOf hn hfound] at hcount
  exact (Except.ok.inj hcount).symm

namespace Archive

variable (a : Archive) {s : Scope} {server : Server}

lemma fst_fetchPage_of_download {number : Nat} {content : Content}
    (h : (a.download (a.site.pageUrl s number) server).1 = .ok content) :
    (a.fetchPage s number server).1 =
      Page.ofText a.site.storage s (Utf8.decodeLossy content.bytes) := by
  rw [fst_fetchPage_eq, h]
  rfl

/-- The count of the first page is the hint of the listing. -/
lemma head?_events_listing {page : Page s.Item} {n : Nat}
    (h : (a.fetchPage s 1 server).1 = .ok page) (hcount : page.count = some n) :
    ((a.listing s).events server).head? = some (.hint n) := by
  simp only [listing, Listing.events_work, id_eq, pagesFrom, h, Page.shown, hcount, if_true,
    List.cons_append, List.nil_append, Listing.append, Listing.events_event, List.head?_cons]

/-- The count of the first page is the number of tracks of the group, as far as that can be. -/
lemma fst_group {g : Grouping} {id : UInt32} {page : Page Track} {n : Nat}
    (h : (a.fetchPage (.tracks g id) 1 server).1 = .ok page) (hcount : page.count = some n) :
    (a.group g id server).1 = .ok (page.heading.map fun name =>
      ⟨id, name, UInt32.ofNat (min n (UInt32.size - 1))⟩) := by
  unfold group
  split
  · next heq =>
    rw [heq] at h
    contradiction
  · next heq =>
    rw [heq] at h
    obtain rfl := Except.ok.inj h
    simp only [hcount, Option.getD_some]

end Archive

/-- Whatever number of entries a page says was found: its count is what that is read as, and so are
the hint of the listing that begins with the page, and the number of tracks of a group. It is the
number itself exactly if that has commas, or no more than three digits or whole groups of them. -/
theorem count_is_read {f : Form} {n : Nat} (hn : n < UInt64.size) :
    (∀ d, (resultsOf d).head? = some (foundText f n) → Page.countOf d = .ok (some (readAs f n))) ∧
    (∀ (a : Archive) (server : Server) (s : Scope) (content : Content) (page : Page s.Item),
      (a.download (a.site.pageUrl s 1) server).1 = .ok content →
      (resultsOf (Document.ofPage (Utf8.decodeLossy content.bytes))).head? =
        some (foundText f n) →
      (a.fetchPage s 1 server).1 = .ok page →
      ((a.listing s).events server).head? = some (.hint (readAs f n))) ∧
    (∀ (a : Archive) (server : Server) (g : Grouping) (id : UInt32) (content : Content)
      (page : Page Track),
      (a.download (a.site.pageUrl (.tracks g id) 1) server).1 = .ok content →
      (resultsOf (Document.ofPage (Utf8.decodeLossy content.bytes))).head? =
        some (foundText f n) →
      (a.fetchPage (.tracks g id) 1 server).1 = .ok page →
      (a.group g id server).1 = .ok (page.heading.map fun name =>
        ⟨id, name, UInt32.ofNat (min (readAs f n) (UInt32.size - 1))⟩)) ∧
    (readAs f n = n ↔ f = .grouped ∨ (digits n).length ≤ 3 ∨ 3 ∣ (digits n).length) := by
  refine ⟨fun d => Page.countOf_of_resultsOf hn, ?_, ?_, Page.readAs_eq_iff⟩
  · intro a server s content page hdownload hfound hpage
    have htext := hpage
    rw [a.fst_fetchPage_of_download hdownload] at htext
    exact a.head?_events_listing hpage (Page.count_of_ofText hn hfound htext)
  · intro a server g id content page hdownload hfound hpage
    have htext := hpage
    rw [a.fst_fetchPage_of_download hdownload] at htext
    exact a.fst_group hpage (Page.count_of_ofText (s := .tracks g id) hn hfound htext)

/-- The archive, and how it is read. -/
def modlandArchive : Archive where
  site :=
    { modland with
      pages :=
        { scheme := "https".toList, host := some (.domain "example.com".toList),
          path := .segments ["modland".toList] } }
  reader := .standard
  alloc := fun _ _ => true

/-- The first page of the groups of a letter, of which it says that there are 1203. -/
def countedPage (f : Form) : Layout where
  found := some (1203, f)
  columns := ["Author".toList, "Tracks".toList]
  entries := groupsOfB.map GroupRow.entry

def countedServer (f : Form) : Server where
  pages := [("https://example.com/modland?md=b_aut&st=B&pg=1",
    .ofBytes (Utf8.encode (countedPage f).text))]

/-- What is downloaded says how many groups there are, and is read as a page. -/
lemma counted (f : Form) :
    ∃ content page,
      (modlandArchive.download (modlandArchive.site.pageUrl (.bucket .authors (.letter 1)) 1)
        (countedServer f)).1 = .ok content ∧
      (resultsOf (Document.ofPage (Utf8.decodeLossy content.bytes))).head? =
        some (foundText f 1203) ∧
      (modlandArchive.fetchPage (.bucket .authors (.letter 1)) 1 (countedServer f)).1 =
        .ok page := by
  have hclean : (countedPage f).IsClean := by
    constructor <;> simp [countedPage, IsStable, IsGap, Text.isAsciiBlank]
  have hfits : (countedPage f).CountFits := by
    rintro found ⟨⟩
    exact (by decide : 1203 < UInt64.size)
  have hentry : ∀ e ∈ (countedPage f).entries, e.IsClean := by
    intro e he
    obtain ⟨r, hr, rfl⟩ := List.mem_map.mp he
    exact ⟨(isProper_of_mem_groupsOfB r hr).target, (isProper_of_mem_groupsOfB r hr).name⟩
  have hdocument := Layout.ofPage_text hclean hentry
  have hdownload : (modlandArchive.download
      (modlandArchive.site.pageUrl (.bucket .authors (.letter 1)) 1) (countedServer f)).1 =
        .ok ⟨Utf8.encode (countedPage f).text, false⟩ := by
    cases f <;> decide +kernel
  obtain ⟨page, hpage, -⟩ := (countedPage f).exists_ofDocument rfl
    (fun r hr => GroupRow.readGroup_row (isProper_of_mem_groupsOfB r hr)) hfits
  refine ⟨_, page, hdownload, ?_, ?_⟩
  · rw [Utf8.decodeLossy_encode, hdocument, Layout.resultsOf_document]
    rfl
  · rw [Archive.fst_fetchPage_of_download _ hdownload, Utf8.decodeLossy_encode, Page.ofText,
      hdocument]
    exact hpage

/-- A count with a comma is read in full. -/
theorem count_is_read_withComma :
    1203 < UInt64.size ∧ readAs .grouped 1203 = 1203 ∧
      ((modlandArchive.listing (.bucket .authors (.letter 1))).events
        (countedServer .grouped)).head? = some (.hint 1203) := by
  have hn : 1203 < UInt64.size := by decide
  obtain ⟨-, hhint, -, hiff⟩ := count_is_read (f := .grouped) hn
  obtain ⟨content, page, hdownload, hfound, hpage⟩ := counted .grouped
  have hread : readAs .grouped 1203 = 1203 := hiff.mpr (.inl rfl)
  refine ⟨hn, hread, ?_⟩
  have hhead := hhint modlandArchive (countedServer .grouped) (.bucket .authors (.letter 1))
    content page hdownload hfound hpage
  rwa [hread] at hhead

/-- Without the comma its last digit is lost. -/
theorem count_is_cut_fourDigits :
    (resultsOf (countedPage .plain).document).head? = some "Found 1203 entries".toList ∧
      Page.countOf (countedPage .plain).document = .ok (some 120) ∧
      ((modlandArchive.listing (.bucket .authors (.letter 1))).events
        (countedServer .plain)).head? = some (.hint 120) := by
  have hn : 1203 < UInt64.size := by decide
  have hread : readAs .plain 1203 = 120 := by decide
  have hshown : (resultsOf (countedPage .plain).document).head? =
      some (foundText .plain 1203) := by
    rw [Layout.resultsOf_document]
    rfl
  obtain ⟨content, page, hdownload, hfound, hpage⟩ := counted .plain
  have htext := hpage
  rw [modlandArchive.fst_fetchPage_of_download hdownload] at htext
  refine ⟨hshown.trans (by decide), ?_, ?_⟩
  · rw [Page.countOf_of_resultsOf hn hshown, hread]
  · rw [modlandArchive.head?_events_listing hpage (Page.count_of_ofText hn hfound htext), hread]

end ModuleArchive.Remote
