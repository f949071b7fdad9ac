import ModuleArchive.Proofs.Remote.Markup

/-!
# Pages of groups

A page that lists groups shows each of them in a row, with a link that has the number of the group
in its field `id`, the name, and the number of tracks. It is read as these groups.
-/
namespace ModuleArchive.Remote

open Html
open Decimal (Form digits)
open Page (GroupLink)

/-- A group on a listing page. -/
structure GroupRow where
  link : GroupLink
  name : List Char
  tracks : UInt32
  /-- How the number of tracks is written. -/
  form : Form := .plain

namespace GroupRow

def group (r : GroupRow) : Group := ⟨r.link.id, String.ofList r.name, r.tracks⟩

def entry (r : GroupRow) : Entry := ⟨r.link.target, r.name, r.tracks.toNat, r.form⟩

/-- Whether a row has a link to a group, and a name without white space at its ends. -/
structure IsProper (r : GroupRow) : Prop where
  link : r.link.IsProper
  target : IsStable r.link.target
  name_ne_nil : r.name ≠ []
  trim_name : Text.trim r.name = r.name
  name : IsStable r.name

lemma readGroup_row {r : GroupRow} (h : r.IsProper) :
    Page.readGroup r.entry.row r.entry.link r.entry.target = .ok r.group := by
  have hlink : Page.groupNumber? r.entry.target = some (digits r.link.id.toNat) :=
    Page.groupNumber?_target h.link
  have hid : Decimal.readBelow? UInt32.size (digits r.link.id.toNat) = some r.link.id.toNat :=
    Decimal.readBelow?_digits r.link.id.toNat_lt
  have hname : Page.shownText r.entry.link = r.name := by
    rw [Entry.shownText_link]
    exact h.trim_name
  have hcell : Page.secondCell? r.entry.row = some (r.form.write r.tracks.toNat) :=
    Entry.secondCell?_row r.entry
  have htracks : r.tracks.toNat < UInt32.size := r.tracks.toNat_lt
  have hnumber : Page.readNumber (r.form.write r.tracks.toNat) = .ok r.tracks.toNat :=
    Page.readNumber_write r.form (Nat.lt_trans htracks (by decide))
  have hne : r.name.isEmpty = false := List.isEmpty_eq_false_iff.mpr h.name_ne_nil
  simp [Page.readGroup, hlink, hid, hname, hne, hcell, hnumber, htracks, group, bind, Except.bind,
    pure, Except.pure]

end GroupRow

/-- A page that lists groups is read as these groups, in the same order, and as linking to a next
page if it does so. -/
theorem groups_of_text {p : Layout} {rows : List GroupRow}
    (hentries : p.entries = rows.map GroupRow.entry) (hrows : ∀ r ∈ rows, r.IsProper)
    (hclean : p.IsClean) (hfits : p.CountFits) (storage : Url) (grouping : Grouping)
    (bucket : Bucket) :
    ∃ page, Page.ofText storage (.bucket grouping bucket) p.text = .ok page ∧
      page.items = rows.map GroupRow.group ∧ page.hasNext = p.next.isSome := by
  obtain ⟨page, hpage, hshown⟩ := p.exists_ofDocument hentries
    (fun r hr => GroupRow.readGroup_row (hrows r hr)) hfits
  have hentry : ∀ e ∈ p.entries, e.IsClean := by
    intro e he
    rw [hentries] at he
    obtain ⟨r, hr, rfl⟩ := List.mem_map.mp he
    exact ⟨(hrows r hr).target, (hrows r hr).name⟩
  refine ⟨page, ?_, hshown⟩
  rw [Page.ofText, Layout.ofPage_text hclean hentry]
  exact hpage

/-- Two groups of a letter, one of them with a mark of HTML in its name. -/
def groupsOfB : List GroupRow :=
  [⟨⟨"?md=aut".toList, '&', 42, []⟩, "Beispiel".toList, 3, .plain⟩,
    ⟨⟨"/mod.php?md=aut".toList, '&', 7, "&pg=1".toList⟩, "Bart & Co".toList, 1024, .grouped⟩]

lemma isProper_of_mem_groupsOfB : ∀ r ∈ groupsOfB, r.IsProper := by
  have hnoId : ∀ r ∈ groupsOfB, ¬ '?' :: "id=".toList <:+: r.link.front ∧
      ¬ '&' :: "id=".toList <:+: r.link.front := by decide +kernel
  have hproper : ∀ r ∈ groupsOfB, r.link.mark = '&' ∧ Page.endsNumber r.link.back = true ∧
      IsStable r.link.target ∧ r.name ≠ [] ∧ Text.trim r.name = r.name ∧ IsStable r.name := by
    decide +kernel
  intro r hr
  obtain ⟨hmark, hback, htarget, hne, htrim, hname⟩ := hproper r hr
  refine ⟨⟨?_, .inr hmark, hback⟩, htarget, hne, htrim, hname⟩
  rintro mark (rfl | rfl)
  exacts [(hnoId r hr).1, (hnoId r hr).2]

def pageOfB : Layout where
  found := some (1203, .grouped)
  columns := ["Author".toList, "Tracks".toList]
  entries := groupsOfB.map GroupRow.entry
  next := some "?md=b_aut&st=B&pg=2".toList
  gap := ['\n']
  indent := "\n  ".toList

theorem groups_of_text_pageOfB :
    pageOfB.text = ("<div class=\"results\">Found <b>1,203</b> entries</div>\n" ++
      "<table class=\"modland\">\n  <tr><th>Author</th><th>Tracks</th></tr>\n" ++
      "  <tr><td><a href=\"?md=aut&amp;id=42\">Beispiel</a></td><td>3</td></tr>\n" ++
      "  <tr><td><a href=\"/mod.php?md=aut&amp;id=7&amp;pg=1\">Bart &amp; Co</a></td>" ++
      "<td>1,024</td></tr>\n</table>\n" ++
      "<a class=\"next\" href=\"?md=b_aut&amp;st=B&amp;pg=2\">Next</a>\n").toList ∧
    ∃ page, Page.ofText ⟨"https".toList, [], [], none, none, .segments [], none, none⟩
        (.bucket .authors (.letter 1)) pageOfB.text = .ok page ∧
      page.items = [⟨42, "Beispiel", 3⟩, ⟨7, "Bart & Co", 1024⟩] ∧ page.hasNext = true := by
  have hclean : pageOfB.IsClean := by
    constructor <;> simp [pageOfB, IsStable, IsGap, Text.isAsciiBlank]
  have hfits : pageOfB.CountFits := by
    rintro found ⟨⟩
    decide
  refine ⟨?_, groups_of_text rfl isProper_of_mem_groupsOfB hclean hfits _ _ _⟩
  -- the lines are shorter than the text, and take less to evaluate
  simp only [String.toList_append]
  decide +kernel

end ModuleArchive.Remote
