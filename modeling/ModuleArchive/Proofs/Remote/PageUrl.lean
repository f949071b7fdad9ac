import ModuleArchive.Proofs.Scope
import ModuleArchive.Proofs.Url.Form
import ModuleArchive.Remote.Site

/-!
# Addresses of pages

The address of a page is that of all pages with three pairs put behind whatever its query says. As
forms are read back as they were written, the three pairs tell the listing and the page: no two
pages have one address, not even those of different listings.
-/
namespace ModuleArchive

lemma Grouping.bucketMode_injective : Function.Injective Grouping.bucketMode := by
  intro g g' h
  cases g <;> cases g' <;> first | rfl | exact absurd h (by decide)

lemma Grouping.trackMode_injective : Function.Injective Grouping.trackMode := by
  intro g g' h
  cases g <;> cases g' <;> first | rfl | exact absurd h (by decide)

lemma Bucket.text_injective : Function.Injective Bucket.text := by
  intro b b' h
  apply toChar_injective
  simpa [text] using congrArg String.toList h

lemma Decimal.toString_injective : Function.Injective fun n : Nat => toString n := by
  intro n m h
  have hdigits (k : Nat) : (toString k).toList = digits k := Nat.toList_repr
  have htext := congrArg String.toList h
  simp only [hdigits] at htext
  exact digits_injective htext

namespace Remote.Site

/-- What the query of a page says, behind what the address of all pages says. -/
def pageQuery (s : Scope) (number : Nat) : List (String × String) :=
  scopeQuery s ++ [("pg", toString number)]

lemma eq_of_pageQuery_eq {s s' : Scope} {n n' : Nat} (h : pageQuery s n = pageQuery s' n') :
    s = s' ∧ n = n' := by
  cases s with
  | bucket g b =>
    cases s' with
    | bucket g' b' =>
      obtain ⟨hg, hb, hn⟩ :
          g.bucketMode = g'.bucketMode ∧ b.text = b'.text ∧ toString n = toString n' := by
        simpa [pageQuery, scopeQuery] using h
      rw [Grouping.bucketMode_injective hg, Bucket.text_injective hb]
      exact ⟨rfl, Decimal.toString_injective hn⟩
    | tracks g' id' => simp [pageQuery, scopeQuery] at h
  | tracks g id =>
    cases s' with
    | bucket g' b' => simp [pageQuery, scopeQuery] at h
    | tracks g' id' =>
      obtain ⟨hg, hid, hn⟩ : g.trackMode = g'.trackMode ∧
          toString id.toNat = toString id'.toNat ∧ toString n = toString n' := by
        simpa [pageQuery, scopeQuery] using h
      rw [Grouping.trackMode_injective hg, UInt32.toNat_inj.mp (Decimal.toString_injective hid)]
      exact ⟨rfl, Decimal.toString_injective hn⟩

lemma eq_of_print_pageUrl_eq {site : Site} {s s' : Scope} {n n' : Nat}
    (h : (site.pageUrl s n).print = (site.pageUrl s' n').print) : s = s' ∧ n = n' := by
  have hpairs := Url.print_withPairs_injective site.pages h
  apply eq_of_pageQuery_eq
  refine List.map_injective_iff.mpr ?_ hpairs
  intro a b hab
  obtain ⟨hname, hvalue⟩ := Prod.mk.inj hab
  exact Prod.ext (String.toList_inj.mp hname) (String.toList_inj.mp hvalue)

theorem print_pageUrl_injective (site : Site) (s : Scope) :
    Function.Injective fun number => (site.pageUrl s number).print := by
  intro n m h
  exact (eq_of_print_pageUrl_eq h).2

/-- Whatever the address of all pages is: the address of a page has the pairs that it has, then the
mode, the letter or the number of the group, and the number of the page, and is the same in all else.
Pages with the same address are the same page of the same listing. -/
theorem page_urls_never_alias (site : Site) :
    (∀ g b number, (site.pageUrl (.bucket g b) number).pairs = site.pages.pairs ++
      [("md".toList, g.bucketMode.toList), ("st".toList, b.text.toList),
        ("pg".toList, (toString number).toList)]) ∧
      (∀ g id number, (site.pageUrl (.tracks g id) number).pairs = site.pages.pairs ++
        [("md".toList, g.trackMode.toList), ("id".toList, (toString id.toNat).toList),
          ("pg".toList, (toString number).toList)]) ∧
      (∀ s number, { site.pageUrl s number with query := site.pages.query } = site.pages) ∧
      Function.Injective fun page : Scope × Nat => (site.pageUrl page.1 page.2).print := by
  refine ⟨fun g b number => ?_, fun g id number => ?_, fun s number => rfl, fun page page' h => ?_⟩
  · rw [pageUrl, Url.pairs_withPairs]
    rfl
  · rw [pageUrl, Url.pairs_withPairs]
    rfl
  · obtain ⟨hs, hn⟩ := eq_of_print_pageUrl_eq h
    exact Prod.ext hs hn

/-- The bucket of names without a letter is escaped, behind a query that has a mode already. -/
example :
    let base : Url := { scheme := "https".toList, query := some "md=b_aut".toList }
    (pageUrl ⟨base, base⟩ (.bucket .collections .nonLetter) 1).query =
      some "md=b_aut&md=b_col&st=%23&pg=1".toList := by
  decide +kernel

end Remote.Site

end ModuleArchive
