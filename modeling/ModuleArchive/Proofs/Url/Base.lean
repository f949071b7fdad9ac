import ModuleArchive.Url.Parser
import Mathlib.Tactic.Lemma

/-!
# Base addresses

A URL of the web that has been read has a host, and its path is made of names. Such a URL can be
the base of the addresses of an archive.
-/
namespace ModuleArchive.Url

/-- Whether a URL is one of the web, with the parts that all of them have. -/
structure IsBase (u : Url) : Prop where
  isWeb : u.isWeb = true
  hasHost : u.host.isSome = true
  hasNames : u.isOpaque = false

/-! ### Paths -/

section Paths

variable (u : Url) (start : List (List Char)) (rest : List Char)

@[simp] lemma scheme_withQueryAndFragment : (withQueryAndFragment u rest).scheme = u.scheme := by
  unfold withQueryAndFragment
  split <;> rfl

@[simp] lemma host_withQueryAndFragment : (withQueryAndFragment u rest).host = u.host := by
  unfold withQueryAndFragment
  split <;> rfl

@[simp] lemma isOpaque_withQueryAndFragment :
    (withQueryAndFragment u rest).isOpaque = u.isOpaque := by
  unfold withQueryAndFragment
  split <;> rfl

@[simp] lemma scheme_withPath : (withPath u start rest).scheme = u.scheme := by simp [withPath]

@[simp] lemma host_withPath : (withPath u start rest).host = u.host := by simp [withPath]

@[simp] lemma isOpaque_withPath : (withPath u start rest).isOpaque = false := by
  rw [withPath, isOpaque_withQueryAndFragment]
  rfl

@[simp] lemma scheme_withPathStart : (withPathStart u rest).scheme = u.scheme := by
  unfold withPathStart
  repeat' split
  all_goals simp

@[simp] lemma host_withPathStart : (withPathStart u rest).host = u.host := by
  unfold withPathStart
  repeat' split
  all_goals simp

lemma isOpaque_withPathStart (h : u.isSpecial = true) :
    (withPathStart u rest).isOpaque = false := by
  unfold withPathStart
  repeat' split
  all_goals simp_all

end Paths

/-! ### Authorities -/

variable {u v : Url} {base : Option Url} {rest : List Char}

/-- Behind an authority, whose host is read, a URL goes on with its path. -/
lemma exists_of_withAuthority? (h : withAuthority? u rest = some v) :
    ∃ start tail, v = withPathStart start tail ∧ start.scheme = u.scheme ∧
      start.host.isSome = true := by
  unfold withAuthority? at h
  simp only at h
  -- whether there are credentials or a host makes no difference
  split at h
  all_goals
    split at h
    · contradiction
    · split at h
      all_goals
        obtain ⟨host, -, h⟩ := Option.bind_eq_some_iff.mp h
        obtain ⟨port, -, h⟩ := Option.bind_eq_some_iff.mp h
        exact ⟨_, _, (Option.some_inj.mp h).symm, rfl, rfl⟩

/-- What starts with an authority has its host, and names if the scheme asks for them. -/
lemma withAuthority?_spec (h : withAuthority? u rest = some v) :
    v.scheme = u.scheme ∧ v.host.isSome = true ∧ (u.isSpecial = true → v.isOpaque = false) := by
  obtain ⟨start, tail, rfl, hs, hh⟩ := exists_of_withAuthority? h
  refine ⟨by rw [scheme_withPathStart, hs], by rw [host_withPathStart, hh], fun hu => ?_⟩
  exact isOpaque_withPathStart _ _ (by rwa [isSpecial, hs])

/-! ### Schemes -/

lemma scheme_withFile? (h : withFile? u base rest = some v) : v.scheme = u.scheme := by
  unfold withFile? withFile?.withFileSlash withFile?.withFileRelative withFileHost? at h
  simp only at h
  repeat' split at h
  all_goals first
    | contradiction
    | obtain rfl := Option.some_inj.mp h
      simp

lemma scheme_withBase? {b : Url} (h : withBase? b rest = some v) : v.scheme = b.scheme := by
  unfold withBase? at h
  simp only at h
  repeat' split at h
  all_goals first
    | exact (withAuthority?_spec h).1
    | obtain rfl := Option.some_inj.mp h
      simp

lemma scheme_withScheme? {scheme : List Char} (h : withScheme? scheme base rest = some v) :
    v.scheme = scheme := by
  unfold withScheme? at h
  simp only at h
  split at h
  · exact scheme_withFile? h
  · split at h
    · split at h
      · exact (withAuthority?_spec h).1
      · next b hb _ =>
        obtain ⟨-, hscheme⟩ := Option.filter_eq_some_iff.mp hb
        exact (scheme_withBase? h).trans (of_decide_eq_true hscheme)
      · exact (withAuthority?_spec h).1
    · split at h
      · exact (withAuthority?_spec h).1
      · obtain rfl := Option.some_inj.mp h
        exact scheme_withPath _ _ _
      · obtain rfl := Option.some_inj.mp h
        exact scheme_withQueryAndFragment _ _

/-- The schemes of the web have rules of their own, and none is that of local files. -/
lemma isSpecialScheme_of_isWeb (h : u.isWeb = true) :
    isSpecialScheme u.scheme = true ∧ u.scheme ≠ fileScheme := by
  obtain hs | hs : u.scheme = "http".toList ∨ u.scheme = "https".toList := by
    simpa [isWeb] using h
  · rw [hs]
    decide
  · rw [hs]
    decide

/-- A URL of the web that has been read can be a base. -/
theorem isBase_of_parse? {text : String} (h : parse? text = some u) (hw : u.isWeb = true) :
    u.IsBase := by
  obtain ⟨hspecial, hfile⟩ := isSpecialScheme_of_isWeb hw
  unfold parse? read? at h
  simp only at h
  split at h
  · next scheme rest _ _ =>
    obtain rfl := scheme_withScheme? h
    unfold withScheme? at h
    simp only [isSpecial, hfile, hspecial, if_true, if_false, Option.filter_none] at h
    obtain ⟨-, hhost, hnames⟩ := withAuthority?_spec h
    exact ⟨hw, hhost, hnames hspecial⟩
  · contradiction
  · contradiction

end ModuleArchive.Url
