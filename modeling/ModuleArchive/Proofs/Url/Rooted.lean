import ModuleArchive.Proofs.Text.Percent
import ModuleArchive.Proofs.Url.Path

/-!
# Paths that start with a slash

Schemes with rules of their own have a path of at least one segment, which starts with a slash; so
do other schemes where a URL is not opaque and its path is not empty. The text that a path reads as
starts with a slash if the path does.
-/
namespace ModuleArchive.Url

/-- Whether a path has at least one segment. -/
def IsRooted (u : Url) : Prop := ∃ name rest, u.path = .segments (name :: rest)

lemma isRooted_of_ne_nil {u : Url} {names : List (List Char)} (h : u.path = .segments names)
    (hne : names ≠ []) : u.IsRooted := by
  obtain ⟨name, rest, rfl⟩ := List.exists_cons_of_ne_nil hne
  exact ⟨name, rest, h⟩

lemma IsResolved.isRooted {u : Url} (h : u.IsResolved) : u.IsRooted := by
  obtain ⟨names, hpath, hne, -⟩ := h
  exact isRooted_of_ne_nil hpath hne

/-- A path has a segment if it is neither opaque nor empty. -/
lemma isRooted_iff {u : Url} : u.IsRooted ↔ u.isOpaque = false ∧ u.pathText ≠ [] := by
  rw [isOpaque, pathText, IsRooted]
  cases u.path with
  | opaqueText text => simp
  | segments names => cases names <;> simp

/-! ### Reading -/

section Reading

variable {u v base : Url} {rest : List Char}

lemma pushSegments_ne_nil (scheme : List Char) (path : List (List Char)) {raws : List (List Char)}
    (h : raws ≠ []) : pushSegments scheme path raws ≠ [] := by
  induction raws generalizing path with
  | nil => contradiction
  | cons raw rest ih =>
    cases rest with
    | nil => exact pushSegment_ne_nil raw
    | cons next rest => exact ih _ (by simp)

lemma isRooted_withPath (u : Url) (start : List (List Char)) (rest : List Char) :
    (withPath u start rest).IsRooted :=
  isRooted_of_ne_nil (path_withQueryAndFragment _ _)
    (pushSegments_ne_nil _ _ (Text.splitOn_ne_nil _ _))

lemma isRooted_withPathStart (hu : u.isSpecial = true) (rest : List Char) :
    (withPathStart u rest).IsRooted := by
  unfold withPathStart
  simp only [hu, if_true]
  split
  · exact isRooted_withPath _ _ _
  · split
    · exact isRooted_withPath _ _ _
    · exact isRooted_withPath _ _ _

lemma isRooted_withAuthority? (hu : u.isSpecial = true) (h : withAuthority? u rest = some v) :
    v.IsRooted := by
  obtain ⟨start, tail, rfl, hscheme, -⟩ := exists_of_withAuthority? h
  exact isRooted_withPathStart (by rwa [isSpecial, hscheme]) _

/-- A local file that is not relative to another one has a path. -/
lemma isRooted_withFile? {found : Option Url} (hfound : found.filter (·.scheme = fileScheme) = none)
    (hu : u.isSpecial = true) (h : withFile? u found rest = some v) : v.IsRooted := by
  have hstart (host : Option Host) (tail : List Char) :
      (withPathStart { u with host := host } tail).IsRooted :=
    isRooted_withPathStart (by exact hu) tail
  unfold withFile? withFile?.withFileSlash withFile?.withFileRelative withFileHost? at h
  simp only [hfound] at h
  repeat' split at h
  all_goals first
    | contradiction
    | obtain rfl := Option.some_inj.mp h
      first
        | exact isRooted_withPath _ _ _
        | exact hstart _ _

/-- What is read relative to a URL of the web has a path, if its scheme has rules of its own. -/
theorem isRooted_of_join? (hb : base.IsResolved) (hw : base.isWeb = true) {text : String}
    (h : base.join? text = some v) (hs : v.isSpecial = true) : v.IsRooted := by
  by_cases hv : v.isWeb = true
  · exact (isResolved_of_join? hb h hv).isRooted
  -- another scheme than that of the base is written out, and nothing is relative to the base
  · have hscheme : base.scheme ≠ v.scheme := fun heq => hv (by rwa [isWeb, ← heq])
    obtain ⟨-, hfile⟩ := isSpecialScheme_of_isWeb hw
    unfold join? read? at h
    simp only at h
    split at h
    · next scheme rest _ _ =>
      obtain rfl := scheme_withScheme? h
      have hfound : (some base).filter (·.scheme = v.scheme) = none := by
        rw [Option.filter_some, decide_eq_false hscheme]
        rfl
      unfold withScheme? at h
      simp only [hfound] at h
      split at h
      · next hlocal =>
        rw [hlocal] at hfound
        exact isRooted_withFile? (u := { scheme := v.scheme }) hfound hs h
      · rw [if_pos (by exact hs)] at h
        exact isRooted_withAuthority? (u := { scheme := v.scheme }) hs h
    · contradiction
    · next b hb' =>
      obtain rfl := Option.some_inj.mp hb'
      rw [hb.isOpaque_eq, if_neg Bool.false_ne_true, if_neg hfile] at h
      exact absurd (scheme_withBase? h).symm hscheme

end Reading

/-! ### What a path reads as -/

lemma decodeText_eq_nil_iff {text : List Char} : Percent.decodeText text = [] ↔ text = [] :=
  ⟨fun h => by_contra fun hne => Percent.decodeText_ne_nil hne h, fun h => h ▸ rfl⟩

/-- A path with a segment reads as a text that starts with a slash. -/
lemma IsRooted.head?_decodeText {u : Url} (h : u.IsRooted) :
    (Percent.decodeText u.pathText).head? = some 0x2F := by
  obtain ⟨name, rest, hpath⟩ := h
  have htext : u.pathText = '/' :: (name ++ rest.flatMap ('/' :: ·)) := by
    rw [pathText, hpath]
    rfl
  rw [htext, Percent.decodeText, Percent.encode_cons_ascii (by decide),
    Percent.decode_cons (by decide)]
  rfl

end ModuleArchive.Url
