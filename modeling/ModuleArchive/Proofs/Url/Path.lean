import ModuleArchive.Proofs.Text.Percent
import ModuleArchive.Proofs.Text.Split
import ModuleArchive.Proofs.Url.Base

/-!
# Paths of the web

The path of a URL of the web that has been read, on its own or relative to another one, has been
resolved: it has at least one segment, and no segment holds a slash or stands for a place, as one
dot or two dots do.
-/
namespace ModuleArchive.Url

/-- Whether a segment holds no slash and is no dots. -/
structure IsPlain (segment : List Char) : Prop where
  noSlash : '/' ∉ segment
  noDot : isSingleDot segment = false
  noDots : isDoubleDot segment = false

lemma isPlain_nil : IsPlain [] := ⟨List.not_mem_nil, rfl, rfl⟩

/-- Whether the path of a URL is made of such segments. -/
def IsResolved (u : Url) : Prop :=
  ∃ names, u.path = .segments names ∧ names ≠ [] ∧ ∀ name ∈ names, IsPlain name

/-! ### Segments -/

section Segments

variable {scheme : List Char} {path : List (List Char)}

lemma mem_of_mem_shorten {name : List Char} (h : name ∈ shorten scheme path) : name ∈ path := by
  unfold shorten at h
  split at h
  · split at h
    · exact h
    · contradiction
  · exact List.dropLast_subset path h

lemma slash_notMem_encode {raw : List Char} (h : '/' ∉ raw) :
    '/' ∉ Percent.encode escapePath raw := by
  intro hm
  obtain ⟨hraw, -⟩ | halphabet := Percent.mem_encode hm
  · exact h hraw
  · exact absurd halphabet (by decide)

/-- Outside local files, a path of plain segments stays one with every segment that is read. -/
lemma isPlain_pushSegment (hs : scheme ≠ fileScheme) (hp : ∀ name ∈ path, IsPlain name)
    {raw : List Char} (hr : '/' ∉ raw) (isLast : Bool) :
    ∀ name ∈ pushSegment scheme path raw isLast, IsPlain name := by
  have hconcat {start : List (List Char)} {last : List Char}
      (hstart : ∀ name ∈ start, IsPlain name) (hlast : IsPlain last) :
      ∀ name ∈ start ++ [last], IsPlain name :=
    List.forall_mem_append.mpr ⟨hstart, List.forall_mem_singleton.mpr hlast⟩
  have hshorten : ∀ name ∈ shorten scheme path, IsPlain name := fun name hm =>
    hp name (mem_of_mem_shorten hm)
  unfold pushSegment
  simp only [hs, decide_false, Bool.false_and, Bool.false_eq_true, if_false]
  split
  · split
    · exact hconcat hshorten isPlain_nil
    · exact hshorten
  · next hdots =>
    split
    · split
      · exact hconcat hp isPlain_nil
      · exact hp
    · next hdot =>
      refine hconcat hp ⟨slash_notMem_encode hr, ?_, ?_⟩
      · simpa using hdot
      · simpa using hdots

/-- Behind the last segment of a text a path has segments. -/
lemma pushSegment_ne_nil (raw : List Char) : pushSegment scheme path raw true ≠ [] := by
  unfold pushSegment
  simp only [if_true]
  repeat' split
  all_goals simp

lemma isPlain_pushSegments (hs : scheme ≠ fileScheme) (hp : ∀ name ∈ path, IsPlain name)
    {raws : List (List Char)} (hr : ∀ raw ∈ raws, '/' ∉ raw) (hne : raws ≠ []) :
    pushSegments scheme path raws ≠ [] ∧
      ∀ name ∈ pushSegments scheme path raws, IsPlain name := by
  induction raws generalizing path with
  | nil => contradiction
  | cons raw rest ih =>
    obtain ⟨hraw, hrest⟩ := List.forall_mem_cons.mp hr
    cases rest with
    | nil => exact ⟨pushSegment_ne_nil raw, isPlain_pushSegment hs hp hraw true⟩
    | cons next rest => exact ih (isPlain_pushSegment hs hp hraw false) hrest (by simp)

end Segments

/-! ### Parts of a text -/

section Parts

variable {u v base : Url} {start : List (List Char)} {rest : List Char}

@[simp] lemma path_withQueryAndFragment (u : Url) (rest : List Char) :
    (withQueryAndFragment u rest).path = u.path := by
  unfold withQueryAndFragment
  split <;> rfl

lemma isResolved_withPath (hs : u.scheme ≠ fileScheme) (hp : ∀ name ∈ start, IsPlain name)
    (rest : List Char) : (withPath u start rest).IsResolved := by
  have hraw : ∀ raw ∈ rawSegments u.isSpecial (rest.takeWhile (!endsPath ·)), '/' ∉ raw :=
    fun raw hm => Text.notMem_of_mem_splitOn hm
  obtain ⟨hne, hplain⟩ := isPlain_pushSegments hs hp hraw (Text.splitOn_ne_nil _ _)
  exact ⟨_, path_withQueryAndFragment _ _, hne, hplain⟩

lemma isResolved_withPathStart (hs : u.scheme ≠ fileScheme) (hu : u.isSpecial = true)
    (rest : List Char) : (withPathStart u rest).IsResolved := by
  have hpath (rest : List Char) : (withPath u [] rest).IsResolved :=
    isResolved_withPath hs (fun _ hm => absurd hm List.not_mem_nil) rest
  unfold withPathStart
  simp only [hu, if_true]
  split
  · exact hpath []
  · split
    · exact hpath _
    · exact hpath _

lemma isResolved_withAuthority? (hs : u.scheme ≠ fileScheme) (hu : u.isSpecial = true)
    (h : withAuthority? u rest = some v) : v.IsResolved := by
  obtain ⟨start, tail, rfl, hscheme, -⟩ := exists_of_withAuthority? h
  apply isResolved_withPathStart
  · rwa [hscheme]
  · rwa [isSpecial, hscheme]

/-- What is relative to a base has its scheme, and is resolved if the base is. -/
lemma isResolved_withBase? (hs : base.scheme ≠ fileScheme) (hu : base.isSpecial = true)
    (hb : base.IsResolved) (h : withBase? base rest = some v) : v.IsResolved := by
  obtain ⟨names, hpath, hne, hplain⟩ := hb
  have hempty : ∀ name ∈ ([] : List (List Char)), IsPlain name := fun _ hm =>
    absurd hm List.not_mem_nil
  have hshorten : ∀ name ∈ shorten base.scheme (baseSegments base), IsPlain name := by
    intro name hm
    rw [baseSegments, hpath] at hm
    exact hplain name (mem_of_mem_shorten hm)
  have hauthority {tail : List Char}
      (ha : withAuthority? { scheme := base.scheme } tail = some v) : v.IsResolved :=
    isResolved_withAuthority? (u := { scheme := base.scheme }) hs hu ha
  unfold withBase? at h
  split at h
  · obtain rfl := Option.some_inj.mp h
    exact ⟨names, hpath, hne, hplain⟩
  · simp only at h
    split at h
    · split at h
      · split at h
        · exact hauthority h
        · split at h
          · exact hauthority h
          · obtain rfl := Option.some_inj.mp h
            exact isResolved_withPath (by exact hs) hempty _
      · obtain rfl := Option.some_inj.mp h
        exact isResolved_withPath (by exact hs) hempty _
    · split at h
      · obtain rfl := Option.some_inj.mp h
        exact ⟨names, (path_withQueryAndFragment _ _).trans hpath, hne, hplain⟩
      · split at h
        · obtain rfl := Option.some_inj.mp h
          exact ⟨names, (path_withQueryAndFragment _ _).trans hpath, hne, hplain⟩
        · obtain rfl := Option.some_inj.mp h
          exact isResolved_withPath (by exact hs) hshorten _

end Parts

/-! ### Whole URLs -/

section Whole

variable {u v : Url}

lemma IsResolved.isOpaque_eq (h : u.IsResolved) : u.isOpaque = false := by
  obtain ⟨names, hpath, -⟩ := h
  rw [isOpaque, hpath]

/-- A URL of the web that has been read is resolved, on its own or relative to a base that is. -/
theorem isResolved_of_read? {base : Option Url} (hb : ∀ b, base = some b → b.IsResolved)
    {text : List Char} (h : read? base text = some v) (hw : v.isWeb = true) : v.IsResolved := by
  obtain ⟨hspecial, hfile⟩ := isSpecialScheme_of_isWeb hw
  unfold read? at h
  simp only at h
  split at h
  · next scheme rest _ _ =>
    obtain rfl := scheme_withScheme? h
    have hauthority {tail : List Char}
        (ha : withAuthority? { scheme := v.scheme } tail = some v) : v.IsResolved :=
      isResolved_withAuthority? (u := { scheme := v.scheme }) hfile hspecial ha
    unfold withScheme? at h
    simp only [isSpecial, hfile, hspecial, if_true, if_false] at h
    split at h
    · exact hauthority h
    · next b hfound _ _ =>
      obtain ⟨hbase, hscheme⟩ := Option.filter_eq_some_iff.mp hfound
      have hb' : b.scheme = v.scheme := of_decide_eq_true hscheme
      refine isResolved_withBase? ?_ ?_ (hb b hbase) h
      · rwa [hb']
      · rwa [isSpecial, hb']
    · exact hauthority h
  · contradiction
  · next b _ =>
    rw [(hb b rfl).isOpaque_eq] at h
    simp only [Bool.false_eq_true, if_false] at h
    split at h
    · exact absurd (scheme_withFile? h) hfile
    · have hscheme := scheme_withBase? h
      refine isResolved_withBase? ?_ ?_ (hb b rfl) h
      · rwa [← hscheme]
      · rwa [isSpecial, ← hscheme]

theorem isResolved_of_parse? {text : String} (h : parse? text = some u) (hw : u.isWeb = true) :
    u.IsResolved :=
  isResolved_of_read? (fun _ hb => by contradiction) h hw

theorem isResolved_of_join? {base : Url} (hb : base.IsResolved) {text : String}
    (h : base.join? text = some v) (hw : v.isWeb = true) : v.IsResolved := by
  refine isResolved_of_read? ?_ h hw
  rintro b hsome
  obtain rfl := Option.some_inj.mp hsome
  exact hb

end Whole

end ModuleArchive.Url
