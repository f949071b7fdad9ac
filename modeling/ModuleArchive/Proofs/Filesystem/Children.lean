import ModuleArchive.Proofs.Filesystem.Resolving

/-!
# Children

The identifier of a child says in which directory it is and what it is called. No two directories
share an identifier; two files of a group do if they have the same file name, and it resolves to
the one that is listed first. So the children of a directory are resolved from their identifiers
exactly if no two files are called the same.
-/
namespace ModuleArchive

def Answers.children (A : Answers) : Node → List Node
  | .root => Grouping.all.map .category
  | .category g => Bucket.all.map (.bucket g)
  | .bucket g b => (A.items (.bucket g b)).map (.group g b)
  | .group g b group => (A.items (.tracks g group.id)).map (.track g b group.toRef)
  | .track _ _ _ _ | .detached _ _ => []

/-- The name of a node is the last one on the path to its location; the root has none. -/
lemma Node.name_of_location? {n : Node} {l : Location} (h : n.location? = some l) :
    n.name = l.segments.getLast?.getD "" := by
  cases n with
  | detached url track => contradiction
  | _ =>
    obtain rfl := Option.some_inj.mp h
    rfl

namespace Answers

variable {A : Answers} {n child : Node}

/-- Files of one directory that have one name are at one location. -/
lemma location?_eq_of_name {other : Node} (hc : child ∈ A.children n) (ho : other ∈ A.children n)
    (hfile : child.isFile = true) (hname : child.name = other.name) :
    child.location? = other.location? := by
  cases n with
  | root =>
    obtain ⟨g, -, rfl⟩ := List.mem_map.mp hc
    contradiction
  | category g =>
    obtain ⟨b, -, rfl⟩ := List.mem_map.mp hc
    contradiction
  | bucket g b =>
    obtain ⟨group, -, rfl⟩ := List.mem_map.mp hc
    contradiction
  | group g b group =>
    obtain ⟨track, -, rfl⟩ := List.mem_map.mp hc
    obtain ⟨track', -, rfl⟩ := List.mem_map.mp ho
    exact congrArg (fun name => some (Location.track g b group.toRef name)) hname
  | track => contradiction
  | detached => contradiction

lemma eq_of_location? (hA : A.IsConsistent) {other : Node} (hc : child ∈ A.children n)
    (ho : other ∈ A.children n) (hd : child.isFile = false)
    (hl : child.location? = other.location?) : child = other := by
  cases n with
  | root =>
    obtain ⟨g, -, rfl⟩ := List.mem_map.mp hc
    obtain ⟨g', -, rfl⟩ := List.mem_map.mp ho
    simpa [Node.location?] using hl
  | category g =>
    obtain ⟨b, -, rfl⟩ := List.mem_map.mp hc
    obtain ⟨b', -, rfl⟩ := List.mem_map.mp ho
    simpa [Node.location?] using hl
  | bucket g b =>
    obtain ⟨group, hg, rfl⟩ := List.mem_map.mp hc
    obtain ⟨group', hg', rfl⟩ := List.mem_map.mp ho
    have hid : group.id = group'.id := by
      have href : group.toRef = group'.toRef := by simpa [Node.location?] using hl
      exact congrArg GroupRef.id href
    have hfound := hA.group_of_mem g b group hg
    rw [hid, hA.group_of_mem g b group' hg'] at hfound
    simpa [eq_comm] using hfound
  | group g b group =>
    obtain ⟨track, -, rfl⟩ := List.mem_map.mp hc
    contradiction
  | track => contradiction
  | detached => contradiction

/-- Children at one location are one child, unless they are different files of one name. -/
lemma eq_of_shared_location (hA : A.IsConsistent) {other : Node} (hc : child ∈ A.children n)
    (ho : other ∈ A.children n) {own : Location} (hchild : child.location? = some own)
    (hother : other.location? = some own)
    (hfile : child.isFile = true → child.name = other.name → child = other) : child = other := by
  cases hkind : child.isFile with
  | true =>
    apply hfile hkind
    rw [Node.name_of_location? hchild, Node.name_of_location? hother]
  | false => exact eq_of_location? hA hc ho hkind (hchild.trans hother.symm)

lemma find?_location_of_directory (hA : A.IsConsistent) (hc : child ∈ A.children n)
    (hd : child.isFile = false) {own : Location} (hl : child.location? = some own) :
    (A.children n).find? (·.location? = some own) = some child :=
  find?_eq_some_of_unique hc (by simp [hl]) fun other ho hown =>
    (eq_of_location? hA hc ho hd (by simp_all)).symm

/-- What is found at the location of a child is the first child that is listed there. -/
lemma finds_of_child (hA : A.IsConsistent) {l : Location} (hn : A.Finds l n)
    (hc : child ∈ A.children n) :
    ∃ own first, child.location? = some own ∧ A.Finds own first ∧
      (A.children n).find? (·.location? = some own) = some first := by
  cases hn with
  | root =>
    obtain ⟨g, -, rfl⟩ := List.mem_map.mp hc
    exact ⟨_, _, rfl, .category g, find?_location_of_directory hA hc rfl rfl⟩
  | category g =>
    obtain ⟨b, -, rfl⟩ := List.mem_map.mp hc
    exact ⟨_, _, rfl, .bucket g b, find?_location_of_directory hA hc rfl rfl⟩
  | bucket g b =>
    obtain ⟨group, hg, rfl⟩ := List.mem_map.mp hc
    exact ⟨_, _, rfl, .group b (hA.group_of_mem g b group hg),
      find?_location_of_directory hA hc rfl rfl⟩
  | @group g r group b h =>
    obtain ⟨track, htrack, rfl⟩ := List.mem_map.mp hc
    have hgroup : A.group g group.id = .ok (some group) := by rw [hA.id_of_group g r.id group h, h]
    obtain ⟨first, -, hfirst, -⟩ : ∃ first ∈ A.items (.tracks g group.id),
        (A.items (.tracks g group.id)).find? (·.filename = track.filename) = some first ∧ _ :=
      exists_find?_eq_some htrack (by simp)
    refine ⟨_, .track g b group.toRef first, rfl,
      .track b hgroup (hA.track_of_find? g group.id track.filename first hfirst), ?_⟩
    -- the children of a group are at one location exactly if they have one file name
    have hlocation : ((fun d => decide (d.location? = some (.track g b group.toRef track.filename)))
        ∘ Node.track g b group.toRef) = fun t => decide (t.filename = track.filename) := by
      funext t
      simp [Node.location?]
    rw [children, List.find?_map, hlocation, hfirst, Option.map_some]
  | track => contradiction

end Answers

namespace Filesystem

variable {σ : Type} {f : Filesystem σ} {I : σ → Prop} {A : Answers} {n : Node} {w : σ}

lemma items_of_children? (hA : f.catalog.Gives I A) {listing : Listing σ Node}
    (h : f.children? n = some listing) (hw : I w) : listing.items w = A.children n := by
  cases n with
  | root =>
    obtain rfl := Option.some_inj.mp h
    exact Listing.items_ofItems w _
  | category g =>
    obtain rfl := Option.some_inj.mp h
    exact Listing.items_ofItems w _
  | bucket g b =>
    obtain rfl := Option.some_inj.mp h
    rw [Listing.items_map, hA.items_eq _ w hw]
    rfl
  | group g b group =>
    obtain rfl := Option.some_inj.mp h
    rw [Listing.items_map, hA.items_eq _ w hw]
    rfl
  | track => contradiction
  | detached => contradiction

/-- Children have the same identifier if and only if they are at the same location. -/
lemma identifier_eq_iff (hs : ':' ∉ f.scheme.toList) {child other : Node} {own l : Location}
    {u : String} (hc : child.location? = some own) (hu : f.identifier child = .ok u)
    (ho : other.location? = some l) : f.identifier other = .ok u ↔ l = own := by
  constructor
  · intro h
    have hread := (decode_identifier hs ho h).1
    rw [(decode_identifier hs hc hu).1] at hread
    exact (Except.ok.inj hread).symm
  · rintro rfl
    rw [identifier_eq ho, ← identifier_eq hc, hu]

lemma find?_identifier (hs : ':' ∉ f.scheme.toList) (hconsistent : A.IsConsistent)
    {l own : Location} (hn : A.Finds l n) {child : Node} (hc : child.location? = some own)
    {u : String} (hu : f.identifier child = .ok u) :
    (A.children n).find? (f.identifier · = .ok u) =
      (A.children n).find? (·.location? = some own) := by
  have hfilter : (A.children n).filter (f.identifier · = .ok u) =
      (A.children n).filter (·.location? = some own) := by
    apply List.filter_congr
    intro other ho
    obtain ⟨lo, -, hlo, -⟩ := Answers.finds_of_child hconsistent hn ho
    simp [identifier_eq_iff hs hc hu hlo, hlo]
  rw [← List.head?_filter, ← List.head?_filter, hfilter]

/-- The identifier of a child resolves to the first child at its location, unless it is the URL of
a detached file. -/
lemma exists_first_of_child (hs : ':' ∉ f.scheme.toList) (hA : f.catalog.Gives I A)
    (hconsistent : A.IsConsistent) {l : Location} (hn : A.Finds l n) {child : Node}
    (hm : child ∈ A.children n) {u : String} (hu : f.identifier child = .ok u) (hw : I w) :
    ∃ own first, child.location? = some own ∧ first.location? = some own ∧ first ∈ A.children n ∧
      (A.children n).find? (f.identifier · = .ok u) = some first ∧
      (f.resolve u w).1 = .ok ((f.detached? u).or (some first)) := by
  obtain ⟨own, first, hown, hfinds, hfirst⟩ := Answers.finds_of_child hconsistent hn hm
  have hlocation : first.location? = some own := by simpa using List.find?_some hfirst
  refine ⟨own, first, hown, hlocation, List.mem_of_find?_eq_some hfirst, ?_, ?_⟩
  · rw [find?_identifier hs hconsistent hn hown hu, hfirst]
  · cases hd : f.detached? u with
    | some m => exact (resolve_fst_eq_iff hA hw).mpr (.inl hd)
    | none =>
      have hread := (decode_identifier hs hown hu).1
      exact (resolve_fst_eq_iff hA hw).mpr (.inr ⟨hd, own, hread, hfinds⟩)

/-- A directory that has been resolved is in the tree. -/
lemma exists_finds_of_resolved (hA : f.catalog.Gives I A) (hw : I w) {s : String}
    (hn : (f.resolve s w).1 = .ok (some n)) {listing : Listing σ Node}
    (hl : f.children? n = some listing) : ∃ l, A.Finds l n := by
  rcases (resolve_fst_eq_iff hA hw).mp hn with hd | ⟨-, l, -, hfinds⟩
  · obtain ⟨url, track, rfl, -⟩ := exists_of_detached? hd
    contradiction
  · exact ⟨l, hfinds⟩

/-- The identifier of a child resolves to the first child that has it, unless it is the URL of a
detached file. Under a scheme that is not one of the web the children of a directory are resolved
from their identifiers if and only if no two files among them have one name. -/
theorem resolve_identifier_of_child {c : Config} (hc : c.validate = .ok ())
    (hf : f.scheme = c.scheme) (hA : f.catalog.Gives I A) (hconsistent : A.IsConsistent)
    {s : String} (hw : I w) (hn : (f.resolve s w).1 = .ok (some n)) {listing : Listing σ Node}
    (hl : f.children? n = some listing) {w' : σ} (hw' : I w') :
    let children := listing.items w'
    (∀ child ∈ children, ∀ u, f.identifier child = .ok u → ∀ w'', I w'' →
      (f.resolve u w'').1 =
        .ok ((f.detached? u).or (children.find? (f.identifier · = .ok u)))) ∧
    (¬ IsWebScheme c.scheme →
      ((∀ child ∈ children, ∀ u, f.identifier child = .ok u → ∀ w'', I w'' →
        (f.resolve u w'').1 = .ok (some child)) ↔
      ∀ child ∈ children, ∀ other ∈ children, child.isFile → (∃ u, f.identifier child = .ok u) →
        child.name = other.name → child = other)) := by
  intro children
  have hscheme := Location.isScheme_of_validate hc
  rw [← hf] at hscheme ⊢
  have hcolon := Location.notMem_of_isScheme hscheme
  obtain ⟨l, hfinds⟩ := exists_finds_of_resolved hA hw hn hl
  have hchildren : children = A.children n := items_of_children? hA hl hw'
  rw [hchildren]
  refine ⟨?_, fun hweb => ⟨?_, ?_⟩⟩
  · intro child hm u hu w'' hw''
    obtain ⟨own, first, -, -, -, hfirst, hresolved⟩ :=
      exists_first_of_child hcolon hA hconsistent hfinds hm hu hw''
    rw [hresolved, hfirst]
  · rintro hall child hm other ho hfile ⟨u, hu⟩ hname
    obtain ⟨own, -, hown, -⟩ := Answers.finds_of_child hconsistent hfinds hm
    have hother : other.location? = some own :=
      (Answers.location?_eq_of_name hm ho hfile hname).symm.trans hown
    have hshared : f.identifier other = .ok u := (identifier_eq_iff hcolon hown hu hother).mpr rfl
    have hresolved := hall child hm u hu w' hw'
    rw [hall other ho u hshared w' hw'] at hresolved
    exact (Option.some_inj.mp (Except.ok.inj hresolved)).symm
  · intro hdistinct child hm u hu w'' hw''
    obtain ⟨own, first, hown, hlocation, hmem, -, hresolved⟩ :=
      exists_first_of_child hcolon hA hconsistent hfinds hm hu hw''
    obtain ⟨-, rest, rfl⟩ := decode_identifier hcolon hown hu
    have hsame : child = first :=
      Answers.eq_of_shared_location hconsistent hm hmem hown hlocation fun hfile hname =>
        hdistinct child hm first hmem hfile ⟨_, hu⟩ hname
    rw [hresolved, detached?_eq_none hscheme hweb rest, Option.none_or, hsame]

/-- Two files with different names are resolved from their identifiers. -/
theorem resolve_identifier_of_child_twoNames :
    let f := ofMemory "modland" "ftp.modland.com"
    let m : MemoryCatalog :=
      { groups := [(.authors, ⟨42, "Beispiel", 2⟩)]
        tracks := [((.authors, 42), [.ofPath "/pub/a/x.mod" 8, .ofPath "/pub/b/y.mod" 9])] }
    let n : Node := .group .authors (.letter 1) ⟨42, "Beispiel", 2⟩
    ∃ listing, f.children? n = some listing ∧
      (f.resolve "modland:/Authors/B/Beispiel?id=42" m).1 = .ok (some n) ∧
      ∀ child ∈ listing.items m, ∀ u, f.identifier child = .ok u →
        (f.resolve u m).1 = .ok (some child) := by
  intro f m n
  have hA : f.catalog.Gives m.Agrees m.answers := MemoryCatalog.gives_answers m
  have hconsistent : m.answers.IsConsistent := MemoryCatalog.isConsistent_answers (by decide)
  have hn : (f.resolve "modland:/Authors/B/Beispiel?id=42" m).1 = .ok (some n) := by
    decide +kernel
  refine ⟨_, rfl, hn, ?_⟩
  have hitems : ((f.catalog.listing (.tracks .authors 42)).map
      (Node.track .authors (.letter 1) ⟨42, "Beispiel"⟩)).items m =
        [.track .authors (.letter 1) ⟨42, "Beispiel"⟩ (.ofPath "/pub/a/x.mod" 8),
          .track .authors (.letter 1) ⟨42, "Beispiel"⟩ (.ofPath "/pub/b/y.mod" 9)] := by
    decide +kernel
  have hall := (resolve_identifier_of_child (show ({} : Config).validate = .ok () by
    decide +kernel) rfl hA hconsistent m.agrees_self hn rfl m.agrees_self).2 (by decide)
  intro child hm u hu
  refine hall.mpr ?_ child hm u hu m m.agrees_self
  intro first hfirst second hsecond _ _ hname
  have hfirst := (congrArg (first ∈ ·) hitems).mp hfirst
  have hsecond := (congrArg (second ∈ ·) hitems).mp hsecond
  simp only [List.mem_cons, List.not_mem_nil, or_false] at hfirst hsecond
  rcases hfirst with rfl | rfl
  · rcases hsecond with rfl | rfl
    · rfl
    · exact absurd hname (by decide)
  · rcases hsecond with rfl | rfl
    · exact absurd hname (by decide)
    · rfl

/-- Two files of one name have one identifier, and the second one is not found under it. -/
theorem resolve_identifier_of_child_oneName :
    let c : Config := {}
    let f := ofMemory "modland" "ftp.modland.com"
    let m : MemoryCatalog :=
      { groups := [(.authors, ⟨42, "Beispiel", 2⟩)]
        tracks := [((.authors, 42), [.ofPath "/pub/a/x.mod" 8, .ofPath "/pub/b/x.mod" 9])] }
    let n : Node := .group .authors (.letter 1) ⟨42, "Beispiel", 2⟩
    let child : Node := .track .authors (.letter 1) ⟨42, "Beispiel"⟩ (.ofPath "/pub/b/x.mod" 9)
    let u := "modland:/Authors/B/Beispiel/x.mod?id=42"
    c.validate = .ok () ∧ c.scheme ∉ ["http", "https"] ∧ f.scheme = c.scheme ∧
      f.catalog.Gives m.Agrees m.answers ∧ m.answers.IsConsistent ∧ m.answers.IsDistinct ∧
      (f.resolve "modland:/Authors/B/Beispiel?id=42" m).1 = .ok (some n) ∧
      (∃ listing, f.children? n = some listing ∧ child ∈ listing.items m) ∧
      f.identifier child = .ok u ∧ (f.resolve u m).1 ≠ .ok (some child) := by
  intro c f m n child u
  have hids : m.HasUniqueIds := by decide
  have hpaths : ∀ x ∈ m.tracks, (x.2.map Track.path).Nodup := by decide
  refine ⟨by decide +kernel, by decide, rfl, MemoryCatalog.gives_answers m,
    MemoryCatalog.isConsistent_answers hids, MemoryCatalog.isDistinct_answers hids hpaths,
    by decide +kernel, ⟨_, rfl, ?_⟩, by decide +kernel, by decide +kernel⟩
  have hlisted : child ∈ ((f.catalog.listing (.tracks .authors 42)).map
      (Node.track .authors (.letter 1) ⟨42, "Beispiel"⟩)).items m := by decide +kernel
  exact hlisted

end Filesystem

end ModuleArchive
