import ModuleArchive.Proofs.Storage.FileTree

/-!
# Keys stay below the root

A path has a key exactly if the way that it describes never leaves the root: no step back is taken
where no name is kept, and a name is kept in the end. The key is what is kept then. It holds nothing
but proper names, so that behind any root it leads to a place below that root, and it is its own
key.
-/
namespace ModuleArchive.Storage

namespace Key

/-! ### What is kept -/

/-- What becomes of the names that are kept, first one first: an empty segment and `.` leave them
as they are, `..` takes the last one back, and any other segment is kept behind them. -/
def keep (kept : Key) (segment : List Char) : Key :=
  if segment = [] ∨ segment = ['.'] then kept
  else if segment = ['.', '.'] then kept.dropLast
  else kept ++ [segment]

/-- The names that are kept of some segments. -/
def kept (segments : List (List Char)) : Key := segments.foldl keep []

/-- Whether the way along some segments stays below the place where it begins. -/
structure StaysBelow (segments : List (List Char)) : Prop where
  noNul : ∀ segment ∈ segments, '\x00' ∉ segment
  /-- No step back is taken where nothing is kept. -/
  noEscape : ∀ before after, segments = before ++ ['.', '.'] :: after → kept before ≠ []
  nonempty : kept segments ≠ []

lemma keep_of_isName {name : List Char} (h : IsName name) (before : Key) :
    keep before name = before ++ [name] := by
  rw [keep, if_neg (by simp [h.ne_nil, h.ne_dot]), if_neg h.ne_dots]

@[simp] lemma keep_nil (before : Key) : keep before [] = before := if_pos (.inl rfl)

@[simp] lemma keep_dots (before : Key) : keep before ['.', '.'] = before.dropLast := rfl

/-- Names are kept in their order. -/
lemma foldl_keep_of_isName {names : Key} (h : ∀ name ∈ names, IsName name) (before : Key) :
    names.foldl keep before = before ++ names := by
  induction names generalizing before with
  | nil => rw [List.foldl_nil, List.append_nil]
  | cons name rest ih =>
    obtain ⟨hname, hrest⟩ := List.forall_mem_cons.mp h
    rw [List.foldl_cons, keep_of_isName hname, ih hrest, List.append_assoc, List.singleton_append]

/-- A walk takes a step exactly if the segment holds no NUL and does not leave the root. -/
lemma walk_eq_some_iff {stack stack' : Key} {segment : List Char} :
    walk stack segment = some stack' ↔
      '\x00' ∉ segment ∧ (segment = ['.', '.'] → stack ≠ []) ∧
        stack'.reverse = keep stack.reverse segment := by
  by_cases hskip : segment = [] ∨ segment = ['.']
  · have hnul : '\x00' ∉ segment := by rcases hskip with rfl | rfl <;> decide
    have hdots : segment ≠ ['.', '.'] := by rcases hskip with rfl | rfl <;> decide
    unfold walk
    rw [keep, if_pos hskip, if_pos hskip, Option.some_inj, List.reverse_inj]
    exact ⟨fun h => ⟨hnul, fun hback => absurd hback hdots, h.symm⟩, fun h => h.2.2.symm⟩
  · by_cases hback : segment = ['.', '.']
    · subst hback
      unfold walk
      rw [if_neg hskip, if_pos rfl, keep_dots]
      cases stack with
      | nil => simp
      | cons name rest => simp [eq_comm]
    · by_cases hnul : '\x00' ∈ segment
      · unfold walk
        rw [if_neg hskip, if_neg hback, if_pos hnul]
        simp [hnul]
      · obtain ⟨hne, hdot⟩ := not_or.mp hskip
        have hname : IsName segment := ⟨hne, hdot, hback, hnul⟩
        rw [walk_of_isName hname, keep_of_isName hname, Option.some_inj, ← List.reverse_cons,
          List.reverse_inj]
        exact ⟨fun h => ⟨hnul, fun hb => absurd hb hback, h.symm⟩, fun h => h.2.2.symm⟩

/-- A walk is finished exactly if each of its steps can be taken, and then it has kept what is
kept of the segments. -/
lemma foldlM_walk_eq_some_iff {segments : List (List Char)} {stack stack' : Key} :
    segments.foldlM walk stack = some stack' ↔
      (∀ segment ∈ segments, '\x00' ∉ segment) ∧
        (∀ before after, segments = before ++ ['.', '.'] :: after →
          before.foldl keep stack.reverse ≠ []) ∧
        stack'.reverse = segments.foldl keep stack.reverse := by
  induction segments generalizing stack with
  | nil =>
    constructor
    · intro h
      obtain rfl := Option.some_inj.mp h
      exact ⟨by simp, by simp, rfl⟩
    · rintro ⟨-, -, h⟩
      rw [List.reverse_inj.mp h]
      rfl
  | cons segment rest ih =>
    rw [List.foldlM_cons, Option.bind_eq_bind, Option.bind_eq_some_iff]
    constructor
    · rintro ⟨next, hstep, hrest⟩
      obtain ⟨hnul, hback, hnext⟩ := walk_eq_some_iff.mp hstep
      obtain ⟨hnuls, hbacks, hkept⟩ := ih.mp hrest
      rw [hnext] at hbacks hkept
      refine ⟨List.forall_mem_cons.mpr ⟨hnul, hnuls⟩, fun before after heq => ?_, hkept⟩
      cases before with
      | nil =>
        obtain ⟨rfl, -⟩ := List.cons.inj heq
        simpa using hback rfl
      | cons first before =>
        obtain ⟨rfl, hrest⟩ := List.cons.inj heq
        exact hbacks before after hrest
    · rintro ⟨hnuls, hbacks, hkept⟩
      obtain ⟨hnul, hnuls⟩ := List.forall_mem_cons.mp hnuls
      have hnext : (keep stack.reverse segment).reverse.reverse = keep stack.reverse segment :=
        List.reverse_reverse _
      refine ⟨(keep stack.reverse segment).reverse, walk_eq_some_iff.mpr ⟨hnul, ?_, hnext⟩,
        ih.mpr ⟨hnuls, fun before after heq => ?_, ?_⟩⟩
      · rintro rfl
        simpa using hbacks [] rest rfl
      · rw [hnext]
        exact hbacks (segment :: before) after (by rw [heq, List.cons_append])
      · rw [hnext]
        exact hkept

/-- A path has a key exactly if the way along its segments stays below the root. The key is what is
kept of them. -/
theorem ofPath?_eq_some_iff {path : List Char} {key : Key} :
    ofPath? path = some key ↔
      StaysBelow (Text.splitOn '/' path) ∧ key = kept (Text.splitOn '/' path) := by
  constructor
  · intro h
    obtain ⟨hwalk, hne⟩ := ofPath?_eq_some h
    obtain ⟨hnul, hback, hkept⟩ := foldlM_walk_eq_some_iff.mp hwalk
    rw [List.reverse_reverse] at hkept
    exact ⟨⟨hnul, hback, fun hnil => hne (hkept.trans hnil)⟩, hkept⟩
  · rintro ⟨h, rfl⟩
    have hwalk : (Text.splitOn '/' path).foldlM walk [] =
        some (kept (Text.splitOn '/' path)).reverse :=
      foldlM_walk_eq_some_iff.mpr ⟨h.noNul, h.noEscape, List.reverse_reverse _⟩
    rw [ofPath?, hwalk]
    split
    · contradiction
    · next hk => exact absurd (List.reverse_eq_nil_iff.mp (Option.some_inj.mp hk)) h.nonempty
    · next stack _ hk => rw [← Option.some_inj.mp hk, List.reverse_reverse]

/-! ### Behind a root -/

/-- A path put behind another one. If it begins with a slash, it takes the place of that one. -/
def joined (root path : List Char) : List Char :=
  if path.head? = some '/' then path
  else if root = [] ∨ root.getLast? = some '/' then root ++ path
  else root ++ '/' :: path

/-- Behind a root that ends in a slash, or is empty, another slash makes no difference. -/
lemma foldl_keep_joined {root path : List Char} (h : path.head? ≠ some '/') :
    kept (Text.splitOn '/' (joined root path)) =
      (Text.splitOn '/' path).foldl keep (kept (Text.splitOn '/' root)) := by
  rw [joined, if_neg h]
  split
  · next hroot =>
    obtain rfl | ⟨front, rfl⟩ := hroot.imp_right List.getLast?_eq_some_iff.mp
    · rfl
    · have hfront : Text.splitOn '/' (front ++ ['/']) = Text.splitOn '/' front ++ [[]] :=
        Text.splitOn_append_cons '/' front []
      rw [List.append_assoc, List.singleton_append, Text.splitOn_append_cons, hfront, kept, kept,
        List.foldl_append, List.foldl_append, List.foldl_cons, List.foldl_nil, keep_nil]
  · rw [Text.splitOn_append_cons, kept, List.foldl_append, kept]

lemma head?_toPath {path : List Char} {key : Key} (h : ofPath? path = some key) :
    key.toPath.head? ≠ some '/' := by
  intro hslash
  obtain ⟨rest, hrest⟩ := List.head?_eq_some_iff.mp hslash
  have hsplit := splitOn_toPath h
  rw [hrest, Text.splitOn, if_pos rfl] at hsplit
  exact (isName_of_mem h (hsplit ▸ List.mem_cons_self)).1.ne_nil rfl

end Key

/-- From a directory, names lead to the place that they spell below it. -/
lemma FileTree.eq_of_resolve_append {t : FileTree} {root base place key : Key} {e found : Entry}
    (hkey : ∀ name ∈ key, Key.IsName name) (hroot : t.resolve root = .ok (base, found))
    (h : t.resolve (root ++ key) = .ok (place, e)) : place = base ++ key := by
  rw [resolve, bind_eq_ok_iff] at hroot h
  obtain ⟨here, hway, hroot⟩ := hroot
  obtain ⟨there, hfull, h⟩ := h
  have hbase : here.reverse = base := by
    simp only at hroot
    split at hroot
    · exact congrArg Prod.fst (Except.ok.inj hroot)
    · contradiction
  have hplace : there.reverse = place := by
    simp only at h
    split at h
    · exact congrArg Prod.fst (Except.ok.inj h)
    · contradiction
  rw [List.foldlM_append, hway] at hfull
  rw [← hplace, eq_of_foldlM_step hkey hfull, List.reverse_append, List.reverse_reverse, hbase]

/-- A path has a key if and only if the way along its segments meets no NUL, takes no step back
where nothing is kept, and keeps something in the end; otherwise it is refused. The key is what is
kept. Its text is cut into just these names, which are neither empty nor dots, and does not begin
with a slash. Put behind a root, whatever that is, it leads to the place below the root that the
names spell, on paper as in a tree of files. It is its own key. -/
theorem keys_stay_below_root (path : String) (key : Key) :
    let segments := Text.splitOn '/' path.toList
    (keyOf path = .ok key ↔ Key.StaysBelow segments ∧ key = Key.kept segments) ∧
    (¬ Key.StaysBelow segments → keyOf path = .error (.invalidPath path)) ∧
    (keyOf path = .ok key →
      Text.splitOn '/' key.toPath = key ∧ key.toPath.head? ≠ some '/' ∧
      (∀ name ∈ key, name ≠ [] ∧ name ≠ ['.'] ∧ name ≠ ['.', '.']) ∧
      (∀ root, Key.kept (Text.splitOn '/' (Key.joined root key.toPath)) =
        Key.kept (Text.splitOn '/' root) ++ key) ∧
      (∀ (s : DirectoryStore) base place e, s.tree.resolve s.root = .ok (base, .directory) →
        s.tree.resolve (s.placeOf key) = .ok (place, e) → place = base ++ key) ∧
      key ≠ [] ∧ keyOf (String.ofList key.toPath) = .ok key) := by
  intro segments
  refine ⟨keyOf_eq_ok.trans Key.ofPath?_eq_some_iff, fun hleaves => ?_, fun h => ?_⟩
  · rw [keyOf]
    split
    · next found hfound => exact absurd (Key.ofPath?_eq_some_iff.mp hfound).1 hleaves
    · rfl
  · have hpath := keyOf_eq_ok.mp h
    have hname {name : List Char} (hm : name ∈ key) : Key.IsName name :=
      (Key.isName_of_mem hpath hm).1
    refine ⟨Key.splitOn_toPath hpath, Key.head?_toPath hpath,
      fun name hm => ⟨(hname hm).ne_nil, (hname hm).ne_dot, (hname hm).ne_dots⟩, fun root => ?_,
      fun s base place e hroot hplace => ?_, (Key.ofPath?_eq_some hpath).2, keyOf_toPath h⟩
    · rw [Key.foldl_keep_joined (Key.head?_toPath hpath), Key.splitOn_toPath hpath,
        Key.foldl_keep_of_isName fun _ => hname]
    · exact FileTree.eq_of_resolve_append (fun _ => hname) hroot hplace

/-- A path with steps back that leads to a file below the root of a store, and one that leaves it. -/
theorem keys_stay_below_root_stepsBack :
    let path := "/pub/../pub//./x/../a.mod"
    let key : Key := ["pub".toList, "a.mod".toList]
    let place : Key := ["srv".toList, "cache".toList] ++ key
    let s : DirectoryStore :=
      { name := "files"
        root := ["srv".toList, "cache".toList]
        reader := .standard
        tree := ⟨[(place.take 1, .directory), (place.take 2, .directory),
          (place.take 3, .directory), (place, .file [1])]⟩ }
    keyOf path = .ok key ∧ String.ofList key.toPath = "pub/a.mod" ∧ keyOf "pub/a.mod" = .ok key ∧
      Key.kept (Text.splitOn '/' (Key.joined "/srv/cache/".toList key.toPath)) = place ∧
      (∃ e, s.tree.resolve (s.placeOf key) = .ok (place, e)) ∧
      keyOf "pub/../../b" = .error (.invalidPath "pub/../../b") := by
  intro path key place s
  obtain ⟨-, -, hkey⟩ := keys_stay_below_root path key
  obtain ⟨-, -, -, hjoined, hplace, -, hagain⟩ := hkey (by decide +kernel)
  obtain ⟨-, hrefused, -⟩ := keys_stay_below_root "pub/../../b" []
  obtain ⟨⟨found, e⟩, hfound⟩ : ∃ x, s.tree.resolve (s.placeOf key) = .ok x := ⟨_, rfl⟩
  refine ⟨by decide +kernel, by decide +kernel, hagain, hjoined _, ⟨e, ?_⟩, hrefused ?_⟩
  · rw [hfound, hplace s s.root found e rfl hfound]
  · intro h
    exact h.noEscape ["pub".toList, ['.', '.']] [['b']] (by decide +kernel) rfl

end ModuleArchive.Storage
