import ModuleArchive.Proofs.Text.Split
import ModuleArchive.Storage.Store

/-!
# Keys and paths

A key consists of proper names and is itself the key of the path that it spells. The key of a
path is what the path says step by step if the path is direct, that is, if it takes no step back
and has no empty segment after its first name; otherwise it is shorter.
-/
namespace ModuleArchive.Storage

namespace Key

/-- Whether a segment is kept as a name. -/
structure IsName (segment : List Char) : Prop where
  ne_nil : segment ≠ []
  ne_dot : segment ≠ ['.']
  ne_dots : segment ≠ ['.', '.']
  noNul : '\x00' ∉ segment

/-! ### Walking -/

lemma walk_of_isName {segment : List Char} (h : IsName segment) (kept : Key) :
    walk kept segment = some (segment :: kept) := by
  unfold walk
  rw [if_neg (by simp [h.ne_nil, h.ne_dot]), if_neg h.ne_dots, if_neg h.noNul]

/-- A segment is passed over, takes back a name or is kept as a name. -/
lemma walk_cases {kept kept' : Key} {segment : List Char} (h : walk kept segment = some kept') :
    ((segment = [] ∨ segment = ['.']) ∧ kept' = kept) ∨
      (segment = ['.', '.'] ∧ ∃ name, kept = name :: kept') ∨
      (IsName segment ∧ kept' = segment :: kept) := by
  unfold walk at h
  split at h
  · next hs => exact .inl ⟨hs, (Option.some_inj.mp h).symm⟩
  · next hs =>
    split at h
    · next hd =>
      cases kept with
      | nil => contradiction
      | cons name rest =>
        obtain rfl := Option.some_inj.mp h
        exact .inr (.inl ⟨hd, name, rfl⟩)
    · next hd =>
      split at h
      · contradiction
      · next hn =>
        obtain ⟨hne, hdot⟩ := not_or.mp hs
        exact .inr (.inr ⟨⟨hne, hdot, hd, hn⟩, (Option.some_inj.mp h).symm⟩)

lemma foldlM_walk_of_isName {segments : List (List Char)} (h : ∀ s ∈ segments, IsName s)
    (kept : Key) : segments.foldlM walk kept = some (segments.reverse ++ kept) := by
  induction segments generalizing kept with
  | nil => rfl
  | cons s rest ih =>
    obtain ⟨hs, hrest⟩ := List.forall_mem_cons.mp h
    rw [List.foldlM_cons, walk_of_isName hs]
    simp [ih hrest]

/-- What is kept in the end are names of the path, or was kept before. -/
lemma isName_of_foldlM_walk {segments : List (List Char)} {kept kept' : Key}
    (h : segments.foldlM walk kept = some kept') {name : List Char} (hn : name ∈ kept') :
    name ∈ kept ∨ (name ∈ segments ∧ IsName name) := by
  induction segments generalizing kept with
  | nil =>
    obtain rfl := Option.some_inj.mp h
    exact .inl hn
  | cons s rest ih =>
    rw [List.foldlM_cons] at h
    obtain ⟨next, hs, hrest⟩ := Option.bind_eq_some_iff.mp h
    rcases ih hrest with hm | ⟨hm, hname⟩
    · obtain ⟨-, rfl⟩ | ⟨-, taken, rfl⟩ | ⟨hname, rfl⟩ := walk_cases hs
      · exact .inl hm
      · exact .inl (List.mem_cons_of_mem _ hm)
      · rcases List.mem_cons.mp hm with rfl | hm
        · exact .inr ⟨List.mem_cons_self, hname⟩
        · exact .inl hm
    · exact .inr ⟨List.mem_cons_of_mem _ hm, hname⟩

/-- The segments that are kept as names, at least for a while. -/
def named (segments : List (List Char)) : List (List Char) :=
  segments.filter fun s => s ≠ [] ∧ s ≠ ['.'] ∧ s ≠ ['.', '.']

lemma named_cons_of_isName {s : List Char} (h : IsName s) (rest : List (List Char)) :
    named (s :: rest) = s :: named rest :=
  List.filter_cons_of_pos (by simp [h.ne_nil, h.ne_dot, h.ne_dots])

lemma named_cons_of_not {s : List Char} (h : s = [] ∨ s = ['.'] ∨ s = ['.', '.'])
    (rest : List (List Char)) : named (s :: rest) = named rest :=
  List.filter_cons_of_neg (by rcases h with rfl | rfl | rfl <;> simp)

/-- Each step back takes one of the names that were kept. -/
lemma length_foldlM_walk {segments : List (List Char)} {kept kept' : Key}
    (h : segments.foldlM walk kept = some kept') :
    kept'.length + segments.count ['.', '.'] = kept.length + (named segments).length := by
  induction segments generalizing kept with
  | nil =>
    obtain rfl := Option.some_inj.mp h
    rfl
  | cons s rest ih =>
    rw [List.foldlM_cons] at h
    obtain ⟨next, hs, hrest⟩ := Option.bind_eq_some_iff.mp h
    have hlen := ih hrest
    obtain ⟨hskip, rfl⟩ | ⟨rfl, taken, rfl⟩ | ⟨hname, rfl⟩ := walk_cases hs
    · have hne : s ≠ ['.', '.'] := by rcases hskip with rfl | rfl <;> decide
      have hnot : s = [] ∨ s = ['.'] ∨ s = ['.', '.'] := hskip.imp_right .inl
      rw [List.count_cons_of_ne hne, named_cons_of_not hnot]
      exact hlen
    · rw [List.count_cons_self, named_cons_of_not (.inr (.inr rfl)), List.length_cons]
      omega
    · rw [List.count_cons_of_ne hname.ne_dots, named_cons_of_isName hname]
      simp only [List.length_cons] at hlen ⊢
      omega

/-- Without steps back every name is kept. -/
lemma eq_of_foldlM_walk {segments : List (List Char)} {kept kept' : Key}
    (hd : ['.', '.'] ∉ segments) (h : segments.foldlM walk kept = some kept') :
    kept' = (named segments).reverse ++ kept := by
  induction segments generalizing kept with
  | nil => exact (Option.some_inj.mp h).symm
  | cons s rest ih =>
    obtain ⟨hs', hd⟩ := List.ne_and_not_mem_of_not_mem_cons hd
    rw [List.foldlM_cons] at h
    obtain ⟨next, hs, hrest⟩ := Option.bind_eq_some_iff.mp h
    rw [ih hd hrest]
    obtain ⟨hskip, rfl⟩ | ⟨hback, -⟩ | ⟨hname, rfl⟩ := walk_cases hs
    · have hnot : s = [] ∨ s = ['.'] ∨ s = ['.', '.'] := hskip.imp_right .inl
      rw [named_cons_of_not hnot]
    · exact absurd hback.symm hs'
    · rw [named_cons_of_isName hname, List.reverse_cons, List.append_assoc,
        List.singleton_append]

/-! ### Keys -/

lemma ofPath?_eq_some {path : List Char} {key : Key} (h : ofPath? path = some key) :
    (Text.splitOn '/' path).foldlM walk [] = some key.reverse ∧ key ≠ [] := by
  rw [ofPath?] at h
  split at h
  · contradiction
  · contradiction
  · next kept hne hk =>
    obtain rfl := Option.some_inj.mp h
    refine ⟨by rw [hk, List.reverse_reverse], ?_⟩
    rw [Ne, List.reverse_eq_nil_iff]
    exact hne

lemma isName_of_mem {path : List Char} {key : Key} (h : ofPath? path = some key)
    {name : List Char} (hn : name ∈ key) : IsName name ∧ name ∈ Text.splitOn '/' path := by
  obtain ⟨hwalk, -⟩ := ofPath?_eq_some h
  rcases isName_of_foldlM_walk hwalk (List.mem_reverse.mpr hn) with hm | ⟨hm, hname⟩
  · contradiction
  · exact ⟨hname, hm⟩

lemma splitOn_toPath {path : List Char} {key : Key} (h : ofPath? path = some key) :
    Text.splitOn '/' key.toPath = key :=
  Text.splitOn_joinWith (ofPath?_eq_some h).2 fun _ hn =>
    Text.notMem_of_mem_splitOn (isName_of_mem h hn).2

lemma mem_of_mem_toPath {path : List Char} {key : Key} (h : ofPath? path = some key) {c : Char}
    (hc : c ∈ key.toPath) : c = '/' ∨ c ∈ path := by
  obtain rfl | ⟨name, hn, hc⟩ := Text.mem_joinWith hc
  · exact .inl rfl
  · exact .inr (Text.mem_of_mem_splitOn (isName_of_mem h hn).2 hc)

theorem ofPath?_toPath {path : List Char} {key : Key} (h : ofPath? path = some key) :
    ofPath? key.toPath = some key := by
  have hne : key.reverse ≠ [] := by
    rw [Ne, List.reverse_eq_nil_iff]
    exact (ofPath?_eq_some h).2
  rw [ofPath?, splitOn_toPath h, foldlM_walk_of_isName fun _ hn => (isName_of_mem h hn).1,
    List.append_nil]
  split
  · contradiction
  · next hk => exact absurd (Option.some_inj.mp hk) hne
  · next kept _ hk =>
    obtain rfl := Option.some_inj.mp hk
    rw [List.reverse_reverse]

end Key

/-! ### Direct paths -/

/-- What a path says step by step: its segments without dots, from the first name on. -/
def steps (path : List Char) : List (List Char) :=
  ((Text.splitOn '/' path).filter fun s => s ≠ ['.'] ∧ s ≠ ['.', '.']).dropWhile List.isEmpty

/-- Whether a path takes no step back and has no empty segment after its first name. -/
structure IsDirect (path : List Char) : Prop where
  noBack : ['.', '.'] ∉ Text.splitOn '/' path
  noGap : [] ∉ steps path

instance (path : List Char) : Decidable (IsDirect path) :=
  decidable_of_iff ((∀ s ∈ Text.splitOn '/' path, s ≠ ['.', '.']) ∧ ∀ s ∈ steps path, s ≠ [])
    ⟨fun h => ⟨fun hb => h.1 _ hb rfl, fun hg => h.2 _ hg rfl⟩,
      fun h => ⟨fun _ hs heq => h.noBack (heq ▸ hs), fun _ hs heq => h.noGap (heq ▸ hs)⟩⟩

lemma filter_dropWhile_isEmpty {α : Type} (xs : List (List α)) :
    (xs.dropWhile List.isEmpty).filter (!·.isEmpty) = xs.filter (!·.isEmpty) := by
  induction xs with
  | nil => rfl
  | cons x xs ih => cases x <;> simp_all

lemma filter_steps (path : List Char) :
    (steps path).filter (!·.isEmpty) = Key.named (Text.splitOn '/' path) := by
  rw [steps, filter_dropWhile_isEmpty, List.filter_filter, Key.named]
  congr 1
  funext s
  cases s <;> simp

/-- A path says its key step by step exactly if it is direct. -/
theorem steps_eq_iff {path : List Char} {key : Key} (h : Key.ofPath? path = some key) :
    steps path = key ↔ IsDirect path := by
  obtain ⟨hwalk, -⟩ := Key.ofPath?_eq_some h
  constructor
  · intro hs
    have hlen := Key.length_foldlM_walk hwalk
    rw [List.length_reverse, List.length_nil, ← filter_steps, hs] at hlen
    have hle := List.length_filter_le (fun s : List Char => !s.isEmpty) key
    have hback : (Text.splitOn '/' path).count ['.', '.'] = 0 := by omega
    refine ⟨List.count_eq_zero.mp hback, fun hgap => ?_⟩
    rw [hs] at hgap
    exact (Key.isName_of_mem h hgap).1.ne_nil rfl
  · intro hd
    have hkey := Key.eq_of_foldlM_walk hd.noBack hwalk
    rw [List.append_nil, List.reverse_inj, ← filter_steps] at hkey
    rw [hkey]
    refine (List.filter_eq_self.mpr fun s hs => ?_).symm
    cases s with
    | nil => exact absurd hs hd.noGap
    | cons c rest => rfl

lemma steps_toPath {path : List Char} {key : Key} (h : Key.ofPath? path = some key) :
    steps key.toPath = key := by
  have hname {s : List Char} (hs : s ∈ key) := (Key.isName_of_mem h hs).1
  rw [steps, Key.splitOn_toPath h, List.filter_eq_self.mpr fun s hs => by
    simp [(hname hs).ne_dot, (hname hs).ne_dots]]
  cases key with
  | nil => rfl
  | cons s rest =>
    have hs : s.isEmpty = false := by simpa using (hname List.mem_cons_self).ne_nil
    rw [List.dropWhile_cons, hs, if_neg Bool.false_ne_true]

lemma steps_ne_nil {path : List Char} {key : Key} (h : Key.ofPath? path = some key) :
    steps path ≠ [] := by
  obtain ⟨hwalk, hne⟩ := Key.ofPath?_eq_some h
  intro hs
  have hlen := Key.length_foldlM_walk hwalk
  rw [← filter_steps, hs, List.length_reverse] at hlen
  have hzero : key.length = 0 := by
    simp only [List.filter_nil, List.length_nil] at hlen
    omega
  exact hne (List.length_eq_zero_iff.mp hzero)

/-! ### Paths as strings -/

lemma keyOf_eq_ok {path : String} {key : Key} :
    keyOf path = .ok key ↔ Key.ofPath? path.toList = some key := by
  rw [keyOf]
  cases Key.ofPath? path.toList <;> simp

lemma keyOf_toPath {path : String} {key : Key} (h : keyOf path = .ok key) :
    keyOf (String.ofList key.toPath) = .ok key := by
  rw [keyOf_eq_ok, String.toList_ofList]
  exact Key.ofPath?_toPath (keyOf_eq_ok.mp h)

end ModuleArchive.Storage
