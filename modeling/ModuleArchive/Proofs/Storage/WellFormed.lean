import ModuleArchive.Proofs.Storage.FileTree
import Mathlib.Data.List.Induction

/-!
# Trees in order

In a well-formed tree every entry has a short name and lies in a directory, so a path of proper
names leads to whatever stands at its end. Every operation keeps a tree well-formed. Making
directories adds the ones that are missing on the way and nothing else; it succeeds unless there
is a file on the way or a name is too long.
-/
namespace ModuleArchive.Storage.FileTree

open Key (IsName)

variable {t t' t'' : FileTree} {path place front rest : Key} {name : List Char} {data : Bytes}

/-- Whether every entry lies in a directory and has a name that is not too long. -/
structure IsWellFormed (t : FileTree) : Prop where
  parent : ∀ {place name}, (t.get? (place ++ [name])).isSome → t.get? place = some .directory
  isShort : ∀ {place name}, (t.get? (place ++ [name])).isSome → isTooLong name = false

lemma mem_of_get? {e : Entry} (hne : path ≠ []) (h : t.get? path = some e) :
    (path, e) ∈ t.entries := by
  rw [get?_of_ne_nil t hne, Option.map_eq_some_iff] at h
  obtain ⟨entry, hfind, rfl⟩ := h
  have hpath : entry.1 = path := by simpa using List.find?_some hfind
  rw [← hpath]
  exact List.mem_of_find?_eq_some hfind

namespace IsWellFormed

/-- Whether a tree is well-formed can be seen from its list of entries. -/
lemma of_entries (h : ∀ entry ∈ t.entries, t.get? entry.1.dropLast = some .directory ∧
    isTooLong (entry.1.getLast?.getD []) = false) : t.IsWellFormed := by
  have hentry {place : Key} {name : List Char} (hs : (t.get? (place ++ [name])).isSome) :
      t.get? place = some .directory ∧ isTooLong name = false := by
    obtain ⟨e, he⟩ := Option.isSome_iff_exists.mp hs
    simpa using h _ (mem_of_get? (by simp) he)
  exact ⟨fun hs => (hentry hs).1, fun hs => (hentry hs).2⟩

/-- On the way to an entry there are only directories. -/
lemma directory_of_append (ht : t.IsWellFormed) (hrest : rest ≠ [])
    (h : (t.get? (front ++ rest)).isSome) : t.get? front = some .directory := by
  induction rest using List.reverseRecOn with
  | nil => contradiction
  | append_singleton rest name ih =>
    rw [← List.append_assoc] at h
    have hparent := ht.parent h
    by_cases hr : rest = []
    · rwa [hr, List.append_nil] at hparent
    · exact ih hr (by rw [hparent]; rfl)

lemma isShort_of_mem (ht : t.IsWellFormed) (h : (t.get? path).isSome) (hm : name ∈ path) :
    isTooLong name = false := by
  induction path using List.reverseRecOn with
  | nil => contradiction
  | append_singleton front last ih =>
    rcases List.mem_append.mp hm with hm | hm
    · exact ih (by rw [ht.parent h]; rfl) hm
    · rw [List.mem_singleton.mp hm]
      exact ht.isShort h

/-- A tree stays well-formed if an entry with a short name is put into a directory and takes the
place of no directory that may have entries. -/
lemma put (ht : t.IsWellFormed) {e : Entry} (hf : t.get? front = some .directory)
    (hn : isTooLong name = false)
    (he : e = .directory ∨ t.get? (front ++ [name]) ≠ some .directory) :
    (t.put (front ++ [name]) e).IsWellFormed := by
  have hold {place : Key} {other : List Char}
      (h : ((t.put (front ++ [name]) e).get? (place ++ [other])).isSome)
      (hne : place ++ [other] ≠ front ++ [name]) : (t.get? (place ++ [other])).isSome := by
    rwa [get?_put_of_ne hne] at h
  constructor
  · intro place other h
    by_cases hp : place = front ++ [name]
    · have hlonger : place ++ [other] ≠ front ++ [name] := by
        rw [← hp]
        simp
      have hdirectory := ht.parent (hold h hlonger)
      rw [hp] at hdirectory ⊢
      rw [get?_put_self _ (by simp)]
      rcases he with rfl | he
      · rfl
      · exact absurd hdirectory he
    · rw [get?_put_of_ne hp]
      by_cases heq : place ++ [other] = front ++ [name]
      · obtain ⟨rfl, -⟩ := List.append_inj' heq rfl
        exact hf
      · exact ht.parent (hold h heq)
  · intro place other h
    by_cases heq : place ++ [other] = front ++ [name]
    · obtain ⟨-, hnames⟩ := List.append_inj' heq rfl
      rw [List.singleton_inj.mp hnames]
      exact hn
    · exact ht.isShort (hold h heq)

/-- Nor does it matter if a file is taken out. -/
lemma erase (ht : t.IsWellFormed) (hf : t.Holds path data) : (t.erase path).IsWellFormed := by
  have hold {place : Key} (h : ((t.erase path).get? place).isSome) : (t.get? place).isSome := by
    by_cases hp : place = path
    · rw [hp, get?_erase_self _ hf.ne_nil] at h
      contradiction
    · rwa [get?_erase_of_ne hp] at h
  refine ⟨fun {place name} h => ?_, fun {place name} h => ht.isShort (hold h)⟩
  have hdirectory := ht.parent (hold h)
  have hp : place ≠ path := by
    rintro rfl
    rw [Holds, hdirectory, Option.some_inj] at hf
    contradiction
  rwa [get?_erase_of_ne hp]

end IsWellFormed

/-! ### Following paths -/

/-- A path of proper names to an entry can be followed. -/
lemma foldlM_step_of_isSome (ht : t.IsWellFormed) (hp : ∀ name ∈ path, IsName name)
    (h : (t.get? path).isSome) : path.foldlM t.step [] = .ok path.reverse := by
  induction path using List.reverseRecOn with
  | nil => rfl
  | append_singleton front name ih =>
    have hdirectory := ht.parent h
    have hname : IsName name := hp name (by simp)
    have hstep : t.step front.reverse name = .ok (name :: front.reverse) := by
      simp [step, hdirectory, hname.ne_nil, hname.ne_dot, hname.ne_dots, hname.noNul,
        ht.isShort h, h]
    rw [List.foldlM_append, ih (fun n hn => hp n (by simp [hn])) (by rw [hdirectory]; rfl)]
    simp [bind, Except.bind, pure, Except.pure, hstep]

/-- A path of proper names leads to what stands at its end. -/
theorem resolve_eq_ok_iff (ht : t.IsWellFormed) (hp : ∀ name ∈ path, IsName name) {e : Entry} :
    t.resolve path = .ok (place, e) ↔ place = path ∧ t.get? path = some e := by
  refine ⟨eq_of_resolve hp, ?_⟩
  rintro ⟨rfl, he⟩
  rw [resolve, foldlM_step_of_isSome ht hp (by rw [he]; rfl)]
  simp [bind, Except.bind, he]

/-- If nothing stands at the end of a path and no file is on the way, nothing is found. -/
lemma resolve_eq_notFound (ht : t.IsWellFormed) (hp : ∀ name ∈ path, IsName name)
    (hshort : ∀ name ∈ path, isTooLong name = false)
    (hway : ∀ q data, q <+: path → ¬ t.Holds q data) (h : t.get? path = none) :
    t.resolve path = .error .notFound := by
  suffices hfold : path.foldlM t.step [] = .error .notFound by
    rw [resolve, hfold]
    rfl
  induction path using List.reverseRecOn with
  | nil => contradiction
  | append_singleton front name ih =>
    have hfront : ∀ n ∈ front, IsName n := fun n hn => hp n (by simp [hn])
    rw [List.foldlM_append]
    cases hf : t.get? front with
    | none =>
      rw [ih hfront (fun n hn => hshort n (by simp [hn]))
        (fun q data hq => hway q data (hq.trans (List.prefix_append _ _))) hf]
      rfl
    | some e =>
      cases e with
      | file data => exact absurd hf (hway front data (List.prefix_append _ _))
      | directory =>
        have hname : IsName name := hp name (by simp)
        have hstep : t.step front.reverse name = .error .notFound := by
          simp [step, hf, hname.ne_nil, hname.ne_dot, hname.ne_dots, hname.noNul,
            hshort name (by simp), h]
        rw [foldlM_step_of_isSome ht hfront (by rw [hf]; rfl)]
        simp [bind, Except.bind, hstep]

/-- Whatever path is followed, it leads to a place with proper names. -/
lemma isName_of_foldlM_step {here here' : Key} (hhere : ∀ name ∈ here, IsName name)
    (h : path.foldlM t.step here = .ok here') : ∀ name ∈ here', IsName name := by
  induction path generalizing here with
  | nil =>
    obtain rfl := Except.ok.inj h
    exact hhere
  | cons segment rest ih =>
    rw [List.foldlM_cons, bind_eq_ok_iff] at h
    obtain ⟨next, hs, h⟩ := h
    refine ih ?_ h
    unfold step at hs
    split at hs
    · split at hs
      · obtain rfl := Except.ok.inj hs
        exact hhere
      · next hn =>
        split at hs
        · obtain rfl := Except.ok.inj hs
          exact fun name hm => hhere name (List.mem_of_mem_tail hm)
        · next hd =>
          split at hs
          · contradiction
          · next hnul =>
            split at hs
            · contradiction
            · split at hs
              · obtain rfl := Except.ok.inj hs
                obtain ⟨hne, hdot⟩ := not_or.mp hn
                exact List.forall_mem_cons.mpr ⟨⟨hne, hdot, hd, hnul⟩, hhere⟩
              · contradiction
    · contradiction
    · contradiction

lemma found_of_resolve {e : Entry} (h : t.resolve path = .ok (place, e)) :
    (∀ name ∈ place, IsName name) ∧ t.get? place = some e := by
  rw [resolve, bind_eq_ok_iff] at h
  obtain ⟨here, hs, h⟩ := h
  simp only at h
  split at h
  · next found hf =>
    obtain ⟨rfl, rfl⟩ := Prod.mk.inj (Except.ok.inj h)
    refine ⟨fun name hm => ?_, hf⟩
    exact isName_of_foldlM_step (fun _ hn => absurd hn List.not_mem_nil) hs name
      (List.mem_reverse.mp hm)
  · contradiction

lemma exists_of_resolveParent (h : t.resolveParent path = .ok place) :
    ∃ front name, place = front ++ [name] ∧ t.get? front = some .directory ∧
      isTooLong name = false := by
  unfold resolveParent at h
  split at h
  · contradiction
  · next name hl =>
    rw [bind_eq_ok_iff] at h
    obtain ⟨⟨front, e⟩, hr, h⟩ := h
    simp only at h
    split at h
    · contradiction
    · next he =>
      split at h
      · contradiction
      · next hn =>
        rw [Decidable.not_not.mp he] at hr
        exact ⟨front, name, (Except.ok.inj h).symm, (found_of_resolve hr).2, by simpa using hn⟩

/-- A place for an entry is found if its directory is there and its name is not too long. -/
lemma resolveParent_eq_ok_iff (ht : t.IsWellFormed) (hf : ∀ name ∈ front, IsName name) :
    t.resolveParent (front ++ [name]) = .ok place ↔
      place = front ++ [name] ∧ t.get? front = some .directory ∧ isTooLong name = false := by
  constructor
  · intro h
    obtain ⟨rfl, -⟩ := eq_of_resolveParent (by rwa [List.dropLast_concat]) h
    obtain ⟨front', name', heq, hdirectory, hn⟩ := exists_of_resolveParent h
    obtain ⟨rfl, hnames⟩ := List.append_inj' heq rfl
    rw [List.singleton_inj.mp hnames]
    exact ⟨rfl, hdirectory, hn⟩
  · rintro ⟨rfl, hdirectory, hn⟩
    have hr := (resolve_eq_ok_iff ht hf).mpr ⟨rfl, hdirectory⟩
    simp [resolveParent, hr, hn, bind, Except.bind]

lemma isDirectory_eq_true_iff (ht : t.IsWellFormed) (hp : ∀ name ∈ path, IsName name) :
    t.isDirectory path = true ↔ t.get? path = some .directory := by
  rw [isDirectory]
  split
  · next place hr =>
    simp [((resolve_eq_ok_iff ht hp).mp hr).2]
  · next hr =>
    refine ⟨fun h => by contradiction, fun h => ?_⟩
    exact absurd ((resolve_eq_ok_iff ht hp).mpr ⟨rfl, h⟩) (hr path)

/-! ### Making directories -/

/-- Whether the only change from one tree to another is that places on the way along a path, where
there was nothing, have become directories. -/
def Makes (t t' : FileTree) (path : Key) : Prop :=
  ∀ place, t'.get? place = t.get? place ∨
    (place <+: path ∧ t.get? place = none ∧ t'.get? place = some .directory)

lemma Makes.refl (t : FileTree) (path : Key) : t.Makes t path := fun _ => .inl rfl

lemma Makes.get?_eq (h : t.Makes t' path) {e : Entry} (he : t.get? place = some e) :
    t'.get? place = some e := by
  rcases h place with hsame | ⟨-, hnone, -⟩
  · rw [hsame, he]
  · rw [he] at hnone
    contradiction

lemma Makes.holds_iff (h : t.Makes t' path) : t'.Holds place data ↔ t.Holds place data := by
  refine ⟨fun hf => ?_, fun hf => h.get?_eq hf⟩
  rcases h place with hsame | ⟨-, -, hmade⟩
  · rwa [Holds, ← hsame]
  · rw [Holds, hmade, Option.some_inj] at hf
    contradiction

lemma IsWellFormed.makeDirectory (ht : t.IsWellFormed) (h : t.makeDirectory path = .ok t') :
    t'.IsWellFormed := by
  rw [FileTree.makeDirectory, bind_eq_ok_iff] at h
  obtain ⟨place, hr, h⟩ := h
  split at h
  · contradiction
  · obtain ⟨front, name, rfl, hf, hn⟩ := exists_of_resolveParent hr
    obtain rfl := Except.ok.inj h
    exact ht.put hf hn (.inl rfl)

lemma IsWellFormed.makeDirectories (ht : t.IsWellFormed) (names : Key) :
    (t.makeDirectories names).1.IsWellFormed :=
  makeDirectories_induct ht fun _ _ _ _ hu h => hu.makeDirectory h

lemma makes_makeDirectory (hp : ∀ name ∈ path, IsName name) (h : t.makeDirectory path = .ok t') :
    t.Makes t' path := by
  rw [makeDirectory, bind_eq_ok_iff] at h
  obtain ⟨place, hr, h⟩ := h
  obtain ⟨rfl, hne⟩ :=
    eq_of_resolveParent (fun name hm => hp name ((List.dropLast_sublist _).mem hm)) hr
  split at h
  · contradiction
  · next hnot =>
    obtain rfl := Except.ok.inj h
    intro q
    by_cases hq : q = place
    · subst hq
      rw [Bool.or_eq_true, not_or] at hnot
      have hnone : t.get? q = none := by simpa using hnot.2
      exact .inr ⟨List.prefix_refl _, hnone, get?_put_self _ hne _⟩
    · exact .inl (get?_put_of_ne hq _)

lemma makes_makeDirectories (t : FileTree) (hp : ∀ name ∈ path, IsName name) :
    t.Makes (t.makeDirectories path.reverse).1 path := by
  refine makeDirectories_induct (P := (t.Makes · path)) (Makes.refl t path) ?_
  intro u u' above hq hu h
  have hbegins : above.reverse <+: path := by
    rw [← List.reverse_reverse path]
    exact List.reverse_prefix.mpr hq
  have hnames : ∀ name ∈ above.reverse, IsName name := fun name hm => hp name (hbegins.subset hm)
  intro place
  rcases makes_makeDirectory hnames h place with hsame | ⟨hplace, hnone, hmade⟩
  · rw [hsame]
    exact hu place
  · rcases hu place with hsame' | ⟨-, -, hmade'⟩
    · exact .inr ⟨hplace.trans hbegins, hsame' ▸ hnone, hmade⟩
    · rw [hmade'] at hnone
      contradiction

/-- A directory can be made in another one, if its name is not too long and nothing is there. -/
lemma makeDirectory_of_get? (ht : t.IsWellFormed) (hp : ∀ n ∈ front ++ [name], IsName n)
    (hf : t.get? front = some .directory) (hn : isTooLong name = false)
    (h : t.get? (front ++ [name]) = none) :
    t.makeDirectory (front ++ [name]) = .ok (t.put (front ++ [name]) .directory) := by
  have hr := (resolveParent_eq_ok_iff ht fun n hm => hp n (by simp [hm])).mpr ⟨rfl, hf, hn⟩
  have hname : IsName name := hp name (by simp)
  simp [makeDirectory, hr, h, isDots, hname.ne_dot, hname.ne_dots, bind, Except.bind]

lemma makeDirectory_of_isSome (ht : t.IsWellFormed) (hp : ∀ n ∈ front ++ [name], IsName n)
    (h : (t.get? (front ++ [name])).isSome) :
    t.makeDirectory (front ++ [name]) = .error .exists := by
  have hr := (resolveParent_eq_ok_iff ht fun n hm => hp n (by simp [hm])).mpr
    ⟨rfl, ht.parent h, ht.isShort h⟩
  simp [makeDirectory, hr, h, bind, Except.bind]

lemma get?_of_makeDirectory (hp : ∀ name ∈ path, IsName name)
    (h : t.makeDirectory path = .ok t') : t'.get? path = some .directory := by
  rw [makeDirectory, bind_eq_ok_iff] at h
  obtain ⟨place, hr, h⟩ := h
  obtain ⟨rfl, hne⟩ :=
    eq_of_resolveParent (fun name hm => hp name ((List.dropLast_sublist _).mem hm)) hr
  split at h
  · contradiction
  · rw [← Except.ok.inj h, get?_put_self _ hne]

lemma get?_of_makeDirectories {names : Key} (ht : t.IsWellFormed) (hp : ∀ name ∈ names, IsName name)
    (h : (t.makeDirectories names).2 = none) :
    (t.makeDirectories names).1.get? names.reverse = some .directory := by
  have hreverse : ∀ name ∈ names.reverse, IsName name := fun name hm =>
    hp name (List.mem_reverse.mp hm)
  revert h
  fun_cases makeDirectories t names with
  | case1 => exact fun _ => rfl
  | case2 name above path t' hmade => exact fun _ => get?_of_makeDirectory hreverse hmade
  | case3 => nofun
  | case4 name above path _ t' habove t'' hmade =>
    exact fun _ => get?_of_makeDirectory hreverse hmade
  | case5 name above path _ t' habove fault _ hd =>
    have ht' := ht.makeDirectories above
    rw [habove] at ht'
    exact fun _ => (isDirectory_eq_true_iff ht' hreverse).mp hd
  | case6 => nofun
  | case7 name above path fault _ _ hd =>
    exact fun _ => (isDirectory_eq_true_iff ht hreverse).mp hd
  | case8 => nofun

/-- In a directory another one can be made, or it is there, unless a file is in its place. -/
lemma makeDirectory_cases (ht : t.IsWellFormed) (hp : ∀ n ∈ front ++ [name], IsName n)
    (hf : t.get? front = some .directory) (hn : isTooLong name = false)
    (hfile : ∀ data, ¬ t.Holds (front ++ [name]) data) :
    (∃ t', t.makeDirectory (front ++ [name]) = .ok t') ∨
      t.makeDirectory (front ++ [name]) = .error .exists ∧
        t.isDirectory (front ++ [name]) = true := by
  cases hget : t.get? (front ++ [name]) with
  | none => exact .inl ⟨_, makeDirectory_of_get? ht hp hf hn hget⟩
  | some e =>
    cases e with
    | directory =>
      exact .inr ⟨makeDirectory_of_isSome ht hp (by rw [hget]; rfl),
        (isDirectory_eq_true_iff ht hp).mpr hget⟩
    | file data => exact absurd hget (hfile data)

/-- Directories are made all the way if no file is on it and no name is too long. -/
lemma makeDirectories_eq_none (ht : t.IsWellFormed) (hp : ∀ name ∈ path, IsName name)
    (hway : ∀ q data, q <+: path → ¬ t.Holds q data)
    (hshort : ∀ name ∈ path, isTooLong name = false) :
    (t.makeDirectories path.reverse).2 = none := by
  induction path using List.reverseRecOn with
  | nil => rfl
  | append_singleton front name ih =>
    have hfront : ∀ n ∈ front, IsName n := fun n hn => hp n (by simp [hn])
    have hn : isTooLong name = false := hshort name (by simp)
    have hwayFront : ∀ q data, q <+: front → ¬ t.Holds q data := fun q data hq =>
      hway q data (hq.trans (List.prefix_append _ _))
    have hshortFront : ∀ n ∈ front, isTooLong n = false := fun n hm => hshort n (by simp [hm])
    have hlast : ∀ data, ¬ t.Holds (front ++ [name]) data := fun data =>
      hway _ data (List.prefix_refl _)
    rw [List.reverse_concat, makeDirectories, List.reverse_cons, List.reverse_reverse]
    cases hf : t.get? front with
    | some e =>
      cases e with
      | file data => exact absurd hf (hwayFront front data (List.prefix_refl _))
      | directory =>
        obtain ⟨t', ht'⟩ | ⟨herror, hd⟩ := makeDirectory_cases ht hp hf hn hlast
        · simp [ht']
        · simp [herror, hd]
    | none =>
      have hmissing : t.makeDirectory (front ++ [name]) = .error .notFound := by
        have hr := resolve_eq_notFound ht hfront hshortFront hwayFront hf
        simp [makeDirectory, resolveParent, hr, bind, Except.bind]
      have hnames : ∀ n ∈ front.reverse, IsName n := fun n hm =>
        hfront n (List.mem_reverse.mp hm)
      have hfrontMade := ih hfront hwayFront hshortFront
      have hend := get?_of_makeDirectories ht hnames hfrontMade
      have hmakes := makes_makeDirectories t hfront
      have hwell := ht.makeDirectories front.reverse
      rw [List.reverse_reverse] at hend
      rw [hmissing]
      rcases hu : t.makeDirectories front.reverse with ⟨u, fault⟩
      rw [hu] at hfrontMade hend hmakes hwell
      obtain rfl : fault = none := hfrontMade
      obtain ⟨u', hu'⟩ | ⟨herror, hd⟩ := makeDirectory_cases hwell hp hend hn
        fun data hdata => hlast data (hmakes.holds_iff.mp hdata)
      · simp [hu']
      · simp [herror, hd]

/-- Directories are made all the way, unless there is a file or a name is too long. -/
theorem makeDirectories_eq_none_iff (ht : t.IsWellFormed) (hp : ∀ name ∈ path, IsName name) :
    (t.makeDirectories path.reverse).2 = none ↔
      (∀ q data, q <+: path → ¬ t.Holds q data) ∧ ∀ name ∈ path, isTooLong name = false := by
  constructor
  · intro h
    have hwell := ht.makeDirectories path.reverse
    have hmakes := makes_makeDirectories t hp
    have hend := get?_of_makeDirectories ht (fun name hm => hp name (List.mem_reverse.mp hm)) h
    rw [List.reverse_reverse] at hend
    refine ⟨?_, fun name hm => hwell.isShort_of_mem (by rw [hend]; rfl) hm⟩
    rintro q data ⟨rest, rfl⟩ hf
    have hfile := hmakes.holds_iff.mpr hf
    have hdirectory : (t.makeDirectories (q ++ rest).reverse).1.get? q = some .directory := by
      by_cases hr : rest = []
      · rwa [hr, List.append_nil] at hend ⊢
      · exact hwell.directory_of_append hr (by rw [hend]; rfl)
    rw [Holds, hdirectory, Option.some_inj] at hfile
    contradiction
  · rintro ⟨hway, hshort⟩
    exact makeDirectories_eq_none ht hp hway hshort

/-! ### Trees that agree around a place -/

/-- Whether two trees have the same on the way to a place and below it. -/
def SameAround (root : Key) (t t' : FileTree) : Prop :=
  ∀ place, place <+: root ∨ root <+: place → t.get? place = t'.get? place

/-- Whether an operation on two such trees fails in the same way, or succeeds with such trees. -/
def SameOutcome (root : Key) (x x' : Except IoFault FileTree) : Prop :=
  (∃ fault, x = .error fault ∧ x' = .error fault) ∨
    ∃ u u', x = .ok u ∧ x' = .ok u' ∧ SameAround root u u'

variable {root : Key}

namespace SameAround

lemma put (h : SameAround root t t') (path : Key) (e : Entry) :
    SameAround root (t.put path e) (t'.put path e) := by
  intro place hp
  by_cases heq : place = path
  · subst heq
    by_cases hne : place = []
    · subst hne
      rfl
    · rw [get?_put_self _ hne, get?_put_self _ hne]
  · rw [get?_put_of_ne heq, get?_put_of_ne heq]
    exact h place hp

lemma erase (h : SameAround root t t') (path : Key) :
    SameAround root (t.erase path) (t'.erase path) := by
  intro place hp
  by_cases heq : place = path
  · subst heq
    by_cases hne : place = []
    · subst hne
      rfl
    · rw [get?_erase_self _ hne, get?_erase_self _ hne]
  · rw [get?_erase_of_ne heq, get?_erase_of_ne heq]
    exact h place hp

/-- A path there leads to the same in both trees. -/
lemma resolve_eq (h : SameAround root t t') (hp : ∀ name ∈ path, IsName name)
    (hpath : path <+: root ∨ root <+: path) : t.resolve path = t'.resolve path := by
  refine resolve_congr hp fun q hq => h q ?_
  rcases hpath with hpath | hpath
  · exact .inl (hq.trans hpath)
  · exact List.prefix_or_prefix_of_prefix hq hpath

lemma resolveParent_eq (h : SameAround root t t') (hp : ∀ name ∈ path.dropLast, IsName name)
    (hpath : path <+: root ∨ root <+: path) : t.resolveParent path = t'.resolveParent path := by
  have hdrop : path.dropLast <+: root ∨ root <+: path.dropLast := by
    rcases hpath with hpath | hpath
    · exact .inl ((List.dropLast_prefix path).trans hpath)
    · exact List.prefix_or_prefix_of_prefix (List.dropLast_prefix path) hpath
  rw [resolveParent, resolveParent, h.resolve_eq hp hdrop]

lemma isDirectory_eq (h : SameAround root t t') (hp : ∀ name ∈ path, IsName name)
    (hpath : path <+: root ∨ root <+: path) : t.isDirectory path = t'.isDirectory path := by
  rw [isDirectory, isDirectory, h.resolve_eq hp hpath]

lemma makeDirectory (h : SameAround root t t') (hp : ∀ name ∈ path, IsName name)
    (hpath : path <+: root ∨ root <+: path) :
    SameOutcome root (t.makeDirectory path) (t'.makeDirectory path) := by
  have hdrop : ∀ name ∈ path.dropLast, IsName name := fun name hm =>
    hp name ((List.dropLast_sublist _).mem hm)
  have hparent := h.resolveParent_eq hdrop hpath
  unfold FileTree.makeDirectory
  rw [← hparent]
  cases hr : t.resolveParent path with
  | error fault => exact .inl ⟨fault, rfl, rfl⟩
  | ok place =>
    obtain ⟨rfl, -⟩ := eq_of_resolveParent hdrop hr
    simp only [bind, Except.bind, ← h place hpath]
    split
    · exact .inl ⟨_, rfl, rfl⟩
    · exact .inr ⟨_, _, rfl, rfl, h.put place _⟩

lemma writeFile (h : SameAround root t t') (hp : ∀ name ∈ path.dropLast, IsName name)
    (hpath : path <+: root ∨ root <+: path) (data : Bytes) :
    SameOutcome root (t.writeFile path data) (t'.writeFile path data) := by
  have hparent := h.resolveParent_eq hp hpath
  unfold FileTree.writeFile
  rw [← hparent]
  cases hr : t.resolveParent path with
  | error fault => exact .inl ⟨fault, rfl, rfl⟩
  | ok place =>
    obtain ⟨rfl, -⟩ := eq_of_resolveParent hp hr
    simp only [bind, Except.bind, ← h place hpath]
    split
    · exact .inl ⟨_, rfl, rfl⟩
    · exact .inr ⟨_, _, rfl, rfl, h.put place _⟩

lemma rename {old new : Key} (h : SameAround root t t') (ho : ∀ name ∈ old.dropLast, IsName name)
    (hn : ∀ name ∈ new.dropLast, IsName name) (hold : old <+: root ∨ root <+: old)
    (hnew : new <+: root ∨ root <+: new) :
    SameOutcome root (t.rename old new) (t'.rename old new) := by
  have hsource := h.resolveParent_eq ho hold
  have htarget := h.resolveParent_eq hn hnew
  unfold FileTree.rename
  rw [← hsource, ← htarget]
  cases hro : t.resolveParent old with
  | error fault => exact .inl ⟨fault, rfl, rfl⟩
  | ok source =>
    cases hrn : t.resolveParent new with
    | error fault => exact .inl ⟨fault, rfl, rfl⟩
    | ok place =>
      obtain ⟨rfl, -⟩ := eq_of_resolveParent ho hro
      obtain ⟨rfl, -⟩ := eq_of_resolveParent hn hrn
      simp only [bind, Except.bind, ← h source hold, ← h place hnew]
      split
      · exact .inl ⟨_, rfl, rfl⟩
      · exact .inl ⟨_, rfl, rfl⟩
      · exact .inr ⟨_, _, rfl, rfl, (h.erase source).put place _⟩

lemma removeFile (h : SameAround root t t') (hp : ∀ name ∈ path.dropLast, IsName name)
    (hpath : path <+: root ∨ root <+: path) :
    SameAround root (t.removeFile path) (t'.removeFile path) := by
  have hparent := h.resolveParent_eq hp hpath
  unfold FileTree.removeFile
  rw [← hparent]
  cases hr : t.resolveParent path with
  | error fault => exact h
  | ok place =>
    obtain ⟨rfl, -⟩ := eq_of_resolveParent hp hr
    simp only [← h place hpath]
    split
    · exact h.erase place
    · exact h

lemma makeDirectories (h : SameAround root t t') (names : Key) (hp : ∀ name ∈ names, IsName name)
    (hpath : names.reverse <+: root ∨ root <+: names.reverse) :
    (t'.makeDirectories names).2 = (t.makeDirectories names).2 ∧
      SameAround root (t.makeDirectories names).1 (t'.makeDirectories names).1 := by
  induction names with
  | nil => exact ⟨rfl, h⟩
  | cons name above ih =>
    have hnames : ∀ n ∈ (name :: above).reverse, IsName n := fun n hm =>
      hp n (List.mem_reverse.mp hm)
    have habove : above.reverse <+: root ∨ root <+: above.reverse := by
      have hbegins : above.reverse <+: (name :: above).reverse := by
        rw [List.reverse_cons]
        exact List.prefix_append _ _
      rcases hpath with hpath | hpath
      · exact .inl (hbegins.trans hpath)
      · exact List.prefix_or_prefix_of_prefix hbegins hpath
    obtain ⟨hfault, hsame⟩ := ih (fun n hm => hp n (List.mem_cons_of_mem _ hm)) habove
    have hdirectory := h.isDirectory_eq hnames hpath
    unfold FileTree.makeDirectories
    obtain ⟨fault, ht, ht'⟩ | ⟨u, u', ht, ht', hu⟩ := h.makeDirectory hnames hpath
    · simp only [ht, ht', ← hdirectory]
      cases fault with
      | notFound =>
        rcases hu : t.makeDirectories above with ⟨u, fault⟩
        rcases hu' : t'.makeDirectories above with ⟨u', fault'⟩
        rw [hu, hu'] at hfault hsame
        obtain rfl : fault' = fault := hfault
        cases fault' with
        | some fault => exact ⟨rfl, hsame⟩
        | none =>
          have hdirectory' := SameAround.isDirectory_eq hsame hnames hpath
          obtain ⟨fault, hv, hv'⟩ | ⟨v, v', hv, hv', hsame'⟩ :=
            SameAround.makeDirectory hsame hnames hpath
          · simp only [hv, hv', ← hdirectory']
            split
            · exact ⟨rfl, hsame⟩
            · exact ⟨rfl, hsame⟩
          · simp only [hv, hv']
            exact ⟨trivial, hsame'⟩
      | _ =>
        cases t.isDirectory (name :: above).reverse with
        | true => exact ⟨rfl, h⟩
        | false => exact ⟨rfl, h⟩
    · simp only [ht, ht']
      exact ⟨trivial, hu⟩

end SameAround

end ModuleArchive.Storage.FileTree
