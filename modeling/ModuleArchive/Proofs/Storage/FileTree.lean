import ModuleArchive.Proofs.Storage.Key
import ModuleArchive.Proofs.Traverse

/-!
# Files in a tree

A path of proper names leads to the place that it spells, if it leads anywhere. Every operation
on a tree either leaves a file as it is or is about the place where the file stands.
-/
namespace ModuleArchive.Storage

/-! ### Lists of entries -/

section Entries

variable {α : Type} {entries : List (Key × α)} {path other : Key}

lemma find?_without_self : (entries.filter (·.1 ≠ path)).find? (·.1 = path) = none := by
  rw [List.find?_eq_none]
  intro entry hm
  simpa using (List.mem_filter.mp hm).2

lemma find?_without_of_ne (h : other ≠ path) :
    (entries.filter (·.1 ≠ path)).find? (·.1 = other) = entries.find? (·.1 = other) := by
  rw [List.find?_filter]
  congr 1
  funext entry
  by_cases he : entry.1 = other
  · simp [he, h]
  · simp [he]

end Entries

namespace FileTree

open Key (IsName)

/-- Whether a file with this data stands at a place. -/
def Holds (t : FileTree) (place : Key) (data : Bytes) : Prop := t.get? place = some (.file data)

variable {t t' : FileTree} {path place : Key} {data : Bytes}

lemma Holds.ne_nil (h : t.Holds place data) : place ≠ [] := by
  rintro rfl
  have hroot : t.get? [] = some .directory := rfl
  rw [Holds, hroot, Option.some_inj] at h
  contradiction

/-! ### Entries -/

lemma get?_of_ne_nil (t : FileTree) (h : path ≠ []) :
    t.get? path = (t.entries.find? (·.1 = path)).map (·.2) := by
  have hp : path.isEmpty = false := by simpa using h
  rw [get?, hp, if_neg Bool.false_ne_true]

lemma get?_put_self (t : FileTree) (h : path ≠ []) (e : Entry) :
    (t.put path e).get? path = some e := by
  rw [get?_of_ne_nil _ h, put, List.find?_append, find?_without_self]
  simp

lemma get?_put_of_ne {other : Key} (h : other ≠ path) (e : Entry) :
    (t.put path e).get? other = t.get? other := by
  by_cases hn : other = []
  · subst hn
    rfl
  · rw [get?_of_ne_nil _ hn, get?_of_ne_nil _ hn, put, List.find?_append, find?_without_of_ne h]
    simp [Ne.symm h]

lemma get?_erase_of_ne {other : Key} (h : other ≠ path) :
    (t.erase path).get? other = t.get? other := by
  by_cases hn : other = []
  · subst hn
    rfl
  · rw [get?_of_ne_nil _ hn, get?_of_ne_nil _ hn, erase, find?_without_of_ne h]

lemma get?_erase_self (t : FileTree) (h : path ≠ []) : (t.erase path).get? path = none := by
  rw [get?_of_ne_nil _ h, erase, find?_without_self]
  rfl

/-- A file in a tree with a new entry is the new one or stands elsewhere. -/
lemma Holds.of_put {e : Entry} (h : (t.put path e).Holds place data) :
    (place = path ∧ e = .file data) ∨ (place ≠ path ∧ t.Holds place data) := by
  by_cases hp : place = path
  · subst hp
    have hne := h.ne_nil
    rw [Holds, get?_put_self t hne] at h
    exact .inl ⟨rfl, Option.some_inj.mp h⟩
  · rw [Holds, get?_put_of_ne hp] at h
    exact .inr ⟨hp, h⟩

lemma Holds.of_erase (h : (t.erase path).Holds place data) : place ≠ path ∧ t.Holds place data := by
  have hp : place ≠ path := by
    rintro rfl
    have hne := h.ne_nil
    rw [Holds, get?_erase_self t hne] at h
    contradiction
  rw [Holds, get?_erase_of_ne hp] at h
  exact ⟨hp, h⟩

/-! ### Paths -/

lemma eq_of_step {here here' : Key} {name : List Char} (hn : IsName name)
    (h : t.step here name = .ok here') : here' = name :: here := by
  unfold step at h
  split at h
  · rw [if_neg (by simp [hn.ne_nil, hn.ne_dot]), if_neg hn.ne_dots, if_neg hn.noNul] at h
    split at h
    · contradiction
    · split at h
      · exact (Except.ok.inj h).symm
      · contradiction
  · contradiction
  · contradiction

lemma eq_of_foldlM_step {here here' : Key} (hp : ∀ name ∈ path, IsName name)
    (h : path.foldlM t.step here = .ok here') : here' = path.reverse ++ here := by
  induction path generalizing here with
  | nil => exact (Except.ok.inj h).symm
  | cons name rest ih =>
    obtain ⟨hn, hrest⟩ := List.forall_mem_cons.mp hp
    rw [List.foldlM_cons, bind_eq_ok_iff] at h
    obtain ⟨next, hs, h⟩ := h
    rw [ih hrest h, eq_of_step hn hs, List.reverse_cons, List.append_assoc, List.singleton_append]

/-- A path of names leads to the place that it spells. -/
lemma eq_of_resolve {e : Entry} (hp : ∀ name ∈ path, IsName name)
    (h : t.resolve path = .ok (place, e)) : place = path ∧ t.get? path = some e := by
  rw [resolve, bind_eq_ok_iff] at h
  obtain ⟨here, hs, h⟩ := h
  obtain rfl := eq_of_foldlM_step hp hs
  simp only [List.append_nil, List.reverse_reverse] at h
  split at h
  · next found hf =>
    obtain ⟨rfl, rfl⟩ := Prod.mk.inj (Except.ok.inj h)
    exact ⟨rfl, hf⟩
  · contradiction

lemma eq_of_resolveParent (hp : ∀ name ∈ path.dropLast, IsName name)
    (h : t.resolveParent path = .ok place) : place = path ∧ path ≠ [] := by
  unfold resolveParent at h
  split at h
  · contradiction
  · next name hl =>
    rw [bind_eq_ok_iff] at h
    obtain ⟨⟨parent, e⟩, hr, h⟩ := h
    obtain ⟨rfl, -⟩ := eq_of_resolve hp hr
    obtain ⟨front, rfl⟩ := List.getLast?_eq_some_iff.mp hl
    simp only at h
    split at h
    · contradiction
    · split at h
      · contradiction
      · rw [← Except.ok.inj h, List.dropLast_concat]
        exact ⟨rfl, by simp⟩

/-- What stands at the end of a path to a directory is found there. -/
lemma resolve_of_resolveParent {e : Entry} (hp : ∀ name ∈ path, IsName name)
    (h : t.resolveParent path = .ok place) (he : t.get? path = some e) :
    t.resolve path = .ok (path, e) := by
  unfold resolveParent at h
  split at h
  · contradiction
  · next name hl =>
    obtain ⟨front, rfl⟩ := List.getLast?_eq_some_iff.mp hl
    rw [List.dropLast_concat, bind_eq_ok_iff] at h
    obtain ⟨⟨parent, entry⟩, hr, h⟩ := h
    have hfront : ∀ n ∈ front, IsName n := fun n hn => hp n (List.mem_append_left _ hn)
    have hname : IsName name := hp name (by simp)
    rw [resolve, bind_eq_ok_iff] at hr
    obtain ⟨here, hwalk, hr⟩ := hr
    obtain rfl := eq_of_foldlM_step hfront hwalk
    rw [List.append_nil] at hwalk
    simp only [List.append_nil, List.reverse_reverse] at hr
    split at hr
    · next found hfound =>
      obtain ⟨rfl, rfl⟩ := Prod.mk.inj (Except.ok.inj hr)
      simp only at h
      split at h
      · contradiction
      · next hdirectory =>
        split at h
        · contradiction
        · next hlong =>
          rw [Decidable.not_not.mp hdirectory] at hfound
          have hstep : t.step front.reverse name = .ok (name :: front.reverse) := by
            simp [step, hfound, hname.ne_nil, hname.ne_dot, hname.ne_dots, hname.noNul, hlong, he]
          rw [resolve, List.foldlM_append, hwalk]
          simp [bind, Except.bind, pure, Except.pure, hstep, he]
    · contradiction

/-! ### Trees that agree -/

lemma step_congr (here : Key) (name : List Char)
    (h : ∀ q : Key, q <+: here.reverse ++ [name] → t.get? q = t'.get? q) :
    t.step here name = t'.step here name := by
  have hhere : t.get? here.reverse = t'.get? here.reverse := h _ (List.prefix_append _ _)
  have hnext : t.get? (name :: here).reverse = t'.get? (name :: here).reverse :=
    h _ (by simp)
  unfold step
  rw [hhere, hnext]

/-- Where a path of names leads depends only on what stands on the way. -/
lemma resolve_congr (hp : ∀ name ∈ path, IsName name)
    (h : ∀ q : Key, q <+: path → t.get? q = t'.get? q) : t.resolve path = t'.resolve path := by
  have hfold : ∀ (rest : Key) (here : Key), (∀ name ∈ rest, IsName name) →
      here.reverse ++ rest <+: path → rest.foldlM t.step here = rest.foldlM t'.step here := by
    intro rest
    induction rest with
    | nil => exact fun _ _ _ => rfl
    | cons name rest ih =>
      intro here hn hl
      obtain ⟨hname, hrest⟩ := List.forall_mem_cons.mp hn
      rw [List.append_cons] at hl
      have hstep := step_congr here name fun q hq =>
        h q (hq.trans ((List.prefix_append _ _).trans hl))
      rw [List.foldlM_cons, List.foldlM_cons, ← hstep]
      cases hs : t.step here name with
      | error fault => rfl
      | ok next =>
        rw [eq_of_step hname hs]
        exact ih _ hrest (by rwa [List.reverse_cons])
  unfold resolve
  rw [← hfold path [] hp (List.prefix_refl _)]
  cases hs : path.foldlM t.step [] with
  | error fault => rfl
  | ok here =>
    have hhere := eq_of_foldlM_step hp hs
    rw [List.append_nil] at hhere
    subst hhere
    simp only [bind, Except.bind, List.reverse_reverse, h path (List.prefix_refl _)]

/-- An entry at the end of a path is not on the way to it. -/
lemma resolveParent_put (hp : ∀ name ∈ path.dropLast, IsName name) (hne : path ≠ []) (e : Entry) :
    (t.put path e).resolveParent path = t.resolveParent path := by
  have hagree : ∀ q : Key, q <+: path.dropLast → (t.put path e).get? q = t.get? q := by
    intro q hq
    refine get?_put_of_ne ?_ e
    rintro rfl
    have hle := hq.length_le
    have hpos := List.length_pos_iff.mpr hne
    rw [List.length_dropLast] at hle
    omega
  unfold resolveParent
  rw [resolve_congr hp hagree]

/-- Nor is an entry with as many names as the path. -/
lemma resolveParent_erase (t : FileTree) {other : Key} (hp : ∀ name ∈ path.dropLast, IsName name)
    (hne : path ≠ []) (hl : path.length ≤ other.length) :
    (t.erase other).resolveParent path = t.resolveParent path := by
  have hagree : ∀ q : Key, q <+: path.dropLast → (t.erase other).get? q = t.get? q := by
    intro q hq
    refine get?_erase_of_ne ?_
    rintro rfl
    have hle := hq.length_le
    have hpos := List.length_pos_iff.mpr hne
    rw [List.length_dropLast] at hle
    omega
  unfold resolveParent
  rw [resolve_congr hp hagree]

/-! ### Operations -/

lemma Holds.of_makeDirectory (h : t.makeDirectory path = .ok t') (hf : t'.Holds place data) :
    t.Holds place data := by
  rw [makeDirectory, bind_eq_ok_iff] at h
  obtain ⟨made, -, h⟩ := h
  split at h
  · contradiction
  · obtain rfl := Except.ok.inj h
    obtain ⟨-, he⟩ | ⟨-, hf⟩ := hf.of_put
    · contradiction
    · exact hf

/-- What is so of a tree stays so while directories are made if it stays so when one of them is. -/
lemma makeDirectories_induct {P : FileTree → Prop} {names : Key} (h : P t)
    (hmake : ∀ u u' above, above <:+ names → P u → u.makeDirectory above.reverse = .ok u' → P u') :
    P (t.makeDirectories names).1 := by
  fun_induction makeDirectories t names with
  | case1 => exact h
  | case2 name above path t' hmade => exact hmake _ _ _ (List.suffix_refl _) h hmade
  | case3 name above path _ t' fault habove ih =>
    rw [habove] at ih
    exact ih fun u u' q hq => hmake u u' q (hq.trans (List.suffix_cons _ _))
  | case4 name above path _ t' habove t'' hmade ih =>
    rw [habove] at ih
    have hP := ih fun u u' q hq => hmake u u' q (hq.trans (List.suffix_cons _ _))
    exact hmake _ _ _ (List.suffix_refl _) hP hmade
  | case5 name above path _ t' habove fault _ _ ih =>
    rw [habove] at ih
    exact ih fun u u' q hq => hmake u u' q (hq.trans (List.suffix_cons _ _))
  | case6 name above path _ t' habove fault _ _ ih =>
    rw [habove] at ih
    exact ih fun u u' q hq => hmake u u' q (hq.trans (List.suffix_cons _ _))
  | case7 => exact h
  | case8 => exact h

lemma Holds.of_makeDirectories (hf : (t.makeDirectories path).1.Holds place data) :
    t.Holds place data := by
  by_contra hn
  refine makeDirectories_induct (P := fun u => ¬ u.Holds place data) hn ?_ hf
  exact fun u u' above _ hu hmade hf => hu (hf.of_makeDirectory hmade)

lemma exists_of_writeFile (h : t.writeFile path data = .ok t') :
    ∃ place, t.resolveParent path = .ok place ∧ t' = t.put place (.file data) := by
  rw [writeFile, bind_eq_ok_iff] at h
  obtain ⟨place, hr, h⟩ := h
  split at h
  · contradiction
  · exact ⟨place, hr, (Except.ok.inj h).symm⟩

lemma exists_of_rename {old new : Key} (h : t.rename old new = .ok t') :
    ∃ source place e, t.resolveParent old = .ok source ∧ t.resolveParent new = .ok place ∧
      t.get? source = some e ∧ t' = (t.erase source).put place e := by
  rw [rename, bind_eq_ok_iff] at h
  obtain ⟨source, ho, h⟩ := h
  rw [bind_eq_ok_iff] at h
  obtain ⟨place, hn, h⟩ := h
  split at h
  · contradiction
  · contradiction
  · next e he _ => exact ⟨source, place, e, ho, hn, he, (Except.ok.inj h).symm⟩

lemma Holds.of_removeFile (hf : (t.removeFile path).Holds place data) : t.Holds place data := by
  unfold removeFile at hf
  split at hf
  · split at hf
    · exact hf.of_erase.2
    · exact hf
  · exact hf

/-- A file that is removed is not there any more. -/
lemma Holds.ne_of_removeFile {removed : Key} (h : t.resolveParent path = .ok removed)
    (hf : (t.removeFile path).Holds place data) : place ≠ removed := by
  unfold removeFile at hf
  rw [h] at hf
  simp only at hf
  split at hf
  · exact hf.of_erase.1
  · next hn =>
    rintro rfl
    exact hn data hf

end FileTree

end ModuleArchive.Storage
