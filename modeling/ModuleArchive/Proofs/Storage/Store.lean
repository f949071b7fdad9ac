import ModuleArchive.Proofs.Content.Reading
import ModuleArchive.Proofs.Storage.FileTree

/-!
# What a store keeps

Whatever can be read from a store has been written to it under the same key. In a directory this
holds although a payload is first written to a file of its own, which may stand where another
key has its place: that file is moved or removed before the write is over.
-/
namespace ModuleArchive.Storage

open Key (IsName)

variable {P Q : Key → Bytes → Prop} {path : String} {key : Key} {data : Bytes} {content : Content}

/-! ### In memory -/

/-- Whether everything that is kept is as `P` says. -/
def MemoryStore.Keeps (P : Key → Bytes → Prop) (s : MemoryStore) : Prop :=
  ∀ key data, s.get? key = some data → P key data

namespace MemoryStore

variable {s : MemoryStore}

lemma get?_put (s : MemoryStore) (key other : Key) (data : Bytes) :
    (s.put key data).get? other = if other = key then some data else s.get? other := by
  unfold get? put
  split
  · next h => simp [h]
  · next h =>
    rw [List.find?_cons_of_neg (by simpa using Ne.symm h), find?_without_of_ne h]

lemma Keeps.of_read (hs : s.Keeps P) (hk : keyOf path = .ok key)
    (hr : (s.read path).1 = .ok content) : P key content.bytes := by
  unfold read at hr
  rw [hk] at hr
  simp only at hr
  split at hr
  · contradiction
  · next data hd =>
    split at hr
    · contradiction
    · obtain rfl := Except.ok.inj hr
      exact hs key data hd

lemma Keeps.read (hs : s.Keeps P) (path : String) : (s.read path).2.Keeps P := by
  unfold MemoryStore.read
  split
  · exact hs
  · split
    · exact hs
    · split
      · exact hs
      · exact hs

lemma Keeps.write (hs : s.Keeps P) (hP : ∀ key, keyOf path = .ok key → P key data) :
    (s.write path data).2.Keeps P := by
  unfold MemoryStore.write
  split
  · exact hs
  · next key hk =>
    split
    · exact hs
    · intro other found hf
      have hget : (s.put key data).get? other = some found := hf
      rw [get?_put] at hget
      split at hget
      · next ho =>
        obtain rfl := Option.some_inj.mp hget
        exact ho ▸ hP key hk
      · exact hs other found hget

/-- Whether a payload is stored under a key. An empty file is none. -/
structure Offers (s : MemoryStore) (key : Key) (data : Bytes) : Prop where
  get?_eq : s.get? key = some data
  ne_nil : data ≠ []

/-- The store after an attempt to write under a key. -/
def keep (s : MemoryStore) (key : Key) (data : Bytes) : MemoryStore :=
  if s.refusesWrites then s else { s.put key data with writes := s.writes + 1 }

lemma get?_keep (s : MemoryStore) (key other : Key) (data : Bytes) : (s.keep key data).get? other =
    if s.refusesWrites = false ∧ other = key then some data else s.get? other := by
  by_cases hr : s.refusesWrites = true
  · simp [keep, hr]
  · have hput : (s.keep key data).get? other = (s.put key data).get? other := by
      rw [keep, if_neg hr]
      rfl
    rw [hput, get?_put]
    simp [hr]

lemma write_eq (s : MemoryStore) (hk : keyOf path = .ok key) (data : Bytes) :
    (s.write path data).2 = s.keep key data := by
  rw [write, hk, keep]
  by_cases hr : s.refusesWrites = true <;> simp [hr]

lemma read_of_offers (hk : keyOf path = .ok key) (h : s.Offers key data) :
    s.read path = (.ok ⟨data, false⟩, { s with reads := s.reads + 1 }) := by
  have hd : data.isEmpty = false := by simpa using h.ne_nil
  simp [read, hk, h.get?_eq, hd]

lemma read_of_not_offers (hk : keyOf path = .ok key) (h : ∀ data, ¬ s.Offers key data) :
    ∃ e, s.read path = (.error e, s) := by
  cases hg : s.get? key with
  | none => exact ⟨.notFound (String.ofList key.toPath), by simp [read, hk, hg]⟩
  | some data =>
    have hd : data = [] := by
      by_contra hn
      exact h data ⟨hg, hn⟩
    exact ⟨.content (String.ofList key.toPath), by simp [read, hk, hg, hd]⟩

end MemoryStore

/-! ### In a directory -/

/-- Whether every file below the root is as `P` says of its key. -/
structure DirectoryStore.Keeps (P : Key → Bytes → Prop) (s : DirectoryStore) : Prop where
  root : ∀ name ∈ s.root, IsName name
  files : ∀ key data, s.tree.Holds (s.root ++ key) data → P key data

namespace DirectoryStore

variable {s : DirectoryStore}

lemma Keeps.isName_placeOf (hs : s.Keeps P) (hk : keyOf path = .ok key) :
    ∀ name ∈ s.placeOf key, IsName name := by
  intro name hm
  rcases List.mem_append.mp hm with hm | hm
  · exact hs.root name hm
  · exact (Key.isName_of_mem (keyOf_eq_ok.mp hk) hm).1

lemma Keeps.of_read (hs : s.Keeps P) (hk : keyOf path = .ok key) (hr : s.read path = .ok content) :
    P key content.bytes := by
  unfold read at hr
  rw [hk] at hr
  simp only at hr
  split at hr
  · next found hf =>
    obtain rfl := Except.ok.inj hr
    have hopened := Content.file_of_readOpened hf
    unfold opened at hopened
    split at hopened
    · next place data hp =>
      obtain ⟨-, hget⟩ := FileTree.eq_of_resolve (hs.isName_placeOf hk) hp
      simp only [Except.ok.injEq, Content.Reader.Opened.file.injEq] at hopened
      subst hopened
      exact hs.files key _ hget
    · simp at hopened
    · contradiction
  · contradiction

/-- The temporary file of a place stands beside it. -/
lemma dropLast_temporary (s : DirectoryStore) (place : Key) :
    (s.temporary place).dropLast = place.dropLast := by
  rw [temporary, List.dropLast_concat]

/-- A payload is the only new file when a write is over. -/
lemma holds_of_write (hs : s.Keeps P) {place : Key} {found : Bytes}
    (hf : (s.write path data).2.tree.Holds place found) :
    s.tree.Holds place found ∨
      ∃ key, keyOf path = .ok key ∧ place = s.placeOf key ∧ found = data := by
  unfold write at hf
  split at hf
  · exact .inl hf
  · next key hk =>
    have hplain : ∀ name ∈ (s.placeOf key).dropLast, IsName name := fun name hm =>
      hs.isName_placeOf hk name ((List.dropLast_sublist _).mem hm)
    have htemporary : ∀ name ∈ (s.temporary (s.placeOf key)).dropLast, IsName name := by
      rw [dropLast_temporary]
      exact hplain
    have hdirectories {t : FileTree} {fault : Option IoFault}
        (hm : s.tree.makeDirectories (s.placeOf key).dropLast.reverse = (t, fault))
        (h : t.Holds place found) : s.tree.Holds place found := by
      apply FileTree.Holds.of_makeDirectories
      rw [hm]
      exact h
    simp only at hf
    split at hf
    · next t fault hm => exact .inl (hdirectories hm hf)
    · next t hm =>
      split at hf
      · exact .inl (hdirectories hm hf.of_removeFile)
      · next written hw =>
        obtain ⟨beside, hb, rfl⟩ := FileTree.exists_of_writeFile hw
        obtain ⟨rfl, hne⟩ := FileTree.eq_of_resolveParent htemporary hb
        -- the temporary file can still be found, as nothing on the way to it has changed
        have hstill := FileTree.resolveParent_put (t := t) htemporary hne (.file data)
        rw [hb] at hstill
        have helsewhere (hp : place ≠ s.temporary (s.placeOf key))
            (h : (t.put (s.temporary (s.placeOf key)) (.file data)).Holds place found) :
            s.tree.Holds place found := by
          obtain ⟨heq, -⟩ | ⟨-, h⟩ := h.of_put
          · exact absurd heq hp
          · exact hdirectories hm h
        split at hf
        · exact .inl (helsewhere (hf.ne_of_removeFile hstill) hf.of_removeFile)
        · next moved hr =>
          obtain ⟨source, target, e, hsource, htarget, he, rfl⟩ := FileTree.exists_of_rename hr
          obtain rfl := Except.ok.inj (hstill.symm.trans hsource)
          obtain ⟨rfl, -⟩ := FileTree.eq_of_resolveParent hplain htarget
          rw [FileTree.get?_put_self t hne, Option.some_inj] at he
          obtain ⟨rfl, hfound⟩ | ⟨-, hold⟩ := FileTree.Holds.of_put hf
          · rw [← he] at hfound
            exact .inr ⟨key, hk, rfl, (Entry.file.inj hfound).symm⟩
          · exact .inl (helsewhere hold.of_erase.1 hold.of_erase.2)

lemma root_write (s : DirectoryStore) (path : String) (data : Bytes) :
    (s.write path data).2.root = s.root := by
  unfold write
  split
  · rfl
  · simp only
    split
    · rfl
    · split
      · rfl
      · split <;> rfl

lemma Keeps.write (hs : s.Keeps P) (hP : ∀ key, keyOf path = .ok key → P key data) :
    (s.write path data).2.Keeps P := by
  have hroot := s.root_write path data
  refine ⟨hroot ▸ hs.root, fun key found hf => ?_⟩
  rw [hroot] at hf
  obtain hf | ⟨key', hk, hplace, rfl⟩ := holds_of_write hs hf
  · exact hs.files key found hf
  · rw [List.append_cancel_left hplace]
    exact hP key' hk

/-- A payload that has been written stands at its place. -/
lemma resolve_of_write (hroot : ∀ name ∈ s.root, IsName name) (hk : keyOf path = .ok key)
    (hw : (s.write path data).1 = .ok ()) :
    (s.write path data).2.tree.resolve (s.placeOf key) = .ok (s.placeOf key, .file data) := by
  have hplain : ∀ name ∈ s.placeOf key, IsName name := by
    intro name hm
    rcases List.mem_append.mp hm with hm | hm
    · exact hroot name hm
    · exact (Key.isName_of_mem (keyOf_eq_ok.mp hk) hm).1
  have hfront : ∀ name ∈ (s.placeOf key).dropLast, IsName name := fun name hm =>
    hplain name ((List.dropLast_sublist _).mem hm)
  have htemporary : ∀ name ∈ (s.temporary (s.placeOf key)).dropLast, IsName name := by
    rw [dropLast_temporary]
    exact hfront
  unfold write at hw ⊢
  rw [hk] at hw ⊢
  simp only at hw ⊢
  split at hw
  · contradiction
  · next t hm =>
    split at hw
    · contradiction
    · next written hwritten =>
      split at hw
      · contradiction
      · next moved hr =>
        simp only
        obtain ⟨beside, hb, rfl⟩ := FileTree.exists_of_writeFile hwritten
        obtain ⟨rfl, htne⟩ := FileTree.eq_of_resolveParent htemporary hb
        obtain ⟨source, target, e, hsource, htarget, he, rfl⟩ := FileTree.exists_of_rename hr
        rw [FileTree.resolveParent_put htemporary htne, hb] at hsource
        obtain rfl := Except.ok.inj hsource
        rw [FileTree.get?_put_self t htne, Option.some_inj] at he
        subst he
        obtain ⟨rfl, hne⟩ := FileTree.eq_of_resolveParent hfront htarget
        -- neither the file nor the one beside it is on the way to the place
        have hlength : (s.placeOf key).length ≤ (s.temporary (s.placeOf key)).length := by
          have hdrop := congrArg List.length (s.dropLast_temporary (s.placeOf key))
          have hpos := List.length_pos_iff.mpr htne
          rw [List.length_dropLast, List.length_dropLast] at hdrop
          omega
        have hparent := (t.put (s.temporary (s.placeOf key)) (.file data)).resolveParent_erase
          hfront hne hlength
        rw [htarget, ← FileTree.resolveParent_put hfront hne (.file data)] at hparent
        exact FileTree.resolve_of_resolveParent hplain hparent (FileTree.get?_put_self _ hne _)

lemma exists_read_of_write (hroot : ∀ name ∈ s.root, IsName name) (hk : keyOf path = .ok key)
    (hw : (s.write path data).1 = .ok ()) (hd : data ≠ []) :
    ∃ c, (s.write path data).2.read path = .ok c := by
  have hresolve := resolve_of_write hroot hk hw
  have hplace : (s.write path data).2.placeOf key = s.placeOf key := by
    rw [placeOf, root_write, placeOf]
  obtain ⟨c, hc⟩ := Content.exists_readOpened_file (s.write path data).2.reader true hd
  refine ⟨c, ?_⟩
  rw [read, hk]
  simp only [opened, hplace, hresolve, hc]

end DirectoryStore

/-! ### Of either kind -/

/-- Whether whatever a store keeps under a key is as `P` says. -/
def Store.Keeps (P : Key → Bytes → Prop) : Store → Prop
  | memory s => s.Keeps P
  | directory s => s.Keeps P

/-- Whether a store keeps nothing. -/
def Store.IsEmpty (s : Store) : Prop := s.Keeps fun _ _ => False

namespace Store

variable {s : Store}

lemma Keeps.mono (hs : s.Keeps P) (h : ∀ key data, P key data → Q key data) : s.Keeps Q := by
  cases s with
  | memory s => exact fun key data hf => h key data (hs key data hf)
  | directory s => exact ⟨hs.root, fun key data hf => h key data (hs.files key data hf)⟩

lemma IsEmpty.keeps (hs : s.IsEmpty) : s.Keeps P := Keeps.mono hs fun _ _ h => h.elim

lemma Keeps.of_read (hs : s.Keeps P) (hk : keyOf path = .ok key)
    (hr : (s.read path).1 = .ok content) : P key content.bytes := by
  cases s with
  | memory s => exact MemoryStore.Keeps.of_read hs hk hr
  | directory s => exact DirectoryStore.Keeps.of_read hs hk hr

lemma Keeps.read (hs : s.Keeps P) (path : String) : (s.read path).2.Keeps P := by
  cases s with
  | memory s => exact MemoryStore.Keeps.read hs path
  | directory s => exact hs

/-- Whether the root of a directory store is given by proper names. -/
def IsPlain : Store → Prop
  | memory _ => True
  | directory s => ∀ name ∈ s.root, IsName name

lemma IsPlain.read (hs : s.IsPlain) (path : String) : (s.read path).2.IsPlain := by
  cases s with
  | memory s => trivial
  | directory s => exact hs

lemma IsPlain.write (hs : s.IsPlain) (path : String) (data : Bytes) :
    (s.write path data).2.IsPlain := by
  cases s with
  | memory s => trivial
  | directory s =>
    intro name hm
    have hroot := s.root_write path data
    exact hs name (hroot ▸ hm)

theorem exists_read_of_write (hs : s.IsPlain) (hk : keyOf path = .ok key)
    (hw : (s.write path data).1 = .ok ()) (hd : data ≠ []) :
    ∃ c, ((s.write path data).2.read path).1 = .ok c := by
  cases s with
  | memory s =>
    have haccepts : s.refusesWrites = false := by
      by_contra hr
      have hrefuses : s.refusesWrites = true := by simpa using hr
      have hfails : (s.write path data).1 = .error (.io .storageFull) := by
        simp [MemoryStore.write, hk, hrefuses]
      exact absurd (hw.symm.trans hfails) (by simp)
    have hoffers : (s.keep key data).Offers key data := by
      refine ⟨?_, hd⟩
      rw [MemoryStore.get?_keep, if_pos ⟨haccepts, rfl⟩]
    refine ⟨⟨data, false⟩, ?_⟩
    change ((s.write path data).2.read path).1 = _
    rw [s.write_eq hk, MemoryStore.read_of_offers hk hoffers]
  | directory s => exact DirectoryStore.exists_read_of_write hs hk hw hd

lemma read_read (s : Store) (path other : String) :
    ((s.read other).2.read path).1 = (s.read path).1 := by
  cases s with
  | memory s =>
    have hcounts : ∃ reads, (s.read other).2 = { s with reads } := by
      unfold MemoryStore.read
      split
      · exact ⟨s.reads, rfl⟩
      · split
        · exact ⟨s.reads, rfl⟩
        · split
          · exact ⟨s.reads, rfl⟩
          · exact ⟨_, rfl⟩
    obtain ⟨reads, hreads⟩ := hcounts
    change ((s.read other).2.read path).1 = (s.read path).1
    rw [hreads]
    have hget (key : Key) : { s with reads }.get? key = s.get? key := rfl
    unfold MemoryStore.read
    simp only [hget]
    cases keyOf path with
    | error e => rfl
    | ok key =>
      cases hg : s.get? key with
      | none => simp [hg]
      | some data => by_cases hd : data.isEmpty = true <;> simp [hg, hd]
  | directory s => rfl

/-- Writing keeps what was kept before and adds the payload under its key. -/
theorem Keeps.write (hs : s.Keeps P) (hP : ∀ key, keyOf path = .ok key → P key data) :
    (s.write path data).2.Keeps P := by
  cases s with
  | memory s => exact MemoryStore.Keeps.write hs hP
  | directory s => exact DirectoryStore.Keeps.write hs hP

end Store

end ModuleArchive.Storage
