import ModuleArchive.Proofs.Storage.Store
import ModuleArchive.Proofs.Storage.WellFormed
import ModuleArchive.Proofs.Text.Utf8

/-!
# A directory as a map

A store in a directory is a map from keys to files: below its root stands, under each key, what
was written there last, and that is what a read gives. A write that fails leaves every file as
it is, although it takes several steps. Nothing outside the root is changed, and nothing there
makes a difference to an answer.
-/
namespace ModuleArchive.Storage

open Key (IsName)
open FileTree (IsWellFormed Makes SameAround isTooLong)

/-! ### Publishing a file -/

namespace FileTree

variable {t : FileTree} {front path place : Key} {name beside : List Char} {data : Bytes}

lemma get?_erase_put (hne : path ≠ []) (h : t.get? path = none) (e : Entry) (place : Key) :
    ((t.put path e).erase path).get? place = t.get? place := by
  by_cases hp : place = path
  · rw [hp, get?_erase_self _ hne, h]
  · rw [get?_erase_of_ne hp, get?_put_of_ne hp]

lemma writeFile_eq (ht : t.IsWellFormed) (hp : ∀ n ∈ front, IsName n)
    (hf : t.get? front = some .directory) (hn : isTooLong name = false)
    (hnot : t.get? (front ++ [name]) ≠ some .directory) (data : Bytes) :
    t.writeFile (front ++ [name]) data = .ok (t.put (front ++ [name]) (.file data)) := by
  have hr := (resolveParent_eq_ok_iff ht hp).mpr ⟨rfl, hf, hn⟩
  rw [writeFile, hr]
  simp only [bind, Except.bind]

/-- A file cannot be written in the place of a directory or with a name that is too long, and
trying to changes nothing. -/
lemma exists_writeFile_eq_error (ht : t.IsWellFormed) (hp : ∀ n ∈ front, IsName n)
    (hnot : isTooLong name = true ∨ t.get? (front ++ [name]) = some .directory) (data : Bytes) :
    (∃ fault, t.writeFile (front ++ [name]) data = .error fault) ∧
      t.removeFile (front ++ [name]) = t := by
  cases hr : t.resolveParent (front ++ [name]) with
  | error fault =>
    refine ⟨⟨fault, ?_⟩, ?_⟩
    · rw [writeFile, hr]
      rfl
    · rw [removeFile, hr]
  | ok place =>
    obtain ⟨rfl, -, hn⟩ := (resolveParent_eq_ok_iff ht hp).mp hr
    have hdirectory := hnot.resolve_left (by rw [hn]; exact Bool.false_ne_true)
    refine ⟨⟨.isDirectory, ?_⟩, ?_⟩
    · rw [writeFile, hr]
      simp only [bind, Except.bind, hdirectory]
    · rw [removeFile, hr]
      simp only [hdirectory]

/-- A new file can be moved to a place beside it, unless there is a directory; then it can be
removed. -/
lemma rename_put (ht : t.IsWellFormed) (hp : ∀ n ∈ front, IsName n)
    (hf : t.get? front = some .directory) (hb : isTooLong beside = false)
    (hn : isTooLong name = false) (hne : name ≠ beside)
    (hnone : t.get? (front ++ [beside]) = none) (data : Bytes) :
    let written := t.put (front ++ [beside]) (.file data)
    (t.get? (front ++ [name]) ≠ some .directory →
      written.rename (front ++ [beside]) (front ++ [name]) =
        .ok ((written.erase (front ++ [beside])).put (front ++ [name]) (.file data))) ∧
    (t.get? (front ++ [name]) = some .directory →
      (∃ fault, written.rename (front ++ [beside]) (front ++ [name]) = .error fault) ∧
      written.removeFile (front ++ [beside]) = written.erase (front ++ [beside])) := by
  intro written
  have hwell : written.IsWellFormed := ht.put hf hb (.inr (by rw [hnone]; nofun))
  have hdirectory : written.get? front = some .directory := by
    rw [get?_put_of_ne (by simp), hf]
  have hsource := (resolveParent_eq_ok_iff hwell hp).mpr ⟨rfl, hdirectory, hb⟩
  have htarget := (resolveParent_eq_ok_iff hwell hp).mpr ⟨rfl, hdirectory, hn⟩
  have hfile : written.get? (front ++ [beside]) = some (.file data) :=
    get?_put_self t (by simp) _
  have hsame : written.get? (front ++ [name]) = t.get? (front ++ [name]) :=
    get?_put_of_ne (by simpa using hne) _
  constructor
  · intro hnot
    rw [← hsame] at hnot
    rw [rename, hsource, htarget]
    simp only [bind, Except.bind, hfile]
  · intro hd
    rw [← hsame] at hd
    refine ⟨⟨.isDirectory, ?_⟩, ?_⟩
    · rw [rename, hsource, htarget]
      simp only [bind, Except.bind, hfile, hd]
    · rw [removeFile, hsource]
      simp only [hfile]

/-- A file that is written beside its place and then moved there: it cannot be written, or it
cannot be moved and is removed, or it is there. Nothing else changes. -/
lemma publish_cases (ht : t.IsWellFormed) (hp : ∀ n ∈ front, IsName n)
    (hf : t.get? front = some .directory) (hne : name ≠ beside)
    (hlonger : isTooLong beside = false → isTooLong name = false)
    (hfile : ∀ found, ¬ t.Holds (front ++ [beside]) found) (data : Bytes) :
    ((isTooLong beside = true ∨ t.get? (front ++ [beside]) = some .directory) ∧
      (∃ fault, t.writeFile (front ++ [beside]) data = .error fault) ∧
      t.removeFile (front ++ [beside]) = t) ∨
    (t.get? (front ++ [name]) = some .directory ∧
      ∃ written fault, t.writeFile (front ++ [beside]) data = .ok written ∧
        written.rename (front ++ [beside]) (front ++ [name]) = .error fault ∧
        (written.removeFile (front ++ [beside])).IsWellFormed ∧
        ∀ place, (written.removeFile (front ++ [beside])).get? place = t.get? place) ∨
    (isTooLong beside = false ∧ t.get? (front ++ [beside]) ≠ some .directory ∧
      t.get? (front ++ [name]) ≠ some .directory ∧
      ∃ written moved, t.writeFile (front ++ [beside]) data = .ok written ∧
        written.rename (front ++ [beside]) (front ++ [name]) = .ok moved ∧
        moved.IsWellFormed ∧ moved.get? (front ++ [name]) = some (.file data) ∧
        ∀ place, place ≠ front ++ [name] → moved.get? place = t.get? place) := by
  by_cases hb : isTooLong beside = true ∨ t.get? (front ++ [beside]) = some .directory
  · exact .inl ⟨hb, exists_writeFile_eq_error ht hp hb data⟩
  obtain ⟨hlong, hdirectory⟩ := not_or.mp hb
  have hshort : isTooLong beside = false := by simpa using hlong
  have hfree : t.get? (front ++ [beside]) = none := by
    cases hget : t.get? (front ++ [beside]) with
    | none => rfl
    | some e =>
      cases e with
      | directory => exact absurd hget hdirectory
      | file found => exact absurd hget (hfile found)
  have hw := writeFile_eq ht hp hf hshort hdirectory data
  have hwritten := ht.put (e := .file data) hf hshort (.inr hdirectory)
  have hclean := hwritten.erase (get?_put_self t (by simp) (.file data))
  have herased := get?_erase_put (by simp) hfree (.file data)
  obtain ⟨hmoved, hstays⟩ := rename_put ht hp hf hshort (hlonger hshort) hne hfree data
  by_cases hd : t.get? (front ++ [name]) = some .directory
  · obtain ⟨⟨fault, hr⟩, hremove⟩ := hstays hd
    refine .inr (.inl ⟨hd, _, fault, hw, hr, ?_, ?_⟩)
    · rwa [hremove]
    · rwa [hremove]
  · have hfront := (herased front).trans hf
    refine .inr (.inr ⟨hshort, hdirectory, hd, _, _, hw, hmoved hd, ?_, ?_, ?_⟩)
    · exact hclean.put hfront (hlonger hshort) (.inr (by rwa [herased]))
    · exact get?_put_self _ (by simp) _
    · intro place hne
      rw [get?_put_of_ne hne, herased]

end FileTree

namespace DirectoryStore

variable {s : DirectoryStore} {path : String} {key : Key} {data found : Bytes}

/-! ### Opening -/

/-- Whether the root of a store is a directory of a well-formed tree. -/
structure IsRooted (s : DirectoryStore) : Prop where
  tree : s.tree.IsWellFormed
  names : ∀ name ∈ s.root, IsName name
  root : s.tree.get? s.root = some .directory

lemma isRooted_of_inDirectory {name root : String} {reader : Content.Reader} {place : Key}
    {tree : FileTree} (ht : tree.IsWellFormed)
    (h : inDirectory name root reader place tree = .ok s) : s.IsRooted ∧ s.tree = tree := by
  unfold inDirectory at h
  split at h
  · next found hr =>
    obtain rfl := Except.ok.inj h
    obtain ⟨hnames, hdirectory⟩ := FileTree.found_of_resolve hr
    exact ⟨⟨ht, hnames, hdirectory⟩, rfl⟩
  · contradiction
  · contradiction

/-- A store that could be opened has its root in the tree, and opening it has made no file. -/
lemma isRooted_of_open? {name root : String} {reader : Content.Reader} {tree : FileTree}
    (ht : tree.IsWellFormed) (h : open? name root reader tree = .ok s) :
    s.IsRooted ∧ ∀ place data, s.tree.Holds place data → tree.Holds place data := by
  unfold open? at h
  split at h
  · simp only at h
    split at h
    · contradiction
    · split at h
      · obtain ⟨hs, rfl⟩ := isRooted_of_inDirectory ht h
        exact ⟨hs, fun _ _ hf => hf⟩
      · split at h
        · next made hm =>
          obtain rfl : _ = made := congrArg Prod.fst hm
          obtain ⟨hs, heq⟩ := isRooted_of_inDirectory (ht.makeDirectories _) h
          rw [heq]
          exact ⟨hs, fun _ _ hf => hf.of_makeDirectories⟩
        · contradiction
  · contradiction

/-! ### Writing -/

def temporaryName (s : DirectoryStore) (name : List Char) : List Char :=
  name ++ ('.' :: s.stamp.toList) ++ ".part".toList

lemma temporary_concat (s : DirectoryStore) (front : Key) (name : List Char) :
    s.temporary (front ++ [name]) = front ++ [s.temporaryName name] := by
  rw [temporary, List.dropLast_concat, List.getLast?_concat, Option.getD_some, temporaryName]

/-- Whether a file can be written under a key: there is no file on the way, no directory in its
place or in that of the temporary file, and no name is too long. -/
structure Accepts (s : DirectoryStore) (key : Key) : Prop where
  way : ∀ q data, q <+: key.dropLast → ¬ s.tree.Holds (s.root ++ q) data
  place : s.tree.get? (s.placeOf key) ≠ some .directory
  beside : s.tree.get? (s.placeOf (s.temporary key)) ≠ some .directory
  isShort : ∀ name ∈ s.temporary key, isTooLong name = false

lemma placeOf_concat (s : DirectoryStore) (front : Key) (name : List Char) :
    s.placeOf (front ++ [name]) = s.placeOf front ++ [name] :=
  (List.append_assoc _ _ _).symm

lemma accepts_concat_iff {front : Key} {name : List Char} :
    s.Accepts (front ++ [name]) ↔
      ((∀ q data, q <+: front → ¬ s.tree.Holds (s.root ++ q) data) ∧
        ∀ n ∈ front, isTooLong n = false) ∧
      s.tree.get? (s.placeOf front ++ [name]) ≠ some .directory ∧
      s.tree.get? (s.placeOf front ++ [s.temporaryName name]) ≠ some .directory ∧
      isTooLong (s.temporaryName name) = false := by
  constructor
  · rintro ⟨hway, hplace, hbeside, hshort⟩
    rw [List.dropLast_concat] at hway
    rw [placeOf_concat] at hplace
    rw [temporary_concat, placeOf_concat] at hbeside
    rw [temporary_concat] at hshort
    exact ⟨⟨hway, fun n hn => hshort n (by simp [hn])⟩, hplace, hbeside, hshort _ (by simp)⟩
  · rintro ⟨⟨hway, hshort⟩, hplace, hbeside, htemporary⟩
    constructor
    · rwa [List.dropLast_concat]
    · rwa [placeOf_concat]
    · rwa [temporary_concat, placeOf_concat]
    · rw [temporary_concat]
      intro n hn
      rcases List.mem_append.mp hn with hn | hn
      · exact hshort n hn
      · rwa [List.mem_singleton.mp hn]

/-- What a write does that succeeds: the file is there, and the directories above it. -/
structure Publishes (s : DirectoryStore) (key : Key) (data : Bytes) (t : FileTree) : Prop where
  ofPlace : t.get? (s.placeOf key) = some (.file data)
  directories : ∃ u, s.tree.Makes u (s.placeOf key).dropLast ∧
    ∀ place, place ≠ s.placeOf key → t.get? place = u.get? place

lemma isTooLong_of_temporaryName {name : List Char}
    (h : isTooLong (s.temporaryName name) = false) : isTooLong name = false := by
  simp only [isTooLong, decide_eq_false_iff_not] at h ⊢
  simp only [temporaryName, Utf8.encode_append, List.length_append] at h
  omega

lemma temporaryName_ne (s : DirectoryStore) (name : List Char) : name ≠ s.temporaryName name := by
  intro h
  have hlength := congrArg List.length h
  simp [temporaryName] at hlength

namespace IsRooted

variable {front : Key}

lemma isName_placeOf (hs : s.IsRooted) (hkey : ∀ name ∈ key, IsName name) :
    ∀ name ∈ s.placeOf key, IsName name := fun name hm =>
  (List.mem_append.mp hm).elim (hs.names name) (hkey name)

/-- The root is a directory and so is everything above it. -/
lemma directory_of_prefix (hs : s.IsRooted) {place : Key} (h : place <+: s.root) :
    s.tree.get? place = some .directory := by
  obtain ⟨rest, hrest⟩ := h
  by_cases hr : rest = []
  · rw [← hs.root, ← hrest, hr, List.append_nil]
  · exact hs.tree.directory_of_append hr (by rw [hrest, hs.root]; rfl)

/-- On the way to a file below the root, only what is below the root can be in the way. -/
lemma way_iff (hs : s.IsRooted) :
    (∀ q data, q <+: s.placeOf front → ¬ s.tree.Holds q data) ↔
      ∀ q data, q <+: front → ¬ s.tree.Holds (s.root ++ q) data := by
  constructor
  · intro h q data hq
    exact h _ data ((List.prefix_append_right_inj s.root).mpr hq)
  · intro h q data hq hf
    rcases List.prefix_or_prefix_of_prefix hq (List.prefix_append s.root front) with hq' | hq'
    · rw [FileTree.Holds, hs.directory_of_prefix hq', Option.some_inj] at hf
      contradiction
    · obtain ⟨rest, rfl⟩ := hq'
      exact h rest data ((List.prefix_append_right_inj s.root).mp hq) hf

/-- Making the directories for a file succeeds if no file is in the way and the names of the
directories are not too long. -/
lemma makeDirectories_eq_none_iff (hs : s.IsRooted) (hf : ∀ name ∈ front, IsName name) :
    (s.tree.makeDirectories (s.placeOf front).reverse).2 = none ↔
      (∀ q data, q <+: front → ¬ s.tree.Holds (s.root ++ q) data) ∧
        ∀ name ∈ front, isTooLong name = false := by
  rw [FileTree.makeDirectories_eq_none_iff hs.tree (hs.isName_placeOf hf), hs.way_iff]
  refine and_congr_right fun _ => ⟨fun h name hm => h name (List.mem_append_right _ hm), ?_⟩
  intro h name hm
  rcases List.mem_append.mp hm with hm | hm
  · exact hs.tree.isShort_of_mem (by rw [hs.root]; rfl) hm
  · exact h name hm

end IsRooted

/-- A write publishes the file if the store accepts it; otherwise it fails and makes nothing but
directories. -/
theorem write_cases (hs : s.IsRooted) (hk : keyOf path = .ok key)
    (hbeside : ∀ found, ¬ s.tree.Holds (s.placeOf (s.temporary key)) found) (data : Bytes) :
    (s.write path data).2.tree.IsWellFormed ∧
    ((s.Accepts key ∧ (s.write path data).1 = .ok () ∧
        s.Publishes key data (s.write path data).2.tree) ∨
      (¬ s.Accepts key ∧ (∃ e, (s.write path data).1 = .error e) ∧
        s.tree.Makes (s.write path data).2.tree (s.placeOf key).dropLast)) := by
  have hkey : ∀ name ∈ key, IsName name := fun name hm =>
    (Key.isName_of_mem (keyOf_eq_ok.mp hk) hm).1
  obtain ⟨front, name, rfl⟩ : ∃ front name, key = front ++ [name] :=
    (List.eq_nil_or_concat' key).resolve_left (Key.ofPath?_eq_some (keyOf_eq_ok.mp hk)).2
  have hfront : ∀ n ∈ front, IsName n := fun n hn => hkey n (by simp [hn])
  have hnames := hs.isName_placeOf hfront
  have hmakes := FileTree.makes_makeDirectories s.tree hnames
  have hwell := hs.tree.makeDirectories (s.placeOf front).reverse
  have hnone := hs.makeDirectories_eq_none_iff hfront
  rw [temporary_concat, placeOf_concat] at hbeside
  rw [accepts_concat_iff, ← hnone]
  simp only [write, hk, placeOf_concat, List.dropLast_concat, temporary_concat]
  rcases hm : s.tree.makeDirectories (s.placeOf front).reverse with ⟨t, fault⟩
  rw [hm] at hmakes hwell
  cases fault with
  | some fault => exact ⟨hwell, .inr ⟨nofun, ⟨_, rfl⟩, hmakes⟩⟩
  | none =>
    have hdirectory : t.get? (s.placeOf front) = some .directory := by
      have hend := FileTree.get?_of_makeDirectories hs.tree
        (fun n hn => hnames n (List.mem_reverse.mp hn)) (congrArg Prod.snd hm)
      rwa [hm, List.reverse_reverse] at hend
    have hsame (n : List Char) :
        t.get? (s.placeOf front ++ [n]) = s.tree.get? (s.placeOf front ++ [n]) :=
      (hmakes _).resolve_right fun h => by
        have hle := h.1.length_le
        rw [List.length_append, List.length_singleton] at hle
        omega
    rw [← hsame, ← hsame]
    rcases FileTree.publish_cases hwell hnames hdirectory (s.temporaryName_ne name)
      isTooLong_of_temporaryName (fun found hf => hbeside found ((hsame _).symm.trans hf)) data with
      ⟨hb, ⟨fault, hw⟩, hremove⟩ | ⟨hd, written, fault, hw, hr, hclean, hget⟩ |
        ⟨hshort, hb, hd, written, moved, hw, hr, hmoved, hget, hother⟩
    · simp only [hw, hremove]
      refine ⟨hwell, .inr ⟨?_, ⟨_, rfl⟩, hmakes⟩⟩
      rintro ⟨-, -, hdirectory', hshort⟩
      rcases hb with hb | hb
      · rw [hb] at hshort
        contradiction
      · exact hdirectory' hb
    · simp only [hw, hr]
      refine ⟨hclean, .inr ⟨fun h => h.2.1 hd, ⟨_, rfl⟩, fun place => ?_⟩⟩
      rw [hget]
      exact hmakes place
    · simp only [hw, hr]
      refine ⟨hmoved, .inl ⟨⟨trivial, hd, hb, hshort⟩, trivial, ?_, t, ?_, ?_⟩⟩
      · rwa [placeOf_concat]
      · rwa [placeOf_concat, List.dropLast_concat]
      · rwa [placeOf_concat]

/-- A write leaves everything alone that is not below the root. -/
lemma get?_of_makes (hs : s.IsRooted) {t : FileTree} {place : Key}
    (h : s.tree.Makes t (s.placeOf key)) (hp : ¬ s.root <+: place) :
    t.get? place = s.tree.get? place := by
  rcases h place with hsame | ⟨hq, hnone, -⟩
  · exact hsame
  · have habove := (List.prefix_or_prefix_of_prefix hq (List.prefix_append s.root key)).resolve_right
      hp
    rw [hs.directory_of_prefix habove] at hnone
    contradiction

/-! ### Reading -/

/-- What is read is the file under the key, if it is not empty. -/
theorem read_eq_ok_iff (hs : s.IsRooted) :
    (∃ content, s.read path = .ok content ∧ content.bytes = data) ↔
      data ≠ [] ∧ ∃ key, keyOf path = .ok key ∧ s.tree.Holds (s.root ++ key) data := by
  have hresolve {key : Key} (hk : keyOf path = .ok key) {place : Key} {e : Entry} :
      s.tree.resolve (s.placeOf key) = .ok (place, e) ↔
        place = s.placeOf key ∧ s.tree.get? (s.placeOf key) = some e :=
    FileTree.resolve_eq_ok_iff hs.tree <| hs.isName_placeOf fun name hm =>
      (Key.isName_of_mem (keyOf_eq_ok.mp hk) hm).1
  constructor
  · rintro ⟨content, hr, rfl⟩
    unfold read at hr
    split at hr
    · contradiction
    · next key hk =>
      split at hr
      · next found hf =>
        obtain rfl := Except.ok.inj hr
        have hopened := Content.file_of_readOpened hf
        refine ⟨Content.ne_nil_of_readOpened hf, key, hk, ?_⟩
        unfold opened at hopened
        split at hopened
        · next place found hp =>
          simp only [Except.ok.injEq, Content.Reader.Opened.file.injEq] at hopened
          rw [FileTree.Holds, ← hopened]
          exact ((hresolve hk).mp hp).2
        · simp at hopened
        · contradiction
      · contradiction
  · rintro ⟨hne, key, hk, hf⟩
    have hopened : s.opened (s.placeOf key) = .ok (.file data) := by
      rw [opened, (hresolve hk).mpr ⟨rfl, hf⟩]
    obtain ⟨content, hc⟩ := Content.exists_readOpened_file s.reader true hne
    refine ⟨content, ?_, ?_⟩
    · simp only [read, hk, hopened, hc]
    · have hbytes := Content.file_of_readOpened hc
      simpa using hbytes.symm

/-! ### Runs -/

/-- A call to a store. The stamp tells the temporary file of a write apart. -/
inductive Access where
  | read (path : String)
  | write (path : String) (data : Bytes) (stamp : String)

/-- Whether a call is no write to a file whose name looks like that of a temporary file. -/
def Access.isPlain : Access → Bool
  | .read _ => true
  | .write path _ _ =>
    (keyOf path).toOption.all fun key => !".part".toList.isSuffixOf (key.getLast?.getD [])

lemma Access.not_suffix_of_isPlain {stamp : String}
    (h : (Access.write path data stamp).isPlain = true) (hk : keyOf path = .ok key) :
    ¬ ".part".toList <:+ key.getLast?.getD [] := by
  rw [isPlain, hk] at h
  have hnot : ".part".toList.isSuffixOf (key.getLast?.getD []) = false := by
    simpa [Except.toOption] using h
  intro hs
  rw [List.isSuffixOf_iff_suffix.mpr hs] at hnot
  contradiction

/-- The answer to a call, and the store after it. -/
def perform (s : DirectoryStore) : Access → Except Error (Option Content) × DirectoryStore
  | .read path => ((s.read path).map some, s)
  | .write path data stamp =>
    let (r, s) := { s with stamp }.write path data
    (r.map fun _ => none, s)

def after (s : DirectoryStore) (calls : List Access) : DirectoryStore :=
  calls.foldl (fun s call => (s.perform call).2) s

def answers (s : DirectoryStore) : List Access → List (Except Error (Option Content))
  | [] => []
  | call :: rest => (s.perform call).1 :: (s.perform call).2.answers rest

/-- What a call has stored, if it is a write that succeeded. -/
def stored? (s : DirectoryStore) : Access → Option (Key × Bytes)
  | .read _ => none
  | .write path data stamp =>
    match keyOf path, ({ s with stamp }.write path data).1 with
    | .ok key, .ok () => some (key, data)
    | _, _ => none

/-- What has been stored by a list of calls, in order. -/
def stored (s : DirectoryStore) : List Access → List (Key × Bytes)
  | [] => []
  | call :: rest => (s.stored? call).toList ++ (s.perform call).2.stored rest

/-- What has been stored last under a key. -/
def lastStored (log : List (Key × Bytes)) (key : Key) : Option Bytes :=
  (log.reverse.find? (·.1 = key)).map (·.2)

variable {log : List (Key × Bytes)} {call : Access} {calls : List Access} {stamp : String}

lemma lastStored_concat (log : List (Key × Bytes)) (key other : Key) (data : Bytes) :
    lastStored (log ++ [(key, data)]) other = if other = key then some data
      else lastStored log other := by
  rw [lastStored, List.reverse_concat]
  by_cases h : other = key
  · simp [h]
  · rw [List.find?_cons_of_neg (by simpa using Ne.symm h), if_neg h, lastStored]

@[simp] lemma root_perform (s : DirectoryStore) (call : Access) :
    (s.perform call).2.root = s.root := by
  cases call with
  | read path => rfl
  | write path data stamp => exact { s with stamp }.root_write path data

lemma snd_perform_write (s : DirectoryStore) (path : String) (data : Bytes) (stamp : String) :
    (s.perform (.write path data stamp)).2 = ({ s with stamp }.write path data).2 := rfl

lemma perform_write_of_error {e : Error} (h : ({ s with stamp }.write path data).1 = .error e) :
    (s.perform (.write path data stamp)).1 = .error e ∧
      s.stored? (.write path data stamp) = none := by
  refine ⟨by simp [perform, h, Except.map], ?_⟩
  simp only [stored?, h]
  cases keyOf path <;> rfl

lemma perform_write_of_ok (hk : keyOf path = .ok key)
    (h : ({ s with stamp }.write path data).1 = .ok ()) :
    (s.perform (.write path data stamp)).1 = .ok none ∧
      s.stored? (.write path data stamp) = some (key, data) :=
  ⟨by simp [perform, h, Except.map], by simp only [stored?, h, hk]⟩

lemma write_of_rejected {e : Error} (hk : keyOf path = .error e) (data : Bytes) :
    s.write path data = (.error e, s) := by
  simp only [write, hk]

/-- Whether the files below the root are what a log says has been stored last. -/
structure Reflects (s : DirectoryStore) (log : List (Key × Bytes)) : Prop where
  rooted : s.IsRooted
  files : ∀ key data, s.tree.Holds (s.root ++ key) data ↔ lastStored log key = some data
  plain : ∀ entry ∈ log, ¬ ".part".toList <:+ entry.1.getLast?.getD []

namespace Reflects

lemma mem_of_lastStored (h : lastStored log key = some data) : (key, data) ∈ log := by
  rw [lastStored, Option.map_eq_some_iff] at h
  obtain ⟨entry, hfind, rfl⟩ := h
  have hkey : entry.1 = key := by simpa using List.find?_some hfind
  rw [← hkey]
  exact List.mem_reverse.mp (List.mem_of_find?_eq_some hfind)

/-- There is no temporary file between calls. -/
lemma not_holds_temporary (h : s.Reflects log) (stamp : String) (key : Key) (found : Bytes) :
    ¬ s.tree.Holds (s.root ++ { s with stamp }.temporary key) found := by
  intro hf
  have hplain := h.plain _ (mem_of_lastStored ((h.files _ _).mp hf))
  rw [temporary, List.getLast?_concat] at hplain
  exact hplain (List.suffix_append _ _)

lemma of_makes (h : s.Reflects log) {s' : DirectoryStore} {path : Key} (hroot : s'.root = s.root)
    (hwell : s'.tree.IsWellFormed) (hmakes : s.tree.Makes s'.tree path) : s'.Reflects log := by
  refine ⟨⟨hwell, hroot ▸ h.rooted.names, ?_⟩, fun key data => ?_, h.plain⟩
  · rw [hroot]
    exact hmakes.get?_eq h.rooted.root
  · rw [hroot, hmakes.holds_iff]
    exact h.files key data

lemma of_publishes (h : s.Reflects log) {s' : DirectoryStore} (hroot : s'.root = s.root)
    (hne : key ≠ []) (hplain : ¬ ".part".toList <:+ key.getLast?.getD [])
    (hwell : s'.tree.IsWellFormed) (hp : s.Publishes key data s'.tree) :
    s'.Reflects (log ++ [(key, data)]) := by
  obtain ⟨hplace, u, hmakes, hother⟩ := hp
  refine ⟨⟨hwell, hroot ▸ h.rooted.names, ?_⟩, fun other found => ?_, ?_⟩
  · have hsame := hother s.root fun heq => hne (by simpa [placeOf] using heq.symm)
    rw [hroot, hsame]
    exact hmakes.get?_eq h.rooted.root
  · rw [hroot, lastStored_concat]
    by_cases ho : other = key
    · rw [if_pos ho, ho, FileTree.Holds, Option.some_inj]
      change s'.tree.get? (s.placeOf key) = _ ↔ _
      rw [hplace, Option.some_inj, Entry.file.injEq]
    · have hsame := hother (s.root ++ other) fun heq => ho (List.append_cancel_left heq)
      rw [if_neg ho, FileTree.Holds, hsame]
      exact hmakes.holds_iff.trans (h.files other found)
  · intro entry hm
    rcases List.mem_append.mp hm with hm | hm
    · exact h.plain entry hm
    · rw [List.mem_singleton.mp hm]
      exact hplain

/-- What a write does between calls. -/
lemma write_cases (h : s.Reflects log) (stamp : String) (hk : keyOf path = .ok key)
    (data : Bytes) :
    ({ s with stamp }.write path data).2.tree.IsWellFormed ∧
    (({ s with stamp }.Accepts key ∧ ({ s with stamp }.write path data).1 = .ok () ∧
        s.Publishes key data ({ s with stamp }.write path data).2.tree) ∨
      (¬ { s with stamp }.Accepts key ∧ (∃ e, ({ s with stamp }.write path data).1 = .error e) ∧
        s.tree.Makes ({ s with stamp }.write path data).2.tree (s.placeOf key).dropLast)) := by
  have hs : { s with stamp }.IsRooted := ⟨h.rooted.tree, h.rooted.names, h.rooted.root⟩
  obtain ⟨hwell, ⟨ha, hw, hp⟩ | hfails⟩ :=
    DirectoryStore.write_cases hs hk (h.not_holds_temporary stamp key) data
  · exact ⟨hwell, .inl ⟨ha, hw, hp.1, hp.2⟩⟩
  · exact ⟨hwell, .inr hfails⟩

lemma perform_write_eq_ok_iff (h : s.Reflects log) :
    (s.perform (.write path data stamp)).1 = .ok none ↔
      ∃ key, keyOf path = .ok key ∧ { s with stamp }.Accepts key := by
  cases hk : keyOf path with
  | error e =>
    have hw : ({ s with stamp }.write path data).1 = .error e := by rw [write_of_rejected hk data]
    simp [(perform_write_of_error hw).1]
  | ok key =>
    obtain ⟨-, ⟨ha, hw, -⟩ | ⟨ha, ⟨e, hw⟩, -⟩⟩ := h.write_cases stamp hk data
    · simp [(perform_write_of_ok hk hw).1, ha]
    · simp [(perform_write_of_error hw).1, ha]

/-- One call keeps the files as they are logged, or adds its own to the log. If it fails it changes
no file, and it never changes anything outside the root. -/
theorem perform (h : s.Reflects log) (hc : call.isPlain = true) :
    (s.perform call).2.Reflects (log ++ (s.stored? call).toList) ∧
    (∀ e, (s.perform call).1 = .error e → ∀ place found,
      (s.perform call).2.tree.Holds place found ↔ s.tree.Holds place found) ∧
    ∀ place, ¬ s.root <+: place → (s.perform call).2.tree.get? place = s.tree.get? place := by
  have hroot := s.root_perform call
  cases call with
  | read path =>
    refine ⟨?_, fun _ _ _ _ => Iff.rfl, fun _ _ => rfl⟩
    rwa [stored?, Option.toList_none, List.append_nil]
  | write path data stamp =>
    rw [snd_perform_write] at hroot ⊢
    cases hk : keyOf path with
    | error e =>
      have hw := write_of_rejected (s := { s with stamp }) hk data
      obtain ⟨-, hstored⟩ := perform_write_of_error (congrArg Prod.fst hw)
      rw [hstored, hw, Option.toList_none, List.append_nil]
      exact ⟨h.of_makes rfl h.rooted.tree (FileTree.Makes.refl _ []), fun _ _ _ _ => Iff.rfl,
        fun _ _ => rfl⟩
    | ok key =>
      have hdrop : (s.placeOf key).dropLast = s.placeOf key.dropLast :=
        List.dropLast_append_of_ne_nil (Key.ofPath?_eq_some (keyOf_eq_ok.mp hk)).2
      obtain ⟨hwell, ⟨-, hw, hp⟩ | ⟨-, ⟨e, hw⟩, hmakes⟩⟩ := h.write_cases stamp hk data
      · obtain ⟨hok, hstored⟩ := perform_write_of_ok hk hw
        rw [hstored, hok, Option.toList_some]
        refine ⟨h.of_publishes hroot (Key.ofPath?_eq_some (keyOf_eq_ok.mp hk)).2
          (Access.not_suffix_of_isPlain hc hk) hwell hp, nofun, fun place hplace => ?_⟩
        obtain ⟨-, u, hmakes, hother⟩ := hp
        rw [hdrop] at hmakes
        rw [hother place, get?_of_makes h.rooted hmakes hplace]
        rintro rfl
        exact hplace (List.prefix_append _ _)
      · obtain ⟨-, hstored⟩ := perform_write_of_error hw
        rw [hstored, Option.toList_none, List.append_nil]
        refine ⟨h.of_makes hroot hwell hmakes, fun _ _ _ _ => hmakes.holds_iff, fun place => ?_⟩
        rw [hdrop] at hmakes
        exact get?_of_makes h.rooted hmakes

/-- A run keeps the files as they are logged. -/
lemma after (h : s.Reflects log) (hc : ∀ call ∈ calls, call.isPlain = true) :
    (s.after calls).Reflects (log ++ s.stored calls) ∧ (s.after calls).root = s.root ∧
    ∀ place, ¬ s.root <+: place → (s.after calls).tree.get? place = s.tree.get? place := by
  induction calls generalizing s log with
  | nil => exact ⟨by rwa [stored, List.append_nil], rfl, fun _ _ => rfl⟩
  | cons call rest ih =>
    obtain ⟨hcall, hrest⟩ := List.forall_mem_cons.mp hc
    obtain ⟨hstep, -, hframe⟩ := h.perform hcall
    obtain ⟨hreflects, hroot, houtside⟩ := ih hstep hrest
    rw [root_perform] at hroot houtside
    refine ⟨?_, hroot, fun place hp => (houtside place hp).trans (hframe place hp)⟩
    rwa [List.append_assoc] at hreflects

end Reflects

/-! ### What makes no difference -/

section Same

variable {t : FileTree}

/-- A write has the same outcome wherever the file tree is the same around the root. -/
lemma write_of_sameAround (hroot : ∀ name ∈ s.root, IsName name)
    (h : SameAround s.root s.tree t) (path : String) (data : Bytes) :
    ∃ t', { s with tree := t }.write path data =
        ((s.write path data).1, { (s.write path data).2 with tree := t' }) ∧
      SameAround s.root (s.write path data).2.tree t' := by
  cases hk : keyOf path with
  | error e =>
    rw [write_of_rejected hk, write_of_rejected hk]
    exact ⟨t, rfl, h⟩
  | ok key =>
    obtain ⟨front, name, rfl⟩ : ∃ front name, key = front ++ [name] :=
      (List.eq_nil_or_concat' key).resolve_left (Key.ofPath?_eq_some (keyOf_eq_ok.mp hk)).2
    have hnames : ∀ n ∈ s.placeOf front, IsName n := by
      intro n hn
      rcases List.mem_append.mp hn with hn | hn
      · exact hroot n hn
      · exact (Key.isName_of_mem (keyOf_eq_ok.mp hk) (List.mem_append_left _ hn)).1
    have hbelow (n : List Char) : s.root <+: s.placeOf front ++ [n] := by
      rw [← placeOf_concat]
      exact List.prefix_append _ _
    have hdrop (n : List Char) : ∀ m ∈ (s.placeOf front ++ [n]).dropLast, IsName m := by
      rwa [List.dropLast_concat]
    obtain ⟨hfault, hsame⟩ := h.makeDirectories (s.placeOf front).reverse
      (fun n hn => hnames n (List.mem_reverse.mp hn))
      (by rw [List.reverse_reverse]; exact .inr (List.prefix_append _ _))
    have hplace : { s with tree := t }.placeOf (front ++ [name]) = s.placeOf (front ++ [name]) :=
      rfl
    have htemporary : { s with tree := t }.temporary (s.placeOf front ++ [name]) =
      s.temporary (s.placeOf front ++ [name]) := rfl
    simp only [write, hk, hplace, placeOf_concat, List.dropLast_concat, htemporary,
      temporary_concat]
    rcases hm : s.tree.makeDirectories (s.placeOf front).reverse with ⟨u, fault⟩
    rcases hm' : t.makeDirectories (s.placeOf front).reverse with ⟨u', fault'⟩
    rw [hm, hm'] at hfault hsame
    obtain rfl : fault' = fault := hfault
    cases fault' with
    | some fault => exact ⟨u', rfl, hsame⟩
    | none =>
      obtain ⟨fault, hw, hw'⟩ | ⟨v, v', hw, hw', hwritten⟩ :=
        SameAround.writeFile hsame (hdrop (s.temporaryName name)) (.inr (hbelow _)) data
      · simp only [hw, hw']
        exact ⟨_, rfl, SameAround.removeFile hsame (hdrop _) (.inr (hbelow _))⟩
      · simp only [hw, hw']
        obtain ⟨fault, hr, hr'⟩ | ⟨w, w', hr, hr', hmoved⟩ :=
          hwritten.rename (hdrop (s.temporaryName name)) (hdrop name) (.inr (hbelow _))
            (.inr (hbelow _))
        · simp only [hr, hr']
          exact ⟨_, rfl, hwritten.removeFile (hdrop _) (.inr (hbelow _))⟩
        · simp only [hr, hr']
          exact ⟨_, rfl, hmoved⟩

lemma read_of_sameAround (hroot : ∀ name ∈ s.root, IsName name)
    (h : SameAround s.root s.tree t) (path : String) :
    { s with tree := t }.read path = s.read path := by
  unfold read
  cases hk : keyOf path with
  | error e => rfl
  | ok key =>
    have hnames : ∀ name ∈ s.placeOf key, IsName name := by
      intro name hm
      rcases List.mem_append.mp hm with hm | hm
      · exact hroot name hm
      · exact (Key.isName_of_mem (keyOf_eq_ok.mp hk) hm).1
    have hopened : { s with tree := t }.opened (s.placeOf key) = s.opened (s.placeOf key) := by
      rw [opened, opened, ← h.resolve_eq hnames (.inr (List.prefix_append _ _))]
    have hplace : { s with tree := t }.placeOf key = s.placeOf key := rfl
    simp only [hplace, hopened]

lemma answers_of_sameAround (hroot : ∀ name ∈ s.root, IsName name)
    (h : SameAround s.root s.tree t) (calls : List Access) :
    { s with tree := t }.answers calls = s.answers calls := by
  induction calls generalizing s t with
  | nil => rfl
  | cons call rest ih =>
    have hperform : ∃ t', { s with tree := t }.perform call =
        ((s.perform call).1, { (s.perform call).2 with tree := t' }) ∧
        SameAround s.root (s.perform call).2.tree t' := by
      cases call with
      | read path => exact ⟨t, by rw [perform, read_of_sameAround hroot h]; rfl, h⟩
      | write path data stamp =>
        obtain ⟨t', hw, hsame⟩ := write_of_sameAround (s := { s with stamp }) hroot h path data
        exact ⟨t', by simp only [perform, hw], hsame⟩
    obtain ⟨t', hsame, haround⟩ := hperform
    have hcall := s.root_perform call
    rw [answers, answers, hsame, ih (by rwa [hcall]) (by rwa [hcall])]

end Same

lemma IsRooted.sameAround (hs : s.IsRooted) {t : FileTree} (ht : t.IsWellFormed)
    (h : ∀ key, t.get? (s.root ++ key) = s.tree.get? (s.root ++ key)) :
    SameAround s.root s.tree t := by
  have hroot : t.get? s.root = some .directory := by
    rw [← hs.root]
    simpa using h []
  rintro place (⟨rest, hrest⟩ | ⟨key, rfl⟩)
  · rw [hs.directory_of_prefix ⟨rest, hrest⟩]
    by_cases hr : rest = []
    · rw [← hroot, ← hrest, hr, List.append_nil]
    · exact (ht.directory_of_append hr (by rw [hrest, hroot]; rfl)).symm
  · exact (h key).symm

/-- A store whose root has no files at first is a map from keys to files, whatever is called. -/
theorem directory_is_map {name root : String} {reader : Content.Reader} {tree : FileTree}
    {calls : List Access} (ht : tree.IsWellFormed) (ho : open? name root reader tree = .ok s)
    (hempty : ∀ key data, ¬ tree.Holds (s.root ++ key) data)
    (hplain : ∀ call ∈ calls, call.isPlain = true) :
    -- the files are what has been stored last
    (∀ key data, (s.after calls).tree.Holds (s.root ++ key) data ↔
      lastStored (s.stored calls) key = some data) ∧
    -- a call that fails changes no file
    (∀ call e, call.isPlain = true → ((s.after calls).perform call).1 = .error e →
      ∀ place data, ((s.after calls).perform call).2.tree.Holds place data ↔
        (s.after calls).tree.Holds place data) ∧
    -- a write succeeds unless something is in its way
    (∀ path data stamp, ((s.after calls).perform (.write path data stamp)).1 = .ok none ↔
      ∃ key, keyOf path = .ok key ∧ { s.after calls with stamp }.Accepts key) ∧
    -- a read gives the file of the key
    (∀ path data, (∃ content, (s.after calls).read path = .ok content ∧ content.bytes = data) ↔
      data ≠ [] ∧ ∃ key, keyOf path = .ok key ∧ lastStored (s.stored calls) key = some data) ∧
    -- nothing outside the root changes or is read
    (∀ place, ¬ s.root <+: place → (s.after calls).tree.get? place = s.tree.get? place) ∧
    ∀ other : FileTree, other.IsWellFormed →
      (∀ key, other.get? (s.root ++ key) = s.tree.get? (s.root ++ key)) →
      { s with tree := other }.answers calls = s.answers calls := by
  obtain ⟨hs, hfiles⟩ := isRooted_of_open? ht ho
  have hnew : s.Reflects [] := by
    refine ⟨hs, fun key data => ⟨fun hf => ?_, nofun⟩, nofun⟩
    exact absurd (hfiles _ data hf) (hempty key data)
  obtain ⟨hreflects, hroot, hframe⟩ := hnew.after hplain
  rw [List.nil_append] at hreflects
  refine ⟨?_, ?_, fun path data stamp => hreflects.perform_write_eq_ok_iff, ?_, hframe, ?_⟩
  · intro key data
    rw [← hroot]
    exact hreflects.files key data
  · intro call e hc he
    exact (hreflects.perform hc).2.1 e he
  · intro path data
    rw [read_eq_ok_iff hreflects.rooted]
    simp only [hreflects.files]
  · intro other hother hsame
    exact answers_of_sameAround hs.names (hs.sameAround hother hsame) calls

/-- A tree with an empty directory and a file beside it. -/
def smallTree : FileTree :=
  ⟨[(["srv".toList], .directory), (["srv".toList, "cache".toList], .directory),
    (["srv".toList, "notes".toList], .file [7])]⟩

def smallStore : DirectoryStore where
  name := "files"
  root := ["srv".toList, "cache".toList]
  reader := Content.Reader.standard.withMmapThreshold 2
  tree := smallTree

/-- A write, one that is refused as there is a directory, and one to the same key. -/
def threeWrites : List Access :=
  [.write "a/b" [1] "1-0", .write "/a" [2, 2] "1-1", .write "a//./b" [3, 3] "1-2"]

/-- The last write counts, and the file beside the root is still there. -/
theorem directory_is_map_threeWrites :
    smallTree.IsWellFormed ∧
      open? "files" "/srv/cache/" (Content.Reader.standard.withMmapThreshold 2) smallTree =
        .ok smallStore ∧
      (∀ key data, ¬ smallTree.Holds (smallStore.root ++ key) data) ∧
      (∀ call ∈ threeWrites, call.isPlain = true) ∧
      (smallStore.after threeWrites).tree.Holds ["srv".toList, "cache".toList, ['a'], ['b']]
        [3, 3] ∧
      (∃ content, (smallStore.after threeWrites).read "/a/b" = .ok content ∧
        content.bytes = [3, 3]) ∧
      (smallStore.after threeWrites).tree.get? ["srv".toList, "notes".toList] =
        some (.file [7]) := by
  have hwell : smallTree.IsWellFormed := .of_entries (by decide)
  have hopen : open? "files" "/srv/cache/" (Content.Reader.standard.withMmapThreshold 2)
      smallTree = .ok smallStore := rfl
  have hempty : ∀ key data, ¬ smallTree.Holds (smallStore.root ++ key) data := by
    intro key data hf
    have hm := FileTree.mem_of_get? hf.ne_nil hf
    simp [smallTree, smallStore] at hm
  have hplain : ∀ call ∈ threeWrites, call.isPlain = true := by decide +kernel
  have hstored : lastStored (smallStore.stored threeWrites) [['a'], ['b']] = some [3, 3] := by
    decide +kernel
  obtain ⟨hfiles, -, -, hreads, hframe, -⟩ := directory_is_map hwell hopen hempty hplain
  refine ⟨hwell, hopen, hempty, hplain, (hfiles _ _).mpr hstored, (hreads _ _).mpr ?_, ?_⟩
  · exact ⟨by decide, [['a'], ['b']], rfl, hstored⟩
  · rw [hframe _ (by decide)]
    decide

end DirectoryStore

end ModuleArchive.Storage
