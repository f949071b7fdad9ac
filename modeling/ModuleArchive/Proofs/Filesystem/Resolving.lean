import ModuleArchive.Filesystem.Basic
import ModuleArchive.Proofs.Catalog.Answers
import ModuleArchive.Proofs.Url.Scheme

/-!
# Resolving identifiers

Over a catalog with fixed answers the node at a location does not depend on the state. The
identifier of a node in the tree is read back as its location, and under a scheme that is not one
of the web it is never taken for the URL of a file. So a node that has been resolved is resolved
again from its own identifier, whatever identifier it was resolved from.
-/
namespace ModuleArchive

/-! ### Locations -/

/-- Which node a catalog finds at a location, and what becomes of its state. -/
inductive Catalog.Finds {σ : Type} (c : Catalog σ) : Location → Node → σ → σ → Prop where
  | root (w : σ) : Finds c .root .root w w
  | category (g : Grouping) (w : σ) : Finds c (.category g) (.category g) w w
  | bucket (g : Grouping) (b : Bucket) (w : σ) : Finds c (.bucket g b) (.bucket g b) w w
  | group {g : Grouping} {r : GroupRef} {group : Group} {w w' : σ} (b : Bucket)
      (h : c.group g r.id w = (.ok (some group), w')) :
      Finds c (.group g b r) (.group g b group) w w'
  | track {g : Grouping} {r : GroupRef} {filename : String} {group : Group} {track : Track}
      {w w' w'' : σ} (b : Bucket) (hg : c.group g r.id w = (.ok (some group), w'))
      (ht : c.track g group.id filename w' = (.ok (some track), w'')) :
      Finds c (.track g b r filename) (.track g b group.toRef track) w w''

namespace Filesystem

variable {σ : Type} {f : Filesystem σ} {l : Location} {n : Node} {w w' : σ}

lemma consult_of_ok {α : Type} {act : ModuleArchive.Action σ α} {a : α}
    (h : act w = (.ok a, w')) : consult act w = (.ok a, w') := by
  rw [consult, h]
  rfl

lemma exists_of_consult {α : Type} {act : ModuleArchive.Action σ α} {a : α}
    (h : consult act w = (.ok a, w')) : act w = (.ok a, w') := by
  rw [consult] at h
  cases hact : act w with
  | mk answer after =>
    cases answer with
    | error cause => simp [hact, Except.mapError] at h
    | ok found => simpa [hact, Except.mapError] using h

lemma resolveLocation_eq_iff :
    f.resolveLocation l w = (.ok (some n), w') ↔ f.catalog.Finds l n w w' := by
  constructor
  · intro h
    cases l with
    | root =>
      obtain ⟨rfl, rfl⟩ : Node.root = n ∧ w = w' := by simpa [resolveLocation] using h
      exact .root w
    | category g =>
      obtain ⟨rfl, rfl⟩ : Node.category g = n ∧ w = w' := by simpa [resolveLocation] using h
      exact .category g w
    | bucket g b =>
      obtain ⟨rfl, rfl⟩ : Node.bucket g b = n ∧ w = w' := by simpa [resolveLocation] using h
      exact .bucket g b w
    | group g b r =>
      rw [resolveLocation] at h
      split at h
      · simp at h
      · next group w₁ hgroup =>
        obtain ⟨hn, rfl⟩ : group.map (.group g b) = some n ∧ w₁ = w' := by simpa using h
        obtain ⟨group, rfl, rfl⟩ := Option.map_eq_some_iff.mp hn
        exact .group b (exists_of_consult hgroup)
    | track g b r filename =>
      rw [resolveLocation] at h
      split at h
      · simp at h
      · simp at h
      · next group w₁ hgroup =>
        split at h
        · simp at h
        · next track w₂ htrack =>
          obtain ⟨hn, rfl⟩ : track.map (.track g b group.toRef) = some n ∧ w₂ = w' := by
            simpa using h
          obtain ⟨track, rfl, rfl⟩ := Option.map_eq_some_iff.mp hn
          exact .track b (exists_of_consult hgroup) (exists_of_consult htrack)
  · intro h
    cases h with
    | root => rfl
    | category => rfl
    | bucket => rfl
    | group b h =>
      rw [resolveLocation, consult_of_ok h]
      rfl
    | track b hg ht =>
      rw [resolveLocation, consult_of_ok hg]
      simp only
      rw [consult_of_ok ht]
      rfl

lemma resolve_eq_iff {s : String} :
    f.resolve s w = (.ok (some n), w') ↔
      (f.detached? s = some n ∧ w = w') ∨
        (f.detached? s = none ∧ ∃ l, Location.decode f.scheme s = .ok l ∧
          f.catalog.Finds l n w w') := by
  rw [resolve]
  cases f.detached? s with
  | some m => simp
  | none =>
    cases Location.decode f.scheme s with
    | error fault => simp
    | ok l => simp [resolveLocation_eq_iff]

end Filesystem

/-! ### Fixed answers -/

/-- Which node is found at a location by these answers. -/
inductive Answers.Finds (A : Answers) : Location → Node → Prop where
  | root : Finds A .root .root
  | category (g : Grouping) : Finds A (.category g) (.category g)
  | bucket (g : Grouping) (b : Bucket) : Finds A (.bucket g b) (.bucket g b)
  | group {g : Grouping} {r : GroupRef} {group : Group} (b : Bucket)
      (h : A.group g r.id = .ok (some group)) : Finds A (.group g b r) (.group g b group)
  | track {g : Grouping} {r : GroupRef} {filename : String} {group : Group} {track : Track}
      (b : Bucket) (hg : A.group g r.id = .ok (some group))
      (ht : A.track g group.id filename = .ok (some track)) :
      Finds A (.track g b r filename) (.track g b group.toRef track)

section Fixed

variable {σ : Type} {c : Catalog σ} {I : σ → Prop} {A : Answers} {l : Location} {n : Node} {w : σ}

lemma Catalog.Gives.finds (hA : c.Gives I A) (hw : I w) {w' : σ} (h : c.Finds l n w w') :
    A.Finds l n ∧ I w' := by
  cases h with
  | root => exact ⟨.root, hw⟩
  | category g => exact ⟨.category g, hw⟩
  | bucket g b => exact ⟨.bucket g b, hw⟩
  | @group g r group _ _ b h =>
    have hgroup := hA.group_eq g r.id w hw
    have hafter := hA.group g r.id w hw
    rw [h] at hgroup hafter
    exact ⟨.group b hgroup.symm, hafter⟩
  | @track g r filename group track _ w₁ _ b hg ht =>
    have hgroup := hA.group_eq g r.id w hw
    have hbetween := hA.group g r.id w hw
    rw [hg] at hgroup hbetween
    have htrack := hA.track_eq g group.id filename w₁ hbetween
    have hafter := hA.track g group.id filename w₁ hbetween
    rw [ht] at htrack hafter
    exact ⟨.track b hgroup.symm htrack.symm, hafter⟩

lemma Catalog.Gives.exists_finds (hA : c.Gives I A) (hw : I w) (h : A.Finds l n) :
    ∃ w', c.Finds l n w w' := by
  cases h with
  | root => exact ⟨w, .root w⟩
  | category g => exact ⟨w, .category g w⟩
  | bucket g b => exact ⟨w, .bucket g b w⟩
  | @group g r group b h =>
    have hgroup := (hA.group_eq g r.id w hw).trans h
    exact ⟨_, .group b (Prod.ext hgroup rfl)⟩
  | @track g r filename group track b hg ht =>
    have hgroup := (hA.group_eq g r.id w hw).trans hg
    have hbetween := hA.group g r.id w hw
    have htrack := (hA.track_eq g group.id filename _ hbetween).trans ht
    exact ⟨_, .track b (Prod.ext hgroup rfl) (Prod.ext htrack rfl)⟩

/-- What is found anywhere in the tree is found again at its own location. -/
lemma Answers.Finds.own (hA : A.IsExact) (h : A.Finds l n) :
    ∃ own, n.location? = some own ∧ A.Finds own n := by
  cases h with
  | root => exact ⟨.root, rfl, .root⟩
  | category g => exact ⟨.category g, rfl, .category g⟩
  | bucket g b => exact ⟨.bucket g b, rfl, .bucket g b⟩
  | @group g r group b h =>
    have hid := hA.id_of_group g r.id group h
    exact ⟨.group g b group.toRef, rfl, .group b (by rw [Group.toRef, hid, h])⟩
  | @track g r filename group track b hg ht =>
    have hid := hA.id_of_group g r.id group hg
    have hname := hA.filename_of_track g group.id filename track ht
    refine ⟨.track g b group.toRef track.filename, rfl, .track b ?_ ?_⟩
    · rw [Group.toRef, hid, hg]
    · rw [hname, ht]

end Fixed

/-! ### Identifiers -/

namespace Filesystem

variable {σ : Type} {f : Filesystem σ} {I : σ → Prop} {A : Answers} {n : Node} {w : σ}

/-- A file is detached with the URL that its identifier is read as. -/
lemma exists_of_detached? {s : String} (h : f.detached? s = some n) :
    ∃ url track, n = .detached url track ∧ Url.parse? s = some url := by
  rw [detached?] at h
  obtain ⟨url, hurl, h⟩ := Option.bind_eq_some_iff.mp h
  split at h
  · contradiction
  · obtain ⟨path, -, h⟩ := Option.bind_eq_some_iff.mp h
    split at h
    · contradiction
    · exact ⟨url, _, (Option.some_inj.mp h).symm, hurl⟩

/-- Texts that are read as the same URL address the same file. -/
lemma detached?_congr {s t : String} {url : Url} (hs : Url.parse? s = some url)
    (ht : Url.parse? t = some url) (h : f.detached? s = some n) : f.detached? t = some n := by
  rw [detached?, hs] at h
  rw [detached?, ht]
  exact h

/-- Over fixed answers a node is resolved in every state or in none. -/
lemma resolve_fst_eq_iff (hA : f.catalog.Gives I A) (hw : I w) {s : String} :
    (f.resolve s w).1 = .ok (some n) ↔
      f.detached? s = some n ∨
        (f.detached? s = none ∧ ∃ l, Location.decode f.scheme s = .ok l ∧ A.Finds l n) := by
  constructor
  · intro h
    obtain ⟨hd, -⟩ | ⟨hd, l, hl, hfinds⟩ := resolve_eq_iff.mp (Prod.ext h rfl)
    · exact .inl hd
    · exact .inr ⟨hd, l, hl, (hA.finds hw hfinds).1⟩
  · rintro (hd | ⟨hd, l, hl, hfinds⟩)
    · exact congrArg Prod.fst (resolve_eq_iff.mpr (.inl ⟨hd, rfl⟩))
    · obtain ⟨w', hw'⟩ := hA.exists_finds hw hfinds
      exact congrArg Prod.fst (resolve_eq_iff.mpr (.inr ⟨hd, l, hl, hw'⟩))

lemma identifier_eq {l : Location} (hl : n.location? = some l) : f.identifier n = f.encode l := by
  cases n with
  | detached url track => contradiction
  | _ => simp only [identifier, hl, Option.getD_some]

lemma encode_of_identifier {l : Location} {u : String} (hl : n.location? = some l)
    (hu : f.identifier n = .ok u) : l.encode f.scheme = .ok u := by
  rw [identifier_eq hl, encode, encodeLocation] at hu
  cases htext : l.encode f.scheme with
  | error fault => simp [htext, Except.mapError] at hu
  | ok text => simpa [htext, Except.mapError] using hu

/-- The identifier of a node in the tree starts with the scheme and is read back as the location
of the node. -/
lemma decode_identifier (hs : ':' ∉ f.scheme.toList) {l : Location} {u : String}
    (hl : n.location? = some l) (hu : f.identifier n = .ok u) :
    Location.decode f.scheme u = .ok l ∧
      ∃ rest, u = String.ofList (f.scheme.toList ++ ':' :: rest) := by
  have hencode := encode_of_identifier hl hu
  have hnamed := Location.isNamed_of_encode hencode
  obtain ⟨text, htext, hread⟩ := Location.decode_encode hs hnamed
  obtain rfl : text = u := by
    rw [hencode] at htext
    exact (Except.ok.inj htext).symm
  rw [Location.encode_eq_ok hnamed] at htext
  exact ⟨hread, _, (Except.ok.inj htext).symm⟩

/-- Whether a scheme is one of the web, in whatever case it is written. -/
def IsWebScheme (scheme : String) : Prop :=
  scheme.toList.map Char.toLower = "http".toList ∨ scheme.toList.map Char.toLower = "https".toList

instance (scheme : String) : Decidable (IsWebScheme scheme) :=
  inferInstanceAs (Decidable (_ ∨ _))

lemma detached?_eq_none {scheme : String} (hs : Config.isScheme scheme.toList = true)
    (hweb : ¬ IsWebScheme scheme) (rest : List Char) :
    f.detached? (String.ofList (scheme.toList ++ ':' :: rest)) = none := by
  rw [detached?]
  cases hp : Url.parse? (String.ofList (scheme.toList ++ ':' :: rest)) with
  | none => rfl
  | some url =>
    have hscheme := Url.scheme_of_parse? hs hp
    have hnot : url.isWeb = false := by
      rw [Url.isWeb, hscheme, Bool.or_eq_false_iff, beq_eq_false_iff_ne, beq_eq_false_iff_ne]
      exact not_or.mp hweb
    simp [hnot]

/-- A node that has been resolved is resolved again from its own identifier, unless that is the
URL of a detached file, which it never is under a scheme that is not one of the web. -/
theorem resolve_identifier_of_resolved {c : Config} (hc : c.validate = .ok ())
    (hf : f.scheme = c.scheme) (hA : f.catalog.Gives I A) (hexact : A.IsExact) {s : String}
    (hprint : ∀ url, Url.parse? s = some url → Url.parse? url.print = some url) (hw : I w)
    (hn : (f.resolve s w).1 = .ok (some n)) {u : String} (hu : f.identifier n = .ok u) {w' : σ}
    (hw' : I w') :
    (f.resolve u w').1 = .ok ((f.detached? u).or (some n)) ∧
      (¬ IsWebScheme c.scheme → (f.resolve u w').1 = .ok (some n)) := by
  have hscheme := Location.isScheme_of_validate hc
  rw [← hf] at hscheme ⊢
  rcases (resolve_fst_eq_iff hA hw).mp hn with hd | ⟨-, l, -, hfinds⟩
  · -- the printed URL is read as the URL that was found
    have hagain : f.detached? u = some n := by
      obtain ⟨url, track, rfl, hurl⟩ := exists_of_detached? hd
      obtain rfl : url.print = u := Except.ok.inj hu
      exact detached?_congr hurl (hprint url hurl) hd
    have hresolved := (resolve_fst_eq_iff hA hw').mpr (.inl hagain)
    exact ⟨by rw [hresolved, hagain, Option.some_or], fun _ => hresolved⟩
  · obtain ⟨own, hown, hfound⟩ := hfinds.own hexact
    obtain ⟨hread, rest, rfl⟩ := decode_identifier (Location.notMem_of_isScheme hscheme) hown hu
    have htree (hd : f.detached? (String.ofList (f.scheme.toList ++ ':' :: rest)) = none) :
        (f.resolve (String.ofList (f.scheme.toList ++ ':' :: rest)) w').1 = .ok (some n) :=
      (resolve_fst_eq_iff hA hw').mpr (.inr ⟨hd, own, hread, hfound⟩)
    refine ⟨?_, fun hweb => htree (detached?_eq_none hscheme hweb rest)⟩
    cases hd : f.detached? (String.ofList (f.scheme.toList ++ ':' :: rest)) with
    | none => exact htree hd
    | some m => exact (resolve_fst_eq_iff hA hw').mpr (.inl hd)

/-- The tree of an archive in memory, with its files on a host. -/
def ofMemory (scheme host : String) : Filesystem MemoryCatalog where
  scheme := scheme
  catalog := MemoryCatalog.catalog
  storage :=
    { scheme := "https".toList, host := some (.domain host.toList), path := .segments [[]] }

/-- A query behind the group, an outdated name of the group, and the scheme in upper case. -/
theorem resolve_identifier_of_resolved_outdatedName :
    let f := ofMemory "modland" "ftp.modland.com"
    let m : MemoryCatalog :=
      { groups := [(.authors, ⟨42, "Beispiel", 1⟩)]
        tracks := [((.authors, 42), [.ofPath "/pub/a.mod" 8])] }
    let n : Node := .track .authors (.letter 1) ⟨42, "Beispiel"⟩ (.ofPath "/pub/a.mod" 8)
    (f.resolve "MODLAND:/Authors//B/old?id=42/a.mod" m).1 = .ok (some n) ∧
      f.identifier n = .ok "modland:/Authors/B/Beispiel/a.mod?id=42" ∧
      (f.resolve "modland:/Authors/B/Beispiel/a.mod?id=42" m).1 = .ok (some n) := by
  intro f m n
  have hA : f.catalog.Gives m.Agrees m.answers := MemoryCatalog.gives_answers m
  have hexact := MemoryCatalog.isExact_catalog.answers hA m.agrees_self
  have hresolved : (f.resolve "MODLAND:/Authors//B/old?id=42/a.mod" m).1 = .ok (some n) := by
    decide +kernel
  have hidentifier : f.identifier n = .ok "modland:/Authors/B/Beispiel/a.mod?id=42" := by
    decide +kernel
  have hprint : ∀ url, Url.parse? "MODLAND:/Authors//B/old?id=42/a.mod" = some url →
      Url.parse? url.print = some url := by
    have hall : (Url.parse? "MODLAND:/Authors//B/old?id=42/a.mod").all
        (fun url => Url.parse? url.print = some url) = true := by decide +kernel
    intro url hurl
    simpa [hurl] using hall
  have hagain := resolve_identifier_of_resolved (show ({} : Config).validate = .ok () by
    decide +kernel) rfl hA hexact hprint m.agrees_self hresolved hidentifier m.agrees_self
  exact ⟨hresolved, hidentifier, hagain.2 (by decide)⟩

/-- Under a scheme of the web in upper case an identifier may be the URL of a file. -/
theorem resolve_identifier_differs_upperCase :
    let c : Config := { scheme := "HTTP", remote := { storageUrl := "https://authors" } }
    let f := ofMemory "HTTP" "authors"
    let m : MemoryCatalog :=
      { groups := [(.authors, ⟨4, "..", 1⟩)]
        tracks := [((.authors, 4), [.ofPath "/pub/q/pub\\x.mod" 8])] }
    let s := "HTTP:/Authors//B/old/pub%5Cx.mod?id=4"
    let n : Node := .track .authors (.letter 1) ⟨4, ".."⟩ (.ofPath "/pub/q/pub\\x.mod" 8)
    let u := "HTTP:/Authors/B/../pub\\x.mod?id=4"
    c.validate = .ok () ∧ c.scheme ∉ ["http", "https"] ∧ f.scheme = c.scheme ∧
      c.storageUrl = .ok f.storage ∧ f.catalog.Gives m.Agrees m.answers ∧ m.answers.IsExact ∧
      (∀ text ∈ [s, u], (Url.parse? text).all (fun url => Url.parse? url.print = some url)) ∧
      (f.resolve s m).1 = .ok (some n) ∧ f.identifier n = .ok u ∧
      (f.resolve u m).1 ≠ .ok (some n) := by
  intro c f m s n u
  have hA : f.catalog.Gives m.Agrees m.answers := MemoryCatalog.gives_answers m
  exact ⟨by decide +kernel, by decide, rfl, by decide +kernel, hA,
    MemoryCatalog.isExact_catalog.answers hA m.agrees_self, by decide +kernel,
    by decide +kernel, by decide +kernel, by decide +kernel⟩

end Filesystem

end ModuleArchive
