import ModuleArchive.Proofs.Cache.Recorded
import ModuleArchive.Proofs.Cache.Untorn
import ModuleArchive.Proofs.Filesystem.Resolving

/-!
# Resolving without the remote

Resolving an identifier over a cached catalog leaves behind what resolving it once more takes: the
group is known to the index, and the track is the first one with its file name. So the node is
resolved again without the remote, and so is every directory above it.
-/
namespace ModuleArchive

/-- A catalog that refuses to answer. -/
def Catalog.refusing {σ : Type} : Catalog σ where
  listing _ := .failed .unavailable
  group _ _ w := (.error .unavailable, w)
  track _ _ _ w := (.error .unavailable, w)
  content _ w := (.error .unavailable, w)

namespace Filesystem

open Cache (State)

section Ascent

variable {σ : Type}

/-- Whether the directories above a node lead up to the root, one after the other, without a change
of the state. -/
inductive Ascends (f : Filesystem σ) (w : σ) : Node → Prop where
  | root : Ascends f w .root
  | step {n above : Node} (h : f.parent n w = (.ok (some above), w)) (rest : Ascends f w above) :
      Ascends f w n

variable (f : Filesystem σ) (w : σ) (g : Grouping) (b : Bucket)

lemma ascends_category : f.Ascends w (.category g) := .step rfl .root

lemma ascends_bucket : f.Ascends w (.bucket g b) := .step rfl (ascends_category f w g)

lemma ascends_group (group : Group) : f.Ascends w (.group g b group) :=
  .step rfl (ascends_bucket f w g b)

variable {f w g}

lemma ascends_track {r : GroupRef} {group : Group}
    (h : f.catalog.group g r.id w = (.ok (some group), w)) (track : Track) :
    f.Ascends w (.track g b r track) :=
  .step (resolveLocation_eq_iff.mpr (.group b h)) (ascends_group f w g b group)

end Ascent

variable {ρ : Type} {p : CachePolicy} {remote : Catalog ρ} {w w' : State ρ}
  {ws : List Index.Write} {scheme s : String} {storage : Url} {l : Location} {n : Node}

/-- The tree over a cached catalog. -/
def ofCache (scheme : String) (storage : Url) (p : CachePolicy) (remote : Catalog ρ) :
    Filesystem (State ρ) where
  scheme := scheme
  catalog := Cache.catalog p remote
  storage := storage

/-- What is found at a location through the cache is found there again without the remote, and the
way leads up from it. -/
lemma finds_offline (hremote : remote.IsExact) (hw : w.Holds ws)
    (h : (Cache.catalog p remote).Finds l n w w') (other : Catalog ρ) :
    (Cache.catalog p other).Finds l n w' w' ∧ (ofCache scheme storage p other).Ascends w' n := by
  cases h with
  | root => exact ⟨.root w, .root⟩
  | category g => exact ⟨.category g w, ascends_category _ w g⟩
  | bucket g b => exact ⟨.bucket g b w, ascends_bucket _ w g b⟩
  | @group g r group _ _ b h =>
    obtain ⟨ws', hw', hgroup⟩ := Cache.known_of_group hremote hw h
    exact ⟨.group b (Cache.group_of_known hw' hgroup), ascends_group _ w' g b group⟩
  | @track g r filename group track _ w₁ _ b hg ht =>
    obtain ⟨ws₁, hw₁, hgroup⟩ := Cache.known_of_group hremote hw hg
    obtain ⟨ws', hw', htrack, hsame⟩ := Cache.known_of_track hremote hw₁ ht
    have hid := Index.id_of_getGroup hgroup
    rw [← hsame] at hgroup
    have hfound : (Cache.catalog p other).group g r.id w' = (.ok (some group), w') :=
      Cache.group_of_known hw' hgroup
    have hown : (Cache.catalog p other).group g group.toRef.id w' = (.ok (some group), w') := by
      rw [Group.toRef, hid, hfound]
    exact ⟨.track b hfound (Cache.track_of_known hw' htrack), ascends_track b hown track⟩

/-- An identifier that has been resolved through the cache, whatever was stored before, is resolved
to the same node again whatever the remote answers now. The remote is not asked and nothing is
written. The same holds for the directories above the node, up to the root, unless the node is a
file detached from the tree. -/
theorem resolved_stays_resolved (hremote : remote.IsExact) (hw : w.Holds ws)
    (h : (ofCache scheme storage p remote).resolve s w = (.ok (some n), w')) (other : Catalog ρ) :
    let offline := ofCache scheme storage p other
    offline.resolve s w' = (.ok (some n), w') ∧
      (offline.detached? s = none → offline.Ascends w' n) := by
  intro offline
  rcases resolve_eq_iff.mp h with ⟨hd, rfl⟩ | ⟨hd, l, hl, hfinds⟩
  · have hdetached : offline.detached? s = some n := hd
    refine ⟨resolve_eq_iff.mpr (.inl ⟨hdetached, rfl⟩), fun hnone => ?_⟩
    rw [hnone] at hdetached
    contradiction
  · obtain ⟨hagain, hup⟩ := finds_offline hremote hw hfinds other
    exact ⟨resolve_eq_iff.mpr (.inr ⟨hd, l, hl, hagain⟩), fun _ => hup⟩

/-- A track of a new cache, after which the remote refuses everything. -/
theorem resolved_stays_resolved_smallArchive :
    let storage : Url := { scheme := "https".toList, host := some (.domain "files".toList) }
    let online := ofCache "modland" storage {} MemoryCatalog.catalog
    let offline := ofCache "modland" storage {} Catalog.refusing
    let s := "modland:/Authors/B/Beispiel/two.mod?id=1"
    let n : Node := .track .authors (.letter 1) ⟨1, "Beispiel"⟩ (.ofPath "/pub/two.mod" 20)
    ∃ reached, online.resolve s Cache.smallArchive = (.ok (some n), reached) ∧
      offline.resolve s reached = (.ok (some n), reached) ∧ offline.Ascends reached n := by
  intro storage online offline s n
  have hresolved : (online.resolve s Cache.smallArchive).1 = .ok (some n) := by decide +kernel
  have hagain := resolved_stays_resolved MemoryCatalog.isExact_catalog
    (State.IsNew.holds ⟨rfl, rfl⟩) (Prod.ext hresolved rfl) Catalog.refusing
  exact ⟨_, Prod.ext hresolved rfl, hagain.1, hagain.2 (by decide +kernel)⟩

/-- An identifier that can be read as a location may be the URL of a file, which is in no
directory. -/
theorem resolved_stays_resolved_detached :
    let c : Config := { scheme := "https", remote := { storageUrl := "https://authors" } }
    let storage : Url :=
      { scheme := "https".toList, host := some (.domain "authors".toList), path := .segments [[]] }
    let f := ofCache "https" storage {} MemoryCatalog.catalog
    let s := "https:/Authors/B/../pub\\x.mod?id=4"
    c.validate = .ok () ∧ c.storageUrl = .ok storage ∧ f.scheme = c.scheme ∧
      Cache.smallArchive.IsNew ∧ MemoryCatalog.catalog.IsExact ∧
      Location.decode f.scheme s = .ok (.track .authors (.letter 1) ⟨4, ".."⟩ "pub\\x.mod") ∧
      ∃ n reached, f.resolve s Cache.smallArchive = (.ok (some n), reached) ∧ n ≠ .root ∧
        (f.parent n reached).1 = .ok none ∧ ¬ f.Ascends reached n := by
  intro c storage f s
  obtain ⟨n, hn⟩ : ∃ n, f.detached? s = some n :=
    Option.isSome_iff_exists.mp (by decide +kernel)
  obtain ⟨url, track, rfl, -⟩ := exists_of_detached? hn
  refine ⟨by decide +kernel, by decide +kernel, rfl, ⟨rfl, rfl⟩, MemoryCatalog.isExact_catalog,
    by decide +kernel, .detached url track, Cache.smallArchive,
    resolve_eq_iff.mpr (.inl ⟨hn, rfl⟩), by simp, rfl, ?_⟩
  intro hup
  cases hup with
  | step h rest => simp [parent, Node.location?] at h

end Filesystem

end ModuleArchive
