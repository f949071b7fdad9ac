import ModuleArchive.Proofs.Index.Recording
import ModuleArchive.Proofs.Index.Refinement

/-!
# Looking for file names

Whatever has been written to a repository, a file name is looked up in a group as if its listing
were read from the beginning, although records are shared by groups and a path may be listed more
than once. A track that is recorded after it was looked for in vain is found from then on.
-/
namespace ModuleArchive.Repository

open Index (Write lastTrack?)

variable {isPersistent : Bool} {calls : List Write} {g : Grouping} {id : UInt32}

/-- A track that was looked for in vain is found as soon as it is recorded. -/
lemma findTrack_after_putTrack {t : Track} {later : Repository}
    (hnone : ((new isPersistent).after calls).query (·.findTrack g id t.filename) = .ok none)
    (h : ((new isPersistent).after calls).write (.putTrack g id t) = (.ok (), later)) :
    later.query (·.findTrack g id t.filename) = .ok (some t) := by
  obtain ⟨rfl, hlog⟩ := log_concat_of_write h
  rw [query_after_new] at hnone ⊢
  rw [hlog]
  exact Index.findTrack_recorded hnone

/-- After any run of a new repository, a group lists some tracks, and a file name is looked up as
the first one of them that is called so; none is found if and only if no track is called so. A
track that is recorded when none is found under its file name is found under it then, as it was
recorded. -/
theorem lookup_follows_listing (isPersistent : Bool) (calls : List Write) (g : Grouping)
    (id : UInt32) :
    let reached := (new isPersistent).after calls
    ∃ tracks, reached.query (·.listTracks g id) = .ok tracks ∧
      (∀ filename, reached.query (·.findTrack g id filename) =
        .ok (tracks.find? (·.filename = filename))) ∧
      (∀ filename, reached.query (·.findTrack g id filename) = .ok none ↔
        ∀ t ∈ tracks, t.filename ≠ filename) ∧
      ∀ t later, reached.query (·.findTrack g id t.filename) = .ok none →
        reached.write (.putTrack g id t) = (.ok (), later) →
          later.query (·.findTrack g id t.filename) = .ok (some t) := by
  intro reached
  obtain ⟨tracks, hlist, -, -⟩ :=
    Index.list_ofWrites ((new isPersistent).log calls) (.tracks g id)
  have hfind (filename : String) : reached.query (·.findTrack g id filename) =
      .ok (tracks.find? (·.filename = filename)) :=
    (query_after_new isPersistent calls _).trans (Index.findTrack_eq hlist filename)
  refine ⟨tracks, (query_after_new isPersistent calls _).trans hlist, hfind, fun filename => ?_,
    fun t later hnone h => findTrack_after_putTrack hnone h⟩
  rw [hfind, Except.ok.injEq, List.find?_eq_none]
  simp

/-- Two groups with a track in common, which is renamed through one of them. -/
def sharedTrack : List Write :=
  [.replace (.tracks .authors 1)
      [.ofPath "/pub/a.mod" 4, .ofPath "/pub/b.mod" 5, .ofPath "/pub/a.mod" 6]
      (.ofSeconds 1750000000),
    .putTrack .formats 9 ⟨"/pub/b.mod", "a.mod", 7⟩,
    .putTrack .formats 9 (.ofPath "/pub/large.mod" 0x8000000000000000)]

/-- The first track that is called so is found, with the size that was written last; and a track
under a path that is listed is found under its new name. -/
theorem lookup_follows_listing_sharedTrack :
    let reached := (new true).after sharedTrack
    let t : Track := ⟨"/pub/a.mod", "c.mod", 8⟩
    reached.query (·.findTrack .authors 1 "a.mod") = .ok (some (.ofPath "/pub/a.mod" 6)) ∧
      reached.query (·.findTrack .authors 1 t.filename) = .ok none ∧
      ∃ later, reached.write (.putTrack .authors 1 t) = (.ok (), later) ∧
        later.query (·.findTrack .authors 1 t.filename) = .ok (some t) := by
  intro reached t
  obtain ⟨tracks, hlist, hfind, hnone, hrecorded⟩ :=
    lookup_follows_listing true sharedTrack .authors 1
  have htracks : tracks =
      [.ofPath "/pub/a.mod" 6, ⟨"/pub/b.mod", "a.mod", 7⟩, .ofPath "/pub/a.mod" 6] := by
    obtain ⟨found, hfound, hpaths, hlatest⟩ := listTracks_after_new true sharedTrack .authors 1
    obtain rfl := Except.ok.inj (hfound.symm.trans hlist)
    have hinj : Function.Injective (some : Track → Option Track) := fun _ _ => Option.some.inj
    have hrecords : found.map some =
        (found.map Track.path).map (lastTrack? ((new true).log sharedTrack)) := by
      rw [← List.map_congr_left hlatest, List.map_map]
      rfl
    apply hinj.list_map
    rw [hrecords, hpaths]
    decide +kernel
  subst htracks
  have hmissing : reached.query (·.findTrack .authors 1 t.filename) = .ok none :=
    (hnone t.filename).mpr (by decide +kernel)
  have hwrite : (reached.write (.putTrack .authors 1 t)).1 = .ok () := by decide +kernel
  refine ⟨(hfind "a.mod").trans (by decide +kernel), hmissing, _, Prod.ext hwrite rfl, ?_⟩
  exact hrecorded t _ hmissing (Prod.ext hwrite rfl)

end ModuleArchive.Repository
