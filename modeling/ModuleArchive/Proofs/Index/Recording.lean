import ModuleArchive.Proofs.Index.Reading

/-!
# What is recorded is found

A track that is recorded because none was found under its file name is the first one under that
name from then on: of all tracks that are listed only its own record has changed. A group that is
recorded is found under its number. Recording a track changes nothing about groups.
-/
namespace ModuleArchive.Index

variable {ws : List Write} {g : Grouping} {id : UInt32}

/-- The tracks of a group, with what is found among them by file name. -/
lemma tracks_ofWrites_spec (ws : List Write) (g : Grouping) (id : UInt32) :
    ∃ tracks : List Track, tracks.map Track.path = (ofWrites ws).names (.tracks g id) ∧
      (∀ t ∈ tracks, lastTrack? ws t.path = some t) ∧
      ∀ filename, (ofWrites ws).findTrack g id filename =
        .ok (tracks.find? (·.filename = filename)) := by
  obtain ⟨tracks, hlist, hnames, hlatest⟩ := list_ofWrites ws (.tracks g id)
  exact ⟨tracks, hnames, hlatest, findTrack_eq hlist⟩

/-- A track that is recorded under a file name under which none was found is found from then on. -/
theorem findTrack_recorded {track : Track}
    (h : (ofWrites ws).findTrack g id track.filename = .ok none) :
    (ofWrites (ws ++ [.putTrack g id track])).findTrack g id track.filename =
      .ok (some track) := by
  obtain ⟨old, hold, holdLatest, holdFind⟩ := tracks_ofWrites_spec ws g id
  obtain ⟨new, hnew, hnewLatest, hnewFind⟩ :=
    tracks_ofWrites_spec (ws ++ [.putTrack g id track]) g id
  have hlast (path : String) : lastTrack? (ws ++ [.putTrack g id track]) path =
      if track.path = path then some track else lastTrack? ws path := by
    rw [lastTrack?_append]
    by_cases hp : track.path = path
    · simp [lastTrack?, Write.tracks, hp]
    · simp [lastTrack?, Write.tracks, hp]
  have hnames : ∀ path, path ∈ new.map Track.path ↔
      path ∈ old.map Track.path ∨ path = track.path := by
    intro path
    rw [hnew, hold, ofWrites_concat, names_putTrack]
    simp only [Write.added, and_self, if_true]
    rw [mem_extend, Option.toList_some, List.mem_singleton]
  -- the only track that is called so is the one that was recorded
  have honly : ∀ t ∈ new, t.filename = track.filename → t = track := by
    intro t ht hname
    have hlatest := hnewLatest t ht
    rw [hlast] at hlatest
    split at hlatest
    · exact (Option.some_inj.mp hlatest).symm
    · next hp =>
      obtain hm | hm := (hnames t.path).mp (List.mem_map_of_mem ht)
      · obtain ⟨other, ho, hpath⟩ := List.mem_map.mp hm
        have hother := holdLatest other ho
        rw [hpath, hlatest] at hother
        obtain rfl := Option.some_inj.mp hother
        have hnone := List.find?_eq_none.mp (Except.ok.inj ((holdFind _).symm.trans h)) t ho
        simp [hname] at hnone
      · exact absurd hm.symm hp
  obtain ⟨t, ht, hpath⟩ := List.mem_map.mp ((hnames track.path).mpr (.inr rfl))
  have hlisted : track ∈ new := by
    have hlatest := hnewLatest t ht
    rw [hlast, if_pos hpath.symm] at hlatest
    rwa [Option.some_inj.mp hlatest]
  have hfound : new.find? (·.filename = track.filename) = some track :=
    find?_eq_some_of_unique hlisted (by simp) fun other ho hname =>
      honly other ho (by simpa using hname)
  rw [hnewFind, hfound]

lemma id_of_getGroup {group : Group} (h : (ofWrites ws).getGroup g id = .ok (some group)) :
    group.id = id := by
  rw [getGroup_ofWrites] at h
  exact (mem_of_lastGroup? (Except.ok.inj h)).2

theorem getGroup_recorded (ws : List Write) (g : Grouping) (group : Group) :
    (ofWrites (ws ++ [.putGroup g group])).getGroup g group.id = .ok (some group) := by
  rw [getGroup_ofWrites, lastGroup?_append]
  simp [lastGroup?, Write.groups]

lemma getGroup_putTrack (ws : List Write) (g g' : Grouping) (id id' : UInt32) (track : Track) :
    (ofWrites (ws ++ [.putTrack g id track])).getGroup g' id' =
      (ofWrites ws).getGroup g' id' := by
  rw [getGroup_ofWrites, getGroup_ofWrites, lastGroup?_append]
  rfl

end ModuleArchive.Index
