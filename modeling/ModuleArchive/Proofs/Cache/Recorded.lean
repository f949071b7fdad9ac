import ModuleArchive.Proofs.Cache.History
import ModuleArchive.Proofs.Catalog.Answers
import ModuleArchive.Proofs.Index.Recording

/-!
# What a lookup leaves behind

A lookup that succeeds leaves an index that answers it. The same lookup asks for nothing else from
then on: not for the remote, and not for a change. Looking for a track does not forget the groups
that are known.
-/
namespace ModuleArchive.Cache

open Procedure
open Index (Write ofWrites)

variable {ρ : Type} {p : CachePolicy} {remote : Catalog ρ} {w w' : State ρ} {ws : List Write}
  {g : Grouping} {id : UInt32} {filename : String} {group : Group} {track : Track}

/-- A group that the index has is answered without asking for anything else. -/
lemma group_of_known (hw : w.Holds ws) (h : (ofWrites ws).getGroup g id = .ok (some group)) :
    (catalog p remote).group g id w = (.ok (some group), w) := by
  simp only [catalog, readGroup, run_ask, answer, hw.query_eq, h, run_done]

lemma track_of_known (hw : w.Holds ws)
    (h : (ofWrites ws).findTrack g id filename = .ok (some track)) :
    (catalog p remote).track g id filename w = (.ok (some track), w) := by
  simp only [catalog, readTrack, run_ask, answer, hw.query_eq, h, run_done]

/-- What a procedure that is carried out leaves behind are the writes it has made. -/
lemma exists_holds_of_run {α : Type} {q : Procedure α} {a : α} (hw : w.Holds ws)
    (h : q.run (answer remote) w = (a, w')) :
    ∃ xs, Leads q xs (done a) ∧ Happens (answer remote) w xs ∧ w'.Holds (ws ++ writes xs) := by
  have hleads := leads_trace (answer remote) q w
  have hhappens := happens_trace (answer remote) q w
  have hholds := hw.after hhappens
  rw [← run_eq, h] at hholds
  rw [h] at hleads
  exact ⟨_, hleads, hhappens, hholds⟩

/-- A group that has been looked up is known to the index. -/
lemma known_of_group (hremote : remote.IsExact) (hw : w.Holds ws)
    (h : (catalog p remote).group g id w = (.ok (some group), w')) :
    ∃ ws', w'.Holds ws' ∧ (ofWrites ws').getGroup g id = .ok (some group) := by
  obtain ⟨xs, hleads, hhappens, hholds⟩ := exists_holds_of_run hw h
  refine ⟨_, hholds, ?_⟩
  generalize hresult : Except.ok (some group) = result at hleads
  cases groupRead_of_leads hleads with
  | unreadable e => contradiction
  | failed cause => contradiction
  | absent => simp at hresult
  | known found =>
    obtain rfl : group = found := by simpa using hresult
    have hknown := hhappens.1.symm
    rw [answer, hw.query_eq] at hknown
    change (ofWrites (ws ++ [])).getGroup g id = .ok (some group)
    rw [List.append_nil]
    exact hknown
  | fetched found stored =>
    cases stored with
    | error e => contradiction
    | ok =>
      obtain rfl : group = found := by simpa [indexed, Except.map, Except.mapError] using hresult
      have hid := hremote.id_of_group g id w.remote group hhappens.2.1.symm
      rw [← hid]
      exact Index.getGroup_recorded ws g group

/-- A track that has been looked up is known to the index, and no group has changed. -/
lemma known_of_track (hremote : remote.IsExact) (hw : w.Holds ws)
    (h : (catalog p remote).track g id filename w = (.ok (some track), w')) :
    ∃ ws', w'.Holds ws' ∧ (ofWrites ws').findTrack g id filename = .ok (some track) ∧
      ∀ g' id', (ofWrites ws').getGroup g' id' = (ofWrites ws).getGroup g' id' := by
  obtain ⟨xs, hleads, hhappens, hholds⟩ := exists_holds_of_run hw h
  refine ⟨_, hholds, ?_⟩
  generalize hresult : Except.ok (some track) = result at hleads
  cases trackRead_of_leads hleads with
  | unreadable e => contradiction
  | failed cause => contradiction
  | absent => simp at hresult
  | known found =>
    obtain rfl : track = found := by simpa using hresult
    have hknown := hhappens.1.symm
    rw [answer, hw.query_eq] at hknown
    change (ofWrites (ws ++ [])).findTrack g id filename = .ok (some track) ∧
      ∀ g' id', (ofWrites (ws ++ [])).getGroup g' id' = (ofWrites ws).getGroup g' id'
    rw [List.append_nil]
    exact ⟨hknown, fun _ _ => rfl⟩
  | fetched found stored =>
    cases stored with
    | error e => contradiction
    | ok =>
      obtain rfl : track = found := by simpa [indexed, Except.map, Except.mapError] using hresult
      have hname := hremote.filename_of_track g id filename w.remote track hhappens.2.1.symm
      have hmissing := hhappens.1.symm
      rw [answer, hw.query_eq, ← hname] at hmissing
      refine ⟨?_, fun g' id' => Index.getGroup_putTrack ws g g' id id' track⟩
      rw [← hname]
      exact Index.findTrack_recorded hmissing

end ModuleArchive.Cache
