import ModuleArchive.Proofs.Filesystem.Children

/-!
# The way up

Nodes do not know what they are in: each step up looks the location above a node up again. Over
fixed answers a node in the tree is found at its own location, and so is what is found above it. So
the way up is that of the locations, it leads to the root in as many steps as the node is deep, and
it is the way back from every child that a directory lists.
-/
namespace ModuleArchive

lemma Location.length_ancestors (l : Location) : l.ancestors.length = l.depth := by cases l <;> rfl

namespace Answers

variable {A : Answers} {n child : Node} {l p : Location}

/-- Above a node that is found at its own location stands another one. -/
lemma exists_finds_above (hl : n.location? = some l) (h : A.Finds l n) (hp : l.parent? = some p) :
    ∃ above, A.Finds p above ∧ above.location? = some p := by
  cases h with
  | root => contradiction
  | category g =>
    obtain rfl := Option.some_inj.mp hp
    exact ⟨_, .root, rfl⟩
  | bucket g b =>
    obtain rfl := Option.some_inj.mp hp
    exact ⟨_, .category g, rfl⟩
  | group b h =>
    obtain rfl := Option.some_inj.mp hp
    exact ⟨_, .bucket _ b, rfl⟩
  | @track g r filename group track b hg ht =>
    -- the group is looked up under its number, which is the one that the location gives
    obtain rfl := Option.some_inj.mp hp
    obtain rfl : group.toRef = r := by
      have hown : Location.track g b group.toRef track.filename = .track g b r filename :=
        Option.some_inj.mp hl
      exact (Location.track.inj hown).2.2.1
    exact ⟨_, .group b hg, rfl⟩

lemma exists_location_of_child (hn : n.location? = some l) (hc : child ∈ A.children n) :
    ∃ own, child.location? = some own ∧ own.parent? = some l := by
  cases n with
  | root =>
    obtain ⟨g, -, rfl⟩ := List.mem_map.mp hc
    exact ⟨_, rfl, hn⟩
  | category g =>
    obtain ⟨b, -, rfl⟩ := List.mem_map.mp hc
    exact ⟨_, rfl, hn⟩
  | bucket g b =>
    obtain ⟨group, -, rfl⟩ := List.mem_map.mp hc
    exact ⟨_, rfl, hn⟩
  | group g b group =>
    obtain ⟨track, -, rfl⟩ := List.mem_map.mp hc
    exact ⟨_, rfl, hn⟩
  | track => contradiction
  | detached => contradiction

end Answers

namespace Filesystem

variable {σ : Type} {f : Filesystem σ} {I : σ → Prop} {A : Answers} {n above : Node}
  {l : Location} {w : σ}

/-- Whether the step up from a node leads to another one in all states with a property, and to a
state with that property; and what is above it according to the locations of the two. -/
structure StepsUp (f : Filesystem σ) (I : σ → Prop) (n above : Node) : Prop where
  parent_eq : ∀ w, I w → ∃ w', I w' ∧ f.parent n w = (.ok (some above), w')
  location?_eq : above.location? = n.location?.bind Location.parent?

/-- The step up leads to the node at the location above. -/
lemma stepsUp_of_finds (hA : f.catalog.Gives I A) {p : Location} (hl : n.location? = some l)
    (hp : l.parent? = some p) (h : A.Finds p above) (habove : above.location? = some p) :
    f.StepsUp I n above where
  parent_eq w hw := by
    obtain ⟨w', hfinds⟩ := hA.exists_finds hw h
    refine ⟨w', (hA.finds hw hfinds).2, ?_⟩
    rw [parent, hl, Option.bind_some, hp]
    exact resolveLocation_eq_iff.mpr hfinds
  location?_eq := by rw [hl, Option.bind_some, hp, habove]

/-- From a node that is found at its own location the way leads up to the root. -/
lemma exists_way_up (hA : f.catalog.Gives I A) (hl : n.location? = some l) (h : A.Finds l n) :
    ∃ way : List Node, way.map Node.location? = l.ancestors.map some ∧
      (n :: way).IsChain (f.StepsUp I) ∧ (n :: way).getLast? = some .root := by
  induction hd : l.depth generalizing n l with
  | zero =>
    cases h with
    | root => exact ⟨[], rfl, .singleton _, rfl⟩
    | _ => contradiction
  | succ depth ih =>
    have hp : ∃ p, l.parent? = some p := by
      cases l with
      | root => contradiction
      | _ => exact ⟨_, rfl⟩
    obtain ⟨p, hp⟩ := hp
    obtain ⟨above, hfinds, habove⟩ := Answers.exists_finds_above hl h hp
    have hdepth : p.depth = depth := by
      have hstep := Location.depth_parent hp
      omega
    obtain ⟨way, hlocations, hchain, hroot⟩ := ih habove hfinds hdepth
    refine ⟨above :: way, ?_, .cons_cons (stepsUp_of_finds hA hl hp hfinds habove) hchain, ?_⟩
    · rw [Location.ancestors_eq l, hp, List.map_cons, List.map_cons, hlocations, habove]
    · rw [List.getLast?_cons_cons, hroot]

/-- Whoever goes up step by step comes along the way, and stops at the root. -/
lemma ancestorsWithin_eq {way : List Node} (hchain : (n :: way).IsChain (f.StepsUp I))
    (hroot : (n :: way).getLast? = some .root) (hw : I w) {steps : Nat}
    (hsteps : way.length ≤ steps) : (f.ancestorsWithin steps n w).1 = .ok way := by
  induction way generalizing n w steps with
  | nil =>
    obtain rfl : n = .root := by simpa using hroot
    cases steps <;> rfl
  | cons above way ih =>
    obtain ⟨steps, rfl⟩ := Nat.exists_eq_add_one_of_ne_zero (Nat.ne_zero_of_lt hsteps)
    obtain ⟨hstep, hrest⟩ := List.isChain_cons_cons.mp hchain
    obtain ⟨w', hw', hparent⟩ := hstep.parent_eq w hw
    have hfurther := ih hrest (by rwa [List.getLast?_cons_cons] at hroot) hw'
      (Nat.le_of_succ_le_succ hsteps)
    rw [ancestorsWithin, hparent]
    simp [hfurther, Except.map]

/-- A node in the tree is found at its own location, whatever identifier it was resolved from. -/
lemma finds_of_resolved (hA : f.catalog.Gives I A) (hexact : A.IsExact) (hw : I w) {s : String}
    (hn : (f.resolve s w).1 = .ok (some n)) (hl : n.location? = some l) : A.Finds l n := by
  rcases (resolve_fst_eq_iff hA hw).mp hn with hd | ⟨-, other, -, hfinds⟩
  · obtain ⟨url, track, rfl, -⟩ := exists_of_detached? hd
    contradiction
  · obtain ⟨own, hown, hfound⟩ := hfinds.own hexact
    rw [hl, Option.some_inj] at hown
    rwa [hown]

/-- A node that has been resolved has no location if and only if it is a detached file, whose URL
the identifier then is. Otherwise the steps up from it lead to as many nodes as the node is deep, of
which the last one is the root, and the root has no parent; the location of each of them is the one
above the location before. No step fails or finds nothing, however many are taken; and from each
child that the node lists a step up leads back to the node. -/
theorem ancestry_closes_up (hA : f.catalog.Gives I A) (hexact : A.IsExact) {s : String} (hw : I w)
    (hn : (f.resolve s w).1 = .ok (some n)) :
    (n.location? = none ↔ f.detached? s = some n) ∧
    ∀ l, n.location? = some l →
      (∃ way : List Node, way.length = l.depth ∧ way.map Node.location? = l.ancestors.map some ∧
        (n :: way).IsChain (f.StepsUp I) ∧ (n :: way).getLast? = some .root ∧
        (∀ w, f.parent .root w = (.ok none, w)) ∧
        ∀ steps w, l.depth ≤ steps → I w → (f.ancestorsWithin steps n w).1 = .ok way) ∧
      ∀ listing, f.children? n = some listing → ∀ w, I w → ∀ child ∈ listing.items w,
        f.StepsUp I child n := by
  have hfinds (l : Location) (hl : n.location? = some l) : A.Finds l n :=
    finds_of_resolved hA hexact hw hn hl
  refine ⟨⟨fun hnone => ?_, fun hd => ?_⟩, fun l hl => ⟨?_, ?_⟩⟩
  · rcases (resolve_fst_eq_iff hA hw).mp hn with hd | ⟨-, other, -, hfinds⟩
    · exact hd
    · obtain ⟨own, hown, -⟩ := hfinds.own hexact
      rw [hnone] at hown
      contradiction
  · obtain ⟨url, track, rfl, -⟩ := exists_of_detached? hd
    rfl
  · obtain ⟨way, hlocations, hchain, hroot⟩ := exists_way_up hA hl (hfinds l hl)
    have hlength : way.length = l.depth := by
      have heq := congrArg List.length hlocations
      rwa [List.length_map, List.length_map, Location.length_ancestors] at heq
    refine ⟨way, hlength, hlocations, hchain, hroot, fun _ => rfl, fun steps w hsteps hw => ?_⟩
    exact ancestorsWithin_eq hchain hroot hw (hlength ▸ hsteps)
  · intro listing hlisting w hw child hc
    rw [items_of_children? hA hlisting hw] at hc
    obtain ⟨own, hown, hp⟩ := Answers.exists_location_of_child hl hc
    exact stepsUp_of_finds hA hown hp (hfinds l hl) hl

/-- The way up from a file whose identifier names the group as it was called before. -/
theorem ancestry_closes_up_outdatedName :
    let f := ofMemory "modland" "ftp.modland.com"
    let m : MemoryCatalog :=
      { groups := [(.authors, ⟨42, "Beispiel", 1⟩)]
        tracks := [((.authors, 42), [.ofPath "/pub/a/x.mod" 8])] }
    let n : Node := .track .authors (.letter 1) ⟨42, "Beispiel"⟩ (.ofPath "/pub/a/x.mod" 8)
    (f.resolve "modland:/Authors/B/Example/x.mod?id=42" m).1 = .ok (some n) ∧
      f.detached? "modland:/Authors/B/Example/x.mod?id=42" ≠ some n ∧
      ∃ way : List Node, way.length = 4 ∧ (n :: way).IsChain (f.StepsUp m.Agrees) ∧
        (n :: way).getLast? = some .root ∧
        (f.ancestorsWithin 9 n m).1 = .ok way := by
  intro f m n
  have hA : f.catalog.Gives m.Agrees m.answers := MemoryCatalog.gives_answers m
  have hexact : m.answers.IsExact := MemoryCatalog.isExact_catalog.answers hA m.agrees_self
  have hn : (f.resolve "modland:/Authors/B/Example/x.mod?id=42" m).1 = .ok (some n) := by
    decide +kernel
  obtain ⟨hdetached, htree⟩ := ancestry_closes_up hA hexact m.agrees_self hn
  obtain ⟨⟨way, hlength, -, hchain, hroot, -, hways⟩, -⟩ := htree _ rfl
  refine ⟨hn, fun hd => ?_, way, hlength, hchain, hroot, hways 9 m (by decide) m.agrees_self⟩
  exact Option.some_ne_none _ (hdetached.mpr hd)

end Filesystem

end ModuleArchive
