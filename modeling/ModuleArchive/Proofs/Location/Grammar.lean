import ModuleArchive.Proofs.Location.RoundTrip

/-!
# The grammar of identifiers

An identifier is a scheme in any case, a colon and an absolute path with at most one query in it
or behind it. The path is cut at its slashes, empty pieces count for nothing, and the other ones
spell names that lead from the root to a location. The grammar is given here as relations between
the parts of a text and what they stand for, without saying how the parts are found; the reader
accepts a text if and only if the grammar derives it, and then gives the location derived.
-/
namespace ModuleArchive.Location

/-! ### The grammar -/

/-- The path and the query of what follows the scheme. The query is what stands between the first
question mark and the next slash or the end; what follows the query is path again. -/
inductive Parts : List Char → List Char → Option (List Char) → Prop where
  | noQuery {path : List Char} (hp : '?' ∉ path) : Parts path path none
  | queryBehind {path query : List Char} (hp : '?' ∉ path) (hq : '/' ∉ query) :
      Parts (path ++ '?' :: query) path (some query)
  | queryInside {before query after : List Char} (hp : '?' ∉ before) (hq : '/' ∉ query) :
      Parts (before ++ '?' :: (query ++ '/' :: after)) (before ++ '/' :: after) (some query)

/-- Whether a raw segment, its escapes undone, is a name in UTF-8. -/
def Spells (raw : List Char) (name : String) : Prop :=
  Percent.decodeText raw = Utf8.encode name.toList

/-- Whether the first parameter `id` of a query has a number in canonical decimal form as its
value. -/
inductive GivesId : Option (List Char) → UInt32 → Prop where
  | intro {query : List Char} {before after : List (List Char)} {id : UInt32}
      (cut : Text.IsCut '&' query (before ++ ("id=".toList ++ Decimal.digits id.toNat) :: after))
      (first : ∀ pair ∈ before, ¬ "id=".toList <+: pair) : GivesId (some query) id

/-- Which location some names and a query lead to. -/
inductive LeadsTo (query : Option (List Char)) : List String → Location → Prop where
  | root : LeadsTo query [] .root
  | category (g : Grouping) : LeadsTo query [g.path] (.category g)
  | bucket (g : Grouping) (b : Bucket) : LeadsTo query [g.path, b.text] (.bucket g b)
  | group (g : Grouping) (b : Bucket) {id : UInt32} (name : String) (h : GivesId query id) :
      LeadsTo query [g.path, b.text, name] (.group g b ⟨id, name⟩)
  | track (g : Grouping) (b : Bucket) {id : UInt32} (name filename : String)
      (h : GivesId query id) :
      LeadsTo query [g.path, b.text, name, filename] (.track g b ⟨id, name⟩ filename)

/-- Whether an identifier under a scheme names a location. -/
inductive Derives (scheme : String) : String → Location → Prop where
  | intro {identifier : String} {l : Location} {found rest path : List Char}
      {query : Option (List Char)} {pieces : List (List Char)} {names : List String}
      (written : identifier.toList = found ++ ':' :: rest) (first : ':' ∉ found)
      (same : found.map Char.toLower = scheme.toList.map Char.toLower)
      (absolute : rest.head? = some '/') (parts : Parts rest path query)
      (cut : Text.IsCut '/' path pieces)
      (spelled : List.Forall₂ Spells (pieces.filter (!·.isEmpty)) names)
      (leads : LeadsTo query names l) : Derives scheme identifier l

/-! ### The parts of an identifier -/

lemma dropScheme?_eq_some_iff {scheme identifier rest : List Char} :
    dropScheme? scheme identifier = some rest ↔
      ∃ found, identifier = found ++ ':' :: rest ∧ ':' ∉ found ∧
        found.map Char.toLower = scheme.map Char.toLower := by
  constructor
  · intro h
    rw [dropScheme?] at h
    split at h
    · next found after hs =>
      obtain ⟨rfl, hfound⟩ := Text.eq_append_of_splitFirst? hs
      split at h
      · next hsame =>
        obtain rfl := Option.some_inj.mp h
        exact ⟨found, rfl, hfound, by simpa [sameIgnoringCase] using hsame⟩
      · contradiction
    · contradiction
  · rintro ⟨found, rfl, hfound, hsame⟩
    simp [dropScheme?, Text.splitFirst?_append hfound, sameIgnoringCase, hsame]

lemma splitQuery_of_parts {rest path : List Char} {query : Option (List Char)}
    (h : Parts rest path query) : splitQuery rest = (path, query) := by
  cases h with
  | noQuery hp => simp [splitQuery, Text.splitFirst?_of_notMem hp]
  | queryBehind hp hq =>
    simp [splitQuery, Text.splitFirst?_append hp, Text.splitFirst?_of_notMem hq]
  | queryInside hp hq => simp [splitQuery, Text.splitFirst?_append hp, Text.splitFirst?_append hq]

lemma parts_splitQuery (rest : List Char) :
    Parts rest (splitQuery rest).1 (splitQuery rest).2 := by
  rw [splitQuery]
  split
  · next hs => exact .noQuery (Text.splitFirst?_eq_none_iff.mp hs)
  · next path after hs =>
    obtain ⟨rfl, hp⟩ := Text.eq_append_of_splitFirst? hs
    split
    · next query tail ht =>
      obtain ⟨rfl, hq⟩ := Text.eq_append_of_splitFirst? ht
      exact .queryInside hp hq
    · next ht => exact .queryBehind hp (Text.splitFirst?_eq_none_iff.mp ht)

/-! ### Segments -/

lemma readSegment?_eq_some_iff {raw : List Char} {name : String} :
    readSegment? raw = some name ↔ Spells raw name := by
  rw [readSegment?, Option.map_eq_some_iff]
  constructor
  · rintro ⟨text, ht, rfl⟩
    rw [Spells, Utf8.decode?_eq_some_iff.mp ht, String.toList_ofList]
  · intro h
    exact ⟨name.toList, Utf8.decode?_eq_some_iff.mpr h, String.ofList_toList⟩

lemma readSegments?_eq_some_iff {path : List Char} {names : List String} :
    readSegments? path = some names ↔
      ∃ pieces, Text.IsCut '/' path pieces ∧
        List.Forall₂ Spells (pieces.filter (!·.isEmpty)) names := by
  simp only [readSegments?, mapM_eq_some_iff, readSegment?_eq_some_iff]
  constructor
  · intro h
    exact ⟨_, Text.splitOn_eq_iff.mp rfl, h⟩
  · rintro ⟨pieces, hcut, h⟩
    rwa [Text.splitOn_eq_iff.mpr hcut]

/-! ### The number of a group -/

lemma readGroupId?_eq_some_iff {text : List Char} {id : UInt32} :
    readGroupId? text = some id ↔ text = Decimal.digits id.toNat := by
  constructor
  · intro h
    rw [readGroupId?] at h
    split at h
    · next hc =>
      obtain ⟨hcanonical, hlt⟩ : Decimal.isCanonical text = true ∧
          Decimal.value 0 text < UInt32.size := by simpa using hc
      obtain rfl := Option.some_inj.mp h
      rw [UInt32.toNat_ofNat_of_lt' hlt, Decimal.digits_value hcanonical]
    · contradiction
  · rintro rfl
    exact readGroupId?_digits id

lemma splitFirst?_id_iff {pair value : List Char} :
    Text.splitFirst? '=' pair = some (['i', 'd'], value) ↔ pair = "id=".toList ++ value := by
  rw [Text.splitFirst?_eq_some_iff]
  simp

/-- A parameter is called `id` if and only if it starts with the name and the equals sign. -/
lemma any_splitFirst?_iff {pair : List Char} :
    (Text.splitFirst? '=' pair).any (·.1 == ['i', 'd']) = true ↔ "id=".toList <+: pair := by
  rw [Option.any_eq_true]
  constructor
  · rintro ⟨⟨key, value⟩, hs, hkey⟩
    obtain rfl := eq_of_beq hkey
    exact ⟨value, (splitFirst?_id_iff.mp hs).symm⟩
  · rintro ⟨value, rfl⟩
    exact ⟨(['i', 'd'], value), splitFirst?_id_iff.mpr rfl, by simp⟩

lemma idParameter?_eq_some_iff {query value : List Char} :
    idParameter? query = some value ↔
      ∃ before after, Text.IsCut '&' query (before ++ ("id=".toList ++ value) :: after) ∧
        ∀ pair ∈ before, ¬ "id=".toList <+: pair := by
  simp only [idParameter?, List.find?_filterMap, ← any_splitFirst?_iff]
  constructor
  · intro h
    obtain ⟨⟨key, v⟩, hbind, rfl⟩ := Option.map_eq_some_iff.mp h
    obtain ⟨pair, hfind, hpair⟩ := Option.bind_eq_some_iff.mp hbind
    obtain ⟨hid, before, after, hsplit, hbefore⟩ := List.find?_eq_some_iff_append.mp hfind
    have hkey : key = ['i', 'd'] := by simpa [hpair] using hid
    subst hkey
    obtain rfl := splitFirst?_id_iff.mp hpair
    refine ⟨before, after, Text.splitOn_eq_iff.mp hsplit, ?_⟩
    intro other hm
    simpa using hbefore other hm
  · rintro ⟨before, after, hcut, hbefore⟩
    have hpair : Text.splitFirst? '=' ("id=".toList ++ value) = some (['i', 'd'], value) :=
      splitFirst?_id_iff.mpr rfl
    have hfind : (Text.splitOn '&' query).find?
        (fun pair => (Text.splitFirst? '=' pair).any (·.1 == ['i', 'd'])) =
          some ("id=".toList ++ value) := by
      rw [List.find?_eq_some_iff_append]
      refine ⟨by rw [hpair]; rfl, before, after, Text.splitOn_eq_iff.mpr hcut, ?_⟩
      intro other hm
      simpa using hbefore other hm
    rw [hfind, Option.bind_some, hpair, Option.map_some]

lemma queryId?_eq_some_iff {query : Option (List Char)} {id : UInt32} :
    queryId? query = some id ↔ GivesId query id := by
  constructor
  · intro h
    obtain ⟨value, hvalue, hid⟩ := Option.bind_eq_some_iff.mp h
    obtain ⟨text, rfl, hparam⟩ := Option.bind_eq_some_iff.mp hvalue
    obtain rfl := readGroupId?_eq_some_iff.mp hid
    obtain ⟨before, after, hcut, hfirst⟩ := idParameter?_eq_some_iff.mp hparam
    exact ⟨hcut, hfirst⟩
  · rintro ⟨hcut, hfirst⟩
    rw [queryId?, Option.bind_some, idParameter?_eq_some_iff.mpr ⟨_, _, hcut, hfirst⟩,
      Option.bind_some, readGroupId?_digits]

/-! ### Locations -/

/-- The texts of buckets are the number sign and the upper-case letters. -/
lemma exists_bucket_text_iff {text : String} :
    (∃ b : Bucket, b.text = text) ↔
      text = "#" ∨ ∃ c, 'A' ≤ c ∧ c ≤ 'Z' ∧ text = String.singleton c := by
  constructor
  · rintro ⟨b, rfl⟩
    cases b with
    | nonLetter => exact .inl rfl
    | letter i =>
      right
      refine ⟨Bucket.toChar (.letter i), ?_, ?_, rfl⟩
      · revert i
        decide
      · revert i
        decide
  · rintro (rfl | ⟨c, hl, hh, rfl⟩)
    · exact ⟨.nonLetter, rfl⟩
    · have hc : 0x41 ≤ c.toNat ∧ c.toNat ≤ 0x5A := ⟨hl, hh⟩
      have hb : Bucket.ofLetter? c = some (.letter ⟨c.toNat - 0x41, by omega⟩) := by
        rw [Bucket.ofLetter?, dif_pos hc]
      exact ⟨_, by rw [Bucket.text, toChar_of_ofLetter? hb]⟩

lemma ofSegments_of_leadsTo {query : Option (List Char)} {names : List String} {l : Location}
    (h : LeadsTo query names l) : ofSegments query names = .ok l := by
  cases h with
  | root => rfl
  | category g => exact ofSegments_segments (.category g) (by simp [groupRef?])
  | bucket g b => exact ofSegments_segments (.bucket g b) (by simp [groupRef?])
  | @group g b id name h =>
    refine ofSegments_segments (.group g b ⟨id, name⟩) ?_
    simpa [groupRef?] using queryId?_eq_some_iff.mpr h
  | @track g b id name filename h =>
    refine ofSegments_segments (.track g b ⟨id, name⟩ filename) ?_
    simpa [groupRef?] using queryId?_eq_some_iff.mpr h

lemma leadsTo_of_ofSegments {query : Option (List Char)} {names : List String} {l : Location}
    (hd : names.length ≤ maxDepth) (h : ofSegments query names = .ok l) :
    LeadsTo query names l := by
  rw [ofSegments.eq_def] at h
  split at h
  · obtain rfl := Except.ok.inj h
    exact .root
  · split at h
    · contradiction
    · next g hg =>
      obtain rfl := path_of_ofPath? hg
      split at h
      · obtain rfl := Except.ok.inj h
        exact .category g
      · split at h
        · contradiction
        · next b hb =>
          obtain rfl := text_of_ofText? hb
          split at h
          · obtain rfl := Except.ok.inj h
            exact .bucket g b
          · split at h
            · contradiction
            · next id hid =>
              have hgives := queryId?_eq_some_iff.mp hid
              split at h
              · obtain rfl := Except.ok.inj h
                exact .group g b _ hgives
              · next filename rest =>
                obtain rfl := Except.ok.inj h
                obtain rfl : rest = [] := by
                  simp only [List.length_cons, maxDepth] at hd
                  exact List.length_eq_zero_iff.mp (by omega)
                exact .track g b _ filename hgives

lemma LeadsTo.length_le {query : Option (List Char)} {names : List String} {l : Location}
    (h : LeadsTo query names l) : names.length ≤ maxDepth := by
  cases h <;> simp [maxDepth]

lemma decode_eq_ok_iff {scheme identifier : String} {l : Location} :
    decode scheme identifier = .ok l ↔ Derives scheme identifier l := by
  constructor
  · intro h
    rw [decode] at h
    split at h
    · contradiction
    · next rest hrest =>
      obtain ⟨found, hwritten, hfirst, hsame⟩ := dropScheme?_eq_some_iff.mp hrest
      split at h
      · contradiction
      · next habsolute =>
        simp only [ne_eq, Decidable.not_not] at habsolute
        simp only at h
        split at h
        · contradiction
        · next names hread =>
          obtain ⟨pieces, hcut, hspelled⟩ := readSegments?_eq_some_iff.mp hread
          split at h
          · contradiction
          · next hdepth =>
            exact ⟨hwritten, hfirst, hsame, habsolute, parts_splitQuery rest, hcut, hspelled,
              leadsTo_of_ofSegments (by omega) h⟩
  · rintro ⟨hwritten, hfirst, hsame, habsolute, hparts, hcut, hspelled, hleads⟩
    have hdrop := dropScheme?_eq_some_iff.mpr ⟨_, hwritten, hfirst, hsame⟩
    have hread := readSegments?_eq_some_iff.mpr ⟨_, hcut, hspelled⟩
    have hdepth := hleads.length_le
    rw [decode, hdrop]
    simp only [habsolute, ne_eq, not_true_eq_false, if_false, splitQuery_of_parts hparts, hread]
    rw [if_neg (by omega), ofSegments_of_leadsTo hleads]

/-- Behind the path and inside it, a query is taken out the same way. -/
lemma decode_moved_query (scheme : String) {found before query after : List Char}
    (hfound : ':' ∉ found) (hbefore : before ≠ []) (hb : '?' ∉ before) (ha : '?' ∉ after)
    (hq : '/' ∉ query) :
    decode scheme
        (String.ofList (found ++ ':' :: (before ++ '?' :: (query ++ '/' :: after)))) =
      decode scheme
        (String.ofList (found ++ ':' :: ((before ++ '/' :: after) ++ '?' :: query))) := by
  have hinside : splitQuery (before ++ '?' :: (query ++ '/' :: after)) =
      (before ++ '/' :: after, some query) :=
    splitQuery_of_parts (.queryInside hb hq)
  have hbehind : splitQuery ((before ++ '/' :: after) ++ '?' :: query) =
      (before ++ '/' :: after, some query) :=
    splitQuery_of_parts (.queryBehind (by simp [hb, ha]) hq)
  have hhead : (before ++ '?' :: (query ++ '/' :: after)).head? =
      ((before ++ '/' :: after) ++ '?' :: query).head? := by
    rw [List.append_assoc, List.head?_append_of_ne_nil _ hbefore,
      List.head?_append_of_ne_nil _ hbefore]
  simp only [decode, dropScheme?, String.toList_ofList, Text.splitFirst?_append hfound]
  cases sameIgnoringCase found scheme.toList with
  | false => rfl
  | true => simp only [if_true, hhead, hinside, hbehind]

/-- A location is read if and only if the grammar derives it. The letter of a bucket is the number
sign or an upper-case one, and a query may as well stand behind the segment of the group. -/
theorem decode_follows_grammar :
    (∀ (scheme identifier : String) (l : Location),
      decode scheme identifier = .ok l ↔ Derives scheme identifier l) ∧
    (∀ text : String, (∃ b : Bucket, b.text = text) ↔
      text = "#" ∨ ∃ c, 'A' ≤ c ∧ c ≤ 'Z' ∧ text = String.singleton c) ∧
    (∀ (scheme : String) (found before query after : List Char),
      ':' ∉ found → before ≠ [] → '?' ∉ before → '?' ∉ after → '/' ∉ query →
      decode scheme
          (String.ofList (found ++ ':' :: (before ++ '?' :: (query ++ '/' :: after)))) =
        decode scheme
          (String.ofList (found ++ ':' :: ((before ++ '/' :: after) ++ '?' :: query)))) := by
  refine ⟨fun _ _ _ => decode_eq_ok_iff, fun _ => exists_bucket_text_iff, ?_⟩
  intro scheme found before query after hfound hbefore hb ha hq
  exact decode_moved_query scheme hfound hbefore hb ha hq

/-- A query with two parameters stands behind the segment of the group, and is moved to the end. -/
theorem decode_follows_grammar_movedQuery :
    Derives "modland" "MODLAND:/Authors//B/50%25?x=1&id=42/a.mod"
        (.track .authors (.letter 1) ⟨42, "50%"⟩ "a.mod") ∧
      decode "modland" "MODLAND:/Authors//B/50%25?x=1&id=42/a.mod" =
        decode "modland" "MODLAND:/Authors//B/50%25/a.mod?x=1&id=42" :=
  ⟨(decode_follows_grammar.1 _ _ _).mp (by decide +kernel),
    decode_follows_grammar.2.2 "modland" "MODLAND".toList "/Authors//B/50%25".toList
      "x=1&id=42".toList "a.mod".toList (by decide) (by decide) (by decide) (by decide)
      (by decide)⟩

end ModuleArchive.Location
