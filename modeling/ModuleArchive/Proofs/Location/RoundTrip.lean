import ModuleArchive.Config.Basic
import ModuleArchive.Location.Identifier
import ModuleArchive.Proofs.Text.Decimal
import ModuleArchive.Proofs.Text.Percent
import ModuleArchive.Proofs.Text.Split

/-!
# Identifiers name locations

A location is read back from its identifier. The slashes and question marks of an identifier
are those that the writer put there: escaped names hold neither, so the path and the query come
apart where they were put together. What can be read can be written, because no segment that is
read is empty.
-/
namespace ModuleArchive.Location

/-- Whether the group and the file of a location, where it has them, have a name. -/
def IsNamed : Location → Prop
  | root | category _ | bucket _ _ => True
  | group _ _ r => r.name ≠ ""
  | track _ _ r filename => r.name ≠ "" ∧ filename ≠ ""

instance : (l : Location) → Decidable l.IsNamed
  | root | category _ | bucket _ _ => .isTrue trivial
  | group _ _ r => inferInstanceAs (Decidable (r.name ≠ ""))
  | track _ _ r filename => inferInstanceAs (Decidable (r.name ≠ "" ∧ filename ≠ ""))

lemma isNamed_iff (l : Location) : l.IsNamed ↔ ∀ name ∈ l.segments, name ≠ "" := by
  have hg (g : Grouping) : g.path ≠ "" := by cases g <;> decide
  have hb (b : Bucket) : b.text ≠ "" := by simp [Bucket.text]
  cases l <;> simp [IsNamed, segments, hg, hb]

lemma encode_eq_ok {l : Location} (h : l.IsNamed) (scheme : String) :
    encode scheme l = .ok (String.ofList
      (scheme.toList ++ ':' :: (writePath l.segments ++ writeQuery l.groupRef?))) := by
  have hany : ¬ l.segments.any (·.isEmpty) = true := by
    rw [List.any_eq_true]
    rintro ⟨name, hm, he⟩
    exact (isNamed_iff l).mp h name hm (String.isEmpty_iff.mp he)
  rw [encode, if_neg hany]

lemma isNamed_of_encode {scheme text : String} {l : Location} (h : encode scheme l = .ok text) :
    l.IsNamed := by
  rw [encode] at h
  split at h
  · contradiction
  · next hany =>
    rw [isNamed_iff]
    rintro name hm rfl
    exact hany (List.any_eq_true.mpr ⟨"", hm, rfl⟩)

/-! ### The scheme -/

lemma dropScheme?_append {scheme : List Char} (h : ':' ∉ scheme) (rest : List Char) :
    dropScheme? scheme (scheme ++ ':' :: rest) = some rest := by
  simp [dropScheme?, Text.splitFirst?_append h, sameIgnoringCase]

/-- A scheme that is found in front of a colon has none itself. -/
lemma notMem_of_dropScheme? {scheme identifier rest : List Char}
    (h : dropScheme? scheme identifier = some rest) : ':' ∉ scheme := by
  rw [dropScheme?] at h
  split at h
  · next found after hs =>
    obtain ⟨-, hfound⟩ := Text.eq_append_of_splitFirst? hs
    split at h
    · next hsame =>
      have heq : found.map Char.toLower = scheme.map Char.toLower := by
        simpa [sameIgnoringCase] using hsame
      intro hm
      have hlow : ':'.toLower ∈ found.map Char.toLower := by
        rw [heq]
        exact List.mem_map_of_mem hm
      obtain ⟨c, hc, hcolon⟩ := List.mem_map.mp hlow
      rw [Percent.eq_of_toLower (by decide) hcolon] at hc
      exact hfound hc
    · contradiction
  · contradiction

lemma notMem_of_isScheme {scheme : List Char} (h : Config.isScheme scheme = true) :
    ':' ∉ scheme := by
  cases scheme with
  | nil => contradiction
  | cons c rest =>
    obtain ⟨hc, hr⟩ := Bool.and_eq_true_iff.mp h
    intro hm
    rcases List.mem_cons.mp hm with rfl | hm
    · contradiction
    · exact absurd (List.all_eq_true.mp hr _ hm) (by decide)

lemma isScheme_of_validate {c : Config} (h : c.validate = .ok ()) :
    Config.isScheme c.scheme.toList = true := by
  by_contra hs
  rw [Bool.not_eq_true] at hs
  simp [Config.validate, hs, bind, Except.bind, throw, throwThe, MonadExceptOf.throw] at h

/-! ### The path -/

lemma slash_notMem_encode (name : String) : '/' ∉ Percent.encode isReserved name.toList :=
  Percent.notMem_encode (by decide) (by decide) _

lemma mark_notMem_writePath (names : List String) : '?' ∉ writePath names := by
  have hname (name : String) : '?' ∉ Percent.encode isReserved name.toList :=
    Percent.notMem_encode (by decide) (by decide) _
  cases names with
  | nil => simp [writePath]
  | cons name names =>
    intro h
    obtain ⟨name, -, hm⟩ := List.mem_flatMap.mp h
    rcases List.mem_cons.mp hm with heq | hm
    · contradiction
    · exact hname name hm

lemma filter_splitOn_writePath {names : List String} (h : ∀ name ∈ names, name ≠ "") :
    (Text.splitOn '/' (writePath names)).filter (!·.isEmpty) =
      names.map fun name => Percent.encode isReserved name.toList := by
  cases names with
  | nil => rfl
  | cons name names =>
    have hslash : ∀ piece ∈ (name :: names).map fun name => Percent.encode isReserved name.toList,
        '/' ∉ piece := by
      intro piece hm
      obtain ⟨name, -, rfl⟩ := List.mem_map.mp hm
      exact slash_notMem_encode name
    have hwritten : writePath (name :: names) = [] ++ ((name :: names).map fun name =>
        Percent.encode isReserved name.toList).flatMap ('/' :: ·) := by
      rw [List.nil_append, List.flatMap_map]
      rfl
    rw [hwritten, Text.splitOn_append_flatMap List.not_mem_nil hslash,
      List.filter_cons_of_neg (by simp), List.filter_eq_self]
    · intro piece hm
      obtain ⟨name, hname, rfl⟩ := List.mem_map.mp hm
      have hne : name.toList ≠ [] := by simpa using h name hname
      simpa using Percent.encode_ne_nil (by decide) hne

lemma readSegment?_encode (name : String) :
    readSegment? (Percent.encode isReserved name.toList) = some name := by
  rw [readSegment?, Percent.decodeText_encode (by decide), Utf8.decode?_encode, Option.map_some,
    String.ofList_toList]

lemma readSegments?_writePath {names : List String} (h : ∀ name ∈ names, name ≠ "") :
    readSegments? (writePath names) = some names := by
  rw [readSegments?, filter_splitOn_writePath h, mapM_eq_some_iff, List.forall₂_map_left_iff,
    List.forall₂_same]
  intro name _
  exact readSegment?_encode name

lemma ne_empty_of_readSegments? {path : List Char} {names : List String}
    (h : readSegments? path = some names) : ∀ name ∈ names, name ≠ "" := by
  intro name hm
  obtain ⟨raw, hraw, hread⟩ := exists_of_mem_mapM h hm
  have hne : raw ≠ [] := by simpa using (List.mem_filter.mp hraw).2
  obtain ⟨text, htext, rfl⟩ := Option.map_eq_some_iff.mp hread
  have ht := Utf8.ne_nil_of_decode? htext (Percent.decodeText_ne_nil hne)
  simpa using ht

/-! ### The query -/

lemma notMem_digits {c : Char} (h : Decimal.isDigit c = false) (n : Nat) :
    c ∉ Decimal.digits n := by
  intro hm
  rw [Decimal.isDigit_of_mem_digits hm] at h
  contradiction

lemma readGroupId?_digits (id : UInt32) : readGroupId? (Decimal.digits id.toNat) = some id := by
  have hlt : id.toNat < UInt32.size := id.toNat_lt
  rw [readGroupId?, Decimal.isCanonical_digits, Decimal.value_digits]
  simp [hlt]

lemma queryId?_digits (id : UInt32) :
    queryId? (some ("id=".toList ++ Decimal.digits id.toNat)) = some id := by
  have hamp : '&' ∉ "id=".toList ++ Decimal.digits id.toNat := by
    simp [notMem_digits (show Decimal.isDigit '&' = false by decide)]
  have hpair : Text.splitFirst? '=' ("id=".toList ++ Decimal.digits id.toNat) =
      some (['i', 'd'], Decimal.digits id.toNat) := by
    have hkey : '=' ∉ ['i', 'd'] := by decide
    exact Text.splitFirst?_append hkey _
  have hparam : idParameter? ("id=".toList ++ Decimal.digits id.toNat) =
      some (Decimal.digits id.toNat) := by
    simp only [idParameter?, Text.splitOn_of_notMem hamp, List.filterMap_cons, hpair]
    rfl
  rw [queryId?, Option.bind_some, hparam, Option.bind_some, readGroupId?_digits]

/-- The path and the query of an identifier come apart where they were put together. -/
lemma splitQuery_write (names : List String) (r : Option GroupRef) :
    splitQuery (writePath names ++ writeQuery r) =
      (writePath names, r.map fun r => "id=".toList ++ Decimal.digits r.id.toNat) := by
  have hpath := mark_notMem_writePath names
  cases r with
  | none =>
    rw [writeQuery, List.append_nil, splitQuery, Text.splitFirst?_of_notMem hpath]
    rfl
  | some r =>
    have hslash : '/' ∉ "id=".toList ++ Decimal.digits r.id.toNat := by
      simp [notMem_digits (show Decimal.isDigit '/' = false by decide)]
    have hmark : writeQuery (some r) = '?' :: ("id=".toList ++ Decimal.digits r.id.toNat) := rfl
    simp only [hmark, splitQuery, Text.splitFirst?_append hpath, Text.splitFirst?_of_notMem hslash,
      Option.map_some]

/-! ### Locations -/

lemma path_of_ofPath? {segment : String} {g : Grouping} (h : Grouping.ofPath? segment = some g) :
    g.path = segment := by
  simpa using List.find?_some h

lemma toChar_of_ofLetter? {c : Char} {b : Bucket} (h : Bucket.ofLetter? c = some b) :
    b.toChar = c := by
  rw [Bucket.ofLetter?] at h
  split at h
  · next hc =>
    obtain rfl := Option.some_inj.mp h
    have hn : 0x41 + (c.toNat - 0x41) = c.toNat := by omega
    rw [Bucket.toChar, hn, Char.ofNat_toNat]
  · contradiction

lemma text_of_ofText? {letter : String} {b : Bucket} (h : Bucket.ofText? letter.toList = some b) :
    b.text = letter := by
  have hchar : [b.toChar] = letter.toList := by
    generalize letter.toList = chars at h
    rw [Bucket.ofText?.eq_def] at h
    split at h
    · split at h
      · next hc =>
        obtain rfl := Option.some_inj.mp h
        rw [hc]
        rfl
      · rw [toChar_of_ofLetter? h]
    · contradiction
  rw [Bucket.text, ← String.toList_inj, String.toList_singleton, hchar]

lemma ofSegments_segments (l : Location) {query : Option (List Char)}
    (h : ∀ r, l.groupRef? = some r → queryId? query = some r.id) :
    ofSegments query l.segments = .ok l := by
  cases l with
  | root => rfl
  | category g => simp [segments, ofSegments]
  | bucket g b => simp [segments, ofSegments, Bucket.text]
  | group g b r => simp [segments, ofSegments, Bucket.text, h r rfl]
  | track g b r filename => simp [segments, ofSegments, Bucket.text, h r rfl]

/-- A location has the names it was read from, save those that are too deep. -/
lemma segments_of_ofSegments {query : Option (List Char)} {names : List String} {l : Location}
    (h : ofSegments query names = .ok l) : l.segments <+: names := by
  rw [ofSegments.eq_def] at h
  split at h
  · obtain rfl := Except.ok.inj h
    exact List.prefix_rfl
  · split at h
    · contradiction
    · next g hg =>
      obtain rfl := path_of_ofPath? hg
      split at h
      · obtain rfl := Except.ok.inj h
        exact List.prefix_rfl
      · split at h
        · contradiction
        · next b hb =>
          obtain rfl := text_of_ofText? hb
          split at h
          · obtain rfl := Except.ok.inj h
            exact List.prefix_rfl
          · split at h
            · contradiction
            · split at h
              · obtain rfl := Except.ok.inj h
                exact List.prefix_rfl
              · obtain rfl := Except.ok.inj h
                simp [segments]

/-- A location is read back from its identifier under a scheme without a colon. -/
lemma decode_encode {scheme : String} (hs : ':' ∉ scheme.toList) {l : Location} (h : l.IsNamed) :
    ∃ text, encode scheme l = .ok text ∧ decode scheme text = .ok l := by
  have hnames := (isNamed_iff l).mp h
  refine ⟨_, encode_eq_ok h scheme, ?_⟩
  have hhead : (writePath l.segments ++ writeQuery l.groupRef?).head? = some '/' := by
    cases l.segments <;> rfl
  have hdepth : ¬ maxDepth < l.segments.length := by cases l <;> simp [segments, maxDepth]
  rw [decode, String.toList_ofList, dropScheme?_append hs]
  simp only [hhead, ne_eq, not_true_eq_false, if_false, splitQuery_write,
    readSegments?_writePath hnames, hdepth]
  apply ofSegments_segments
  intro r hr
  rw [hr, Option.map_some, queryId?_digits]

/-- What an identifier names has a name at each step, and the scheme has no colon. -/
lemma isNamed_of_decode {scheme identifier : String} {l : Location}
    (h : decode scheme identifier = .ok l) : ':' ∉ scheme.toList ∧ l.IsNamed := by
  rw [decode] at h
  split at h
  · contradiction
  · next rest hrest =>
    refine ⟨notMem_of_dropScheme? hrest, ?_⟩
    simp only at h
    split at h
    · contradiction
    · split at h
      · contradiction
      · next names hread =>
        split at h
        · contradiction
        · rw [isNamed_iff]
          intro name hm
          exact ne_empty_of_readSegments? hread name ((segments_of_ofSegments h).subset hm)

/-- Under an accepted scheme every location that has its names can be written and is read back,
and whatever can be read at all, under any scheme, can be written and is read back. -/
theorem encode_decode_roundTrip :
    (∀ c : Config, c.validate = .ok () → ∀ l : Location, l.IsNamed →
      ∃ text, encode c.scheme l = .ok text ∧ decode c.scheme text = .ok l) ∧
    (∀ scheme identifier : String, ∀ l : Location, decode scheme identifier = .ok l →
      ∃ text, encode scheme l = .ok text ∧ decode scheme text = .ok l) := by
  constructor
  · intro c hc l hl
    exact decode_encode (notMem_of_isScheme (isScheme_of_validate hc)) hl
  · intro scheme identifier l h
    obtain ⟨hs, hl⟩ := isNamed_of_decode h
    exact decode_encode hs hl

/-- The default configuration with names that look like escapes and queries, and an identifier
with its query inside. -/
theorem roundTrip_default :
    (∃ text,
      encode "modland" (.track .authors (.letter 1) ⟨42, "50%2F/"⟩ "a?id=7 #.mod") = .ok text ∧
      decode "modland" text = .ok (.track .authors (.letter 1) ⟨42, "50%2F/"⟩ "a?id=7 #.mod")) ∧
    (∃ text, encode "modland" (.track .authors (.letter 1) ⟨42, "50%"⟩ "a.mod") = .ok text ∧
      decode "modland" text = .ok (.track .authors (.letter 1) ⟨42, "50%"⟩ "a.mod")) :=
  ⟨encode_decode_roundTrip.1 {} (by decide +kernel) _ (by decide),
    encode_decode_roundTrip.2 "modland" "MODLAND://Authors/B/50%25?id=42/a.mod" _
      (by decide +kernel)⟩

end ModuleArchive.Location
