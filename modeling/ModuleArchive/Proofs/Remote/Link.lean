import ModuleArchive.Proofs.Remote.Address
import ModuleArchive.Proofs.Traverse
import ModuleArchive.Proofs.Url.Path
import ModuleArchive.Remote.Page

/-!
# Links to module files

The path of a listed track is what the path of its link reads as, cut from its host. The address of
the file is made of that path again, name by name. Both name the same resource if the link is made
of texts without slashes, since only such names can be told apart in a path.
-/
namespace ModuleArchive

namespace Url

/-! ### Dots -/

/-- A dot that is read has been written in one of the ways of writing it. -/
lemma exists_dotForm_of_decode {bytes out : Bytes} (h : Percent.decode bytes = 0x2E :: out) :
    ∃ form ∈ dotForms, ∃ tail, bytes = Utf8.encode form ++ tail ∧ Percent.decode tail = out := by
  obtain ⟨tail, rfl | he, hout⟩ := Percent.decode_eq_cons h
  · exact ⟨['.'], by decide, tail, rfl, hout⟩
  · generalize hc : (0x2E : UInt8) = c at he
    cases he with
    | @intro high low x y _ hh hl =>
      have hx := Percent.eq_of_hexValue? hh
      have hy := Percent.eq_of_hexValue? hl
      have hvalue : x * 16 + y = 0x2E := by
        have hn := congrArg UInt8.toNat hc
        rw [Utf8.toNat_ofNat (by omega)] at hn
        exact hn.symm
      obtain rfl : high = 0x32 := UInt8.toNat_inj.mp (show high.toNat = 0x32 by omega)
      obtain hlow | hlow : low.toNat = 0x45 ∨ low.toNat = 0x65 := by omega
      · obtain rfl : low = 0x45 := UInt8.toNat_inj.mp hlow
        exact ⟨['%', '2', 'E'], by decide, tail, rfl, hout⟩
      · obtain rfl : low = 0x65 := UInt8.toNat_inj.mp hlow
        exact ⟨['%', '2', 'e'], by decide, tail, rfl, hout⟩

lemma isSingleDot_of_decodeText {segment : List Char}
    (h : Percent.decodeText segment = Utf8.encode ['.']) : isSingleDot segment = true := by
  have hforms : ∀ form ∈ dotForms, isSingleDot form = true := by decide
  obtain ⟨form, hform, tail, hbytes, htail⟩ := exists_dotForm_of_decode h
  obtain rfl := Percent.eq_nil_of_decode htail
  rw [List.append_nil] at hbytes
  obtain rfl := Utf8.encode_injective hbytes
  exact hforms _ hform

lemma isDoubleDot_of_decodeText {segment : List Char}
    (h : Percent.decodeText segment = Utf8.encode ['.', '.']) : isDoubleDot segment = true := by
  have hforms : ∀ first ∈ dotForms, ∀ second ∈ dotForms, isDoubleDot (first ++ second) = true := by
    decide
  obtain ⟨first, hfirst, tail, hbytes, htail⟩ := exists_dotForm_of_decode h
  obtain ⟨second, hsecond, tail, rfl, hnil⟩ := exists_dotForm_of_decode htail
  obtain rfl := Percent.eq_nil_of_decode hnil
  rw [List.append_nil, ← Utf8.encode_append] at hbytes
  obtain rfl := Utf8.encode_injective hbytes
  exact hforms _ hfirst _ hsecond

lemma IsPlain.ne_dots {segment text : List Char} (h : IsPlain segment)
    (ht : Percent.decodeText segment = Utf8.encode text) : text ≠ ['.'] ∧ text ≠ ['.', '.'] := by
  constructor
  · rintro rfl
    have hdot := isSingleDot_of_decodeText ht
    simp [h.noDot] at hdot
  · rintro rfl
    have hdots := isDoubleDot_of_decodeText ht
    simp [h.noDots] at hdots

/-! ### What a path stands for -/

/-- The byte strings that the path of a URL stands for, cut at its slashes. -/
def resource (u : Url) : List Bytes := (Text.splitOn '/' u.pathText).map Percent.decodeText

lemma resource_eq {u : Url} {names : List (List Char)} (h : u.path = .segments names)
    (hn : ∀ name ∈ names, '/' ∉ name) : u.resource = [] :: names.map Percent.decodeText := by
  have hsplit : Text.splitOn '/' (names.flatMap ('/' :: ·)) = [] :: names :=
    Text.splitOn_append_flatMap List.not_mem_nil hn
  rw [resource, pathText, h]
  exact congrArg (List.map Percent.decodeText) hsplit

/-- Whether a path stands for these texts: the first one, in front of the first slash, is followed
by one that is not empty, and none holds a tab or a line break. -/
structure StandsFor (u : Url) (texts : List (List Char)) : Prop where
  resource_eq : u.resource = texts.map Utf8.encode
  noGap : texts[1]? ≠ some []
  unbroken : ∀ text ∈ texts, IsUnbroken text

instance (u : Url) (texts : List (List Char)) : Decidable (u.StandsFor texts) :=
  decidable_of_iff (u.resource = texts.map Utf8.encode ∧ texts[1]? ≠ some [] ∧
      ∀ text ∈ texts, IsUnbroken text)
    ⟨fun ⟨hr, hg, hu⟩ => ⟨hr, hg, hu⟩, fun ⟨hr, hg, hu⟩ => ⟨hr, hg, hu⟩⟩

/-- The first text is the empty one in front of the first slash; the others are those of the
names. -/
lemma StandsFor.exists_rest {u : Url} {texts names : List (List Char)} (h : u.StandsFor texts)
    (hn : u.resource = [] :: names.map Percent.decodeText) :
    ∃ rest, texts = [] :: rest ∧ names.map Percent.decodeText = rest.map Utf8.encode := by
  have hbytes := hn.symm.trans h.resource_eq
  cases texts with
  | nil => simp at hbytes
  | cons text rest =>
    obtain ⟨htext, hrest⟩ := List.cons.inj hbytes
    obtain rfl : [] = text := Utf8.encode_injective htext
    exact ⟨rest, rfl, hrest⟩

/-- Escapes end before a slash. -/
lemma decodeText_append_flatMap (first : List Char) (names : List (List Char)) :
    Percent.decodeText (first ++ names.flatMap ('/' :: ·)) =
      Percent.decodeText first ++ names.flatMap fun name => 0x2F :: Percent.decodeText name := by
  induction names generalizing first with
  | nil => simp
  | cons name rest ih =>
    have hslash (text : List Char) : Utf8.encode ('/' :: text) = 0x2F :: Utf8.encode text :=
      Percent.encode_cons_ascii (by decide) text
    rw [List.flatMap_cons, List.cons_append, Percent.decodeText, Utf8.encode_append, hslash,
      Percent.decode_append_cons (by decide) (by decide), List.flatMap_cons, ← Percent.decodeText,
      ← Percent.decodeText, ih, List.cons_append]

lemma encode_flatMap (texts : List (List Char)) :
    Utf8.encode (texts.flatMap ('/' :: ·)) =
      texts.flatMap fun text => 0x2F :: Utf8.encode text := by
  rw [Utf8.encode, List.flatMap_assoc]
  rfl

/-- A path that stands for texts stands for the bytes of these texts, with the slashes that are in
front of them. -/
lemma decodeText_pathText {u : Url} {names texts : List (List Char)}
    (h : u.path = .segments names) (ht : names.map Percent.decodeText = texts.map Utf8.encode) :
    Percent.decodeText u.pathText = Utf8.encode (texts.flatMap ('/' :: ·)) := by
  have hread := decodeText_append_flatMap [] names
  have hbytes : (names.flatMap fun name => 0x2F :: Percent.decodeText name) =
      texts.flatMap fun text => 0x2F :: Utf8.encode text := by
    rw [← List.flatMap_map Percent.decodeText (fun bytes => 0x2F :: bytes), ht, List.flatMap_map]
  rw [hbytes, ← encode_flatMap] at hread
  rw [pathText, h]
  exact hread

lemma decodeLossy_pathText {u : Url} {names texts : List (List Char)}
    (h : u.path = .segments names) (ht : names.map Percent.decodeText = texts.map Utf8.encode) :
    Utf8.decodeLossy (Percent.decodeText u.pathText) = texts.flatMap ('/' :: ·) := by
  rw [decodeText_pathText h ht, Utf8.decodeLossy_encode]

/-! ### What an address stands for -/

/-- Whether a segment holds no slash and stands for a text without slashes. -/
def IsSpelt (segment : List Char) : Prop :=
  '/' ∉ segment ∧ ∃ text, '/' ∉ text ∧ Percent.decodeText segment = Utf8.encode text

lemma isSpelt_nil : IsSpelt [] := ⟨List.not_mem_nil, [], List.not_mem_nil, rfl⟩

lemma isSpelt_encode (special : Bool) {text : List Char} (h : '/' ∉ text) :
    IsSpelt (Percent.encode (escapeSegment special) text) :=
  ⟨Percent.notMem_encode rfl (by decide) text, text, h, Percent.decodeText_encode rfl text⟩

/-- Every name that is added to a path stands for a text without slashes. -/
lemma isSpelt_addName (u : Url) {names : List (List Char)} (hn : ∀ name ∈ names, IsSpelt name)
    {name : List Char} (h : '/' ∉ name) : ∀ segment ∈ addName u names name, IsSpelt segment := by
  have hconcat {path : List (List Char)} {last : List Char} (hp : ∀ s ∈ path, IsSpelt s)
      (hl : IsSpelt last) : ∀ s ∈ path ++ [last], IsSpelt s :=
    List.forall_mem_append.mpr ⟨hp, List.forall_mem_singleton.mpr hl⟩
  unfold addName
  split
  · exact hn
  · have hstart : ∀ s ∈ (if names = [[]] then [] else names), IsSpelt s := by
      split
      · exact fun s hm => absurd hm List.not_mem_nil
      · exact hn
    have hfilter : '/' ∉ name.filter fun c => c != '\t' && c != '\n' && c != '\r' := fun hm =>
      h (List.mem_filter.mp hm).1
    simp only
    split
    · exact hconcat (fun s hm => hstart s (mem_of_mem_shorten hm)) isSpelt_nil
    · split
      · exact hconcat hstart isSpelt_nil
      · exact hconcat hstart (isSpelt_encode _ hfilter)

lemma isSpelt_foldl_addName (u : Url) {names start : List (List Char)}
    (hs : ∀ name ∈ start, IsSpelt name) (hn : ∀ name ∈ names, '/' ∉ name) :
    ∀ segment ∈ names.foldl (addName u) start, IsSpelt segment := by
  induction names generalizing start with
  | nil => exact hs
  | cons name rest ih =>
    obtain ⟨hname, hrest⟩ := List.forall_mem_cons.mp hn
    exact ih (isSpelt_addName u hs hname) hrest

lemma isUnbroken_flatMap {texts : List (List Char)} (h : ∀ text ∈ texts, IsUnbroken text) :
    IsUnbroken (texts.flatMap ('/' :: ·)) := by
  have hmem {c : Char} (hc : c ≠ '/') (hm : c ∈ texts.flatMap ('/' :: ·)) :
      ∃ text ∈ texts, c ∈ text := by
    obtain ⟨text, ht, hm⟩ := List.mem_flatMap.mp hm
    exact ⟨text, ht, List.mem_of_ne_of_mem hc hm⟩
  constructor
  · intro hm
    obtain ⟨text, ht, hc⟩ := hmem (by decide) hm
    exact (h text ht).noTab hc
  · intro hm
    obtain ⟨text, ht, hc⟩ := hmem (by decide) hm
    exact (h text ht).noLf hc
  · intro hm
    obtain ⟨text, ht, hc⟩ := hmem (by decide) hm
    exact (h text ht).noCr hc

end Url

namespace Remote

open Storage (steps)
open Url (IsSpelt IsUnbroken resource)

/-! ### Addresses -/

namespace Site

variable {site : Site}

/-- The address of a file stands for texts without slashes, whatever its path is. -/
lemma exists_text_of_mem_fileUrl (ho : site.storage.isOpaque = false) (path : String)
    {bytes : Bytes} (h : bytes ∈ (site.fileUrl path).resource) :
    ∃ text, '/' ∉ text ∧ bytes = Utf8.encode text := by
  obtain ⟨names, hpath, hspelt⟩ : ∃ names, (site.fileUrl path).path = .segments names ∧
      ∀ name ∈ names, IsSpelt name := by
    rw [fileUrl, Url.withNames]
    split
    · next hopaque => simp [Url.isOpaque, hopaque] at ho
    · refine ⟨_, rfl, Url.isSpelt_foldl_addName _ ?_ fun name hn => Text.notMem_of_mem_splitOn hn⟩
      split
      · exact fun _ hm => absurd hm List.not_mem_nil
      · exact List.forall_mem_singleton.mpr Url.isSpelt_nil
  rw [Url.resource_eq hpath fun name hn => (hspelt name hn).1] at h
  rcases List.mem_cons.mp h with rfl | h
  · exact ⟨[], List.not_mem_nil, rfl⟩
  · obtain ⟨name, hn, rfl⟩ := List.mem_map.mp h
    exact (hspelt name hn).2

/-- Texts that are no dots are the steps of the path that is made of them, if the first one is not
empty. -/
lemma steps_flatMap {first : List Char} {rest : List (List Char)} (hf : first ≠ [])
    (hslash : ∀ text ∈ first :: rest, '/' ∉ text)
    (hdots : ∀ text ∈ first :: rest, text ≠ ['.'] ∧ text ≠ ['.', '.']) :
    steps ((first :: rest).flatMap ('/' :: ·)) = first :: rest := by
  have hsplit : Text.splitOn '/' ((first :: rest).flatMap ('/' :: ·)) = [] :: first :: rest :=
    Text.splitOn_append_flatMap List.not_mem_nil hslash
  have hkeep : (first :: rest).filter (fun s => s ≠ ['.'] ∧ s ≠ ['.', '.']) = first :: rest :=
    List.filter_eq_self.mpr fun text ht => by simpa using hdots text ht
  have hfirst : ¬ first.isEmpty = true := by simpa using hf
  rw [steps, hsplit, List.filter_cons_of_pos (by simp), hkeep, List.dropWhile_cons_of_pos (by simp),
    List.dropWhile_cons_of_neg hfirst]

/-- The address of a path that is made of texts stands for these texts. -/
lemma resource_fileUrl_flatMap (ho : site.storage.isOpaque = false) {first : List Char}
    {rest : List (List Char)} (hf : first ≠ []) (hslash : ∀ text ∈ first :: rest, '/' ∉ text)
    (hdots : ∀ text ∈ first :: rest, text ≠ ['.'] ∧ text ≠ ['.', '.'])
    (hu : ∀ text ∈ first :: rest, IsUnbroken text) :
    (site.fileUrl (String.ofList ((first :: rest).flatMap ('/' :: ·)))).resource =
      ([] :: first :: rest).map Utf8.encode := by
  have hnames := segments_fileUrl (p := String.ofList ((first :: rest).flatMap ('/' :: ·))) ho
  rw [String.toList_ofList, steps_flatMap hf hslash hdots] at hnames
  specialize hnames (by simp) (Url.isUnbroken_flatMap hu)
  have hback : Percent.decodeText ∘ Percent.encode (Url.escapeSegment site.storage.isSpecial) =
      Utf8.encode := funext fun text => Percent.decodeText_encode rfl text
  rw [hnames, Url.resource_eq rfl, List.map_map, hback]
  · rfl
  · intro name hn
    obtain ⟨text, -, rfl⟩ := List.mem_map.mp hn
    exact Percent.notMem_encode rfl (by decide) text

/-- The path that a resolved URL reads as leads back to the same resource, if the URL stands for
texts without slashes. -/
lemma resource_fileUrl {url : Url} (hr : url.IsResolved) (ho : site.storage.isOpaque = false)
    {texts : List (List Char)} (ht : url.StandsFor texts) (hslash : ∀ text ∈ texts, '/' ∉ text) :
    (site.fileUrl (String.ofList (Utf8.decodeLossy (Percent.decodeText url.pathText)))).resource =
      url.resource := by
  obtain ⟨names, hpath, hne, hplain⟩ := hr
  obtain ⟨rest, rfl, hrest⟩ :=
    ht.exists_rest (Url.resource_eq hpath fun name hn => (hplain name hn).noSlash)
  have hdots : ∀ text ∈ rest, text ≠ ['.'] ∧ text ≠ ['.', '.'] := by
    intro text hm
    have hbytes : Utf8.encode text ∈ names.map Percent.decodeText := by
      rw [hrest]
      exact List.mem_map_of_mem hm
    obtain ⟨name, hn, hname⟩ := List.mem_map.mp hbytes
    exact (hplain name hn).ne_dots hname
  cases rest with
  | nil => simp [hne] at hrest
  | cons first rest =>
    have hfirst : first ≠ [] := by simpa using ht.noGap
    rw [Url.decodeLossy_pathText hpath hrest, ht.resource_eq]
    exact resource_fileUrl_flatMap ho hfirst (List.forall_mem_cons.mp hslash).2 hdots
      (List.forall_mem_cons.mp ht.unbroken).2

end Site

/-! ### Pages -/

namespace Page

/-- Where the rows of a listing lead, in order. -/
def targets (d : Html.Document) : List (List Char) :=
  (rows d).filterMap fun row => (link? row).map (·.2)

lemma forall₂_targets {α : Type} {d : Html.Document} {page : Page α}
    {readRow : Html.Node → Html.Node → List Char → Except Catalog.Error α}
    (h : ofDocument readRow d = .ok page) :
    List.Forall₂ (fun target item => ∃ row link, readRow row link target = .ok item)
      (targets d) page.items := by
  obtain ⟨items, hitems, h⟩ := bind_eq_ok_iff.mp h
  obtain ⟨count, -, h⟩ := bind_eq_ok_iff.mp h
  obtain rfl := Except.ok.inj h
  have htargets : targets d = ((rows d).filterMap fun row =>
      (link? row).map fun found => (row, found.1, found.2)).map (·.2.2) := by
    rw [List.map_filterMap]
    simp [targets, Function.comp_def]
  rw [htargets, List.forall₂_map_left_iff]
  exact (mapM_eq_ok_iff.mp hitems).imp fun entry item hread => ⟨_, _, hread⟩

/-- A track is made of what the path of its link reads as, which does not end in a slash. -/
lemma exists_of_readTrack {storage : Url} (row link : Html.Node) {target : List Char}
    {track : Track} (h : readTrack storage row link target = .ok track) :
    ∃ url path size, storage.join? (String.ofList target) = some url ∧
      path = Utf8.decodeLossy (Percent.decodeText url.pathText) ∧ path.getLast? ≠ some '/' ∧
      track = Track.ofPath (String.ofList path) size := by
  unfold readTrack at h
  split at h
  · next url hurl =>
    simp only at h
    split at h
    · contradiction
    · next hlast =>
      split at h
      · obtain ⟨size, -, h⟩ := bind_eq_ok_iff.mp h
        exact ⟨url, _, _, hurl, rfl, hlast, (Except.ok.inj h).symm⟩
      · contradiction
  · contradiction

lemma path_of_readTrack {storage : Url} (row link : Html.Node) {target : List Char} {track : Track}
    (h : readTrack storage row link target = .ok track) :
    ∃ url, storage.join? (String.ofList target) = some url ∧
      track.path = String.ofList (Utf8.decodeLossy (Percent.decodeText url.pathText)) := by
  obtain ⟨url, path, size, hjoin, rfl, -, rfl⟩ := exists_of_readTrack row link h
  exact ⟨url, hjoin, rfl⟩

end Page

/-! ### What is listed -/

section Listed

variable {site : Site}

structure SameOrigin (u v : Url) : Prop where
  scheme : u.scheme = v.scheme
  host : u.host = v.host
  port : u.port = v.port

lemma sameOrigin_fileUrl (site : Site) (path : String) :
    SameOrigin (site.fileUrl path) site.storage := by
  rw [Site.fileUrl, Url.withNames]
  split
  · exact ⟨rfl, rfl, rfl⟩
  · exact ⟨rfl, rfl, rfl⟩

/-- The address of the file that a URL reads as stands for the same resource exactly if the texts
that the URL stands for hold no slashes. -/
lemma resource_fileUrl_iff {url : Url} (hr : url.IsResolved) (ho : site.storage.isOpaque = false)
    {texts : List (List Char)} (ht : url.StandsFor texts) :
    (site.fileUrl (String.ofList (Utf8.decodeLossy (Percent.decodeText url.pathText)))).resource =
      url.resource ↔ ∀ text ∈ texts, '/' ∉ text := by
  constructor
  · intro heq text hm
    have hm : Utf8.encode text ∈ url.resource := by
      rw [ht.resource_eq]
      exact List.mem_map_of_mem hm
    rw [← heq] at hm
    obtain ⟨text', hslash, hbytes'⟩ := Site.exists_text_of_mem_fileUrl ho _ hm
    rwa [Utf8.encode_injective hbytes']
  · exact Site.resource_fileUrl hr ho ht

/-- Each track of a page is the file that its link leads to: if a link leads to the storage host,
and its path stands for texts without tabs and line breaks, the first of them not empty, then the
address of the track names the same resource on that host exactly if these texts hold no slashes. -/
theorem linked_resource_is_requested {base : String} {g : Grouping} {id : UInt32}
    {d : Html.Document} {page : Page Track} (hb : Url.parse? base = some site.storage)
    (hw : site.storage.isWeb = true)
    (hp : Page.ofDocument (Page.readRow site.storage (.tracks g id)) d = .ok page) :
    List.Forall₂ (fun target track => ∃ url, site.storage.join? (String.ofList target) = some url ∧
        (SameOrigin url site.storage → ∀ texts, url.StandsFor texts →
          SameOrigin (site.fileUrl track.path) site.storage ∧
            ((site.fileUrl track.path).resource = url.resource ↔ ∀ text ∈ texts, '/' ∉ text)))
      (Page.targets d) page.items := by
  have hresolved := Url.isResolved_of_parse? hb hw
  refine (Page.forall₂_targets hp).imp ?_
  rintro target track ⟨row, link, hread⟩
  obtain ⟨url, hjoin, hpath⟩ := Page.path_of_readTrack row link hread
  refine ⟨url, hjoin, fun horigin texts ht => ?_⟩
  have hweb : url.isWeb = true := by rwa [Url.isWeb, horigin.scheme]
  have hurl := Url.isResolved_of_join? hresolved hjoin hweb
  rw [hpath]
  exact ⟨sameOrigin_fileUrl site _, resource_fileUrl_iff hurl hresolved.isOpaque_eq ht⟩

/-- The storage host of an archive. -/
def modland : Site where
  pages := { scheme := "https".toList, host := some (.domain "example.com".toList) }
  storage :=
    { scheme := "https".toList, host := some (.domain "ftp.modland.com".toList),
      path := .segments [[]] }

/-- A page that lists tracks of one size by their links. -/
def trackPage (targets : List String) : Html.Document where
  nodes := [.element .html "table" [("class", "modland".toList)] (targets.map fun target =>
    .element .html "tr" []
      [.element .html "td" [] [.element .html "a" [("href", target.toList)] []],
        .element .html "td" [] [.text "4".toList]])]

/-- A name with a percent sign, a space and a letter outside ASCII. -/
theorem linked_resource_is_requested_escapedName :
    Url.parse? "https://ftp.modland.com" = some modland.storage ∧
      Page.ofDocument (Page.readRow modland.storage (.tracks .authors 42))
        (trackPage ["pub/../pub/100%25%20caf%C3%A9.mod"]) =
          .ok ⟨none, none, [.ofPath "/pub/100% café.mod" 4], false⟩ ∧
      ∃ url, modland.storage.join? "pub/../pub/100%25%20caf%C3%A9.mod" = some url ∧
        (modland.fileUrl "/pub/100% café.mod").resource = url.resource := by
  have hb : Url.parse? "https://ftp.modland.com" = some modland.storage := by decide +kernel
  have hp : Page.ofDocument (Page.readRow modland.storage (.tracks .authors 42))
      (trackPage ["pub/../pub/100%25%20caf%C3%A9.mod"]) =
        .ok ⟨none, none, [.ofPath "/pub/100% café.mod" 4], false⟩ := rfl
  have hjoin : modland.storage.join? "pub/../pub/100%25%20caf%C3%A9.mod" =
      some { modland.storage with
        path := .segments ["pub".toList, "100%25%20caf%C3%A9.mod".toList] } := by decide +kernel
  have hrows := linked_resource_is_requested hb (by decide) hp
  rw [show Page.targets _ = ["pub/../pub/100%25%20caf%C3%A9.mod".toList] from rfl] at hrows
  obtain ⟨⟨url, hurl, hiff⟩, -⟩ := List.forall₂_cons.mp hrows
  rw [String.ofList_toList, hjoin, Option.some_inj] at hurl
  subst hurl
  have hstands : Url.StandsFor { modland.storage with
      path := .segments ["pub".toList, "100%25%20caf%C3%A9.mod".toList] }
      [[], "pub".toList, "100% café.mod".toList] := by decide +kernel
  exact ⟨hb, hp, _, hjoin, (hiff ⟨rfl, rfl, rfl⟩ _ hstands).2.mpr (by decide)⟩

/-- Whether a link leads to the storage host, but not to the resource that the address of a path
names. -/
def Misses (site : Site) (target path : String) : Prop :=
  ∃ url, site.storage.join? target = some url ∧ SameOrigin url site.storage ∧
    url.query = none ∧ url.fragment = none ∧ (site.fileUrl path).resource ≠ url.resource

lemma misses_of_names {target path : String} (names : List String)
    (hj : modland.storage.join? target =
      some { modland.storage with path := .segments (names.map String.toList) })
    (hr : (modland.fileUrl path).resource ≠
      ({ modland.storage with path := .segments (names.map String.toList) } : Url).resource) :
    Misses modland target path := ⟨_, hj, ⟨rfl, rfl, rfl⟩, rfl, rfl, hr⟩

/-- A name that is no text, a name with a slash, an empty name and a name with a tab are listed,
but not asked for where their links lead. -/
theorem linked_resource_is_missed :
    let targets := ["/pub/caf%E9.mod", "/pub/a%2Fb.mod", "https://ftp.modland.com//pub/c.mod",
      "/pub/d%09e.mod"]
    let paths := ["/pub/caf\uFFFD.mod", "/pub/a/b.mod", "//pub/c.mod", "/pub/d\te.mod"]
    Url.parse? "https://ftp.modland.com" = some modland.storage ∧
      Page.ofDocument (Page.readRow modland.storage (.tracks .authors 42)) (trackPage targets) =
        .ok ⟨none, none, paths.map fun path => .ofPath path 4, false⟩ ∧
      List.Forall₂ (Misses modland) targets paths := by
  intro targets paths
  refine ⟨by decide +kernel, rfl, ?_⟩
  have hlossy : Misses modland "/pub/caf%E9.mod" "/pub/caf\uFFFD.mod" :=
    misses_of_names ["pub", "caf%E9.mod"] (by decide +kernel) (by decide +kernel)
  have hslash : Misses modland "/pub/a%2Fb.mod" "/pub/a/b.mod" :=
    misses_of_names ["pub", "a%2Fb.mod"] (by decide +kernel) (by decide +kernel)
  have hempty : Misses modland "https://ftp.modland.com//pub/c.mod" "//pub/c.mod" :=
    misses_of_names ["", "pub", "c.mod"] (by decide +kernel) (by decide +kernel)
  have htab : Misses modland "/pub/d%09e.mod" "/pub/d\te.mod" :=
    misses_of_names ["pub", "d%09e.mod"] (by decide +kernel) (by decide +kernel)
  exact .cons hlossy (.cons hslash (.cons hempty (.cons htab .nil)))

end Listed

end Remote

end ModuleArchive
