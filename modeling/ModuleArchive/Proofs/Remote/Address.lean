import ModuleArchive.Proofs.Storage.Key
import ModuleArchive.Proofs.Text.Percent
import ModuleArchive.Remote.Site

/-!
# Addresses of module files

The address of a module file is settled by what its path says step by step. The other way round,
it gives the steps back, unless names hold tabs or line breaks, which do not count in a URL.
-/
namespace ModuleArchive

namespace Url

/-! ### Dots -/

def dotForms : List (List Char) := [['.'], ['%', '2', 'e'], ['%', '2', 'E']]

lemma mem_dotForms_of_dot {segment : List Char} (h : segment.map Char.toLower = ['.']) :
    segment ∈ dotForms := by
  obtain ⟨c, rfl, hc⟩ := List.map_eq_singleton_iff.mp h
  rw [Percent.eq_of_toLower (by decide) hc]
  decide

lemma mem_dotForms_of_escape {segment : List Char}
    (h : segment.map Char.toLower = ['%', '2', 'e']) : segment ∈ dotForms := by
  obtain ⟨a, rest, rfl, ha, hrest⟩ := List.map_eq_cons_iff.mp h
  obtain ⟨b, rest, rfl, hb, hrest⟩ := List.map_eq_cons_iff.mp hrest
  obtain ⟨c, rfl, hc⟩ := List.map_eq_singleton_iff.mp hrest
  rw [Percent.eq_of_toLower (by decide) ha, Percent.eq_of_toLower (by decide) hb]
  obtain rfl | ⟨-, -, hn⟩ := Percent.eq_or_of_toLower hc
  · decide
  · have hupper : c.toNat = 69 := by
      change 101 = c.toNat + 32 at hn
      omega
    obtain rfl : c = 'E' := Char.toNat_inj.mp hupper
    decide

lemma decodeText_of_isSingleDot {segment : List Char} (h : isSingleDot segment = true) :
    Percent.decodeText segment = Utf8.encode ['.'] := by
  have hforms : ∀ form ∈ dotForms, Percent.decodeText form = Utf8.encode ['.'] := by decide
  apply hforms
  obtain h | h : segment.map Char.toLower = ['.'] ∨
      segment.map Char.toLower = ['%', '2', 'e'] := by
    simpa [isSingleDot] using h
  · exact mem_dotForms_of_dot h
  · exact mem_dotForms_of_escape h

lemma decodeText_of_isDoubleDot {segment : List Char} (h : isDoubleDot segment = true) :
    Percent.decodeText segment = Utf8.encode ['.', '.'] := by
  have hforms : ∀ first ∈ dotForms, ∀ second ∈ dotForms,
      Percent.decodeText (first ++ second) = Utf8.encode ['.', '.'] := by decide
  have hsplit {a b : List Char} (hab : segment.map Char.toLower = a ++ b) :
      ∃ first second, segment = first ++ second ∧ first.map Char.toLower = a ∧
        second.map Char.toLower = b := List.map_eq_append_iff.mp hab
  obtain h | h | h | h : segment.map Char.toLower = ['.'] ++ ['.'] ∨
      segment.map Char.toLower = ['.'] ++ ['%', '2', 'e'] ∨
      segment.map Char.toLower = ['%', '2', 'e'] ++ ['.'] ∨
      segment.map Char.toLower = ['%', '2', 'e'] ++ ['%', '2', 'e'] := by
    simpa [isDoubleDot, or_assoc] using h
  · obtain ⟨first, second, rfl, hf, hs⟩ := hsplit h
    exact hforms _ (mem_dotForms_of_dot hf) _ (mem_dotForms_of_dot hs)
  · obtain ⟨first, second, rfl, hf, hs⟩ := hsplit h
    exact hforms _ (mem_dotForms_of_dot hf) _ (mem_dotForms_of_escape hs)
  · obtain ⟨first, second, rfl, hf, hs⟩ := hsplit h
    exact hforms _ (mem_dotForms_of_escape hf) _ (mem_dotForms_of_dot hs)
  · obtain ⟨first, second, rfl, hf, hs⟩ := hsplit h
    exact hforms _ (mem_dotForms_of_escape hf) _ (mem_dotForms_of_escape hs)

/-- Only dots are written as dots. -/
lemma isSingleDot_encode (special : Bool) {name : List Char} (h : name ≠ ['.']) :
    isSingleDot (Percent.encode (escapeSegment special) name) = false := by
  rw [← Bool.not_eq_true]
  intro hd
  have hbytes := decodeText_of_isSingleDot hd
  rw [Percent.decodeText_encode rfl] at hbytes
  exact h (Utf8.encode_injective hbytes)

lemma isDoubleDot_encode (special : Bool) {name : List Char} (h : name ≠ ['.', '.']) :
    isDoubleDot (Percent.encode (escapeSegment special) name) = false := by
  rw [← Bool.not_eq_true]
  intro hd
  have hbytes := decodeText_of_isDoubleDot hd
  rw [Percent.decodeText_encode rfl] at hbytes
  exact h (Utf8.encode_injective hbytes)

/-! ### Names -/

/-- Whether a text holds no tab and no line break. -/
structure IsUnbroken (text : List Char) : Prop where
  noTab : '\t' ∉ text
  noLf : '\n' ∉ text
  noCr : '\r' ∉ text

instance (text : List Char) : Decidable (IsUnbroken text) :=
  decidable_of_iff ('\t' ∉ text ∧ '\n' ∉ text ∧ '\r' ∉ text)
    ⟨fun ⟨ht, hl, hc⟩ => ⟨ht, hl, hc⟩, fun ⟨ht, hl, hc⟩ => ⟨ht, hl, hc⟩⟩

lemma IsUnbroken.of_mem {text part : List Char} (h : IsUnbroken text)
    (hm : ∀ c ∈ part, c = '/' ∨ c ∈ text) : IsUnbroken part where
  noTab hc := h.noTab ((hm _ hc).resolve_left (by decide))
  noLf hc := h.noLf ((hm _ hc).resolve_left (by decide))
  noCr hc := h.noCr ((hm _ hc).resolve_left (by decide))

lemma filter_of_isUnbroken {text : List Char} (h : IsUnbroken text) :
    (text.filter fun c => c != '\t' && c != '\n' && c != '\r') = text := by
  rw [List.filter_eq_self]
  intro c hc
  have htab : c ≠ '\t' := fun heq => h.noTab (heq ▸ hc)
  have hlf : c ≠ '\n' := fun heq => h.noLf (heq ▸ hc)
  have hcr : c ≠ '\r' := fun heq => h.noCr (heq ▸ hc)
  simp [htab, hlf, hcr]

/-- Dots that are names leave a path as it is. -/
lemma foldl_addName_filter (u : Url) (names start : List (List Char)) :
    (names.filter fun s => s ≠ ['.'] ∧ s ≠ ['.', '.']).foldl (addName u) start =
      names.foldl (addName u) start := by
  induction names generalizing start with
  | nil => rfl
  | cons name rest ih =>
    by_cases hd : name = ['.'] ∨ name = ['.', '.']
    · have hadd : addName u start name = start := by
        unfold addName
        rw [if_pos hd]
      rw [List.filter_cons_of_neg (by rcases hd with rfl | rfl <;> simp), List.foldl_cons, hadd, ih]
    · obtain ⟨hdot, hdots⟩ := not_or.mp hd
      rw [List.filter_cons_of_pos (by simp [hdot, hdots]), List.foldl_cons, List.foldl_cons, ih]

lemma addName_start (u : Url) {name : List Char} (hdot : name ≠ ['.']) (hdots : name ≠ ['.', '.']) :
    addName u [[]] name = addName u [] name := by
  have hno : ¬ (name = ['.'] ∨ name = ['.', '.']) := not_or.mpr ⟨hdot, hdots⟩
  unfold addName
  rw [if_neg hno, if_neg hno]
  rfl

/-- Empty names count only behind another name. -/
lemma foldl_addName_dropWhile (u : Url) {names start : List (List Char)}
    (hs : start = [] ∨ start = [[]]) (hn : ∀ s ∈ names, s ≠ ['.'] ∧ s ≠ ['.', '.'])
    (hne : names.dropWhile List.isEmpty ≠ []) :
    names.foldl (addName u) start = (names.dropWhile List.isEmpty).foldl (addName u) [] := by
  induction names generalizing start with
  | nil => contradiction
  | cons name rest ih =>
    obtain ⟨⟨hdot, hdots⟩, hrest⟩ := List.forall_mem_cons.mp hn
    have hadd : addName u start name = addName u [] name := by
      rcases hs with rfl | rfl
      · rfl
      · exact addName_start u hdot hdots
    cases name with
    | nil =>
      have hempty : addName u [] [] = [[]] := by
        unfold addName
        rfl
      rw [List.foldl_cons, hadd, hempty]
      exact ih (.inr rfl) hrest hne
    | cons c text => rw [List.foldl_cons, hadd]; rfl

/-- Names are put into a path one after the other, each one escaped. -/
lemma foldl_addName (u : Url) {names start : List (List Char)} (hs : start ≠ [[]])
    (hn : ∀ s ∈ names, (s ≠ ['.'] ∧ s ≠ ['.', '.']) ∧ IsUnbroken s)
    (hne : names.head? ≠ some [] ∨ start ≠ []) :
    names.foldl (addName u) start =
      start ++ names.map (Percent.encode (escapeSegment u.isSpecial)) := by
  induction names generalizing start with
  | nil => rw [List.foldl_nil, List.map_nil, List.append_nil]
  | cons name rest ih =>
    obtain ⟨⟨⟨hdot, hdots⟩, hu⟩, hrest⟩ := List.forall_mem_cons.mp hn
    have hadd : addName u start name =
        start ++ [Percent.encode (escapeSegment u.isSpecial) name] := by
      unfold addName
      rw [if_neg (by simp [hdot, hdots]), if_neg hs]
      simp only [filter_of_isUnbroken hu, isDoubleDot_encode _ hdots, isSingleDot_encode _ hdot,
        Bool.false_eq_true, if_false]
    have hstart : start ++ [Percent.encode (escapeSegment u.isSpecial) name] ≠ [[]] := by
      intro heq
      cases start with
      | nil =>
        have hname : name ≠ [] := by simpa using hne
        exact Percent.encode_ne_nil rfl hname (List.singleton_inj.mp heq)
      | cons first others => simp at heq
    rw [List.foldl_cons, hadd, ih hstart hrest (.inr (by simp)), List.map_cons, List.append_assoc,
      List.singleton_append]

/-! ### Printed forms -/

lemma pathText_injective {names names' : List (List Char)} (h : ∀ s ∈ names, '/' ∉ s)
    (h' : ∀ s ∈ names', '/' ∉ s) (heq : names.flatMap ('/' :: ·) = names'.flatMap ('/' :: ·)) :
    names = names' := by
  have hsplit := Text.splitOn_append_flatMap List.not_mem_nil h
  have hsplit' := Text.splitOn_append_flatMap List.not_mem_nil h'
  rw [heq, hsplit'] at hsplit
  exact (List.cons.inj hsplit).2.symm

/-- Addresses of one host that differ in their paths alone are printed alike only if they are the
same. -/
lemma eq_of_print_eq {u : Url} (hu : u.host.isSome = true) {names names' : List (List Char)}
    (h : ∀ s ∈ names, '/' ∉ s) (h' : ∀ s ∈ names', '/' ∉ s)
    (heq : ({ u with path := .segments names } : Url).print =
      ({ u with path := .segments names' } : Url).print) : names = names' := by
  obtain ⟨host, hhost⟩ := Option.isSome_iff_exists.mp hu
  have htext := String.ofList_injective heq
  simp only [text, authorityText, hhost, pathText] at htext
  have hrest := (List.cons.inj (List.append_cancel_left htext)).2
  rw [List.append_left_inj, List.append_left_inj, List.append_right_inj] at hrest
  exact pathText_injective h h' hrest

end Url

namespace Remote.Site

open Storage (steps IsDirect)

lemma steps_trimLeft (path : List Char) :
    steps (Text.trimLeft (· == '/') path) = steps path := by
  induction path with
  | nil => rfl
  | cons c rest ih =>
    rw [Text.trimLeft, List.dropWhile_cons]
    split
    · next hc =>
      obtain rfl : c = '/' := by simpa using hc
      rw [← Text.trimLeft, ih]
      simp [steps, Text.splitOn]
    · rfl

variable {site : Site} {p q : String}

/-- The path of the address of a file is made of the steps of its path. -/
lemma fileUrl_eq (site : Site) (h : steps p.toList ≠ []) :
    site.fileUrl p =
      match site.storage.path with
      | .opaqueText _ => site.storage
      | .segments _ => { site.storage with
          path := .segments ((steps p.toList).foldl (Url.addName site.storage) []) } := by
  rw [← steps_trimLeft] at h ⊢
  rw [fileUrl, Url.withNames]
  cases site.storage.path with
  | opaqueText text => rfl
  | segments old =>
    have hstart : (if old.isEmpty then [] else [[]]) = ([] : List (List Char)) ∨
        (if old.isEmpty then [] else [[]]) = ([[]] : List (List Char)) := by
      split
      · exact .inl rfl
      · exact .inr rfl
    have hfold := Url.foldl_addName_dropWhile site.storage hstart (fun s hs => by
      simpa using (List.mem_filter.mp hs).2) h
    rw [Url.foldl_addName_filter] at hfold
    exact congrArg (fun names => { site.storage with path := .segments names }) hfold

theorem fileUrl_eq_of_steps (site : Site) (h : steps p.toList ≠ [])
    (heq : steps p.toList = steps q.toList) : site.fileUrl p = site.fileUrl q := by
  rw [fileUrl_eq site h, fileUrl_eq site (heq ▸ h), heq]

lemma mem_steps {path s : List Char} (h : s ∈ steps path) :
    (s ≠ ['.'] ∧ s ≠ ['.', '.']) ∧ s ∈ Text.splitOn '/' path := by
  obtain ⟨hs, hdots⟩ := List.mem_filter.mp ((List.dropWhile_sublist _).mem h)
  exact ⟨by simpa using hdots, hs⟩

/-- The names in the path of an address are the steps, each one escaped. -/
theorem segments_fileUrl (ho : site.storage.isOpaque = false) (h : steps p.toList ≠ [])
    (hu : Url.IsUnbroken p.toList) :
    site.fileUrl p = { site.storage with
      path := .segments ((steps p.toList).map
        (Percent.encode (Url.escapeSegment site.storage.isSpecial))) } := by
  have hunbroken {s : List Char} (hs : s ∈ Text.splitOn '/' p.toList) : Url.IsUnbroken s :=
    hu.of_mem fun _ hc => .inr (Text.mem_of_mem_splitOn hs hc)
  have hhead : (steps p.toList).head? ≠ some [] := by
    intro hsome
    have hfirst := List.head?_dropWhile_not List.isEmpty
      ((Text.splitOn '/' p.toList).filter fun s => s ≠ ['.'] ∧ s ≠ ['.', '.'])
    rw [← steps, hsome] at hfirst
    contradiction
  rw [fileUrl_eq site h, Url.foldl_addName _ (by simp) (fun s hs =>
    ⟨(mem_steps hs).1, hunbroken (mem_steps hs).2⟩) (.inl hhead), List.nil_append]
  split
  · next hpath => simp [Url.isOpaque, hpath] at ho
  · rfl

/-- Without tabs and line breaks only paths that say the same step by step share an address. -/
theorem print_fileUrl_inj (hh : site.storage.host.isSome = true)
    (ho : site.storage.isOpaque = false) (hp : steps p.toList ≠ []) (hq : steps q.toList ≠ [])
    (hup : Url.IsUnbroken p.toList) (huq : Url.IsUnbroken q.toList) :
    (site.fileUrl p).print = (site.fileUrl q).print ↔ steps p.toList = steps q.toList := by
  constructor
  · intro heq
    rw [segments_fileUrl ho hp hup, segments_fileUrl ho hq huq] at heq
    have hslash (names : List (List Char)) : ∀ s ∈ names.map (Percent.encode
        (Url.escapeSegment site.storage.isSpecial)), '/' ∉ s := by
      intro s hs
      obtain ⟨name, -, rfl⟩ := List.mem_map.mp hs
      exact Percent.notMem_encode rfl (by decide) name
    have hnames := Url.eq_of_print_eq hh (hslash _) (hslash _) heq
    exact List.map_injective_iff.mpr (Percent.encode_injective rfl) hnames
  · intro heq
    rw [fileUrl_eq_of_steps site hp heq]

end Remote.Site

end ModuleArchive
