import ModuleArchive.Proofs.Text.Percent
import ModuleArchive.Proofs.Text.Split
import ModuleArchive.Proofs.Traverse
import ModuleArchive.Proofs.Url.Punycode
import ModuleArchive.Url.Domain

/-!
# The ASCII form of a domain name

The ASCII form of a domain name is a domain name, and its own ASCII form: what stands for a label
with other characters is read as this label, and all other labels are left as they are.
-/
namespace ModuleArchive.Url.Domain

open Text (isAscii joinWith splitOn)
open Text.NormalForm (compose)
open Punycode (base digitChar)

/-! ### Characters -/

lemma isAscii_toLower {c : Char} (h : isAscii c = true) : isAscii c.toLower = true := by
  obtain heq | ⟨-, hhigh, hsum⟩ := Percent.eq_or_of_toLower (rfl : c.toLower = c.toLower)
  · rwa [← heq]
  · rw [isAscii, decide_eq_true_eq]
    omega

lemma isValid_of_isAscii {c : Char} (h : isAscii c = true) (hlow : c.toLower = c) :
    Mapping.isValid c = true := by
  simp [Mapping.isValid, Mapping.isAllowed, Mapping.replacement?, h, hlow]

/-- What stands for itself in a domain name is in lower case. -/
lemma toLower_of_isValid {c : Char} (h : Mapping.isValid c = true) : c.toLower = c := by
  by_contra hne
  obtain heq | ⟨-, hhigh, -⟩ := Percent.eq_or_of_toLower (rfl : c.toLower = c.toLower)
  · exact hne heq.symm
  · have hascii : isAscii c = true := by
      rw [isAscii, decide_eq_true_eq]
      omega
    simp [Mapping.isValid, Mapping.replacement?, hascii, hne] at h

lemma map?_of_isValid {text : List Char} (h : ∀ c ∈ text, Mapping.isValid c = true) :
    Mapping.map? text = some text := by
  have hallowed : text.all Mapping.isAllowed = true :=
    List.all_eq_true.mpr fun c hc => (Bool.and_eq_true_iff.mp (h c hc)).1
  have hself : ∀ c ∈ text, (Mapping.replacement? c).getD [c] = [c] := by
    intro c hc
    have hnone := (Bool.and_eq_true_iff.mp (h c hc)).2
    rw [Option.isNone_iff_eq_none.mp hnone, Option.getD_none]
  rw [Mapping.map?, if_pos hallowed, List.flatMap_congr hself, List.flatMap_singleton']

lemma compose_of_isAscii {text : List Char} (h : ∀ c ∈ text, isAscii c = true) :
    compose text = text := if_pos (List.all_eq_true.mpr h)

/-! ### Labels -/

/-- Whether a character stands for itself in ASCII, and in a label. -/
structure IsOfLabel (c : Char) : Prop where
  isAscii : isAscii c = true
  isValid : Mapping.isValid c = true
  noDot : c ≠ '.'

/-- Whether a label has been read. -/
structure IsLabel (label : List Char) : Prop where
  isProper : isProper label = true
  noDot : '.' ∉ label

section Labels

variable {label read : List Char}

lemma isLabel_of_readLabel? (h : readLabel? label = some read) (hdot : '.' ∉ label) :
    IsLabel read := by
  unfold readLabel? at h
  split at h
  · split at h
    · contradiction
    · next decoded hdecoded =>
      split at h
      · contradiction
      · next hproper =>
        obtain ⟨-, hproper⟩ : decoded.all isAscii = false ∧ isProper decoded = true := by
          simpa using hproper
        obtain rfl := Option.some_inj.mp h
        refine ⟨hproper, fun hm => ?_⟩
        obtain hm | hm := Punycode.mem_of_decode? hdecoded hm
        · exact hdot (List.mem_of_mem_drop hm)
        · exact absurd hm (by decide)
  · split at h
    · next hproper =>
      obtain rfl := Option.some_inj.mp h
      exact ⟨hproper, hdot⟩
    · contradiction

lemma IsLabel.isOfLabel (h : IsLabel label) : ∀ c ∈ writeLabel label, IsOfLabel c := by
  have hvalid : ∀ c ∈ label, Mapping.isValid c = true := by
    have hproper := h.isProper
    simp only [Domain.isProper, Bool.and_eq_true, List.all_eq_true] at hproper
    exact hproper.1.1.1
  have hmem {c : Char} (hc : c ∈ label) (hascii : isAscii c = true) : IsOfLabel c :=
    ⟨hascii, hvalid c hc, fun hdot => h.noDot (hdot ▸ hc)⟩
  have hself {c : Char} (hascii : isAscii c = true) (hlow : c.toLower = c) (hdot : c ≠ '.') :
      IsOfLabel c := ⟨hascii, isValid_of_isAscii hascii hlow, hdot⟩
  intro c hc
  unfold writeLabel at hc
  split at hc
  · next hplain => exact hmem hc (List.all_eq_true.mp hplain c hc)
  · obtain hc | hc := List.mem_append.mp hc
    · have hmarker : ∀ c ∈ marker, isAscii c = true ∧ c.toLower = c ∧ c ≠ '.' := by
        simp [marker, isAscii]
      obtain ⟨hascii, hlow, hdot⟩ := hmarker c hc
      exact hself hascii hlow hdot
    · obtain ⟨hc, hlt⟩ | rfl | ⟨d, hd, rfl⟩ := Punycode.mem_encode hc
      · exact hmem hc (decide_eq_true hlt)
      · exact hself (by decide) (by decide) (by decide)
      · have hdigits : ∀ d < 36, isAscii (digitChar d) = true ∧
            (digitChar d).toLower = digitChar d ∧ digitChar d ≠ '.' := by decide
        obtain ⟨hascii, hlow, hdot⟩ := hdigits d hd
        exact hself hascii hlow hdot

lemma IsLabel.readLabel?_writeLabel (h : IsLabel label) :
    readLabel? (writeLabel label) = some label := by
  cases hplain : label.all isAscii with
  | true =>
    have hproper := h.isProper
    simp only [Domain.isProper, Bool.and_eq_true, Bool.not_eq_true'] at hproper
    have hmark : marker.isPrefixOf label = false := hproper.1.1.2
    rw [writeLabel, if_pos hplain, readLabel?, hmark, if_neg Bool.false_ne_true, if_pos h.isProper]
  | false =>
    have hmark : marker.isPrefixOf (marker ++ Punycode.encode label) = true :=
      List.isPrefixOf_iff_prefix.mpr (List.prefix_append _ _)
    rw [writeLabel, hplain, if_neg Bool.false_ne_true, readLabel?, if_pos hmark, List.drop_left,
      Punycode.decode?_encode]
    simp [hplain, h.isProper]

end Labels

/-! ### Names -/

/-- A name of labels that have been read and go together is its own ASCII form. -/
lemma toAscii?_joinWith {labels : List (List Char)} (hne : labels ≠ [])
    (hlabels : ∀ label ∈ labels, IsLabel label) (hcheck : Direction.check labels = true) :
    toAscii? (joinWith '.' (labels.map writeLabel)) =
      some (joinWith '.' (labels.map writeLabel)) := by
  let name := joinWith '.' (labels.map writeLabel)
  have hwritten : ∀ piece ∈ labels.map writeLabel, ∀ c ∈ piece, IsOfLabel c :=
    List.forall_mem_map.mpr fun label hl => (hlabels label hl).isOfLabel
  have hchars : ∀ c ∈ name, isAscii c = true ∧ Mapping.isValid c = true := by
    intro c hc
    obtain rfl | ⟨piece, hp, hc⟩ := Text.mem_joinWith hc
    · exact ⟨by decide, isValid_of_isAscii (by decide) (by decide)⟩
    · exact ⟨(hwritten piece hp c hc).isAscii, (hwritten piece hp c hc).isValid⟩
  have hsplit : splitOn '.' name = labels.map writeLabel :=
    Text.splitOn_joinWith (by simpa using hne) fun piece hp hdot =>
      (hwritten piece hp _ hdot).noDot rfl
  have hread : (labels.map writeLabel).mapM readLabel? = some labels := by
    rw [mapM_eq_some_iff, List.forall₂_map_left_iff]
    exact List.forall₂_same.mpr fun label hl => (hlabels label hl).readLabel?_writeLabel
  change toAscii? name = some name
  unfold toAscii?
  split
  · have hlower : name.map Char.toLower = name :=
      (List.map_congr_left fun c hc => toLower_of_isValid (hchars c hc).2).trans (List.map_id _)
    rw [hlower]
  · rw [map?_of_isValid fun c hc => (hchars c hc).2]
    simp only [Option.bind_eq_bind, Option.bind_some]
    rw [compose_of_isAscii fun c hc => (hchars c hc).1, hsplit, hread, Option.bind_some,
      if_pos hcheck]

theorem toAscii?_of_toAscii? {text name : List Char} (h : toAscii? text = some name) :
    toAscii? name = some name := by
  unfold toAscii? at h
  split at h
  · next hsimple =>
    obtain rfl := Option.some_inj.mp h
    have hname : (text.map Char.toLower).map Char.toLower = text.map Char.toLower := by
      rw [List.map_map]
      exact List.map_congr_left fun c _ => Percent.toLower_toLower c
    have hsimple' : isSimple (text.map Char.toLower) = true := by
      obtain ⟨hascii, hlabels⟩ := Bool.and_eq_true_iff.mp hsimple
      rw [isSimple, hname, hlabels, Bool.and_true, List.all_map]
      exact List.all_eq_true.mpr fun c hc => isAscii_toLower (List.all_eq_true.mp hascii c hc)
    rw [toAscii?, if_pos hsimple', hname]
  · obtain ⟨mapped, hmapped, h⟩ := Option.bind_eq_some_iff.mp h
    obtain ⟨labels, hread, h⟩ := Option.bind_eq_some_iff.mp h
    split at h
    · next hcheck =>
      obtain rfl := Option.some_inj.mp h
      refine toAscii?_joinWith ?_ (fun label hl => ?_) hcheck
      · rintro rfl
        exact Text.splitOn_ne_nil _ _ (List.length_eq_zero_iff.mp
          (mapM_eq_some_iff.mp hread).length_eq)
      · obtain ⟨piece, hp, hlabel⟩ := exists_of_mem_mapM hread hl
        exact isLabel_of_readLabel? hlabel (Text.notMem_of_mem_splitOn hp)
    · contradiction

end ModuleArchive.Url.Domain
