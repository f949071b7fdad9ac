import ModuleArchive.Proofs.Text.Percent
import ModuleArchive.Proofs.Url.Domain
import ModuleArchive.Proofs.Url.Ip
import ModuleArchive.Proofs.Url.Scheme

/-!
# Printed hosts

The printed form of a host holds no character that ends it, and is read as a host again: an address
as one, and a domain name because it is its own ASCII form.
-/
namespace ModuleArchive.Url

/-! ### Characters of an authority -/

/-- Whether a character may stand in an authority of the web. -/
def IsInner (c : Char) : Prop := IsVisible c ∧ isSlash true c = false ∧ endsPath c = false

instance : DecidablePred IsInner := fun c =>
  inferInstanceAs (Decidable (0x20 < c.toNat ∧ isSlash true c = false ∧ endsPath c = false))

lemma isVisible_of_isControl {c : Char} (hc : Percent.isControl c = false) (hs : c ≠ ' ') :
    IsVisible c := by
  have hlow : ¬ c.toNat < 0x20 := by
    intro hlt
    simp [Percent.isControl, hlt] at hc
  have hne : c.toNat ≠ 0x20 := fun heq => hs (Char.toNat_inj.mp heq)
  rw [IsVisible]
  omega

lemma isVisible_of_escapePath {c : Char} (h : escapePath c = false) : IsVisible c := by
  obtain ⟨hcontrol, hspace⟩ : Percent.isControl c = false ∧ c ≠ ' ' := by
    simp_all [escapePath, escapeFragment]
  exact isVisible_of_isControl hcontrol hspace

lemma isInner_of_mem_alphabet : ∀ c ∈ Percent.escapeAlphabet, IsInner c :=
  Percent.forall_mem_escapeAlphabet (by decide) (by decide)

lemma isInner_of_mem_userinfo {c : Char} {text : List Char}
    (h : c ∈ Percent.encode escapeUserinfo text) : IsInner c := by
  obtain ⟨-, hplain⟩ | halphabet := Percent.mem_encode h
  · have hpath : escapePath c = false := by simp_all [escapeUserinfo]
    refine ⟨isVisible_of_escapePath hpath, ?_, ?_⟩
    · simp_all [escapeUserinfo, isSlash]
    · simp_all [escapePath, endsPath]
  · exact isInner_of_mem_alphabet c halphabet

lemma isInner_of_isForbidden {c : Char} (h : isForbiddenInDomain c = false) : IsInner c := by
  obtain ⟨⟨hhost, hcontrol⟩, -⟩ : (isForbiddenInHost c = false ∧ Percent.isControl c = false) ∧
      c ≠ '%' := by simpa [isForbiddenInDomain] using h
  have hne : ∀ d, isForbiddenInHost d = true → c ≠ d := by
    rintro d hd rfl
    rw [hhost] at hd
    contradiction
  refine ⟨isVisible_of_isControl hcontrol (hne ' ' (by decide)), ?_, ?_⟩
  · simp [isSlash, hne '/' (by decide), hne '\\' (by decide)]
  · simp [endsPath, hne '?' (by decide), hne '#' (by decide)]

lemma isInner_of_isDigit {c : Char} (h : Decimal.isDigit c = true) : IsInner c := by
  obtain ⟨hv, hd⟩ := Decimal.digitChar_digitValue h
  have hall : ∀ n < 10, IsInner (Nat.digitChar n) := by decide
  exact hd ▸ hall _ hv

/-! ### Names -/

/-- The host that a domain name stands for. -/
def ofName? (name : List Char) : Option Host :=
  if name.isEmpty || name.any isForbiddenInDomain then none
  else if endsInNumber name then (readIpv4? name).map .ipv4
  else some (.domain name)

section Names

variable {name : List Char} {host : Host}

lemma isForbidden_of_ofName? (h : ofName? name = some host) :
    name ≠ [] ∧ ∀ c ∈ name, isForbiddenInDomain c = false := by
  unfold ofName? at h
  split at h
  · contradiction
  · next hallowed => simpa using hallowed

lemma ofName?_of_isForbidden (hne : name ≠ []) (h : ∀ c ∈ name, isForbiddenInDomain c = false) :
    ofName? name =
      if endsInNumber name then (readIpv4? name).map .ipv4 else some (.domain name) := by
  have hallowed : (name.isEmpty || name.any isForbiddenInDomain) = false := by simpa [hne] using h
  rw [ofName?, hallowed]
  rfl

/-- A name without forbidden characters stands for itself. -/
lemma readHost?_name (h : ∀ c ∈ name, isForbiddenInDomain c = false) :
    readHost? true name = (Domain.toAscii? name).bind ofName? := by
  have hnot {d : Char} (hd : isForbiddenInDomain d = true) : d ∉ name := fun hm => by
    rw [h d hm] at hd
    contradiction
  have hdecode : Utf8.decodeLossy (Percent.decodeText name) = name := by
    rw [Percent.decodeText_of_notMem (hnot (by decide)), Utf8.decodeLossy_encode]
  unfold readHost?
  split
  · exact absurd List.mem_cons_self (hnot (by decide))
  · rw [hdecode]
    rfl

end Names

/-! ### Hosts of the web -/

/-- Whether a host is one that URLs of the web have. -/
inductive Host.IsOfWeb : Host → Prop where
  | domain {name : List Char} (h : ofName? name = some (.domain name))
    (hname : Domain.toAscii? name = some name) : IsOfWeb (.domain name)
  | ipv4 {address : Nat} (h : address < 2 ^ 32) : IsOfWeb (.ipv4 address)
  | ipv6 {pieces : List Nat} (hlen : pieces.length = 8) (h : ∀ n ∈ pieces, IsPiece n) :
    IsOfWeb (.ipv6 pieces)

lemma isOfWeb_of_readHost? {text : List Char} {host : Host} (h : readHost? true text = some host) :
    host.IsOfWeb := by
  unfold readHost? at h
  split at h
  · split at h
    · obtain ⟨pieces, hread, rfl⟩ := Option.map_eq_some_iff.mp h
      obtain ⟨hlen, hpieces⟩ := isPiece_of_readIpv6? hread
      exact .ipv6 hlen hpieces
    · contradiction
  · obtain ⟨name, hascii, hname⟩ : ∃ name, _ ∧ ofName? name = some host :=
      Option.bind_eq_some_iff.mp h
    obtain ⟨hne, hplain⟩ := isForbidden_of_ofName? hname
    have hcases := hname
    rw [ofName?_of_isForbidden hne hplain] at hcases
    split at hcases
    · obtain ⟨address, hread, rfl⟩ := Option.map_eq_some_iff.mp hcases
      exact .ipv4 (lt_of_readIpv4? hread)
    · obtain rfl := Option.some_inj.mp hcases
      exact .domain hname (Domain.toAscii?_of_toAscii? hascii)

/-- What holds of dots and digits holds of all characters of a dotted address. -/
lemma forall_mem_ipv4Text {p : Char → Prop} (hdot : p '.') (hd : ∀ n < 10, p (Nat.digitChar n))
    (address : Nat) : ∀ c ∈ ipv4Text address, p c := by
  intro c hc
  obtain rfl | ⟨part, hp, hc⟩ := Text.mem_joinWith hc
  · exact hdot
  · obtain ⟨n, -, rfl⟩ := List.mem_map.mp hp
    obtain ⟨hlt, hdigit⟩ := Decimal.digitChar_digitValue (Decimal.isDigit_of_mem_digits hc)
    exact hdigit ▸ hd _ hlt

lemma ipv4Text_ne_nil (address : Nat) : ipv4Text address ≠ [] := by
  simp [ipv4Text, Text.joinWith_cons_of_ne_nil, Decimal.digits_ne_nil]

/-- What holds of colons and digits holds of all characters between the brackets of an address. -/
lemma forall_mem_ipv6Text {p : Char → Prop} (hcolon : p ':') (hd : ∀ n < 16, p (Nat.digitChar n))
    (pieces : List Nat) : ∀ c ∈ ipv6Text pieces, p c := by
  have hhex (pieces : List Nat) : ∀ c ∈ hexPieces pieces, p c := by
    intro c hc
    obtain rfl | ⟨piece, hp, hc⟩ := Text.mem_joinWith hc
    · exact hcolon
    · obtain ⟨n, -, rfl⟩ := List.mem_map.mp hp
      obtain ⟨m, hm, rfl⟩ := exists_of_mem_hex hc
      exact hd m hm
  unfold ipv6Text
  split
  · exact hhex pieces
  · have hcolons : ∀ c ∈ [':', ':'], p c := by simpa using hcolon
    exact List.forall_mem_append.mpr ⟨List.forall_mem_append.mpr ⟨hhex _, hcolons⟩, hhex _⟩

/-- The host and the port are cut behind characters that are no brackets, and no colon unless in
brackets. -/
lemma splitPort_append {inside : Bool} {front : List Char}
    (h : ∀ c ∈ front, c ≠ '[' ∧ c ≠ ']' ∧ (c = ':' → inside = true)) (rest : List Char) :
    splitPort inside (front ++ rest) =
      (front ++ (splitPort inside rest).1, (splitPort inside rest).2) := by
  induction front with
  | nil => rfl
  | cons c front ih =>
    obtain ⟨⟨hopen, hclose, hcolon⟩, hfront⟩ := List.forall_mem_cons.mp h
    have hgo : (c = ':' && !inside) = false := by
      by_cases hc : c = ':' <;> simp_all
    simp only [List.cons_append, splitPort, hgo, hopen, hclose, if_false, ih hfront]
    rfl

section IsOfWeb

variable {host : Host}

/-- The printed form of a host of the web is not empty and stays in an authority. -/
lemma Host.IsOfWeb.isInner (h : host.IsOfWeb) :
    host.text ≠ [] ∧ ∀ c ∈ host.text, IsInner c ∧ c ≠ '@' := by
  cases h with
  | @domain name h hname =>
    obtain ⟨hne, hplain⟩ := isForbidden_of_ofName? h
    refine ⟨hne, fun c hc => ⟨isInner_of_isForbidden (hplain c hc), ?_⟩⟩
    rintro rfl
    exact absurd (hplain _ hc) (by decide)
  | @ipv4 address h =>
    exact ⟨ipv4Text_ne_nil address, forall_mem_ipv4Text (by decide) (by decide) address⟩
  | @ipv6 pieces hlen h =>
    refine ⟨List.cons_ne_nil _ _, List.forall_mem_cons.mpr ⟨by decide, ?_⟩⟩
    exact List.forall_mem_append.mpr
      ⟨forall_mem_ipv6Text (by decide) (by decide) pieces,
        List.forall_mem_singleton.mpr (by decide)⟩

/-- The port is cut behind the printed form of a host of the web. -/
lemma Host.IsOfWeb.splitPort_text (h : host.IsOfWeb) (rest : List Char) :
    splitPort false (host.text ++ rest) =
      (host.text ++ (splitPort false rest).1, (splitPort false rest).2) := by
  cases h with
  | @domain name h hname =>
    obtain ⟨-, hplain⟩ := isForbidden_of_ofName? h
    refine splitPort_append (fun c hc => ?_) rest
    have hnot {d : Char} (hd : isForbiddenInDomain d = true) : c ≠ d := by
      rintro rfl
      rw [hplain c hc] at hd
      contradiction
    exact ⟨hnot (by decide), hnot (by decide), fun heq => absurd heq (hnot (by decide))⟩
  | @ipv4 address h =>
    exact splitPort_append (forall_mem_ipv4Text (by decide) (by decide) address) rest
  | @ipv6 pieces hlen h =>
    have hinside := @splitPort_append true (ipv6Text pieces)
      (forall_mem_ipv6Text (by decide) (by decide) pieces) (']' :: rest)
    simp [Host.text, splitPort, hinside]

lemma isSome_readHost?_ipv4Text {address : Nat} (h : address < 2 ^ 32) :
    (readHost? true (ipv4Text address)).isSome = true := by
  have hforbidden : ∀ c ∈ ipv4Text address, isForbiddenInDomain c = false :=
    forall_mem_ipv4Text (by decide) (by decide) address
  have hplain : ∀ c ∈ ipv4Text address, Text.isAscii c = true ∧ c ≠ 'x' :=
    forall_mem_ipv4Text (by decide) (by decide) address
  have hlower : (ipv4Text address).map Char.toLower = ipv4Text address :=
    (List.map_congr_left (forall_mem_ipv4Text (by decide) (by decide) address)).trans
      (List.map_id _)
  have hmark : ∀ label ∈ Text.splitOn '.' (ipv4Text address),
      Domain.marker.isPrefixOf label = false := by
    intro label hl
    rw [Bool.eq_false_iff]
    intro hprefix
    have hx : 'x' ∈ label := (List.isPrefixOf_iff_prefix.mp hprefix).subset (by decide)
    exact (hplain 'x' (Text.mem_of_mem_splitOn hl hx)).2 rfl
  have hsimple : Domain.isSimple (ipv4Text address) = true := by
    rw [Domain.isSimple, hlower, Bool.and_eq_true, List.all_eq_true, List.all_eq_true]
    refine ⟨fun c hc => (hplain c hc).1, fun label hl => ?_⟩
    rw [hmark label hl]
    rfl
  have hnumber : endsInNumber (ipv4Text address) = true := by
    have hdigits : (Decimal.digits (address % 256)).all Decimal.isDigit = true :=
      List.all_eq_true.mpr fun c hc => Decimal.isDigit_of_mem_digits hc
    simp [endsInNumber, labels_ipv4Text, dottedParts, hdigits, Decimal.digits_ne_nil]
  rw [readHost?_name hforbidden, Domain.toAscii?, if_pos hsimple, hlower, Option.bind_some,
    ofName?_of_isForbidden (ipv4Text_ne_nil address) hforbidden, if_pos hnumber,
    readIpv4?_ipv4Text h]
  rfl

/-- The printed form of a host is read as a host again. -/
theorem Host.IsOfWeb.isSome_readHost? (h : host.IsOfWeb) :
    (readHost? true host.text).isSome = true := by
  cases h with
  | @domain name h hname =>
    rw [Host.text, readHost?_name (isForbidden_of_ofName? h).2, hname, Option.bind_some, h,
      Option.isSome_some]
  | ipv4 h => exact isSome_readHost?_ipv4Text h
  | ipv6 hlen h => simpa [Host.text, readHost?] using isSome_readIpv6?_ipv6Text hlen h

end IsOfWeb

end ModuleArchive.Url
