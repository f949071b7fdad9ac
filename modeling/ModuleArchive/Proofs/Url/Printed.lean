import ModuleArchive.Proofs.Remote.Address
import ModuleArchive.Proofs.Url.Host
import ModuleArchive.Proofs.Url.Path

/-!
# Printed addresses

What stands before the path of a printed address of the web holds no character that ends it or that
does not count. Where such a text is read at all, it is read in the same way before every path, and
names that have been escaped one by one are read as they are.
-/
namespace ModuleArchive.Url

/-! ### Authorities -/

/-- The printed form of what stands before the host. -/
def credentialsText (u : Url) : List Char :=
  if u.username.isEmpty && u.password.isEmpty then []
  else u.username ++ (if u.password.isEmpty then [] else ':' :: u.password) ++ ['@']

/-- The printed form of the host and the port. -/
def addressText (u : Url) (host : Host) : List Char :=
  host.text ++ optionalPart ':' (u.port.map Decimal.digits)

/-- Whether the parts of a URL before its path are written as they have to be. -/
structure HasAuthority (u : Url) : Prop where
  username : ∀ c ∈ u.username, IsInner c
  password : ∀ c ∈ u.password, IsInner c
  host : ∃ host, u.host = some host ∧ host.IsOfWeb
  port : ∀ n ∈ u.port, n ≤ 65535

section Authority

variable {u v : Url} {host : Host}

lemma authorityText_eq (h : u.host = some host) :
    u.authorityText = '/' :: '/' :: (u.credentialsText ++ u.addressText host) := by
  simp only [authorityText, h, credentialsText, addressText]
  cases u.port <;> simp [optionalPart]

/-- What is printed between the slashes and the path stays in an authority. -/
lemma isInner_authority (ha : u.HasAuthority) (h : host.IsOfWeb) :
    ∀ c ∈ u.credentialsText ++ u.addressText host, IsInner c := by
  have hpassword : ∀ c ∈ (if u.password.isEmpty then [] else ':' :: u.password), IsInner c := by
    split
    · exact List.forall_mem_nil _
    · exact List.forall_mem_cons.mpr ⟨by decide, ha.password⟩
  have hcredentials : ∀ c ∈ u.credentialsText, IsInner c := by
    unfold credentialsText
    split
    · exact List.forall_mem_nil _
    · exact List.forall_mem_append.mpr
        ⟨List.forall_mem_append.mpr ⟨ha.username, hpassword⟩,
          List.forall_mem_singleton.mpr (by decide)⟩
  have hport : ∀ c ∈ optionalPart ':' (u.port.map Decimal.digits), IsInner c := by
    cases u.port with
    | none => exact List.forall_mem_nil _
    | some n =>
      exact List.forall_mem_cons.mpr
        ⟨by decide, fun c hc => isInner_of_isDigit (Decimal.isDigit_of_mem_digits hc)⟩
  exact List.forall_mem_append.mpr
    ⟨hcredentials, List.forall_mem_append.mpr ⟨fun c hc => (h.isInner.2 c hc).1, hport⟩⟩

/-- Reading a text without an at sign from behind goes on to what is before it. -/
lemma reverse_dropWhile {text : List Char} (h : '@' ∉ text) (rest : List Char) :
    (text.reverse ++ rest).takeWhile (· != '@') = text.reverse ++ rest.takeWhile (· != '@') ∧
      (text.reverse ++ rest).dropWhile (· != '@') = rest.dropWhile (· != '@') := by
  have hgo : ∀ c ∈ text.reverse, (c != '@') = true := by
    intro c hc
    have hne : c ≠ '@' := by
      rintro rfl
      exact h (List.mem_reverse.mp hc)
    simpa using hne
  exact ⟨List.takeWhile_append_of_pos hgo, List.dropWhile_append_of_pos hgo⟩

lemma splitLastAt?_of_notMem {text : List Char} (h : '@' ∉ text) : splitLastAt? text = none := by
  obtain ⟨-, hdrop⟩ := reverse_dropWhile h []
  rw [List.append_nil] at hdrop
  rw [splitLastAt?, hdrop]
  rfl

lemma splitLastAt?_append {text : List Char} (h : '@' ∉ text) (before : List Char) :
    splitLastAt? (before ++ '@' :: text) = some (before, text) := by
  obtain ⟨htake, hdrop⟩ := reverse_dropWhile h ('@' :: before.reverse)
  have hreverse : (before ++ '@' :: text).reverse = text.reverse ++ '@' :: before.reverse := by
    simp
  rw [splitLastAt?, hreverse, htake, hdrop]
  simp

/-- The credentials end at the last at sign that is printed. -/
lemma splitLastAt?_authority (h : host.IsOfWeb) :
    splitLastAt? (u.credentialsText ++ u.addressText host) = none ∧ u.credentialsText = [] ∨
      ∃ before, splitLastAt? (u.credentialsText ++ u.addressText host) =
        some (before, u.addressText host) := by
  have hat : '@' ∉ u.addressText host := by
    intro hm
    rcases List.mem_append.mp hm with hm | hm
    · exact (h.isInner.2 _ hm).2 rfl
    · cases hport : u.port with
      | none => simp [hport, optionalPart] at hm
      | some n =>
        rw [hport] at hm
        rcases List.mem_cons.mp hm with heq | hm
        · exact absurd heq (by decide)
        · exact absurd (Decimal.isDigit_of_mem_digits hm) (by decide)
  by_cases hempty : (u.username.isEmpty && u.password.isEmpty) = true
  · have hcredentials : u.credentialsText = [] := if_pos hempty
    rw [hcredentials]
    exact .inl ⟨splitLastAt?_of_notMem hat, rfl⟩
  · right
    rw [credentialsText, if_neg hempty, List.append_assoc, List.singleton_append]
    exact ⟨_, splitLastAt?_append hat _⟩

lemma splitPort_addressText (h : host.IsOfWeb) :
    splitPort false (u.addressText host) = (host.text, u.port.map Decimal.digits) := by
  rw [addressText, h.splitPort_text]
  cases u.port <;> simp [optionalPart, splitPort]

lemma exists_readPort? (scheme : List Char) (h : ∀ n ∈ u.port, n ≤ 65535) :
    ∃ port, readPort? scheme (u.port.map Decimal.digits) = some port := by
  cases hport : u.port with
  | none => exact ⟨none, rfl⟩
  | some n =>
    have hdigits : ((Decimal.digits n).isEmpty || !(Decimal.digits n).all Decimal.isDigit) =
        false := by
      simpa [Decimal.digits_ne_nil] using fun c hc => Decimal.isDigit_of_mem_digits hc
    have hread : Decimal.read? (Decimal.digits n) = some n := by
      rw [Decimal.read?, hdigits]
      simp
    have hfits : ¬ 65535 < n := Nat.not_lt.mpr (h n hport)
    rw [Option.map_some, readPort?.eq_def]
    split
    · exact ⟨none, rfl⟩
    · exact ⟨none, rfl⟩
    · next heq => 
      obtain rfl := Option.some_inj.mp heq
      rw [hread]
      simp only [if_neg hfits]
      split
      · exact ⟨none, rfl⟩
      · exact ⟨some n, rfl⟩

/-- A printed authority is read, in the same way before every path. -/
lemma exists_withAuthority?_append (ha : u.HasAuthority) (hhost : u.host = some host)
    (hv : v.isSpecial = true) :
    ∃ start, start.scheme = v.scheme ∧ ∀ path,
      withAuthority? v (u.credentialsText ++ u.addressText host ++ '/' :: path) =
        some (withPathStart start ('/' :: path)) := by
  obtain ⟨_, heq, hweb⟩ := ha.host
  obtain rfl : host = _ := Option.some_inj.mp (hhost.symm.trans heq)
  have hgo : ∀ c ∈ u.credentialsText ++ u.addressText host,
      (!(isSlash v.isSpecial c || endsPath c)) = true := by
    intro c hc
    obtain ⟨-, hslash, hend⟩ := isInner_authority ha hweb c hc
    rw [hv, hslash, hend]
    rfl
  have htake (path : List Char) : (u.credentialsText ++ u.addressText host ++ '/' :: path).takeWhile
      (fun c => !(isSlash v.isSpecial c || endsPath c)) =
        u.credentialsText ++ u.addressText host := by
    rw [List.takeWhile_append_of_pos hgo]
    simp [isSlash]
  have hdrop (path : List Char) : (u.credentialsText ++ u.addressText host ++ '/' :: path).dropWhile
      (fun c => !(isSlash v.isSpecial c || endsPath c)) = '/' :: path := by
    rw [List.dropWhile_append_of_pos hgo]
    simp [isSlash]
  have hne : host.text.isEmpty = false := List.isEmpty_eq_false_iff.mpr hweb.isInner.1
  obtain ⟨again, hagain⟩ := Option.isSome_iff_exists.mp hweb.isSome_readHost?
  obtain ⟨port, hport⟩ := exists_readPort? v.scheme ha.port
  unfold withAuthority?
  simp only [htake, hdrop]
  obtain ⟨hat, hcredentials⟩ | ⟨before, hat⟩ := @splitLastAt?_authority u host hweb
  · rw [hcredentials, List.nil_append] at hat ⊢
    simp only [hat, splitPort_addressText hweb, hne, hv, hagain, hport, Bool.false_and,
      Bool.false_eq_true, if_false, Option.bind_eq_bind, Option.bind_some]
    exact ⟨_, by rfl, fun path => rfl⟩
  · simp only [hat, splitPort_addressText hweb, hne, hv, hagain, hport, Bool.false_and,
      Bool.false_eq_true, if_false, Option.bind_eq_bind, Option.bind_some]
    exact ⟨_, by rfl, fun path => rfl⟩

end Authority

/-! ### Queries and fragments -/

/-- Whether the parts of a URL behind its path are written as they have to be. -/
structure HasTail (u : Url) : Prop where
  query : ∀ part ∈ u.query, ∀ c ∈ part, IsVisible c
  fragment : ∀ part ∈ u.fragment, ∀ c ∈ part, IsVisible c

lemma isVisible_of_mem_encode {escape : Char → Bool} (he : ∀ c, escape c = false → IsVisible c)
    {c : Char} {text : List Char} (h : c ∈ Percent.encode escape text) : IsVisible c := by
  obtain ⟨-, hplain⟩ | halphabet := Percent.mem_encode h
  · exact he c hplain
  · exact (isInner_of_mem_alphabet c halphabet).1

lemma isVisible_of_escapeFragment {c : Char} (h : escapeFragment c = false) : IsVisible c := by
  obtain ⟨hcontrol, hspace⟩ : Percent.isControl c = false ∧ c ≠ ' ' := by
    simp_all [escapeFragment]
  exact isVisible_of_isControl hcontrol hspace

lemma isVisible_of_mem_fragment {rest part : List Char} (hp : part ∈ (match rest with
      | '#' :: text => some (Percent.encode escapeFragment text)
      | _ => none)) : ∀ c ∈ part, IsVisible c := by
  intro c hc
  split at hp
  · obtain rfl := Option.some_inj.mp hp
    exact isVisible_of_mem_encode (fun _ => isVisible_of_escapeFragment) hc
  · exact absurd hp (by simp)

lemma hasTail_withQueryAndFragment (u : Url) (rest : List Char) :
    (withQueryAndFragment u rest).HasTail := by
  have hquery (special : Bool) (c : Char) (h : escapeQuery special c = false) : IsVisible c := by
    obtain ⟨hcontrol, hspace⟩ : Percent.isControl c = false ∧ c ≠ ' ' := by
      simp_all [escapeQuery]
    exact isVisible_of_isControl hcontrol hspace
  unfold withQueryAndFragment
  split
  · refine ⟨fun part hp c hc => ?_, fun _ => isVisible_of_mem_fragment⟩
    obtain rfl := Option.some_inj.mp hp
    exact isVisible_of_mem_encode (hquery _) hc
  · exact ⟨fun part hp => absurd hp (by simp), fun _ => isVisible_of_mem_fragment⟩

lemma hasTail_withPathStart (u : Url) (rest : List Char) : (withPathStart u rest).HasTail := by
  unfold withPathStart withPath
  repeat' split
  all_goals exact hasTail_withQueryAndFragment _ _

/-- Whether the parts of a URL around its path are written as they have to be. -/
structure IsPrintable (u : Url) : Prop extends HasAuthority u, HasTail u

/-! ### Authorities that are read -/

section Reading

variable {u v : Url} {rest : List Char}

@[simp] lemma username_withQueryAndFragment (u : Url) (rest : List Char) :
    (withQueryAndFragment u rest).username = u.username := by
  unfold withQueryAndFragment
  split <;> rfl

@[simp] lemma password_withQueryAndFragment (u : Url) (rest : List Char) :
    (withQueryAndFragment u rest).password = u.password := by
  unfold withQueryAndFragment
  split <;> rfl

lemma username_withPathStart (u : Url) (rest : List Char) :
    (withPathStart u rest).username = u.username := by
  unfold withPathStart
  repeat' split
  all_goals simp [withPath]

lemma password_withPathStart (u : Url) (rest : List Char) :
    (withPathStart u rest).password = u.password := by
  unfold withPathStart
  repeat' split
  all_goals simp [withPath]

@[simp] lemma port_withQueryAndFragment (u : Url) (rest : List Char) :
    (withQueryAndFragment u rest).port = u.port := by
  unfold withQueryAndFragment
  split <;> rfl

lemma port_withPathStart (u : Url) (rest : List Char) :
    (withPathStart u rest).port = u.port := by
  unfold withPathStart
  repeat' split
  all_goals simp [withPath]

lemma le_of_readPort? {scheme : List Char} {text : Option (List Char)} {port : Option Nat}
    (h : readPort? scheme text = some port) : ∀ n ∈ port, n ≤ 65535 := by
  have hnone : ∀ n ∈ (none : Option Nat), n ≤ 65535 := fun n hn => absurd hn (by simp)
  rw [readPort?.eq_def] at h
  split at h
  · exact Option.some_inj.mp h ▸ hnone
  · exact Option.some_inj.mp h ▸ hnone
  · split at h
    · contradiction
    · split at h
      · contradiction
      · next hfits =>
        split at h
        · exact Option.some_inj.mp h ▸ hnone
        · obtain rfl := Option.some_inj.mp h
          intro n hn
          obtain rfl := Option.some_inj.mp hn
          exact Nat.not_lt.mp hfits

lemma isPrintable_of_withAuthority? (hu : u.isSpecial = true)
    (h : withAuthority? u rest = some v) : v.IsPrintable := by
  unfold withAuthority? at h
  simp only [hu, Bool.true_or, Bool.and_true] at h
  -- whether there are credentials makes no difference
  split at h
  all_goals
    split at h
    · contradiction
    · obtain ⟨host, hhost, h⟩ := Option.bind_eq_some_iff.mp h
      obtain ⟨port, hport, h⟩ := Option.bind_eq_some_iff.mp h
      obtain rfl := Option.some_inj.mp h
      refine ⟨⟨?_, ?_, ?_, ?_⟩, hasTail_withPathStart _ _⟩
      · rw [username_withPathStart]
        exact fun c hc => isInner_of_mem_userinfo hc
      · rw [password_withPathStart]
        exact fun c hc => isInner_of_mem_userinfo hc
      · rw [host_withPathStart]
        exact ⟨host, rfl, isOfWeb_of_readHost? hhost⟩
      · rw [port_withPathStart]
        exact le_of_readPort? hport

end Reading

/-! ### Names -/

/-- Whether a name is read as it is where it stands in a path of the web. -/
structure IsFixed (name : List Char) : Prop where
  chars : ∀ c ∈ name, IsInner c ∧ c.toNat < 0x80 ∧ escapePath c = false
  noDot : isSingleDot name = false
  noDots : isDoubleDot name = false

lemma isFixed_encode {name : List Char} (hd : name ≠ ['.']) (hdd : name ≠ ['.', '.']) :
    IsFixed (Percent.encode (escapeSegment true) name) where
  chars c hc := by
    have halphabet : ∀ d ∈ Percent.escapeAlphabet, escapePath d = false :=
      Percent.forall_mem_escapeAlphabet (by decide) (by decide)
    have hlt := Percent.toNat_lt_of_mem_encode hc
    obtain ⟨-, hplain⟩ | hc := Percent.mem_encode hc
    · have hpath : escapePath c = false := by simp_all [escapeSegment]
      refine ⟨⟨isVisible_of_escapePath hpath, ?_, ?_⟩, hlt, hpath⟩
      · simp_all [escapeSegment, isSlash]
      · simp_all [escapePath, endsPath]
    · exact ⟨isInner_of_mem_alphabet c hc, hlt, halphabet c hc⟩
  noDot := isSingleDot_encode true hd
  noDots := isDoubleDot_encode true hdd

/-- Names that are read as they are make the path that is read. -/
lemma pushSegments_of_isFixed {scheme : List Char} (hs : scheme ≠ fileScheme)
    {names : List (List Char)} (hn : ∀ name ∈ names, IsFixed name) (path : List (List Char)) :
    pushSegments scheme path names = path ++ names := by
  have hpush (path : List (List Char)) {name : List Char} (h : IsFixed name) (isLast : Bool) :
      pushSegment scheme path name isLast = path ++ [name] := by
    have hself : Percent.encode escapePath name = name :=
      Percent.encode_eq_self fun c hc => (h.chars c hc).2
    simp [pushSegment, hself, h.noDot, h.noDots, hs]
  induction names generalizing path with
  | nil => rw [pushSegments, List.append_nil]
  | cons name rest ih =>
    obtain ⟨hname, hrest⟩ := List.forall_mem_cons.mp hn
    cases rest with
    | nil => rw [pushSegments, hpush path hname]
    | cons next rest =>
      rw [pushSegments, hpush path hname, ih hrest, List.append_assoc, List.singleton_append]
      exact List.cons_ne_nil _ _

lemma IsFixed.slash_notMem {name : List Char} (h : IsFixed name) : '/' ∉ name := fun hc =>
  absurd (h.chars _ hc).1.2.1 (by decide)

lemma rawSegments_flatMap {first : List Char} {rest : List (List Char)}
    (hn : ∀ name ∈ first :: rest, IsFixed name) :
    rawSegments true (first ++ rest.flatMap ('/' :: ·)) = first :: rest := by
  obtain ⟨hfirst, hrest⟩ := List.forall_mem_cons.mp hn
  have hkeep {name : List Char} (h : IsFixed name) :
      name.map (fun c => if isSlash true c then '/' else c) = name :=
    (List.map_congr_left fun c hc => by simp [(h.chars c hc).1.2.1]).trans (List.map_id name)
  have hnames : (rest.flatMap ('/' :: ·)).map (fun c => if isSlash true c then '/' else c) =
      rest.flatMap ('/' :: ·) := by
    rw [List.map_flatMap]
    refine List.flatMap_congr fun name hm => ?_
    rw [List.map_cons, hkeep (hrest name hm)]
    rfl
  rw [rawSegments, List.map_append, hkeep hfirst, hnames]
  exact Text.splitOn_append_flatMap hfirst.slash_notMem fun name hm => (hrest name hm).slash_notMem

/-- Behind an authority a path of such names is read as these names. -/
lemma path_withPathStart {start : Url} (hu : start.isSpecial = true)
    (hs : start.scheme ≠ fileScheme) {names : List (List Char)} (hne : names ≠ [])
    (hn : ∀ name ∈ names, IsFixed name) {rest : List Char}
    (hr : ∀ c ∈ rest.head?, endsPath c = true) :
    (withPathStart start (names.flatMap ('/' :: ·) ++ rest)).path = .segments names := by
  cases names with
  | nil => contradiction
  | cons first others =>
    obtain ⟨hfirst, hothers⟩ := List.forall_mem_cons.mp hn
    have hgo : ∀ c ∈ first ++ others.flatMap ('/' :: ·), (!endsPath c) = true := by
      have hname {name : List Char} (h : IsFixed name) : ∀ c ∈ name, (!endsPath c) = true :=
        fun c hc => by simp [(h.chars c hc).1.2.2]
      refine List.forall_mem_append.mpr ⟨hname hfirst, fun c hc => ?_⟩
      obtain ⟨name, hm, hc⟩ := List.mem_flatMap.mp hc
      exact List.forall_mem_cons.mpr ⟨by decide, hname (hothers name hm)⟩ c hc
    have htake : (first ++ others.flatMap ('/' :: ·) ++ rest).takeWhile (!endsPath ·) =
        first ++ others.flatMap ('/' :: ·) := by
      rw [List.takeWhile_append_of_pos hgo]
      cases rest with
      | nil => simp
      | cons c rest => simp [hr c rfl]
    have hslash : isSlash true '/' = true := rfl
    rw [List.flatMap_cons, List.cons_append, List.cons_append, withPathStart, hu, if_pos hslash,
      withPath, path_withQueryAndFragment, htake, hu, rawSegments_flatMap hn,
      pushSegments_of_isFixed hs hn, List.nil_append]

/-! ### Whole addresses -/

lemma isPrintable_of_parse? {u : Url} {text : String} (h : parse? text = some u)
    (hw : u.isWeb = true) : u.IsPrintable := by
  obtain ⟨hspecial, hfile⟩ := isSpecialScheme_of_isWeb hw
  unfold parse? read? at h
  simp only at h
  split at h
  · next scheme rest _ _ =>
    obtain rfl := scheme_withScheme? h
    unfold withScheme? at h
    simp only [isSpecial, hfile, hspecial, if_true, if_false, Option.filter_none] at h
    exact isPrintable_of_withAuthority? (by exact hspecial) h
  · contradiction
  · contradiction

/-- The scheme of an address of the web is one, and in lower case. -/
lemma isScheme_of_isWeb {u : Url} (h : u.isWeb = true) :
    Config.isScheme u.scheme = true ∧ u.scheme.map Char.toLower = u.scheme := by
  obtain hs | hs : u.scheme = "http".toList ∨ u.scheme = "https".toList := by
    simpa [isWeb] using h
  · rw [hs]
    decide
  · rw [hs]
    decide

/-- An address of the web is read from its authority on, alone or relative to one with its
scheme. -/
lemma read?_web {u : Url} (hw : u.isWeb = true) {base : Option Url}
    (hb : ∀ b ∈ base, b.scheme = u.scheme) {inner : List Char} (hne : inner ≠ [])
    (hi : ∀ c ∈ inner, IsInner c) {text tail : List Char}
    (hclean : clean text = u.scheme ++ ':' :: '/' :: '/' :: (inner ++ tail)) :
    read? base text = withAuthority? { scheme := u.scheme } (inner ++ tail) := by
  obtain ⟨hspecial, hfile⟩ := isSpecialScheme_of_isWeb hw
  obtain ⟨hscheme, hlower⟩ := isScheme_of_isWeb hw
  have hdrop : (inner ++ tail).dropWhile (isSlash true) = inner ++ tail := by
    cases inner with
    | nil => contradiction
    | cons c inner =>
      rw [List.cons_append, List.dropWhile_cons_of_neg (by simp [(hi c List.mem_cons_self).2.1])]
  have hread : read? base text =
      withScheme? u.scheme base ('/' :: '/' :: (inner ++ tail)) := by
    simp only [read?, hclean, splitScheme?_append hscheme, hlower]
  unfold withScheme? at hread
  simp only [isSpecial, hspecial, if_neg hfile, if_true] at hread
  cases base with
  | none =>
    have hslashes : ('/' :: '/' :: (inner ++ tail)).dropWhile (isSlash true) = inner ++ tail := by
      rw [List.dropWhile_cons_of_pos rfl, List.dropWhile_cons_of_pos rfl, hdrop]
    rw [hread, Option.filter_none, hslashes]
  | some b =>
    have hsame : (some b).filter (fun b => decide (b.scheme = u.scheme)) = some b := by
      simp [hb b rfl]
    rw [hread, hsame]
    simp only [hdrop]

lemma isVisible_of_mem_text {u : Url} (hw : u.isWeb = true) (h : u.IsPrintable)
    (hp : ∀ c ∈ u.pathText, IsVisible c) : ∀ c ∈ u.text, IsVisible c := by
  obtain ⟨host, hhost, hweb⟩ := h.host
  have hpart {mark : Char} (hm : IsVisible mark) {part : Option (List Char)}
      (hv : ∀ text ∈ part, ∀ c ∈ text, IsVisible c) :
      ∀ c ∈ optionalPart mark part, IsVisible c := by
    cases part with
    | none => exact List.forall_mem_nil _
    | some text => exact List.forall_mem_cons.mpr ⟨hm, hv text rfl⟩
  have hauthority : ∀ c ∈ u.authorityText, IsVisible c := by
    rw [authorityText_eq hhost]
    simp only [List.forall_mem_cons]
    exact ⟨by decide, by decide, fun c hc => (isInner_authority h.toHasAuthority hweb c hc).1⟩
  refine List.forall_mem_append.mpr
    ⟨fun c hc => toNat_of_mem_scheme (isScheme_of_isWeb hw).1 hc, ?_⟩
  simp only [List.forall_mem_cons, List.forall_mem_append]
  exact ⟨by decide, ⟨⟨hauthority, hp⟩, hpart (by decide) h.query⟩, hpart (by decide) h.fragment⟩

lemma IsPrintable.isVisible_of_isFixed {u : Url} (h : u.IsPrintable) (hw : u.isWeb = true)
    {names : List (List Char)} (hn : ∀ name ∈ names, IsFixed name) :
    ∀ c ∈ ({ u with path := .segments names } : Url).text, IsVisible c := by
  have hpath : ∀ c ∈ names.flatMap ('/' :: ·), IsVisible c := by
    intro c hc
    obtain ⟨name, hm, hc⟩ := List.mem_flatMap.mp hc
    exact List.forall_mem_cons.mpr ⟨by decide, fun c hc => ((hn name hm).chars c hc).1.1⟩ c hc
  exact isVisible_of_mem_text hw
    ⟨⟨h.username, h.password, h.host, h.port⟩, ⟨h.query, h.fragment⟩⟩ hpath

/-- An address that a base address leads to by names that have been escaped is read, where it is
printed, as one with these names. -/
theorem exists_join?_print {u : Url} (hw : u.isWeb = true) (h : u.IsPrintable)
    {names : List (List Char)} (hne : names ≠ []) (hn : ∀ name ∈ names, IsFixed name) :
    ∃ v, join? u ({ u with path := .segments names } : Url).print = some v ∧
      v.path = .segments names := by
  obtain ⟨hspecial, hfile⟩ := isSpecialScheme_of_isWeb hw
  obtain ⟨host, hhost, hweb⟩ := h.host
  obtain ⟨start, hscheme, hstart⟩ : ∃ start, start.scheme = u.scheme ∧ ∀ path,
      withAuthority? { scheme := u.scheme }
        (u.credentialsText ++ u.addressText host ++ '/' :: path) =
          some (withPathStart start ('/' :: path)) :=
    @exists_withAuthority?_append u { scheme := u.scheme } host h.toHasAuthority hhost hspecial
  let named : Url := { u with path := .segments names }
  let rest : List Char := optionalPart '?' u.query ++ optionalPart '#' u.fragment
  have hvisible : ∀ c ∈ named.text, IsVisible c := h.isVisible_of_isFixed hw hn
  have htext : named.text = u.scheme ++ ':' :: '/' :: '/' ::
      (u.credentialsText ++ u.addressText host ++ (names.flatMap ('/' :: ·) ++ rest)) := by
    have hauthority : named.authorityText =
        '/' :: '/' :: (u.credentialsText ++ u.addressText host) :=
      @authorityText_eq named host hhost
    rw [text, hauthority]
    simp [named, rest, pathText]
  have hclean : clean named.print.toList = u.scheme ++ ':' :: '/' :: '/' ::
      (u.credentialsText ++ u.addressText host ++ (names.flatMap ('/' :: ·) ++ rest)) := by
    rw [print, String.toList_ofList, clean_eq_self hvisible, htext]
  have hinner : u.credentialsText ++ u.addressText host ≠ [] := by
    simp [addressText, hweb.isInner.1]
  have hmark : ∀ c ∈ rest.head?, endsPath c = true := by
    cases hquery : u.query <;> cases hfragment : u.fragment <;>
      simp [rest, hquery, hfragment, optionalPart, endsPath]
  refine ⟨withPathStart start (names.flatMap ('/' :: ·) ++ rest), ?_, ?_⟩
  · obtain ⟨first, others, rfl⟩ := List.exists_cons_of_ne_nil hne
    rw [join?, read?_web hw (fun b hb => by rw [← Option.some_inj.mp hb]) hinner
      (isInner_authority h.toHasAuthority hweb) hclean]
    exact hstart _
  · exact path_withPathStart (by rwa [isSpecial, hscheme]) (by rwa [hscheme]) hne hn hmark

end ModuleArchive.Url
