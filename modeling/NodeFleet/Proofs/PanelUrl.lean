import NodeFleet.Proofs.Ideographs
import NodeFleet.Proofs.LocalHost
import NodeFleet.Proofs.UrlText

/-!
# The URL of the panel

A URL of the web is accepted exactly if its host is not the machine itself, and what is kept of it
is read as a URL with the same scheme, host and port.
-/

namespace NodeFleet.Url

open Text

/-- What is accepted, and what is kept of it. -/
theorem panelUrl_eq_ok_iff (s p : String) :
    panelUrl s = .ok p ↔ ∃ url, read? s = some (.web url) ∧ IsHttp url.scheme ∧
      ¬ url.host.IsLocal ∧ p = String.ofList (trimEndOf '/' url.chars) := by
  unfold panelUrl
  dsimp only
  cases read? s with
  | none => simp
  | some reading =>
    cases reading with
    | other scheme => simp
    | web url =>
      have hexists : (∃ found, some (Reading.web url) = some (.web found) ∧ IsHttp found.scheme ∧
          ¬ found.host.IsLocal ∧ p = String.ofList (trimEndOf '/' found.chars)) ↔
          IsHttp url.scheme ∧ ¬ url.host.IsLocal ∧ p = String.ofList (trimEndOf '/' url.chars) := by
        simp only [Option.some.injEq, Reading.web.injEq, exists_eq_left']
      rw [hexists, ← checkHost_eq_ok_iff]
      dsimp only
      split
      · next hscheme =>
        cases checkHost url.host with
        | error e =>
          refine iff_of_false (fun hok => nomatch hok) fun h => ?_
          cases h.2.1
        | ok =>
          refine ⟨fun hok => ⟨hscheme, rfl, (Except.ok.inj hok).symm⟩, fun h => ?_⟩
          rw [h.2.2]
          rfl
      · next hscheme => exact iff_of_false (fun hok => nomatch hok) (fun h => hscheme h.1)

/-- A URL of the web is read after its scheme. -/
theorem exists_readWeb? {s : String} {url : WebUrl} (h : read? s = some (.web url)) :
    ∃ scheme rest, readScheme? (significant s.toList) = some (scheme, rest) ∧
      readWeb? scheme rest = some url := by
  unfold read? at h
  obtain ⟨⟨scheme, rest⟩, hscheme, h⟩ := Option.bind_eq_some_iff.1 h
  refine ⟨scheme, rest, hscheme, ?_⟩
  dsimp only at h
  split at h
  · obtain ⟨found, hfound, h⟩ := Option.bind_eq_some_iff.1 h
    obtain rfl := Reading.web.inj (Option.some.inj h)
    exact hfound
  · split at h
    · cases h
    · cases h

theorem readable_of_read? {s : String} {url : WebUrl} (h : read? s = some (.web url)) :
    Readable url := by
  obtain ⟨scheme, rest, -, hweb⟩ := exists_readWeb? h
  exact (readable_of_readWeb? hweb).2

/-- The text of the host in a URL of the web: between user and port. -/
def hostText? (s : String) : Option (List Char) :=
  (readScheme? (significant s.toList)).map fun (_, rest) =>
    let body := rest.dropWhile fun c => c = '/' || c = '\\'
    let authority := body.takeWhile fun c => !endsAuthority c
    (splitPort false (splitUser authority).2).1

theorem exists_hostText? {s : String} {url : WebUrl} (h : read? s = some (.web url)) :
    ∃ cs, hostText? s = some cs ∧ Host.read? cs = some url.host := by
  obtain ⟨scheme, rest, hscheme, hweb⟩ := exists_readWeb? h
  rw [hostText?, hscheme]
  refine ⟨_, rfl, ?_⟩
  unfold readWeb? at hweb
  obtain ⟨⟨username, password, host, port⟩, hauthority, hweb⟩ := Option.bind_eq_some_iff.1 hweb
  obtain rfl := Option.some.inj hweb
  obtain ⟨found, hfound, hauthority⟩ := Option.bind_eq_some_iff.1 hauthority
  obtain ⟨number, -, hauthority⟩ := Option.bind_eq_some_iff.1 hauthority
  simp only [Option.some.injEq, Prod.mk.injEq] at hauthority
  obtain ⟨-, -, rfl, -⟩ := hauthority
  exact read?_of_readHost? hfound

/-- A URL whose host is written as a name of the machine itself, with percent signs or without. -/
def SpellsLocalName (s : String) : Prop :=
  ∃ cs decoded, hostText? s = some cs ∧ cs.head? ≠ some '[' ∧
    decode? (percentDecode (bytesOf (String.ofList cs))) = some decoded ∧
    IsLocalName decoded.toList

/-- Whatever the name is written like, the host that is read is the machine itself. -/
theorem isLocal_of_spellsLocalName {s : String} {url : WebUrl} (h : read? s = some (.web url))
    (hspells : SpellsLocalName s) : url.host.IsLocal := by
  obtain ⟨cs, decoded, hcs, hhead, hdecoded, hlocal⟩ := hspells
  obtain ⟨cs', hcs', hhost⟩ := exists_hostText? h
  obtain rfl := Option.some.inj (hcs.symm.trans hcs')
  exact Host.isLocal_of_isLocalName hhost hhead hdecoded hlocal

/-- Only hosts other than the machine itself are accepted, and all of them are. What is kept of a
URL does not end in a slash, and is read as a URL with the same scheme, host and port; but it is not
read at all if the Punycode of a label is longer than what is read. -/
theorem panelUrl_reachable (u : String) :
    (∀ p, panelUrl u = .ok p → ∃ url, read? u = some (.web url) ∧ IsHttp url.scheme ∧
      p.toList.getLast? ≠ some '/' ∧ ¬ url.host.IsLocal ∧ ¬ SpellsLocalName u ∧
      (¬ url.host.HasLongLabel → ∃ url', read? p = some (.web url') ∧
        url'.scheme = url.scheme ∧ url'.host = url.host ∧ url'.port = url.port) ∧
      (url.host.HasLongLabel → read? p = none)) ∧
    ∀ url, read? u = some (.web url) → IsHttp url.scheme → ¬ url.host.IsLocal →
      ∃ p, panelUrl u = .ok p := by
  constructor
  · intro p hp
    obtain ⟨url, hread, hscheme, hlocal, rfl⟩ := (panelUrl_eq_ok_iff u p).1 hp
    have hreadable : Readable url := readable_of_read? hread
    obtain ⟨cs, hhost⟩ := hreadable.host
    obtain ⟨hshort, hlong⟩ := Host.read?_chars hhost
    obtain ⟨hsame, hnone⟩ := hreadable.read?_trimEndOf hscheme
    refine ⟨url, hread, hscheme, ?_, hlocal, fun h => hlocal (isLocal_of_spellsLocalName hread h),
      fun h => hsame (hshort h), fun h => hnone (hlong h)⟩
    rw [String.toList_ofList]
    exact getLast?_trimEndOf '/' url.chars
  · intro url hread hscheme hlocal
    exact ⟨_, (panelUrl_eq_ok_iff u _).2 ⟨url, hread, hscheme, hlocal, rfl⟩⟩

/-- Whether a URL of the web has been read that has a property. -/
instance decidableExistsWeb (reading : Option Reading) (P : WebUrl → Prop) [DecidablePred P] :
    Decidable (∃ url, reading = some (.web url) ∧ P url) :=
  match reading with
  | some (.web url) => decidable_of_iff (P url) (by simp)
  | some (.other _) => isFalse (by simp)
  | none => isFalse (by simp)

/-- Of a URL at an IPv6 address, the scheme, the address and the port are kept. -/
theorem panelUrl_reachable_ipv6 :
    let u := "HTTP://[2001:DB8::5]:8080/x/..//"
    let p := "http://[2001:db8::5]:8080"
    (∃ p, panelUrl u = .ok p) ∧ panelUrl u = .ok p ∧
      ∃ url url', read? u = some (.web url) ∧ ¬url.host.IsLocal ∧ read? p = some (.web url') ∧
        url'.scheme = "http".toList ∧ url'.port = some 8080 ∧ url'.host = url.host := by
  intro u p
  have hkept : panelUrl u = .ok p := by decide +kernel
  have hfacts : ∃ url, read? u = some (.web url) ∧ url.scheme = "http".toList ∧
      url.port = some 8080 ∧ url.host = .ipv6 ⟨[0x2001, 0xdb8, 0, 0, 0, 0, 0, 5], rfl⟩ := by
    decide +kernel
  obtain ⟨haccepted, hall⟩ := panelUrl_reachable u
  obtain ⟨url, hread, -, -, hlocal, -, hsame, -⟩ := haccepted p hkept
  obtain ⟨_, hread', hscheme, hport, hhost⟩ := hfacts
  cases hread'.symm.trans hread
  have hshort : ¬url.host.HasLongLabel := by
    rw [hhost]
    exact id
  obtain ⟨url', hkeptRead, hscheme', hhost', hport'⟩ := hsame hshort
  exact ⟨hall url hread (.inl hscheme) hlocal, hkept, url, url', hread, hlocal, hkeptRead,
    hscheme'.trans hscheme, hport'.trans hport, hhost'⟩

/-! ### A label that is too long -/

/-- A URL that names its host only. -/
def hostUrl (scheme : List Char) (host : Host) : WebUrl :=
  { scheme, host, username := [], password := [], port := none, path := [[]], query := none,
    fragment := none }

/-- A URL with nothing after its host is read with that host. -/
theorem read?_hostUrl {scheme cs : List Char} (hscheme : IsHttp scheme) (hne : cs ≠ [])
    (hchars : ∀ c ∈ cs, Inside c ∧ c ≠ ':' ∧ c ≠ '[' ∧ c ≠ ']') :
    read? (String.ofList (scheme ++ ':' :: ("//".toList ++ cs))) =
      (Host.read? cs).map fun host => .web (hostUrl scheme host) := by
  have hat : '@' ∉ cs := fun hc => (hchars _ hc).1.2.1 rfl
  have hport : splitPort false cs = (cs, none) := by
    have hsplit := splitPort_append (fun c hc => (hchars c hc).2) []
    simpa only [List.append_nil, splitPort] using hsplit
  have hhost : readHost? cs = Host.read? cs := if_neg (by simpa using hne)
  have husual : usualPort? scheme ≠ none := by
    rcases hscheme with rfl | rfl <;> decide
  have hauthority :
      readAuthority? scheme cs = (Host.read? cs).map fun host => ([], [], host, none) := by
    unfold readAuthority?
    simp only [splitUser_of_not_mem hat, hport, hhost]
    cases Host.read? cs with
    | none => rfl
    | some host => simp [readPort?, splitPassword, splitFirst?, percentEncode]
  have htext : ∀ c ∈ "//".toList ++ cs, 0x20 < c.toNat :=
    List.forall_mem_append.2
      ⟨List.all_iff_forall_prop.1 (by decide), fun c hc => (hchars c hc).1.1⟩
  have htail := @readWeb?_append scheme cs [] hne (fun c hc => (hchars c hc).1.2.2)
    fun c hc => absurd hc (Option.not_mem_none c)
  rw [List.append_nil, hauthority] at htail
  rw [read?_append hscheme htext, htail]
  cases Host.read? cs <;> rfl

/-- What is kept of such a URL ends in its host. -/
theorem trimEndOf_hostUrl {scheme : List Char} {host : Host}
    (h : Readable (hostUrl scheme host)) :
    trimEndOf '/' (hostUrl scheme host).chars = scheme ++ ':' :: ("//".toList ++ host.chars) := by
  have hauthority : (hostUrl scheme host).authorityChars = host.chars := by
    simp [WebUrl.authorityChars, hostUrl, WebUrl.userChars, WebUrl.portChars]
  have htail : trimEndOf '/' (hostUrl scheme host).tailChars = [] := rfl
  rw [h.trimEndOf_chars, hauthority, htail, List.append_nil]
  rfl

theorem not_isLocalName_xn {code : List Char} (h : '.' ∉ code) :
    ¬ IsLocalName ("xn--".toList ++ code) := by
  have hstart : "xn--".toList = 'x' :: "n--".toList := by decide
  have hpoint : '.' ∉ "xn--".toList ++ code := by
    rw [List.mem_append, not_or]
    exact ⟨by decide, h⟩
  rw [hstart, List.cons_append] at hpoint ⊢
  exact fun hlocal => absurd (hlocal.lowerAscii_eq hpoint) (by decide)

theorem hasLongLabel_xn {code : List Char} (h : '.' ∉ code) (hlong : maxPunycode < code.length) :
    (Host.domain ("xn--".toList ++ code)).HasLongLabel := by
  refine ⟨code, ?_, hlong⟩
  rw [splitAll_of_not_mem]
  · exact List.mem_cons_self
  · rw [List.mem_append, not_or]
    exact ⟨by decide, h⟩

/-- A label of ideographs is read as a host in Punycode. -/
theorem read?_ideographs {label : List Char} (h : ∀ c ∈ label, Unicode.IsIdeograph c.toNat)
    (hne : label ≠ []) (hlength : label.length ≤ maxLabel) :
    read? (String.ofList ("http://".toList ++ label)) =
      some (.web (hostUrl "http".toList (.domain ("xn--".toList ++ Punycode.encode label)))) := by
  have hstart : "http://".toList ++ label = "http".toList ++ ':' :: ("//".toList ++ label) := by
    simp
  have hinside : ∀ c ∈ label, Inside c ∧ c ≠ ':' ∧ c ≠ '[' ∧ c ≠ ']' := fun c hc =>
    inside_of_allowed ((openLabel_of_ideographs h hlength).allowed c hc)
  rw [hstart, read?_hostUrl (.inl rfl) hne hinside, Host.read?_of_ideographs h hne hlength,
    Option.map_some]

/-- A label of ideographs is accepted as a host. What is kept of it is its Punycode, which is not
read if it is too long. -/
theorem panelUrl_ideographs {label : List Char} (h : ∀ c ∈ label, Unicode.IsIdeograph c.toNat)
    (hne : label ≠ []) (hlength : label.length ≤ maxLabel) :
    panelUrl (String.ofList ("http://".toList ++ label)) =
        .ok (String.ofList ("http://xn--".toList ++ Punycode.encode label)) ∧
      (maxPunycode < (Punycode.encode label).length →
        read? (String.ofList ("http://xn--".toList ++ Punycode.encode label)) = none) := by
  have hhttp : IsHttp "http".toList := .inl rfl
  have hmark : "http://xn--".toList ++ Punycode.encode label =
      "http".toList ++ ':' :: ("//".toList ++ ("xn--".toList ++ Punycode.encode label)) := by simp
  have hpoint := point_not_mem_encode h hne hlength
  have hread := read?_ideographs h hne hlength
  have hreadable := readable_of_read? hread
  rw [hmark]
  constructor
  · rw [panelUrl_eq_ok_iff]
    refine ⟨_, hread, hhttp, not_isLocalName_xn hpoint, ?_⟩
    rw [trimEndOf_hostUrl hreadable]
    rfl
  · intro hlong
    have hnone := (hreadable.read?_trimEndOf hhttp).2
      ((Host.read?_chars (Host.read?_of_ideographs h hne hlength)).2 (hasLongLabel_xn hpoint hlong))
    rwa [trimEndOf_hostUrl hreadable] at hnone

/-- Seven hundred ideographs that lie far apart. -/
def longLabel : List Char := (List.range 700).map fun k => Char.ofNat (0x20000 + 60 * k)

theorem longLabel_ideographs : ∀ c ∈ longLabel, Unicode.IsIdeograph c.toNat := by
  intro c hc
  obtain ⟨k, hk, rfl⟩ := List.mem_map.1 hc
  have hlt : k < 700 := List.mem_range.1 hk
  rw [Unicode.toNat_ofNat_of_isValid (.inr (by omega))]
  exact ⟨by omega, by omega⟩

theorem longLabel_ne_nil : longLabel ≠ [] := by
  simp [longLabel]

theorem longLabel_length : longLabel.length ≤ maxLabel := by
  rw [longLabel, List.length_map, List.length_range]
  decide

theorem longLabel_isLong : maxPunycode < (Punycode.encode longLabel).length := by
  have hcodes : (longLabel.filter (0x80 ≤ ·.toNat)).foldr
      (fun c ns => Punycode.insertCode c.toNat ns) [] =
        (List.range 700).map fun k => 0x20000 + 60 * k := by decide +kernel
  have hspaced :
      Punycode.isSpaced 0x80 ((List.range 700).map fun k => 0x20000 + 60 * k) = true := by
    decide +kernel
  rw [← hcodes] at hspaced
  have hlength := Punycode.length_encode hspaced
  rw [hcodes, List.length_map, List.length_range] at hlength
  exact Nat.lt_of_lt_of_le (by decide) hlength

/-- What is kept of a URL is not always read: a label may be written, but its Punycode is too long
to be decoded. -/
theorem panelUrl_longLabel :
    panelUrl (String.ofList ("http://".toList ++ longLabel)) =
        .ok (String.ofList ("http://xn--".toList ++ Punycode.encode longLabel)) ∧
      read? (String.ofList ("http://xn--".toList ++ Punycode.encode longLabel)) = none := by
  obtain ⟨haccepted, hunread⟩ :=
    panelUrl_ideographs longLabel_ideographs longLabel_ne_nil longLabel_length
  exact ⟨haccepted, hunread longLabel_isLong⟩

end NodeFleet.Url
