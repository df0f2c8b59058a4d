import NodeFleet.Api.Route
import NodeFleet.Proofs.InstallScript
import NodeFleet.Proofs.PanelUrl

/-!
# Where nodes download the agent

The address of the agent is the URL of the panel with the path of the endpoint after it. A path that
has been read is read again as it stands, and also with parts after it, so the address is a URL of
the panel's server with the endpoint below the path, if nothing follows the path in the URL.
-/

namespace NodeFleet

namespace Url

open Text

/-! ### Paths that are read as they stand -/

/-- A part of a path that is neither encoded nor cut nor resolved. -/
structure IsPart (part : List Char) : Prop where
  encoded : ∀ c ∈ part, encodedInPath c = false
  slash : '/' ∉ part
  backslash : '\\' ∉ part
  double : isDoubleDot part = false
  single : isSingleDot part = false

/-- The parts of a path, each after a slash. -/
def slashed (parts : List (List Char)) : List Char := parts.flatMap fun part => '/' :: part

@[simp] theorem slashed_nil : slashed [] = [] := rfl

@[simp] theorem slashed_cons (part : List Char) (parts : List (List Char)) :
    slashed (part :: parts) = '/' :: (part ++ slashed parts) := rfl

@[simp] theorem slashed_append (front parts : List (List Char)) :
    slashed (front ++ parts) = slashed front ++ slashed parts := List.flatMap_append

theorem pathChars_eq (url : WebUrl) : url.pathChars = slashed url.path := rfl

theorem percentEncode_of_not_encoded {encoded : Char → Bool} {cs : List Char}
    (h : ∀ c ∈ cs, encoded c = false) : percentEncode encoded cs = cs := by
  induction cs with
  | nil => rfl
  | cons c cs ih =>
    obtain ⟨hc, hcs⟩ := List.forall_mem_cons.1 h
    rw [percentEncode, List.flatMap_cons, if_neg (by simp [hc]), List.singleton_append,
      ← percentEncode, ih hcs]

/-- Parts without dots are kept. -/
theorem resolve_of_forall_isPart {above parts : List (List Char)}
    (h : ∀ part ∈ parts, IsPart part) : resolve above parts = above.reverse ++ parts := by
  induction parts generalizing above with
  | nil => rw [resolve, List.append_nil]
  | cons first rest ih =>
    obtain ⟨hfirst, hrest⟩ := List.forall_mem_cons.1 h
    have hdouble := Bool.eq_false_iff.1 hfirst.double
    have hsingle := Bool.eq_false_iff.1 hfirst.single
    cases rest with
    | nil => rw [resolve, if_neg hdouble, if_neg hsingle, List.reverse_cons]
    | cons next rest =>
      rw [resolve, if_neg hdouble, if_neg hsingle, ih hrest, List.reverse_cons, List.append_assoc,
        List.singleton_append]
      exact List.cons_ne_nil next rest

/-- The parts of every path that has been read would be read as they stand. -/
theorem isPart_of_mem_readPath {cs part : List Char} (h : part ∈ readPath cs) : IsPart part := by
  unfold readPath at h
  refine forall_mem_resolve (P := IsPart) ?_ ?_ ?_ part h
  · exact fun part hpart => nomatch hpart
  · intro part hpart hdouble hsingle
    obtain ⟨piece, hpiece, rfl⟩ := List.mem_map.1 hpart
    have hdigit : ∀ n < 16, upperHexDigit n ≠ '/' ∧ upperHexDigit n ≠ '\\' := by decide
    have hslashes : ∀ c ∈ piece, c ≠ '/' ∧ c ≠ '\\' := by
      intro c hc
      obtain ⟨hmem, hne⟩ := mem_of_mem_splitAll hpiece hc
      have hmem : c ∈ cs.map fun c => if c = '\\' then '/' else c := by
        split at hmem
        · next hslashes => exact hslashes ▸ List.mem_cons_of_mem _ hmem
        · exact hmem
      obtain ⟨d, -, rfl⟩ := List.mem_map.1 hmem
      refine ⟨hne, ?_⟩
      split
      · decide
      · next hback => exact hback
    have hencoded : ∀ c ∈ percentEncode encodedInPath piece, c ≠ '/' ∧ c ≠ '\\' := by
      intro c hc
      rcases mem_percentEncode hc with ⟨-, hc⟩ | rfl | ⟨n, hn, rfl⟩
      · exact hslashes c hc
      · decide
      · exact hdigit n hn
    exact ⟨not_encodedInPath_of_mem, fun hc => (hencoded _ hc).1 rfl,
      fun hc => (hencoded _ hc).2 rfl, hdouble, hsingle⟩
  · exact ⟨fun c hc => (nomatch hc), List.not_mem_nil, List.not_mem_nil, by decide, by decide⟩

theorem joinAll_cons (first : List Char) (rest : List (List Char)) :
    joinAll ['/'] (first :: rest) = first ++ slashed rest := by
  induction rest generalizing first with
  | nil => rw [joinAll, slashed_nil, List.append_nil]
  | cons next rest ih =>
    rw [joinAll, ih, slashed_cons, List.append_assoc, List.singleton_append]

/-- Parts that are written after slashes are read as these parts. -/
theorem readPath_slashed {parts : List (List Char)} (hne : parts ≠ [])
    (h : ∀ part ∈ parts, IsPart part) : readPath (slashed parts) = parts := by
  obtain ⟨first, rest, rfl⟩ := List.exists_cons_of_ne_nil hne
  have hslashes : ('/' :: (first ++ slashed rest)).map (fun c => if c = '\\' then '/' else c) =
      '/' :: (first ++ slashed rest) := by
    refine (List.map_congr_left fun c hc => if_neg ?_).trans (List.map_id _)
    rintro rfl
    obtain ⟨part, hpart, hc⟩ : ∃ part ∈ first :: rest, '\\' ∈ '/' :: part :=
      List.mem_flatMap.1 hc
    exact (h part hpart).backslash (List.mem_of_ne_of_mem (by decide) hc)
  have hencode : (first :: rest).map (percentEncode encodedInPath) = first :: rest := by
    refine (List.map_congr_left fun part hpart => ?_).trans (List.map_id _)
    exact percentEncode_of_not_encoded (h part hpart).encoded
  unfold readPath
  rw [slashed_cons, hslashes]
  change resolve [] ((splitAll '/' (first ++ slashed rest)).map _) = _
  rw [← joinAll_cons, splitAll_joinAll hne fun part hpart => (h part hpart).slash, hencode,
    resolve_of_forall_isPart h]
  rfl

/-- Nothing but a path is read of parts after slashes. -/
theorem readTail_slashed {parts : List (List Char)} (h : ∀ part ∈ parts, IsPart part) :
    readTail (slashed parts) = (readPath (slashed parts), none, none) := by
  have hmarks : ∀ c ∈ slashed parts, (c ≠ '?' && c ≠ '#') = true := by
    intro c hc
    obtain ⟨part, hpart, hc⟩ := List.mem_flatMap.1 hc
    rcases List.mem_cons.1 hc with rfl | hc
    · decide
    · have hencoded := (h part hpart).encoded c hc
      have hquery : c ≠ '?' := ne_of_eq_false hencoded (by decide)
      have hfragment : c ≠ '#' := ne_of_eq_false hencoded (by decide)
      simp [hquery, hfragment]
  have htake : (slashed parts).takeWhile (fun c => c ≠ '?' && c ≠ '#') = slashed parts :=
    List.takeWhile_eq_self_iff.2 hmarks
  unfold readTail
  simp only [htake, List.drop_length]
  rfl

theorem trimEndOf_concat (c : Char) (cs : List Char) :
    trimEndOf c (cs ++ [c]) = trimEndOf c cs := by
  simp [trimEndOf]

theorem trimEndOf_of_getLast? {c : Char} {cs : List Char} (h : cs.getLast? ≠ some c) :
    trimEndOf c cs = cs := by
  by_cases hnil : cs = []
  · rw [hnil]
    rfl
  · have htrim := trimEndOf_append hnil h []
    rwa [List.append_nil, show trimEndOf c [] = [] from rfl, List.append_nil] at htrim

/-- Without the slashes at its end, a path consists of its first parts. -/
theorem exists_trimEndOf_slashed {parts : List (List Char)} (h : ∀ part ∈ parts, IsPart part) :
    ∃ front, front <+: parts ∧ trimEndOf '/' (slashed parts) = slashed front := by
  induction parts using List.reverseRecOn with
  | nil => exact ⟨[], List.prefix_rfl, rfl⟩
  | append_singleton front last ih =>
    obtain ⟨hfront, hlast⟩ := List.forall_mem_append.1 h
    cases last with
    | nil =>
      obtain ⟨first, hstart, htrim⟩ := ih hfront
      refine ⟨first, hstart.trans (List.prefix_append _ _), ?_⟩
      rw [slashed_append, slashed_cons, slashed_nil, List.nil_append, trimEndOf_concat, htrim]
    | cons c cs =>
      refine ⟨front ++ [c :: cs], List.prefix_rfl, trimEndOf_of_getLast? fun hslash => ?_⟩
      have hmem : '/' ∈ c :: cs := by
        rw [slashed_append, slashed_cons, slashed_nil, List.append_nil,
          List.getLast?_append_of_ne_nil _ (List.cons_ne_nil _ _),
          List.getLast?_cons_of_ne_nil (List.cons_ne_nil c cs)] at hslash
        exact List.mem_of_getLast? hslash
      exact (hlast _ (List.mem_singleton_self _)).slash hmem

/-- A path that does not end in a slash is read as itself, but for the slash of an empty one. -/
theorem trimEndOf_slashed_readPath {parts : List (List Char)} (h : ∀ part ∈ parts, IsPart part)
    (hlast : (slashed parts).getLast? ≠ some '/') :
    trimEndOf '/' (slashed (readPath (slashed parts))) = slashed parts := by
  by_cases hnil : parts = []
  · subst hnil
    decide
  · rw [readPath_slashed hnil h, trimEndOf_of_getLast? hlast]

/-! ### Places below a URL -/

/-- A URL of a place below the path of another one, with nothing after it. -/
structure WebUrl.IsPlace (target base : WebUrl) (place : List Char) : Prop where
  path : target.pathChars = trimEndOf '/' base.pathChars ++ place
  query : target.query = none
  fragment : target.fragment = none

theorem isPart_of_read? {s : String} {url : WebUrl} (h : read? s = some (.web url)) :
    ∀ part ∈ url.path, IsPart part := by
  obtain ⟨scheme, rest, -, hweb⟩ := exists_readWeb? h
  unfold readWeb? at hweb
  obtain ⟨parts, -, hweb⟩ := Option.bind_eq_some_iff.1 hweb
  obtain rfl := Option.some.inj hweb
  exact fun part hpart => isPart_of_mem_readPath hpart

/-- What is kept after the authority of a URL without query and fragment is a path. -/
theorem exists_trimEndOf_tailChars {s : String} {url : WebUrl} (h : read? s = some (.web url))
    (hquery : url.query = none) (hfragment : url.fragment = none) :
    ∃ front, (∀ part ∈ front, IsPart part) ∧ trimEndOf '/' url.tailChars = slashed front := by
  have hparts := isPart_of_read? h
  have hpath : url.tailChars = slashed url.path := by
    rw [WebUrl.tailChars, hquery, hfragment]
    exact List.append_nil _
  obtain ⟨front, hstart, htrim⟩ := exists_trimEndOf_slashed hparts
  exact ⟨front, fun part hpart => hparts part (hstart.subset hpart), hpath ▸ htrim⟩

/-- A path may stand after an authority. -/
theorem isTail_slashed {parts : List (List Char)} (h : ∀ part ∈ parts, IsPart part) :
    IsTail (slashed parts) := by
  constructor
  · intro c hc
    obtain ⟨part, hpart, hc⟩ := List.mem_flatMap.1 hc
    rcases List.mem_cons.1 hc with rfl | hc
    · decide
    · exact lt_of_not_encodedInPath ((h part hpart).encoded c hc)
  · intro c hc
    cases parts with
    | nil => cases hc
    | cons first rest =>
      obtain rfl : '/' = c := Option.some.inj hc
      decide

/-- The text of a place after the URL of the panel is read as the URL of that place below it, if
nothing follows the path in the URL and its host is read back. It is not read at all if the Punycode
of a label is longer than what is read. -/
theorem read?_place {u p : String} {url : WebUrl} (h : panelUrl u = .ok p)
    (hread : read? u = some (.web url)) {place : List (List Char)} (hne : place ≠ [])
    (hplace : ∀ part ∈ place, IsPart part) :
    (¬ url.host.HasLongLabel → url.query = none → url.fragment = none →
      ∃ base target, read? p = some (.web base) ∧ url.SameServer base ∧
        read? (p ++ String.ofList (slashed place)) = some (.web target) ∧ url.SameServer target ∧
        target.IsPlace base (slashed place)) ∧
    (url.host.HasLongLabel → read? (p ++ String.ofList (slashed place)) = none) := by
  obtain ⟨url', hread', hscheme, -, rfl⟩ := (panelUrl_eq_ok_iff u p).1 h
  obtain rfl : url' = url := by simpa using hread'.symm.trans hread
  have hreadable : Readable url' := readable_of_read? hread
  obtain ⟨cs, hhost⟩ := hreadable.host
  obtain ⟨hshort, hlong⟩ := Host.read?_chars hhost
  have htext : String.ofList (trimEndOf '/' url'.chars) ++ String.ofList (slashed place) =
      String.ofList (url'.scheme ++ ':' :: ("//".toList ++
        (url'.authorityChars ++ (trimEndOf '/' url'.tailChars ++ slashed place)))) := by
    rw [hreadable.trimEndOf_chars, ← String.ofList_append]
    simp
  have htail : IsTail (trimEndOf '/' url'.tailChars) := hreadable.isTail_trimEndOf
  obtain ⟨hsome, hnone⟩ := hreadable.read?_tail hscheme (htail.append (isTail_slashed hplace))
  rw [htext]
  refine ⟨fun hlabels hquery hfragment => ?_, fun hlabel => hnone (hlong hlabel)⟩
  obtain ⟨base, hbase, hserver, hbaseTail⟩ :=
    (hreadable.read?_tail hscheme htail).1 (hshort hlabels)
  obtain ⟨target, htarget, hserver', htargetTail⟩ := hsome (hshort hlabels)
  rw [← hreadable.trimEndOf_chars] at hbase
  -- Without query and fragment, both texts after the authority are parts after slashes.
  obtain ⟨front, hfront, htrim⟩ := exists_trimEndOf_tailChars hread hquery hfragment
  have hlast := getLast?_trimEndOf '/' url'.tailChars
  have hall := List.forall_mem_append.2 ⟨hfront, hplace⟩
  rw [htrim] at hlast hbaseTail htargetTail
  rw [readTail_slashed hfront] at hbaseTail
  rw [← slashed_append, readTail_slashed hall, readPath_slashed (by simp [hne]) hall]
    at htargetTail
  simp only [Prod.mk.injEq] at hbaseTail htargetTail
  obtain ⟨hbasePath, -, -⟩ := hbaseTail
  obtain ⟨htargetPath, htargetQuery, htargetFragment⟩ := htargetTail
  refine ⟨base, target, hbase, hserver, htarget, hserver', ?_, htargetQuery, htargetFragment⟩
  rw [pathChars_eq, pathChars_eq, htargetPath, slashed_append, hbasePath,
    trimEndOf_slashed_readPath hfront hlast]

end Url

namespace Api

/-- A path under which agents get what they run. -/
def GivesBinary (path : String) : Prop :=
  ∃ methods parameters reading, findRoute? path = some (.forAgent methods, parameters) ∧
    readingOf? methods "GET" = some reading ∧ ∀ input, reading input = .ok .binary

end Api

namespace Url

open Posix Text

/-! ### The endpoint of the agent -/

/-- The parts of the path of the endpoint that gives out the agent. -/
def endpoint : List (List Char) := ["api".toList, "agent".toList, "binary".toList]

theorem slashed_endpoint : slashed endpoint = "/api/agent/binary".toList := by decide

theorem isPart_of_mem_endpoint : ∀ part ∈ endpoint, IsPart part := by
  have hparts : ∀ part ∈ endpoint, part.any encodedInPath = false ∧ '/' ∉ part ∧ '\\' ∉ part ∧
      isDoubleDot part = false ∧ isSingleDot part = false := by decide
  intro part hpart
  obtain ⟨hencoded, hslash, hbackslash, hdouble, hsingle⟩ := hparts part hpart
  exact ⟨fun c hc => by simpa using List.any_eq_false.1 hencoded c hc, hslash, hbackslash, hdouble,
    hsingle⟩

/-- A node downloads the agent from the server of the panel's URL, from the endpoint below its path,
if nothing follows the path in the URL. The address is not read at all if the Punycode of a label is
longer than what is read. -/
theorem download_reaches_endpoint (u : String) (p : InstallPlan) (c : InstallConfig)
    (h : panelUrl u = .ok p.panelUrl) :
    ∃ url download address, read? u = some (.web url) ∧
      (p.steps c).lookup "download_agent" = some download ∧
      commandsOf download = some
        [.plain ["set", "-e"],
          .plain ["curl", "-fsSL", "--retry", "3", "-H", "Authorization: Bearer " ++ p.token,
            address, "-o", c.remoteBinaryPath ++ ".tmp"],
          .plain ["chmod", "755", c.remoteBinaryPath ++ ".tmp"],
          .plain ["mv", c.remoteBinaryPath ++ ".tmp", c.remoteBinaryPath]] ∧
      Api.GivesBinary "/api/agent/binary" ∧
      (¬ url.host.HasLongLabel → url.query = none → url.fragment = none →
        ∃ base target, read? p.panelUrl = some (.web base) ∧ url.SameServer base ∧
          read? address = some (.web target) ∧ url.SameServer target ∧
          target.IsPlace base "/api/agent/binary".toList) ∧
      (url.host.HasLongLabel → read? address = none) := by
  obtain ⟨url, hread, -⟩ := (panelUrl_eq_ok_iff u p.panelUrl).1 h
  have hplace := read?_place h hread (by decide : endpoint ≠ []) isPart_of_mem_endpoint
  have haddress : p.panelUrl ++ String.ofList (slashed endpoint) = p.downloadUrl := by
    rw [slashed_endpoint, String.ofList_toList]
    rfl
  rw [haddress, slashed_endpoint] at hplace
  exact ⟨url, p.downloadScript c, p.downloadUrl, hread, rfl, p.commandsOf_downloadScript c,
    ⟨_, _, _, rfl, rfl, fun _ => rfl⟩, hplace⟩

/-- The endpoint of a panel that is found below a path. -/
theorem download_reaches_endpoint_below :
    let p : InstallPlan := ⟨1, 443, "http://[2001:db8::5]:8080/panel", "token"⟩
    panelUrl "http://[2001:db8::5]:8080/x/../panel//" = .ok p.panelUrl ∧
      ∃ target, read? p.downloadUrl = some (.web target) ∧ target.port = some 8080 ∧
        target.pathChars = "/panel/api/agent/binary".toList ∧ target.query = none ∧
        target.fragment = none := by
  intro p
  have h : panelUrl "http://[2001:db8::5]:8080/x/../panel//" = .ok p.panelUrl := by
    decide +kernel
  have hbelow : ∃ url, read? "http://[2001:db8::5]:8080/x/../panel//" = some (.web url) ∧
      url.query = none ∧ url.fragment = none ∧ url.port = some 8080 ∧
      url.host = .ipv6 ⟨[0x2001, 0xdb8, 0, 0, 0, 0, 0, 5], rfl⟩ := by decide +kernel
  have hpath : ∃ url, read? p.panelUrl = some (.web url) ∧ url.pathChars = "/panel".toList := by
    decide +kernel
  obtain ⟨url, download, address, hread, hdownload, hcommands, -, hplace, -⟩ :=
    download_reaches_endpoint _ p .standard h
  obtain ⟨url', hread', hquery, hfragment, hport, hhost⟩ := hbelow
  obtain ⟨base', hbase', hpath⟩ := hpath
  obtain rfl : url' = url := by simpa using hread'.symm.trans hread
  have haddress : address = p.downloadUrl := by
    obtain rfl : p.downloadScript .standard = download := Option.some.inj hdownload
    simpa [Command.plain] using hcommands.symm.trans (p.commandsOf_downloadScript .standard)
  obtain ⟨base, target, hbase, -, htarget, ⟨-, -, hport'⟩, hspec⟩ :=
    hplace (by rw [hhost]; exact id) hquery hfragment
  obtain rfl : base' = base := by simpa using hbase'.symm.trans hbase
  refine ⟨h, target, haddress ▸ htarget, hport'.trans hport, ?_, hspec.query, hspec.fragment⟩
  rw [hspec.path, hpath]
  decide

/-- The address of the agent is not always the endpoint of the panel: the host of the panel may not
be read back, and a query takes up the path. -/
theorem download_misses_endpoint :
    (let p : InstallPlan :=
      ⟨1, 443, String.ofList ("http://xn--".toList ++ Punycode.encode longLabel), "token"⟩
    panelUrl (String.ofList ("http://".toList ++ longLabel)) = .ok p.panelUrl ∧
      read? p.downloadUrl = none) ∧
    let p : InstallPlan := ⟨1, 443, "http://[2001:db8::5]/?a=1", "token"⟩
    panelUrl p.panelUrl = .ok p.panelUrl ∧
      ∃ target, read? p.downloadUrl = some (.web target) ∧ target.pathChars = ['/'] ∧
        target.query = some "a=1/api/agent/binary".toList := by
  constructor
  · intro p
    obtain ⟨haccepted, -⟩ :=
      panelUrl_ideographs longLabel_ideographs longLabel_ne_nil longLabel_length
    have hread := read?_ideographs longLabel_ideographs longLabel_ne_nil longLabel_length
    have hlabel := hasLongLabel_xn
      (point_not_mem_encode longLabel_ideographs longLabel_ne_nil longLabel_length) longLabel_isLong
    have hnone := (read?_place haccepted hread (by decide : endpoint ≠ [])
      isPart_of_mem_endpoint).2 hlabel
    rw [slashed_endpoint, String.ofList_toList] at hnone
    exact ⟨haccepted, hnone⟩
  · decide +kernel

end Url

end NodeFleet
