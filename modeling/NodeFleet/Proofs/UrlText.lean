import NodeFleet.Proofs.HostName
import NodeFleet.Url.Panel

/-!
# URLs in their canonical form

The parts of a URL of the web have no characters that separate them, so its characters are taken
apart where they were put together. Scheme, host and port are read back from them, and also when
slashes at the end are left out.
-/

namespace NodeFleet.Url

open Text

/-! ### Encoded characters -/

/-- What percent encoding writes: the characters that are not encoded, percent signs and digits. -/
theorem mem_percentEncode {encoded : Char → Bool} {cs : List Char} {c : Char}
    (h : c ∈ percentEncode encoded cs) :
    encoded c = false ∧ c ∈ cs ∨ c = '%' ∨ ∃ n < 16, c = upperHexDigit n := by
  obtain ⟨d, hd, hc⟩ := List.mem_flatMap.1 h
  split at hc
  · obtain ⟨b, -, hc⟩ := List.mem_flatMap.1 hc
    have hb := b.toNat_lt
    simp only [percentByte, List.mem_cons, List.not_mem_nil, or_false] at hc
    rcases hc with rfl | rfl | rfl
    · exact .inr (.inl rfl)
    · exact .inr (.inr ⟨_, by omega, rfl⟩)
    · exact .inr (.inr ⟨_, by omega, rfl⟩)
  · next hencoded =>
    obtain rfl := List.mem_singleton.1 hc
    exact .inl ⟨by simpa using hencoded, hd⟩

/-- Encoding leaves no encoded character, if those that it writes are none. -/
theorem not_encoded_of_mem {encoded : Char → Bool} {cs : List Char} (hmark : encoded '%' = false)
    (hdigit : ∀ n < 16, encoded (upperHexDigit n) = false) :
    ∀ c ∈ percentEncode encoded cs, encoded c = false := by
  intro c hc
  rcases mem_percentEncode hc with ⟨h, -⟩ | rfl | ⟨n, hn, rfl⟩
  · exact h
  · exact hmark
  · exact hdigit n hn

theorem not_encodedInUser_of_mem {cs : List Char} :
    ∀ c ∈ percentEncode encodedInUser cs, encodedInUser c = false :=
  not_encoded_of_mem (by decide) (by decide)

theorem not_encodedInPath_of_mem {cs : List Char} :
    ∀ c ∈ percentEncode encodedInPath cs, encodedInPath c = false :=
  not_encoded_of_mem (by decide) (by decide)

theorem not_encodedInQuery_of_mem {cs : List Char} :
    ∀ c ∈ percentEncode encodedInQuery cs, encodedInQuery c = false :=
  not_encoded_of_mem (by decide) (by decide)

theorem not_encodedInFragment_of_mem {cs : List Char} :
    ∀ c ∈ percentEncode encodedInFragment cs, encodedInFragment c = false :=
  not_encoded_of_mem (by decide) (by decide)

theorem lt_of_not_isControl {c : Char} (h : isControl c = false) (hne : c ≠ ' ') :
    0x20 < c.toNat := by
  rw [isControl, Bool.or_eq_false_iff, decide_eq_false_iff_not] at h
  have hnat : c.toNat ≠ 0x20 := fun heq => hne (Char.toNat_inj.1 heq)
  omega

theorem lt_of_not_encodedInFragment {c : Char} (h : encodedInFragment c = false) :
    0x20 < c.toNat := by
  rw [encodedInFragment, Bool.or_eq_false_iff] at h
  refine lt_of_not_isControl h.1 ?_
  rintro rfl
  exact absurd h.2 (by decide)

theorem lt_of_not_encodedInPath {c : Char} (h : encodedInPath c = false) : 0x20 < c.toNat := by
  rw [encodedInPath, Bool.or_eq_false_iff] at h
  exact lt_of_not_encodedInFragment h.1

theorem lt_of_not_encodedInQuery {c : Char} (h : encodedInQuery c = false) : 0x20 < c.toNat := by
  rw [encodedInQuery, Bool.or_eq_false_iff] at h
  refine lt_of_not_isControl h.1 ?_
  rintro rfl
  exact absurd h.2 (by decide)

/-- A character outside a class is none of the characters in it. -/
theorem ne_of_eq_false {inClass : Char → Bool} {c d : Char} (h : inClass c = false)
    (hd : inClass d = true) : c ≠ d := by
  rintro rfl
  exact Bool.noConfusion (hd.symm.trans h)

/-- A character that separates nothing up to the end of an authority. -/
def Inside (c : Char) : Prop := 0x20 < c.toNat ∧ c ≠ '@' ∧ endsAuthority c = false

theorem inside_of_not_encodedInUser {c : Char} (h : encodedInUser c = false) : Inside c := by
  have hslash : c ≠ '/' := ne_of_eq_false h (by decide)
  have hback : c ≠ '\\' := ne_of_eq_false h (by decide)
  have hquery : c ≠ '?' := ne_of_eq_false h (by decide)
  have hfragment : c ≠ '#' := ne_of_eq_false h (by decide)
  refine ⟨?_, ne_of_eq_false h (by decide),
    by simp [endsAuthority, hslash, hback, hquery, hfragment]⟩
  rw [encodedInUser, Bool.or_eq_false_iff] at h
  exact lt_of_not_encodedInPath h.1

/-! ### Hosts and ports -/

theorem inside_of_allowed {c : Char} (h : Allowed c) :
    Inside c ∧ c ≠ ':' ∧ c ≠ '[' ∧ c ≠ ']' := by
  have hne {d : Char} (hd : isForbidden d = true) : c ≠ d := ne_of_eq_false h.2 hd
  have hslash : c ≠ '/' := hne (by decide)
  have hback : c ≠ '\\' := hne (by decide)
  have hquery : c ≠ '?' := hne (by decide)
  have hfragment : c ≠ '#' := hne (by decide)
  refine ⟨⟨?_, hne (by decide), by simp [endsAuthority, hslash, hback, hquery, hfragment]⟩,
    hne (by decide), hne (by decide), hne (by decide)⟩
  refine Nat.lt_of_not_le fun hle => ?_
  exact Bool.noConfusion (((isForbidden_iff c).2 (.inl hle)).symm.trans h.2)

theorem allowed_of_mem_ipv4 (ip : Ipv4) : ∀ c ∈ ip.chars, Allowed c := by
  intro c hc
  rcases mem_joinAll hc with hc | ⟨piece, hpiece, hc⟩
  · rw [List.mem_singleton.1 hc]
    exact allowed_of_isPlain (.inr (.inl rfl))
  · obtain ⟨o, -, rfl⟩ := List.mem_map.1 hpiece
    exact allowed_of_isPlain (.inr (.inr (.inl ((Host.octetChars_spec o).2.1 c hc))))

/-- The characters of an IPv6 address end neither the authority nor the brackets. -/
theorem inside_of_mem_ipv6 {ip : Ipv6} {c : Char} (h : c ∈ ip.hexChars) :
    Inside c ∧ c ≠ '[' ∧ c ≠ ']' := by
  have hdigit : ∀ d < 16, (0x20 < (Nat.digitChar d).toNat ∧ Nat.digitChar d ≠ '@' ∧
      endsAuthority (Nat.digitChar d) = false) ∧ Nat.digitChar d ≠ '[' ∧ Nat.digitChar d ≠ ']' := by
    decide
  rcases Ipv6.mem_hexChars h with rfl | ⟨d, hd, rfl⟩
  · exact ⟨⟨by decide, by decide, by decide⟩, by decide, by decide⟩
  · exact hdigit d hd

theorem splitPort_append {cs : List Char} (h : ∀ c ∈ cs, c ≠ ':' ∧ c ≠ '[' ∧ c ≠ ']')
    (rest : List Char) :
    splitPort false (cs ++ rest) = (cs ++ (splitPort false rest).1, (splitPort false rest).2) := by
  induction cs with
  | nil => rfl
  | cons c cs ih =>
    obtain ⟨⟨hcolon, hopen, hclose⟩, hrest⟩ := List.forall_mem_cons.1 h
    rw [List.cons_append, splitPort, if_neg (fun hc => hcolon hc.1)]
    simp only [if_neg hopen, if_neg hclose, ih hrest, List.cons_append]

theorem splitPort_brackets {cs : List Char} (h : ∀ c ∈ cs, c ≠ '[' ∧ c ≠ ']') (rest : List Char) :
    splitPort true (cs ++ ']' :: rest) =
      (cs ++ ']' :: (splitPort false rest).1, (splitPort false rest).2) := by
  induction cs with
  | nil =>
    rw [List.nil_append, splitPort, if_neg (by decide)]
    rfl
  | cons c cs ih =>
    obtain ⟨⟨hopen, hclose⟩, hrest⟩ := List.forall_mem_cons.1 h
    rw [List.cons_append, splitPort, if_neg (by simp)]
    simp only [if_neg hopen, if_neg hclose, ih hrest, List.cons_append]

namespace Host

/-- The characters of a host that has been read separate nothing, and there are some. -/
theorem inside_of_mem_chars {cs : List Char} {host : Host} (h : read? cs = some host) :
    host.chars ≠ [] ∧ ∀ c ∈ host.chars, Inside c := by
  rcases cases_of_read? h with ⟨ip, rfl⟩ | ⟨ip, rfl⟩ | ⟨decoded, name, rfl, hname, hempty, -⟩
  · refine ⟨List.cons_ne_nil _ _, fun c hc => ?_⟩
    rcases List.mem_cons.1 hc with rfl | hc
    · exact ⟨by decide, by decide, by decide⟩
    rcases List.mem_append.1 hc with hc | hc
    · exact (inside_of_mem_ipv6 hc).1
    · rw [List.mem_singleton.1 hc]
      exact ⟨by decide, by decide, by decide⟩
  · refine ⟨by simp [chars, Ipv4.chars, joinAll], fun c hc => ?_⟩
    exact (inside_of_allowed (allowed_of_mem_ipv4 ip c hc)).1
  · refine ⟨fun hnil => ?_, fun c hc => (inside_of_allowed (allowed_of_mem_domain hname c hc).1).1⟩
    rw [chars] at hnil
    rw [hnil] at hempty
    cases hempty

/-- A host is cut off the port after it. -/
theorem splitPort_chars {cs : List Char} {host : Host} (h : read? cs = some host)
    (rest : List Char) :
    splitPort false (host.chars ++ rest) =
      (host.chars ++ (splitPort false rest).1, (splitPort false rest).2) := by
  rcases cases_of_read? h with ⟨ip, rfl⟩ | ⟨ip, rfl⟩ | ⟨decoded, name, rfl, hname, -⟩
  · have hinside := fun c (hc : c ∈ ip.hexChars) => (inside_of_mem_ipv6 hc).2
    rw [chars, List.cons_append, List.append_assoc, List.singleton_append, splitPort,
      if_neg (by decide), if_pos rfl]
    dsimp only
    rw [splitPort_brackets hinside, List.cons_append, List.append_assoc, List.singleton_append]
  · exact splitPort_append (fun c hc => (inside_of_allowed (allowed_of_mem_ipv4 ip c hc)).2) rest
  · exact splitPort_append
      (fun c hc => (inside_of_allowed (allowed_of_mem_domain hname c hc).1).2) rest

end Host

/-! ### What is read -/

/-- What the parts of a URL are that has been read. -/
structure Readable (url : WebUrl) : Prop where
  username : ∀ c ∈ url.username, encodedInUser c = false
  password : ∀ c ∈ url.password, encodedInUser c = false
  host : ∃ cs, Host.read? cs = some url.host
  port : ∀ n ∈ url.port, n ≤ 65535 ∧ some n ≠ usualPort? url.scheme
  path : ∀ part ∈ url.path, ∀ c ∈ part, encodedInPath c = false
  query : ∀ cs ∈ url.query, ∀ c ∈ cs, encodedInQuery c = false
  fragment : ∀ cs ∈ url.fragment, ∀ c ∈ cs, encodedInFragment c = false

theorem readDigits_le {limit value n : Nat} {beyond : IntegerFault} {cs : List Char}
    (h : readDigits limit beyond value cs = .ok n) (hvalue : value ≤ limit) : n ≤ limit := by
  induction cs generalizing value with
  | nil => exact Except.ok.inj h ▸ hvalue
  | cons c cs ih =>
    unfold readDigits at h
    split at h
    · cases h
    · split at h
      · next hle => exact ih h hle
      · cases h

theorem readPort?_le {cs : List Char} {n : Nat} (h : readPort? cs = some (some n)) : n ≤ 65535 := by
  unfold readPort? at h
  split at h
  · cases h
  · split at h
    · next m hm =>
      obtain rfl := Option.some.inj (Option.some.inj h)
      exact readDigits_le hm (Nat.zero_le _)
    · cases h

theorem mem_leave {above : List (List Char)} {part : List Char} (h : part ∈ leave above) :
    part ∈ above := by
  cases above with
  | nil => exact h
  | cons first rest =>
    rw [leave] at h
    split at h
    · exact h
    · exact List.mem_cons_of_mem _ h

/-- A path consists of parts that were there and are no dots, and of empty ones. -/
theorem forall_mem_resolve {P : List Char → Prop} {above parts : List (List Char)}
    (habove : ∀ part ∈ above, P part)
    (hparts : ∀ part ∈ parts, isDoubleDot part = false → isSingleDot part = false → P part)
    (hnil : P []) :
    ∀ part ∈ resolve above parts, P part := by
  have hleave {above : List (List Char)} (habove : ∀ part ∈ above, P part) :
      ∀ part ∈ leave above, P part := fun part hpart => habove part (mem_leave hpart)
  induction parts generalizing above with
  | nil => exact fun part hpart => habove part (List.mem_reverse.1 hpart)
  | cons first rest ih =>
    obtain ⟨hfirst, hrest⟩ := List.forall_mem_cons.1 hparts
    cases rest with
    | nil =>
      intro part hpart
      rw [resolve] at hpart
      split at hpart
      · exact List.forall_mem_cons.2 ⟨hnil, hleave habove⟩ part (List.mem_reverse.1 hpart)
      next hdouble =>
      split at hpart
      · exact List.forall_mem_cons.2 ⟨hnil, habove⟩ part (List.mem_reverse.1 hpart)
      next hsingle =>
      have hfirst := hfirst (by simpa using hdouble) (by simpa using hsingle)
      exact List.forall_mem_cons.2 ⟨hfirst, habove⟩ part (List.mem_reverse.1 hpart)
    | cons next rest =>
      rw [resolve]
      · split
        · exact ih (hleave habove) hrest
        next hdouble =>
        split
        · exact ih habove hrest
        next hsingle =>
        have hfirst := hfirst (by simpa using hdouble) (by simpa using hsingle)
        exact ih (List.forall_mem_cons.2 ⟨hfirst, habove⟩) hrest
      · exact fun h => nomatch h

theorem not_encodedInPath_of_mem_readPath {cs part : List Char} (h : part ∈ readPath cs) :
    ∀ c ∈ part, encodedInPath c = false := by
  unfold readPath at h
  refine forall_mem_resolve (P := fun part => ∀ c ∈ part, encodedInPath c = false) ?_ ?_ ?_ part h
  · exact fun part hpart => nomatch hpart
  · intro part hpart _ _
    obtain ⟨piece, -, rfl⟩ := List.mem_map.1 hpart
    exact not_encodedInPath_of_mem
  · exact fun c hc => nomatch hc

theorem read?_of_readHost? {cs : List Char} {host : Host} (h : readHost? cs = some host) :
    Host.read? cs = some host := by
  unfold readHost? at h
  split at h
  · cases h
  · exact h

/-- What is read of an authority. -/
theorem readable_of_readAuthority? {scheme authority username password : List Char} {host : Host}
    {port : Option Nat}
    (h : readAuthority? scheme authority = some (username, password, host, port)) :
    (∀ c ∈ username, encodedInUser c = false) ∧ (∀ c ∈ password, encodedInUser c = false) ∧
      (∃ cs, Host.read? cs = some host) ∧ ∀ n ∈ port, n ≤ 65535 ∧ some n ≠ usualPort? scheme := by
  obtain ⟨found, hfound, h⟩ := Option.bind_eq_some_iff.1 h
  obtain ⟨number, hnumber, h⟩ := Option.bind_eq_some_iff.1 h
  simp only [Option.some.injEq, Prod.mk.injEq] at h
  obtain ⟨rfl, rfl, rfl, rfl⟩ := h
  refine ⟨not_encodedInUser_of_mem, not_encodedInUser_of_mem, ?_, fun n hn => ?_⟩
  · exact ⟨_, read?_of_readHost? hfound⟩
  · split at hn
    · cases hn
    · next hne =>
      obtain rfl : number = some n := hn
      exact ⟨readPort?_le hnumber, hne⟩

theorem readable_of_readWeb? {scheme cs : List Char} {url : WebUrl}
    (h : readWeb? scheme cs = some url) : url.scheme = scheme ∧ Readable url := by
  unfold readWeb? at h
  dsimp only at h
  obtain ⟨⟨username, password, host, port⟩, hauthority, h⟩ := Option.bind_eq_some_iff.1 h
  obtain rfl := Option.some.inj h
  obtain ⟨husername, hpassword, hhost, hport⟩ := readable_of_readAuthority? hauthority
  unfold readTail
  refine ⟨rfl, husername, hpassword, hhost, hport, fun part hpart =>
    not_encodedInPath_of_mem_readPath hpart, fun cs hcs => ?_, fun cs hcs => ?_⟩
  · obtain ⟨raw, -, rfl⟩ := Option.map_eq_some_iff.1 hcs
    exact not_encodedInQuery_of_mem
  · obtain ⟨raw, -, rfl⟩ := Option.map_eq_some_iff.1 hcs
    exact not_encodedInFragment_of_mem

/-! ### Reading the characters of a URL -/

/-- A text that is written in parts, up to the end of the authority, is cut there. -/
theorem splitUser_append {user rest : List Char} (h : '@' ∉ rest) :
    splitUser (user ++ '@' :: rest) = (user, rest) := by
  have hreverse : (user ++ '@' :: rest).reverse = rest.reverse ++ '@' :: user.reverse := by simp
  rw [splitUser, splitLast?, hreverse, splitFirst?_append (by simpa using h)]
  simp

theorem splitUser_of_not_mem {authority : List Char} (h : '@' ∉ authority) :
    splitUser authority = ([], authority) := by
  rw [splitUser, splitLast?, splitFirst?_of_not_mem (by simpa using h)]
  rfl

/-- An authority is cut off the text after it, where that begins with the end of an authority. -/
theorem readWeb?_append {scheme authority tail : List Char} (hne : authority ≠ [])
    (hauthority : ∀ c ∈ authority, endsAuthority c = false)
    (htail : ∀ c ∈ tail.head?, endsAuthority c = true) :
    readWeb? scheme ("//".toList ++ (authority ++ tail)) =
      (readAuthority? scheme authority).map fun (username, password, host, port) =>
        { scheme, username, password, host, port
          path := (readTail tail).1
          query := (readTail tail).2.1
          fragment := (readTail tail).2.2 } := by
  have hslashes : ("//".toList ++ (authority ++ tail)).dropWhile
      (fun c => c = '/' || c = '\\') = authority ++ tail := by
    obtain ⟨c, cs, hcons⟩ := List.exists_cons_of_ne_nil hne
    have hend : endsAuthority c = false := hauthority c (hcons ▸ List.mem_cons_self)
    have hstart : "//".toList = ['/', '/'] := by decide
    have hc : (c = '/' || c = '\\') = false := by
      simp only [endsAuthority, Bool.or_eq_false_iff] at hend
      simp [hend.1.1.1, hend.1.1.2]
    rw [hstart, hcons]
    simp only [List.cons_append, List.nil_append]
    rw [List.dropWhile_cons_of_pos (by decide), List.dropWhile_cons_of_pos (by decide),
      List.dropWhile_cons_of_neg (by simpa using hc)]
  have htake : (authority ++ tail).takeWhile (fun c => !endsAuthority c) = authority := by
    rw [List.takeWhile_append_of_pos fun c hc => by simpa using hauthority c hc]
    cases tail with
    | nil => rw [List.takeWhile_nil, List.append_nil]
    | cons c tail =>
      rw [List.takeWhile_cons_of_neg (by simpa using htail c rfl), List.append_nil]
  unfold readWeb?
  simp only [hslashes, htake, List.drop_left]
  cases readAuthority? scheme authority <;> rfl

/-- The characters of the authority of a URL. -/
def WebUrl.authorityChars (url : WebUrl) : List Char :=
  url.userChars ++ (url.host.chars ++ url.portChars)

/-- The characters after the authority of a URL. -/
def WebUrl.tailChars (url : WebUrl) : List Char :=
  url.pathChars ++ (WebUrl.markedChars '?' url.query ++ WebUrl.markedChars '#' url.fragment)

theorem inside_digitChar {d : Nat} (h : d < 10) : Inside (Nat.digitChar d) := by
  have all : ∀ d < 10, 0x20 < (Nat.digitChar d).toNat ∧ Nat.digitChar d ≠ '@' ∧
      endsAuthority (Nat.digitChar d) = false := by decide
  exact all d h

namespace Readable

variable {url : WebUrl}

theorem inside_of_mem_port {c : Char} (h : c ∈ url.portChars) : Inside c := by
  unfold WebUrl.portChars at h
  split at h
  · rcases List.mem_cons.1 h with rfl | h
    · exact ⟨by decide, by decide, by decide⟩
    · obtain ⟨d, hd, rfl⟩ := mem_toDigits (by decide) h
      exact inside_digitChar hd
  · cases h

/-- After the user, no character of the authority separates anything. -/
theorem inside_of_mem_rest (h : Readable url) {c : Char}
    (hc : c ∈ url.host.chars ++ url.portChars) : Inside c := by
  obtain ⟨cs, hhost⟩ := h.host
  rcases List.mem_append.1 hc with hc | hc
  · exact (Host.inside_of_mem_chars hhost).2 c hc
  · exact inside_of_mem_port hc

theorem splitUser_authority (h : Readable url) :
    ∃ user, splitUser url.authorityChars = (user, url.host.chars ++ url.portChars) := by
  have hat : '@' ∉ url.host.chars ++ url.portChars := fun hc => (h.inside_of_mem_rest hc).2.1 rfl
  unfold WebUrl.authorityChars WebUrl.userChars
  split
  · exact ⟨[], splitUser_of_not_mem hat⟩
  · rw [List.append_assoc, List.singleton_append]
    exact ⟨_, splitUser_append hat⟩

theorem authority_spec (h : Readable url) :
    url.authorityChars ≠ [] ∧
      ∀ c ∈ url.authorityChars, 0x20 < c.toNat ∧ endsAuthority c = false := by
  obtain ⟨cs, hhost⟩ := h.host
  have hne := (Host.inside_of_mem_chars hhost).1
  refine ⟨by simp [WebUrl.authorityChars, hne], fun c hc => ?_⟩
  rcases List.mem_append.1 hc with hc | hc
  · unfold WebUrl.userChars at hc
    split at hc
    · cases hc
    · rcases List.mem_append.1 hc with hc | hc
      · rcases List.mem_append.1 hc with hc | hc
        · obtain ⟨hlt, -, hend⟩ := inside_of_not_encodedInUser (h.username c hc)
          exact ⟨hlt, hend⟩
        · split at hc
          · cases hc
          · rcases List.mem_cons.1 hc with rfl | hc
            · exact ⟨by decide, by decide⟩
            · obtain ⟨hlt, -, hend⟩ := inside_of_not_encodedInUser (h.password c hc)
              exact ⟨hlt, hend⟩
      · rw [List.mem_singleton.1 hc]
        exact ⟨by decide, by decide⟩
  · obtain ⟨hlt, -, hend⟩ := h.inside_of_mem_rest hc
    exact ⟨hlt, hend⟩

/-- The port is read back from its digits. -/
theorem readPort?_portChars (h : Readable url) :
    ∃ digits, splitPort false url.portChars = ([], digits) ∧
      ∃ number, readPort? (digits.getD []) = some number ∧
        (if number = usualPort? url.scheme then none else number) = url.port := by
  unfold WebUrl.portChars
  cases hport : url.port with
  | none =>
    refine ⟨none, rfl, none, rfl, ?_⟩
    split <;> rfl
  | some n =>
    obtain ⟨hle, hne⟩ := h.port n hport
    have hread : readDigits 65535 .tooLarge 0 (Nat.toDigits 10 n) = .ok n := by
      have hdigits : readDigits 65535 .tooLarge 0 (Nat.toDigits 10 n ++ []) = .ok n :=
        readDigits_toDigits hle []
      rwa [List.append_nil] at hdigits
    have hempty : (Nat.toDigits 10 n).isEmpty = false := by simp
    refine ⟨some (Nat.toDigits 10 n), ?_, some n, ?_, if_neg hne⟩
    · dsimp only
      rw [splitPort, if_pos (by decide)]
    · rw [Option.getD_some, readPort?, hempty, hread]
      rfl

/-- Host and port are read back from an authority, if the host is. -/
theorem readAuthority?_authority (h : Readable url) :
    (Host.read? url.host.chars = some url.host → ∃ username password,
      readAuthority? url.scheme url.authorityChars =
        some (username, password, url.host, url.port)) ∧
    (Host.read? url.host.chars = none →
      readAuthority? url.scheme url.authorityChars = none) := by
  obtain ⟨cs, hhost⟩ := h.host
  obtain ⟨user, huser⟩ := h.splitUser_authority
  obtain ⟨digits, hdigits, number, hnumber, hport⟩ := h.readPort?_portChars
  have hsplit : splitPort false (url.host.chars ++ url.portChars) = (url.host.chars, digits) := by
    rw [Host.splitPort_chars hhost, hdigits, List.append_nil]
  have hempty : url.host.chars.isEmpty = false := by
    simpa using (Host.inside_of_mem_chars hhost).1
  have hread : readHost? url.host.chars = Host.read? url.host.chars := by
    rw [readHost?, hempty]
    rfl
  unfold readAuthority?
  simp only [huser, hsplit, hread]
  constructor
  · intro hsome
    refine ⟨percentEncode encodedInUser (splitPassword user).1,
      percentEncode encodedInUser (splitPassword user).2, ?_⟩
    simp only [hsome, hnumber, hport, Option.bind_eq_bind, Option.bind_some]
  · intro hnone
    rw [hnone]
    rfl

end Readable

/-! ### Reading a URL without slashes at its end -/

theorem trimEndOf_append {c : Char} {cs : List Char} (hne : cs ≠ []) (hlast : cs.getLast? ≠ some c)
    (ds : List Char) : trimEndOf c (cs ++ ds) = cs ++ trimEndOf c ds := by
  have hdrop : cs.reverse.dropWhile (· = c) = cs.reverse := by
    obtain ⟨d, front, hfront⟩ := List.exists_cons_of_ne_nil (List.reverse_ne_nil_iff.2 hne)
    have hd : d ≠ c := by
      rintro rfl
      rw [← List.head?_reverse, hfront] at hlast
      exact hlast rfl
    rw [hfront, List.dropWhile_cons_of_neg (by simpa using hd)]
  unfold trimEndOf
  rw [List.reverse_append, List.dropWhile_append]
  split
  · next hempty =>
    rw [List.isEmpty_iff.1 hempty, hdrop, List.reverse_reverse]
    simp
  · rw [List.reverse_append, List.reverse_reverse]

theorem trimEndOf_isPrefix (c : Char) (cs : List Char) : trimEndOf c cs <+: cs := by
  have hsuffix : cs.reverse.dropWhile (· = c) <:+ cs.reverse := List.dropWhile_suffix _
  rw [← List.reverse_prefix, List.reverse_reverse] at hsuffix
  exact hsuffix

theorem getLast?_trimEndOf (c : Char) (cs : List Char) : (trimEndOf c cs).getLast? ≠ some c := by
  intro hlast
  rw [trimEndOf, List.getLast?_reverse] at hlast
  have hnot := List.head?_dropWhile_not (fun d => decide (d = c)) cs.reverse
  rw [hlast] at hnot
  simp at hnot

/-- Nothing in a text without blanks and controls is left out. -/
theorem significant_of_lt {cs : List Char} (h : ∀ c ∈ cs, 0x20 < c.toNat) :
    significant cs = cs := by
  have hdrop {ds : List Char} (hds : ∀ c ∈ ds, 0x20 < c.toNat) :
      ds.dropWhile (fun c => decide (c.toNat ≤ 0x20)) = ds := by
    cases ds with
    | nil => rfl
    | cons d ds =>
      have hd := hds d List.mem_cons_self
      rw [List.dropWhile_cons_of_neg (by simpa using hd)]
  unfold significant
  dsimp only
  rw [hdrop h, hdrop fun c hc => h c (List.mem_reverse.1 hc), List.reverse_reverse,
    List.filter_eq_self]
  intro c hc
  have hlt := h c hc
  have hne {d : Char} (hd : d.toNat ≤ 0x20) : c ≠ d := by
    rintro rfl
    omega
  simp [hne (d := '\t') (by decide), hne (d := '\n') (by decide), hne (d := '\r') (by decide)]

/-- Whether a scheme is one of those that the panel may have. -/
def IsHttp (scheme : List Char) : Prop := scheme = "http".toList ∨ scheme = "https".toList

theorem readScheme?_append {scheme : List Char} (h : IsHttp scheme) (rest : List Char) :
    readScheme? (scheme ++ ':' :: rest) = some (scheme, rest) := by
  have hchars : scheme.all isSchemeChar = true := by
    rcases h with rfl | rfl <;> decide
  have hlower : scheme.map lowerAscii = scheme := by
    rcases h with rfl | rfl <;> decide
  have htake : (scheme ++ ':' :: rest).takeWhile isSchemeChar = scheme := by
    rw [List.takeWhile_append_of_pos fun c hc => List.all_eq_true.1 hchars c hc,
      List.takeWhile_cons_of_neg (by decide), List.append_nil]
  obtain ⟨cs, hcs⟩ : ∃ cs, scheme = 'h' :: cs := by
    rcases h with rfl | rfl
    · exact ⟨"ttp".toList, by decide⟩
    · exact ⟨"ttps".toList, by decide⟩
  unfold readScheme?
  simp only [htake, List.drop_left]
  rw [hcs]
  change (if isLetter 'h' = true then some (List.map lowerAscii ('h' :: cs), rest) else none) = _
  rw [if_pos (by decide), ← hcs, hlower]

/-- A URL of the panel is read after its scheme. -/
theorem read?_append {scheme cs : List Char} (hscheme : IsHttp scheme)
    (h : ∀ c ∈ cs, 0x20 < c.toNat) :
    read? (String.ofList (scheme ++ ':' :: cs)) = (readWeb? scheme cs).map .web := by
  have hchars : ∀ c ∈ scheme ++ ':' :: cs, 0x20 < c.toNat := by
    refine List.forall_mem_append.2 ⟨List.all_iff_forall_prop.1 ?_,
      List.forall_mem_cons.2 ⟨by decide, h⟩⟩
    rcases hscheme with rfl | rfl <;> decide
  have husual : (usualPort? scheme).isSome = true := by
    rcases hscheme with rfl | rfl <;> decide
  rw [read?, String.toList_ofList, significant_of_lt hchars, readScheme?_append hscheme,
    Option.bind_eq_bind, Option.bind_some]
  dsimp only
  rw [if_pos husual]
  cases readWeb? scheme cs <;> rfl

/-- Two URLs of one server. -/
def WebUrl.SameServer (url url' : WebUrl) : Prop :=
  url'.scheme = url.scheme ∧ url'.host = url.host ∧ url'.port = url.port

/-- A text that may stand after an authority: it has no blanks, and ends the authority if there is
something of it. -/
structure IsTail (tail : List Char) : Prop where
  visible : ∀ c ∈ tail, 0x20 < c.toNat
  head : ∀ c ∈ tail.head?, endsAuthority c = true

theorem IsTail.append {front tail : List Char} (hfront : IsTail front) (htail : IsTail tail) :
    IsTail (front ++ tail) := by
  refine ⟨List.forall_mem_append.2 ⟨hfront.visible, htail.visible⟩, ?_⟩
  cases front with
  | nil => exact htail.head
  | cons c front => exact hfront.head

namespace Readable

variable {url : WebUrl}

theorem chars_eq (url : WebUrl) :
    url.chars = url.scheme ++ ':' :: ("//".toList ++ (url.authorityChars ++ url.tailChars)) := by
  have hmark : "://".toList = ':' :: "//".toList := by decide
  simp [WebUrl.chars, WebUrl.authorityChars, WebUrl.tailChars, hmark]

theorem lt_of_mem_tail (h : Readable url) {c : Char} (hc : c ∈ url.tailChars) : 0x20 < c.toNat := by
  have hmarked {mark : Char} {cs : Option (List Char)} (hmark : 0x20 < mark.toNat)
      (hcs : ∀ ds ∈ cs, ∀ c ∈ ds, 0x20 < c.toNat) :
      ∀ c ∈ WebUrl.markedChars mark cs, 0x20 < c.toNat := by
    cases cs with
    | none => exact fun c hc => nomatch hc
    | some ds => exact List.forall_mem_cons.2 ⟨hmark, hcs ds rfl⟩
  rcases List.mem_append.1 hc with hc | hc
  · obtain ⟨part, hpart, hc⟩ := List.mem_flatMap.1 hc
    rcases List.mem_cons.1 hc with rfl | hc
    · decide
    · exact lt_of_not_encodedInPath (h.path part hpart c hc)
  rcases List.mem_append.1 hc with hc | hc
  · exact hmarked (by decide)
      (fun ds hds c hc => lt_of_not_encodedInQuery (h.query ds hds c hc)) c hc
  · exact hmarked (by decide)
      (fun ds hds c hc => lt_of_not_encodedInFragment (h.fragment ds hds c hc)) c hc

theorem endsAuthority_of_head? (url : WebUrl) :
    ∀ c ∈ url.tailChars.head?, endsAuthority c = true := by
  have hmarked {mark : Char} {cs : Option (List Char)} {rest : List Char}
      (hmark : endsAuthority mark = true)
      (hrest : ∀ c ∈ rest.head?, endsAuthority c = true) :
      ∀ c ∈ (WebUrl.markedChars mark cs ++ rest).head?, endsAuthority c = true := by
    cases cs with
    | none => exact hrest
    | some ds =>
      intro c hc
      obtain rfl : mark = c := Option.some.inj hc
      exact hmark
  unfold WebUrl.tailChars WebUrl.pathChars
  cases url.path with
  | nil =>
    refine hmarked (by decide) ?_
    have hfragment := @hmarked '#' url.fragment [] (by decide) fun c hc => nomatch hc
    rwa [List.append_nil] at hfragment
  | cons part path =>
    intro c hc
    obtain rfl : '/' = c := Option.some.inj hc
    decide

/-- The characters of a URL without the slashes at its end. -/
theorem trimEndOf_chars (h : Readable url) :
    trimEndOf '/' url.chars =
      url.scheme ++ ':' ::
        ("//".toList ++ (url.authorityChars ++ trimEndOf '/' url.tailChars)) := by
  obtain ⟨hne, hauthority⟩ := h.authority_spec
  have hassoc (tail : List Char) :
      url.scheme ++ ':' :: ("//".toList ++ (url.authorityChars ++ tail)) =
        (url.scheme ++ ':' :: ("//".toList ++ url.authorityChars)) ++ tail := by simp
  rw [chars_eq, hassoc, hassoc]
  refine trimEndOf_append (by simp) (fun hlast => ?_) _
  have hslash : '/' ∈ url.authorityChars := by
    rw [List.getLast?_append, List.getLast?_cons_of_ne_nil (by simp), List.getLast?_append,
      List.getLast?_eq_some_getLast hne] at hlast
    have hslash : url.authorityChars.getLast hne = '/' := by simpa using hlast
    exact hslash ▸ List.getLast_mem hne
  exact absurd (hauthority _ hslash).2 (by decide)

/-- What is after the authority, without the slashes at the end. -/
theorem isTail_trimEndOf (h : Readable url) : IsTail (trimEndOf '/' url.tailChars) := by
  refine ⟨fun c hc => h.lt_of_mem_tail ((trimEndOf_isPrefix '/' _).subset hc), fun c hc => ?_⟩
  obtain ⟨rest, hrest⟩ := trimEndOf_isPrefix '/' url.tailChars
  refine endsAuthority_of_head? url c ?_
  rw [← hrest, List.head?_append, Option.mem_def.1 hc]
  rfl

/-- A URL with another text after its authority is read with the same scheme, host and port, if the
host is read back, and is not read otherwise. -/
theorem read?_tail (h : Readable url) (hscheme : IsHttp url.scheme) {tail : List Char}
    (htail : IsTail tail) :
    let text := url.scheme ++ ':' :: ("//".toList ++ (url.authorityChars ++ tail))
    (Host.read? url.host.chars = some url.host →
      ∃ url', read? (String.ofList text) = some (.web url') ∧ url.SameServer url' ∧
        (url'.path, url'.query, url'.fragment) = readTail tail) ∧
    (Host.read? url.host.chars = none → read? (String.ofList text) = none) := by
  intro text
  obtain ⟨hne, hauthority⟩ := h.authority_spec
  have hchars : ∀ c ∈ "//".toList ++ (url.authorityChars ++ tail), 0x20 < c.toNat :=
    List.forall_mem_append.2 ⟨List.all_iff_forall_prop.1 (by decide),
      List.forall_mem_append.2 ⟨fun c hc => (hauthority c hc).1, htail.visible⟩⟩
  obtain ⟨hsome, hnone⟩ := h.readAuthority?_authority
  rw [read?_append hscheme hchars, readWeb?_append hne (fun c hc => (hauthority c hc).2) htail.head]
  constructor
  · intro hhost
    obtain ⟨username, password, hparts⟩ := hsome hhost
    rw [hparts]
    exact ⟨_, rfl, ⟨rfl, rfl, rfl⟩, rfl⟩
  · intro hhost
    rw [hnone hhost]
    rfl

/-- The canonical form of a URL without slashes at its end is read as a URL with the same scheme,
host and port, if the host is read back, and is not read otherwise. -/
theorem read?_trimEndOf (h : Readable url) (hscheme : IsHttp url.scheme) :
    (Host.read? url.host.chars = some url.host →
      ∃ url', read? (String.ofList (trimEndOf '/' url.chars)) = some (.web url') ∧
        url'.scheme = url.scheme ∧ url'.host = url.host ∧ url'.port = url.port) ∧
    (Host.read? url.host.chars = none →
      read? (String.ofList (trimEndOf '/' url.chars)) = none) := by
  obtain ⟨hsome, hnone⟩ := h.read?_tail hscheme h.isTail_trimEndOf
  rw [h.trimEndOf_chars]
  refine ⟨fun hhost => ?_, hnone⟩
  obtain ⟨url', hread, hsame, -⟩ := hsome hhost
  exact ⟨url', hread, hsame⟩

end Readable

end NodeFleet.Url
