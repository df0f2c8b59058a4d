import Mathlib.Data.List.Sort
import NodeFleet.Proofs.Canonical
import NodeFleet.Proofs.Spelling
import NodeFleet.Text.Utf8

/-!
# The canonical form of a white list

An entry of a white list stands for an address, or for a network of addresses. The canonical form of
a list has one text for each address and each network that its entries stand for, so it does not
depend on how they are spelled.
-/

namespace NodeFleet

open Text

/-! ### The order of texts -/

namespace Text

/-- The order of lists is kept by a function that keeps the order of the members. -/
theorem map_lt_map {α β : Type} [LT α] [LT β] {f : α → β} {xs ys : List α}
    (h : ∀ x ∈ xs, ∀ y ∈ ys, x < y → f x < f y) (hlt : xs < ys) : xs.map f < ys.map f := by
  induction hlt with
  | nil => exact .nil
  | rel hxy => exact .rel (h _ List.mem_cons_self _ List.mem_cons_self hxy)
  | cons _ ih =>
    exact .cons (ih fun x hx y hy => h x (List.mem_cons_of_mem _ hx) y (List.mem_cons_of_mem _ hy))

/-- A text of ASCII characters has one byte for each of them. -/
theorem bytesOf_of_ascii {s : String} (h : ∀ c ∈ s.toList, c.toNat < 128) :
    bytesOf s = s.toList.map fun c => c.val.toUInt8 := by
  unfold bytesOf
  rw [← List.flatMap_pure_eq_map]
  apply List.flatMap_congr
  intro c hc
  apply String.utf8EncodeChar_eq_singleton
  exact Char.utf8Size_eq_one_iff.2 (Nat.le_of_lt_succ (h c hc))

/-- Texts of ASCII characters are ordered as their bytes are. -/
theorem bytesOf_lt_bytesOf {s t : String} (hs : ∀ c ∈ s.toList, c.toNat < 128)
    (ht : ∀ c ∈ t.toList, c.toNat < 128) (hlt : s < t) : bytesOf s < bytesOf t := by
  rw [bytesOf_of_ascii hs, bytesOf_of_ascii ht]
  refine map_lt_map ?_ hlt
  intro c hc d hd hcd
  have hc' : c.val.toNat < 128 := hs c hc
  have hd' : d.val.toNat < 128 := ht d hd
  have hlt' : c.val.toNat < d.val.toNat := hcd
  rw [UInt8.lt_iff_toNat_lt, UInt32.toNat_toUInt8, UInt32.toNat_toUInt8]
  omega

end Text

/-! ### Rules applied to lists -/

section Rules

variable {ε α : Type} {rule : α → Except ε α} {xs ys : List α}

/-- A rule applies to a list if it applies to each member. -/
theorem exists_mapM_iff : (∃ ys, xs.mapM rule = .ok ys) ↔ ∀ x ∈ xs, ∃ y, rule x = .ok y := by
  induction xs with
  | nil => exact ⟨fun _ => List.forall_mem_nil _, fun _ => ⟨[], rfl⟩⟩
  | cons x xs ih =>
    rw [List.forall_mem_cons, ← ih]
    constructor
    · rintro ⟨ys, h⟩
      simp only [List.mapM_cons, Except.bind_eq_ok] at h
      obtain ⟨y, hy, zs, hzs, -⟩ := h
      exact ⟨⟨y, hy⟩, zs, hzs⟩
    · rintro ⟨⟨y, hy⟩, zs, hzs⟩
      exact ⟨y :: zs, by simp only [List.mapM_cons, hy, hzs]; rfl⟩

theorem mem_mapM (h : xs.mapM rule = .ok ys) {x y : α} (hx : x ∈ xs) (hy : rule x = .ok y) :
    y ∈ ys := by
  induction xs generalizing ys with
  | nil => cases hx
  | cons x' xs ih =>
    simp only [List.mapM_cons, Except.bind_eq_ok] at h
    obtain ⟨z, hz, zs, hzs, he⟩ := h
    cases he
    rcases List.mem_cons.1 hx with rfl | hx
    · cases hz.symm.trans hy
      exact List.mem_cons_self
    · exact List.mem_cons_of_mem _ (ih hzs hx)

end Rules

namespace Network

/-! ### What entries stand for -/

/-- What an entry without blanks around it denotes: an address, or the network of an address and the
length of a prefix that the address has room for. -/
inductive Denotes : List Char → Network → Prop
  | address {cs : List Char} {ip : IpAddress} (h : IpAddress.read? cs = some ip) :
      Denotes cs ⟨ip, none⟩
  | network {cs digits : List Char} {ip : IpAddress} {length : Nat}
      (h : IpAddress.read? cs = some ip) (hdigits : Spells digits length)
      (hlength : length ≤ ip.bits) : Denotes (cs ++ '/' :: digits) ⟨ip, some length⟩
  | signed {cs digits : List Char} {ip : IpAddress} {length : Nat}
      (h : IpAddress.read? cs = some ip) (hdigits : Spells digits length)
      (hlength : length ≤ ip.bits) : Denotes (cs ++ '/' :: '+' :: digits) ⟨ip, some length⟩

/-- What an entry of a white list stands for. -/
def Stands (entry : String) (n : Network) : Prop := Denotes (trimChars entry.toList) n

/-- The addresses and networks that some entry stands for. -/
def Listed (entries : List String) (n : Network) : Prop := ∃ entry ∈ entries, Stands entry n

/-- Entries that differ in the blanks around them and in the case of letters only. -/
def Alike (s t : String) : Prop :=
  (trimChars s.toList).map Char.toLower = (trimChars t.toList).map Char.toLower

variable {cs : List Char} {n m : Network} {entry t : String} {entries texts : List String}

theorem bits_le (ip : IpAddress) : ip.bits ≤ 255 := by
  cases ip with
  | v4 => exact (by decide : 32 ≤ 255)
  | v6 => exact (by decide : 128 ≤ 255)

theorem readLength?_eq_some {limit length : Nat} (hlimit : limit ≤ 255) :
    readLength? limit cs = some length ↔
      ∃ digits, (cs = digits ∨ cs = '+' :: digits) ∧ Spells digits length ∧ length ≤ limit := by
  unfold readLength?
  constructor
  · intro h
    split at h
    · next k hk =>
      split at h
      · next hle =>
        cases h
        obtain ⟨digits, hcs, hspells, -⟩ := readNat_eq_ok.1 hk
        exact ⟨digits, hcs, hspells, hle⟩
      · cases h
    · cases h
  · rintro ⟨digits, hcs, hspells, hle⟩
    rw [readNat_eq_ok.2 ⟨digits, hcs, hspells, hle.trans hlimit⟩]
    exact if_pos hle

/-- What is read is what the entry denotes. -/
theorem read?_eq_some : read? cs = some n ↔ Denotes cs n := by
  constructor
  · intro h
    unfold read? at h
    split at h
    · obtain ⟨ip, hip, rfl⟩ := Option.map_eq_some_iff.1 h
      exact .address hip
    · next before after hsplit =>
      simp only [Option.bind_eq_bind, Option.bind_eq_some_iff, Option.some.injEq] at h
      obtain ⟨ip, hip, length, hlength, rfl⟩ := h
      obtain ⟨digits, hafter, hspells, hle⟩ := (readLength?_eq_some (bits_le ip)).1 hlength
      rw [splitFirst?_eq_some hsplit]
      rcases hafter with rfl | rfl
      · exact .network hip hspells hle
      · exact .signed hip hspells hle
  · intro h
    have hnetwork {cs after : List Char} {ip : IpAddress} {length : Nat}
        (hip : IpAddress.read? cs = some ip) (hlength : readLength? ip.bits after = some length) :
        read? (cs ++ '/' :: after) = some ⟨ip, some length⟩ := by
      unfold read?
      rw [splitFirst?_append (IpAddress.slash_not_mem_of_read? hip)]
      simp only [hip, hlength, Option.bind_eq_bind, Option.bind_some]
    cases h with
    | address hip =>
      unfold read?
      rw [splitFirst?_of_not_mem (IpAddress.slash_not_mem_of_read? hip), hip]
      rfl
    | @network _ digits ip _ hip hspells hle =>
      exact hnetwork hip ((readLength?_eq_some (bits_le ip)).2 ⟨digits, .inl rfl, hspells, hle⟩)
    | @signed _ digits ip _ hip hspells hle =>
      exact hnetwork hip ((readLength?_eq_some (bits_le ip)).2 ⟨digits, .inr rfl, hspells, hle⟩)

/-- An entry stands for one thing at most. -/
theorem Stands.unique (hn : Stands entry n) (hm : Stands entry m) : n = m :=
  Option.some.inj ((read?_eq_some.2 hn).symm.trans (read?_eq_some.2 hm))

theorem canonical_eq_ok : canonical entry = .ok t ↔ ∃ n, Stands entry n ∧ n.text = t := by
  unfold canonical Stands
  constructor
  · intro h
    split at h
    · next n hn =>
      cases h
      exact ⟨n, read?_eq_some.1 hn, rfl⟩
    · cases h
  · rintro ⟨n, hn, rfl⟩
    rw [read?_eq_some.2 hn]

/-- The written form of what an entry stands for stands for the same. -/
theorem Stands.text (h : Stands entry n) : Stands n.text n := by
  unfold Stands
  rw [trimChars_of_not_blank fun c hc => isBlank_of_mem_text hc]
  exact read?_eq_some.1 (read?_text (isValid_of_read? (read?_eq_some.2 h)))

/-- A text without letters is not changed by the case of letters. -/
theorem eq_of_map_toLower {ds : List Char} (hcs : ∀ c ∈ cs, c.isAlpha = false)
    (h : ds.map Char.toLower = cs.map Char.toLower) : ds = cs := by
  induction cs generalizing ds with
  | nil => exact List.map_eq_nil_iff.1 h
  | cons c cs ih =>
    obtain ⟨hc, hrest⟩ := List.forall_mem_cons.1 hcs
    obtain ⟨d, tail, rfl, hd, htail⟩ := List.map_eq_cons_iff.1 h
    rw [(toLower_eq_iff hc).2 rfl, toLower_eq_iff hc] at hd
    rw [hd, ih hrest htail]

/-- The case of letters does not change what an entry denotes. -/
theorem Denotes.of_map_toLower {ds : List Char} (hcs : Denotes cs n)
    (h : ds.map Char.toLower = cs.map Char.toLower) : Denotes ds n := by
  have haddress {cs ds : List Char} {ip : IpAddress} (hip : IpAddress.read? cs = some ip)
      (h : ds.map Char.toLower = cs.map Char.toLower) : IpAddress.read? ds = some ip := by
    rw [← IpAddress.read?_map_toLower, h, IpAddress.read?_map_toLower, hip]
  have htail {digits : List Char} {length : Nat} (hdigits : Spells digits length) :
      ∀ c ∈ digits, c.isAlpha = false := by
    have hdigit : ∀ d < 10, (Nat.digitChar d).isAlpha = false := by decide
    induction hdigits with
    | digit hd => exact List.forall_mem_singleton.2 (hdigit _ hd)
    | more _ hd ih =>
      exact List.forall_mem_append.2 ⟨ih, List.forall_mem_singleton.2 (hdigit _ hd)⟩
  cases hcs with
  | address hip => exact .address (haddress hip h)
  | @network _ digits ip length hip hdigits hle =>
    rw [List.map_append] at h
    obtain ⟨front, back, rfl, hfront, hback⟩ := List.map_eq_append_iff.1 h
    have hplain : ∀ c ∈ '/' :: digits, c.isAlpha = false :=
      List.forall_mem_cons.2 ⟨rfl, htail hdigits⟩
    rw [eq_of_map_toLower hplain hback]
    exact .network (haddress hip hfront) hdigits hle
  | @signed _ digits ip length hip hdigits hle =>
    rw [List.map_append] at h
    obtain ⟨front, back, rfl, hfront, hback⟩ := List.map_eq_append_iff.1 h
    have hplain : ∀ c ∈ '/' :: '+' :: digits, c.isAlpha = false :=
      List.forall_mem_cons.2 ⟨rfl, List.forall_mem_cons.2 ⟨rfl, htail hdigits⟩⟩
    rw [eq_of_map_toLower hplain hback]
    exact .signed (haddress hip hfront) hdigits hle

/-- Entries that are alike stand for the same. -/
theorem Alike.stands_iff {s : String} (h : Alike s t) : Stands s n ↔ Stands t n :=
  ⟨fun hs => hs.of_map_toLower h.symm, fun ht => ht.of_map_toLower h⟩

theorem ascii_of_mem_text {c : Char} (h : c ∈ n.text.toList) : c.toNat < 128 := by
  have hdigit : ∀ d < 16, (Nat.digitChar d).toNat < 128 := by decide
  have haddress (h : c ∈ n.address.chars) : c.toNat < 128 := by
    rcases IpAddress.mem_chars h with rfl | rfl | ⟨d, hd, rfl⟩
    · decide
    · decide
    · exact hdigit d hd
  rw [toList_text] at h
  split at h
  · exact haddress h
  · rcases List.mem_append.1 h with h | h
    · exact haddress h
    · rcases List.mem_cons.1 h with rfl | h
      · decide
      · obtain ⟨d, hd, rfl⟩ := mem_toDigits (by decide) h
        exact hdigit d (by omega)

/-! ### White lists -/

theorem mem_whitelist (h : whitelist entries = .ok texts) :
    t ∈ texts ↔ ∃ n, Listed entries n ∧ n.text = t := by
  obtain ⟨written, hwritten, rfl⟩ : ∃ written, entries.mapM canonical = .ok written ∧
      ascending written = texts := by
    unfold whitelist at h
    cases hmap : entries.mapM canonical with
    | error e =>
      rw [hmap] at h
      cases h
    | ok written =>
      rw [hmap] at h
      cases h
      exact ⟨written, rfl, rfl⟩
  rw [mem_ascending]
  constructor
  · intro ht
    obtain ⟨entry, hentry, hcanonical⟩ := of_mem_mapM hwritten t ht
    obtain ⟨n, hn, rfl⟩ := canonical_eq_ok.1 hcanonical
    exact ⟨n, ⟨entry, hentry, hn⟩, rfl⟩
  · rintro ⟨n, ⟨entry, hentry, hn⟩, rfl⟩
    exact mem_mapM hwritten hentry (canonical_eq_ok.2 ⟨n, hn, rfl⟩)

theorem exists_whitelist :
    (∃ texts, whitelist entries = .ok texts) ↔ ∀ entry ∈ entries, ∃ n, Stands entry n := by
  have hentry (entry : String) : (∃ t, canonical entry = .ok t) ↔ ∃ n, Stands entry n := by
    simp [canonical_eq_ok]
  simp only [← hentry, ← exists_mapM_iff]
  unfold whitelist
  cases entries.mapM canonical with
  | error e =>
    constructor
    · rintro ⟨_, h⟩
      cases h
    · rintro ⟨_, h⟩
      cases h
  | ok written => exact ⟨fun _ => ⟨written, rfl⟩, fun _ => ⟨_, rfl⟩⟩

theorem pairwise_whitelist (h : whitelist entries = .ok texts) : texts.Pairwise (· < ·) := by
  unfold whitelist at h
  cases hmap : entries.mapM canonical with
  | error e =>
    rw [hmap] at h
    cases h
  | ok written =>
    rw [hmap] at h
    cases h
    exact pairwise_ascending written

/-- Lists of entries that stand for the same have the same canonical form. -/
theorem whitelist_congr {others : List String} (h : whitelist entries = .ok texts)
    (hothers : ∀ entry ∈ others, ∃ n, Stands entry n)
    (hsame : ∀ n, Listed others n ↔ Listed entries n) : whitelist others = .ok texts := by
  obtain ⟨written, hwritten⟩ := exists_whitelist.2 hothers
  have hmem (t : String) : t ∈ written ↔ t ∈ texts := by
    rw [mem_whitelist hwritten, mem_whitelist h]
    simp only [hsame]
  -- the two ascend, and have the same members
  have heq : written = texts :=
    (pairwise_whitelist hwritten).eq_of_mem_iff (pairwise_whitelist h) hmem
  rw [hwritten, heq]

theorem listed_of_alike {others : List String} (h : List.Forall₂ Alike entries others) :
    Listed others n ↔ Listed entries n := by
  induction h with
  | nil => exact Iff.rfl
  | cons halike _ ih =>
    unfold Listed at ih ⊢
    rw [List.exists_mem_cons_iff, List.exists_mem_cons_iff, halike.stands_iff, ih]

theorem exists_stands_of_alike {others : List String} (h : List.Forall₂ Alike entries others)
    (hentries : ∀ entry ∈ entries, ∃ n, Stands entry n) :
    ∀ entry ∈ others, ∃ n, Stands entry n := by
  induction h with
  | nil => exact hentries
  | cons halike _ ih =>
    obtain ⟨⟨n, hn⟩, hrest⟩ := List.forall_mem_cons.1 hentries
    exact List.forall_mem_cons.2 ⟨⟨n, halike.stands_iff.1 hn⟩, ih hrest⟩

/-- The canonical form of a white list. It exists if all entries stand for something. It ascends in
the order of bytes, has one text for each thing that the entries stand for, which is read back from
it, and depends on nothing else; and it is its own canonical form. -/
theorem whitelist_canonical (entries : List String) :
    ((∃ texts, whitelist entries = .ok texts) ↔ ∀ entry ∈ entries, ∃ n, Stands entry n) ∧
    ∀ texts, whitelist entries = .ok texts →
      texts.Pairwise (fun s t => bytesOf s < bytesOf t) ∧
      (∀ t, t ∈ texts ↔ ∃ n, Listed entries n ∧ n.text = t) ∧
      (∀ n, Listed entries n → ∃! t, t ∈ texts ∧ Stands t n) ∧
      (∀ t ∈ texts, ∃! n, Stands t n) ∧
      (∀ others, (∀ entry ∈ others, ∃ n, Stands entry n) →
        (∀ n, Listed others n ↔ Listed entries n) → whitelist others = .ok texts) ∧
      (∀ others, List.Forall₂ Alike entries others → whitelist others = .ok texts) ∧
      whitelist texts = .ok texts := by
  refine ⟨exists_whitelist, fun texts h => ?_⟩
  have hmem {t : String} := mem_whitelist (t := t) h
  refine ⟨?_, fun _ => hmem, ?_, ?_, fun _ => whitelist_congr h, ?_, settles_whitelist _ _ h⟩
  · refine (pairwise_whitelist h).imp_of_mem fun hs ht hlt => ?_
    obtain ⟨n, -, rfl⟩ := hmem.1 hs
    obtain ⟨m, -, rfl⟩ := hmem.1 ht
    exact bytesOf_lt_bytesOf (fun _ => ascii_of_mem_text) (fun _ => ascii_of_mem_text) hlt
  · rintro n ⟨entry, hentry, hn⟩
    refine ⟨n.text, ⟨hmem.2 ⟨n, ⟨entry, hentry, hn⟩, rfl⟩, hn.text⟩, ?_⟩
    rintro t ⟨ht, hstands⟩
    obtain ⟨m, ⟨_, -, hm⟩, rfl⟩ := hmem.1 ht
    rw [hm.text.unique hstands]
  · intro t ht
    obtain ⟨n, ⟨_, -, hn⟩, rfl⟩ := hmem.1 ht
    exact ⟨n, hn.text, fun m hm => hm.unique hn.text⟩
  · intro others hothers
    exact whitelist_congr h (exists_stands_of_alike hothers (exists_whitelist.1 ⟨texts, h⟩))
      fun n => listed_of_alike hothers

/-- Two networks and an address, one of the networks in two spellings. -/
def respelled : List String :=
  ["2001:DB8::/+032 ", "::ffff:10.0.0.1", "2001:0db8:0:0::0/32", "\t10.0.0.0/08"]

theorem whitelist_canonical_respelled :
    whitelist respelled = .ok ["10.0.0.0/8", "2001:db8::/32", "::ffff:10.0.0.1"] ∧
    (∀ entry ∈ respelled, ∃ n, Stands entry n) ∧
    (∀ t ∈ ["10.0.0.0/8", "2001:db8::/32", "::ffff:10.0.0.1"], ∃! n, Stands t n) ∧
    whitelist respelled.reverse = .ok ["10.0.0.0/8", "2001:db8::/32", "::ffff:10.0.0.1"] := by
  have hwhitelist : whitelist respelled =
      .ok ["10.0.0.0/8", "2001:db8::/32", "::ffff:10.0.0.1"] := by decide +kernel
  obtain ⟨hsome, hall⟩ := whitelist_canonical respelled
  have hstands := hsome.1 ⟨_, hwhitelist⟩
  obtain ⟨-, -, -, hread, hsame, -, -⟩ := hall _ hwhitelist
  refine ⟨hwhitelist, hstands, hread, hsame _ ?_ ?_⟩
  · exact fun entry hentry => hstands entry (List.mem_reverse.1 hentry)
  · intro n
    simp only [Listed, List.mem_reverse]

end Network

end NodeFleet
