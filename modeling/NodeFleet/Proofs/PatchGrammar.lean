import NodeFleet.Node.Request
import NodeFleet.Proofs.RecordReader

/-!
# What is read as changes to a node

Changes to a node are read from exactly the objects of their grammar: each key once, only names of
fields, and under each null or a value of the field's type. A field of the changes is then the value
given, and absent where there is null or no key. Keys that the reconciler owns are told first,
whatever else is wrong.
-/

namespace NodeFleet.NodePatch

open Json

/-- The names of the fields, and what the values under them may be. -/
def kinds : Kinds :=
  [("name", NullOr IsText), ("region", NullOr IsText), ("address", NullOr IsText),
    ("port", NullOr IsInt64), ("weight", NullOr IsInt64), ("max_users", NullOr IsInt64),
    ("enabled", NullOr IsBool), ("tags", NullOr IsTexts), ("ip_whitelist", NullOr IsTexts)]

/-- The objects that are changes to a node. -/
def InGrammar (body : Value) : Prop :=
  ∃ entries, body = .obj entries ∧ (entries.map (·.1)).Nodup ∧
    ∀ e ∈ entries, ∃ kind, (e.1, kind) ∈ kinds ∧ kind e.2

/-- Changes whose fields are told by the values under their keys. -/
structure ToldBy (get? : String → Option Value) (patch : NodePatch) : Prop where
  name : Tells IsText (get? "name") patch.name
  region : Tells IsText (get? "region") patch.region
  address : Tells IsText (get? "address") patch.address
  port : Tells IsInt64 (get? "port") patch.port
  weight : Tells IsInt64 (get? "weight") patch.weight
  maxUsers : Tells IsInt64 (get? "max_users") patch.maxUsers
  enabled : Tells IsBool (get? "enabled") patch.enabled
  tags : Tells IsTexts (get? "tags") patch.tags
  whitelist : Tells IsTexts (get? "ip_whitelist") patch.whitelist

theorem reads_fields : fields.Reads kinds ToldBy := by
  have hreads := (((((((((Record.Reads.pure NodePatch.mk).apply
    (.optional "name" reads_text)).apply
    (.optional "region" reads_text)).apply
    (.optional "address" reads_text)).apply
    (.optional "port" reads_int64)).apply
    (.optional "weight" reads_int64)).apply
    (.optional "max_users" reads_int64)).apply
    (.optional "enabled" reads_bool)).apply
    (.optional "tags" reads_texts)).apply
    (.optional "ip_whitelist" reads_texts)
  refine Record.Reads.imp hreads ?_
  rintro get? patch ⟨_, whitelist, ⟨_, tags, ⟨_, enabled, ⟨_, maxUsers, ⟨_, weight, ⟨_, port,
    ⟨_, address, ⟨_, region, ⟨_, name, rfl, hname, rfl⟩, hregion, rfl⟩, haddress, rfl⟩, hport, rfl⟩,
    hweight, rfl⟩, hmaxUsers, rfl⟩, henabled, rfl⟩, htags, rfl⟩, hwhitelist, rfl⟩
  exact ⟨hname, hregion, haddress, hport, hweight, hmaxUsers, henabled, htags, hwhitelist⟩

theorem hasKey_obj (entries : List (String × Value)) (key : String) :
    (Value.obj entries).hasKey key = true ↔ key ∈ entries.map (·.1) := by
  rw [Value.hasKey, Value.get?, Option.isSome_iff_exists]
  constructor
  · rintro ⟨v, hv⟩
    exact List.mem_map_of_mem (mem_of_lookup_eq_some hv)
  · intro hkey
    cases hlookup : entries.lookup key with
    | some v => exact ⟨v, rfl⟩
    | none =>
      obtain ⟨e, he, rfl⟩ := List.mem_map.1 hkey
      have hne := List.lookup_eq_none_iff.1 hlookup e he
      simp at hne

/-- Keys that the reconciler owns are told, whatever else there is. -/
theorem ofValue_of_forbidden {entries : List (String × Value)}
    (h : ∃ key ∈ reconcilerKeys, key ∈ entries.map (·.1)) :
    ofValue (.obj entries) = .error (.validation
      ("Поля управляются реконсилером и не могут быть изменены: "
        ++ ", ".intercalate (reconcilerKeys.filter (· ∈ entries.map (·.1))))) := by
  obtain ⟨key, howned, hkey⟩ := h
  have hfilter : reconcilerKeys.filter (Value.obj entries).hasKey =
      reconcilerKeys.filter (· ∈ entries.map (·.1)) :=
    List.filter_congr fun k _ => Bool.eq_iff_iff.2 <| by rw [hasKey_obj, decide_eq_true_iff]
  have hne : reconcilerKeys.filter (· ∈ entries.map (·.1)) ≠ [] :=
    List.ne_nil_of_mem (List.mem_filter.2 ⟨howned, decide_eq_true hkey⟩)
  unfold ofValue
  dsimp only
  rw [hfilter, if_neg (by simpa using hne)]

/-- Without such keys, an object is read as a record. -/
theorem ofValue_of_not_forbidden {entries : List (String × Value)}
    (h : ∀ key ∈ reconcilerKeys, key ∉ entries.map (·.1)) :
    ofValue (.obj entries) = (Decoder.ofValue decoder (.obj entries)).mapError fun e =>
      .validation ("Некорректный патч: " ++ e.message) := by
  have hfilter : reconcilerKeys.filter (Value.obj entries).hasKey = [] := by
    rw [List.filter_eq_nil_iff]
    exact fun key howned hkey => h key howned ((hasKey_obj entries key).1 hkey)
  unfold ofValue
  dsimp only
  rw [hfilter]
  rfl

theorem not_mem_kinds_of_owned : ∀ key ∈ reconcilerKeys, key ∉ kinds.map (·.1) := by
  decide

/-- An object is read exactly if its entries are those of the grammar. -/
theorem ofValue_obj (entries : List (String × Value)) :
    ((∃ patch, ofValue (.obj entries) = .ok patch) ↔
      (entries.map (·.1)).Nodup ∧ ∀ e ∈ entries, ∃ kind, (e.1, kind) ∈ kinds ∧ kind e.2) ∧
    ∀ patch, ofValue (.obj entries) = .ok patch → patch.ToldBy (Value.obj entries).get? := by
  by_cases howned : ∃ key ∈ reconcilerKeys, key ∈ entries.map (·.1)
  · rw [ofValue_of_forbidden howned]
    refine ⟨iff_of_false (by simp) ?_, by simp⟩
    rintro ⟨-, hfit⟩
    obtain ⟨key, hkey, hmem⟩ := howned
    obtain ⟨e, he, rfl⟩ := List.mem_map.1 hmem
    obtain ⟨kind, hkind, -⟩ := hfit e he
    exact not_mem_kinds_of_owned e.1 hkey (List.mem_map_of_mem hkind)
  · have hfree : ∀ key ∈ reconcilerKeys, key ∉ entries.map (·.1) :=
      fun key hkey hmem => howned ⟨key, hkey, hmem⟩
    obtain ⟨hgrammar, htold⟩ :=
      reads_fields.decoder_obj (by decide) "NodePatch" entries
    have hok (patch : NodePatch) : ofValue (.obj entries) = .ok patch ↔
        fields.decoder "NodePatch" true .value (Value.obj entries).toDoc = .ok patch := by
      rw [ofValue_of_not_forbidden hfree, Decoder.ofValue, decoder]
      cases fields.decoder "NodePatch" true .value (Value.obj entries).toDoc with
      | error e => exact iff_of_false nofun nofun
      | ok x => simp [Except.mapError]
    simp only [hok]
    exact ⟨hgrammar, htold⟩

/-- Whatever is refused is refused as invalid. -/
theorem ofValue_eq_error {body : Value} {e : Error} (h : ofValue body = .error e) :
    ∃ message, e = .validation message := by
  unfold ofValue at h
  split at h
  · dsimp only at h
    split at h
    · cases hread : Decoder.ofValue decoder _ with
      | error failure =>
        rw [hread] at h
        exact ⟨_, (Except.error.inj h).symm⟩
      | ok patch =>
        rw [hread] at h
        cases h
    · exact ⟨_, (Except.error.inj h).symm⟩
  · exact ⟨_, (Except.error.inj h).symm⟩

theorem ofValue_of_not_obj {body : Value} (h : ∀ entries, body ≠ .obj entries) :
    ofValue body = .error (.validation "Ожидается JSON-объект") := by
  unfold ofValue
  split
  · next entries => exact absurd rfl (h entries)
  · rfl

/-- What is read from a value: changes exactly from the values of the grammar, with each field as
its key tells. Every other value is refused as invalid; and an object with keys that the reconciler
owns is refused with these keys, in a fixed order and whatever else it has. -/
theorem ofValue_reads_grammar (body : Value) :
    ((∃ patch, ofValue body = .ok patch) ↔ InGrammar body) ∧
      (∀ patch, ofValue body = .ok patch → patch.ToldBy body.get?) ∧
      (∀ entries, body = .obj entries → (∃ key ∈ reconcilerKeys, key ∈ entries.map (·.1)) →
        ∃ present, present.Sublist reconcilerKeys ∧
          (∀ key, key ∈ present ↔ key ∈ reconcilerKeys ∧ key ∈ entries.map (·.1)) ∧
          ofValue body = .error (.validation
            ("Поля управляются реконсилером и не могут быть изменены: "
              ++ ", ".intercalate present))) ∧
      ∀ e, ofValue body = .error e → ∃ message, e = .validation message := by
  by_cases hobj : ∃ entries, body = .obj entries
  · obtain ⟨entries, rfl⟩ := hobj
    obtain ⟨hgrammar, htold⟩ := ofValue_obj entries
    have hentries : InGrammar (.obj entries) ↔ (entries.map (·.1)).Nodup ∧
        ∀ e ∈ entries, ∃ kind, (e.1, kind) ∈ kinds ∧ kind e.2 := by
      constructor
      · rintro ⟨_, he, hentries⟩
        cases he
        exact hentries
      · exact fun h => ⟨entries, rfl, h⟩
    refine ⟨hgrammar.trans hentries.symm, htold, ?_, fun e => ofValue_eq_error⟩
    intro _ he howned
    cases he
    refine ⟨reconcilerKeys.filter (· ∈ entries.map (·.1)), List.filter_sublist, ?_, ?_⟩
    · intro key
      rw [List.mem_filter, decide_eq_true_iff]
    · exact ofValue_of_forbidden howned
  · have hrefused := ofValue_of_not_obj fun entries he => hobj ⟨entries, he⟩
    rw [hrefused]
    refine ⟨iff_of_false (by simp) ?_, by simp, ?_, ?_⟩
    · exact fun ⟨entries, he, _⟩ => hobj ⟨entries, he⟩
    · exact fun entries he => absurd ⟨entries, he⟩ hobj
    · exact fun e he => ⟨_, (Except.error.inj he).symm⟩

/-- A new name is read, and changes that name a key of the reconciler are refused for that key,
though the port is no number either. -/
theorem ofValue_reads_grammar_owned :
    (∃ patch, ofValue (.obj [("name", .str "node")]) = .ok patch ∧ patch.name = some "node") ∧
      ∃ present, present.Sublist reconcilerKeys ∧ "status" ∈ present ∧ "port" ∉ present ∧
        ofValue (.obj [("port", .str "443"), ("status", .str "online")]) = .error (.validation
          ("Поля управляются реконсилером и не могут быть изменены: "
            ++ ", ".intercalate present)) := by
  constructor
  · obtain ⟨hreads, htold, -⟩ := ofValue_reads_grammar (.obj [("name", .str "node")])
    have hgrammar : InGrammar (.obj [("name", .str "node")]) := by
      refine ⟨_, rfl, List.nodup_singleton _, ?_⟩
      rintro e (_ | ⟨_, ⟨⟩⟩)
      exact ⟨NullOr IsText, List.mem_cons_self, .inr ⟨"node", rfl⟩⟩
    obtain ⟨patch, hread⟩ := hreads.2 hgrammar
    refine ⟨patch, hread, ?_⟩
    have hname : Tells IsText (some (.str "node")) patch.name := (htold patch hread).name
    cases hcase : patch.name with
    | none =>
      rw [hcase] at hname
      rcases hname with hnone | hnull
      · cases hnone
      · cases hnull
    | some name =>
      rw [hcase] at hname
      obtain ⟨v, hv, htext⟩ := hname
      cases hv
      cases htext
      rfl
  · obtain ⟨-, -, howned, -⟩ :=
      ofValue_reads_grammar (.obj [("port", .str "443"), ("status", .str "online")])
    obtain ⟨present, hsublist, hmem, hrefused⟩ :=
      howned _ rfl ⟨"status", by decide, by decide⟩
    refine ⟨present, hsublist, (hmem "status").2 ⟨by decide, by decide⟩, ?_, hrefused⟩
    intro hport
    exact absurd ((hmem "port").1 hport).1 (by decide)

end NodeFleet.NodePatch
