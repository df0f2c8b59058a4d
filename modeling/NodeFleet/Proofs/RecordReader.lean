import Mathlib.Data.List.Nodup
import NodeFleet.Json.Decode

/-!
# Records that are read from JSON values

A decoder `Reads` a relation between values and what they stand for. A record made of optional
fields has a list of names with the relations of their values. With unknown keys forbidden, it is
read from exactly those objects that have each key once, only keys of these names, and under each of
them null or a value of the relation; a field is then what the value stands for, and nothing where
there is null or no such key.
-/

namespace NodeFleet.Json

/-- What a decoder reads from values is told by a relation. -/
def Decoder.Reads {α : Type} (d : Decoder α) (R : Value → α → Prop) : Prop :=
  ∀ v x, d .value v.toDoc = .ok x ↔ R v x

/-! ### Values of a type -/

@[simp] theorem mismatch_ne_ok {α : Type} (expected : String) (d : Doc) (x : α) :
    mismatch expected d ≠ .ok x := by
  unfold mismatch
  cases d.found with
  | ok found => exact nofun
  | error f => exact nofun

/-- A value that is a text. -/
def IsText (v : Value) (s : String) : Prop := v = .str s

/-- A value that is a truth value. -/
def IsBool (v : Value) (b : Bool) : Prop := v = .bool b

/-- A value that is an integer of 64 bits with a sign. -/
def IsInt64 (v : Value) (n : Int) : Prop :=
  v = .ofInt n ∧ -0x8000000000000000 ≤ n ∧ n < 0x8000000000000000

/-- A value that is an array of texts. -/
def IsTexts (v : Value) (ss : List String) : Prop := v = .ofTexts ss

theorem reads_text : Decoder.Reads text IsText := by
  intro v s
  unfold IsText
  cases v with
  | null | bool | num | str | arr | obj => simp [text, Value.toDoc]

theorem reads_bool : Decoder.Reads bool IsBool := by
  intro v b
  unfold IsBool
  cases v with
  | null | bool | num | str | arr | obj => simp [bool, Value.toDoc]

theorem reads_int64 : Decoder.Reads int64 IsInt64 := by
  intro v n
  unfold IsInt64 Value.ofInt int64
  cases v with
  | num m =>
    cases m with
    | int m =>
      simp only [integer, Value.toDoc, Value.num.injEq, Number.int.injEq]
      split
      · next hm =>
        rw [Except.ok.injEq]
        constructor
        · rintro rfl
          exact ⟨rfl, by omega⟩
        · exact fun h => h.1
      · next hm =>
        refine iff_of_false nofun ?_
        rintro ⟨rfl, hlow, hhigh⟩
        exact hm ⟨by omega, by omega⟩
    | float bits => simp [integer, Value.toDoc]
  | null | bool | str | arr | obj => simp [integer, Value.toDoc]

theorem decodeItems_text_eq_ok (i : Nat) (vs : List Value) (ss : List String) :
    decodeItems text .value i (itemDocs vs) = .ok ss ↔ vs = ss.map .str := by
  induction vs generalizing i ss with
  | nil => simp [itemDocs, decodeItems, eq_comm]
  | cons v vs ih =>
    rw [itemDocs, decodeItems, @eq_comm _ (v :: vs), List.map_eq_cons_iff]
    cases hread : text .value v.toDoc with
    | error e =>
      refine iff_of_false nofun ?_
      rintro ⟨s, ss, -, rfl, -⟩
      rw [(reads_text (.str s) s).2 rfl] at hread
      cases hread
    | ok s =>
      obtain rfl : v = .str s := (reads_text v s).1 hread
      dsimp only
      cases hrest : decodeItems text .value (i + 1) (itemDocs vs) with
      | error e =>
        refine iff_of_false nofun ?_
        rintro ⟨t, ts, -, -, hts⟩
        rw [(ih (i + 1) ts).2 hts.symm] at hrest
        cases hrest
      | ok rest =>
        simp only [Except.map, Except.ok.injEq]
        constructor
        · rintro rfl
          exact ⟨s, rest, rfl, rfl, ((ih (i + 1) rest).1 hrest).symm⟩
        · rintro ⟨t, ts, rfl, ht, hts⟩
          rw [(ih (i + 1) ts).2 hts.symm] at hrest
          rw [Value.str.inj ht, Except.ok.inj hrest]

theorem reads_texts : Decoder.Reads (list text) IsTexts := by
  intro v ss
  unfold IsTexts Value.ofTexts
  cases v with
  | arr items =>
    rw [Value.arr.injEq, ← decodeItems_text_eq_ok 0 items ss]
    simp only [list, Value.toDoc]
    cases decodeItems text .value 0 (itemDocs items) with
    | error e => exact Iff.rfl
    | ok xs => exact Iff.rfl
  | null | bool | num | str | obj => simp [list, Value.toDoc]

/-! ### Optional fields -/

section Optional

variable {α β : Type} {d : Decoder α} {R : Value → α → Prop}

/-- A value that is null, or stands for something. -/
def NullOr (R : Value → α → Prop) (v : Value) : Prop := v = .null ∨ ∃ x, R v x

/-- What a field holds: what the value under its key stands for, or nothing if there is null or no
such key. -/
def Tells (R : Value → α → Prop) (v? : Option Value) : Option α → Prop
  | none => v? = none ∨ v? = some .null
  | some x => ∃ v, v? = some v ∧ R v x

theorem nullable_null : nullable d .value Value.null.toDoc = .ok none := by
  simp [nullable, Value.toDoc]

theorem nullable_of_ne_null {v : Value} (h : v ≠ .null) :
    nullable d .value v.toDoc = (d .value v.toDoc).map some := by
  cases v with
  | null => exact absurd rfl h
  | bool | num | str | arr | obj => simp only [Value.toDoc, nullable]

theorem exists_nullable_eq_ok_iff (hd : d.Reads R) (v : Value) :
    (∃ x, nullable d .value v.toDoc = .ok x) ↔ NullOr R v := by
  by_cases hv : v = .null
  · subst hv
    exact iff_of_true ⟨none, nullable_null⟩ (.inl rfl)
  · rw [nullable_of_ne_null hv, NullOr, or_iff_right hv, ← exists_congr (hd v)]
    cases d .value v.toDoc with
    | error e => simp [Except.map]
    | ok x => simp [Except.map]

theorem tells_of_nullable (hd : d.Reads R) {v : Value} {x : Option α}
    (h : nullable d .value v.toDoc = .ok x) : Tells R (some v) x := by
  by_cases hv : v = .null
  · subst hv
    rw [nullable_null] at h
    obtain rfl := Except.ok.inj h
    exact .inr rfl
  · rw [nullable_of_ne_null hv] at h
    cases hread : d .value v.toDoc with
    | error e =>
      rw [hread] at h
      cases h
    | ok y =>
      rw [hread] at h
      obtain rfl := Except.ok.inj h
      exact ⟨v, rfl, (hd v y).1 hread⟩

end Optional

/-! ### Records of optional fields -/

/-- The names of the fields with what the values under them may be. -/
abbrev Kinds := List (String × (Value → Prop))

/-- What a record reads: under the names of its fields it takes values of their kinds, and from
values of these kinds under their keys it is built as told. -/
structure Record.Reads {α : Type} (r : Record α) (kinds : Kinds)
    (Told : (String → Option Value) → α → Prop) : Prop where
  names : r.names = kinds.map (·.1)
  check : ∀ key v, r.check .value key v.toDoc = none ↔ ∀ kind, (key, kind) ∈ kinds → kind v
  build : ∀ get? : String → Option Value,
    (∀ field ∈ kinds, ∀ v, get? field.1 = some v → field.2 v) →
      ∃ x, r.ofFields .value (fun key => (get? key).map Value.toDoc) = .ok x ∧ Told get? x

namespace Record.Reads

variable {α β : Type}

theorem pure (x : α) : (Record.pure x).Reads [] (fun _ y => y = x) where
  names := rfl
  check _ _ := iff_of_true rfl nofun
  build _ _ := ⟨x, rfl, rfl⟩

theorem optional {d : Decoder α} {R : Value → α → Prop} (name : String) (hd : d.Reads R) :
    (Record.optional name d).Reads [(name, NullOr R)] (fun get? => Tells R (get? name)) where
  names := rfl
  check key v := by
    have hkinds : (∀ kind, (key, kind) ∈ [(name, NullOr R)] → kind v) ↔
        (key = name → NullOr R v) := by
      simp only [List.mem_singleton, Prod.mk.injEq, and_imp]
      exact ⟨fun h hkey => h _ hkey rfl, fun h kind hkey hkind => hkind ▸ h hkey⟩
    rw [hkinds, ← exists_nullable_eq_ok_iff hd v]
    unfold Record.optional Record.single
    by_cases hkey : key = name
    · simp only [hkey, true_imp_iff]
      cases nullable d .value v.toDoc with
      | error e => exact iff_of_false nofun nofun
      | ok x => exact iff_of_true rfl ⟨x, rfl⟩
    · simp only [if_neg hkey]
      exact iff_of_true trivial fun h => absurd h hkey
  build get? h := by
    unfold Record.optional Record.single
    dsimp only
    cases hget : get? name with
    | none => exact ⟨none, rfl, .inl rfl⟩
    | some v =>
      obtain ⟨x, hx⟩ := (exists_nullable_eq_ok_iff hd v).2 (h _ List.mem_cons_self v hget)
      refine ⟨x, ?_, tells_of_nullable hd hx⟩
      simp only [Option.map_some, hx, Except.mapError]

/-- A record that is built from two reads the fields of both. -/
theorem apply {f : Record (α → β)} {r : Record α} {kinds kinds' : Kinds}
    {Told : (String → Option Value) → (α → β) → Prop}
    {Told' : (String → Option Value) → α → Prop} (hf : f.Reads kinds Told)
    (hr : r.Reads kinds' Told') :
    (f.apply r).Reads (kinds ++ kinds')
      (fun get? y => ∃ g x, Told get? g ∧ Told' get? x ∧ y = g x) where
  names := by
    rw [List.map_append, ← hf.names, ← hr.names]
    rfl
  check key v := by
    have hboth : (f.apply r).check .value key v.toDoc = none ↔
        f.check .value key v.toDoc = none ∧ r.check .value key v.toDoc = none := by
      simp only [Record.apply, Option.or_eq_none_iff]
    rw [hboth, hf.check, hr.check]
    simp only [List.mem_append, or_imp, forall_and]
  build get? h := by
    obtain ⟨g, hg, hgtold⟩ := hf.build get? fun field hfield =>
      h field (List.mem_append_left _ hfield)
    obtain ⟨x, hx, hxtold⟩ := hr.build get? fun field hfield =>
      h field (List.mem_append_right _ hfield)
    refine ⟨g x, ?_, g, x, hgtold, hxtold, rfl⟩
    simp only [Record.apply, hg, hx]
    rfl

theorem imp {r : Record α} {kinds : Kinds} {Told Told' : (String → Option Value) → α → Prop}
    (h : r.Reads kinds Told) (himp : ∀ get? x, Told get? x → Told' get? x) :
    r.Reads kinds Told' where
  names := h.names
  check := h.check
  build get? hkinds := by
    obtain ⟨x, hx, htold⟩ := h.build get? hkinds
    exact ⟨x, hx, himp get? x htold⟩

end Record.Reads

/-! ### Objects -/

theorem fieldDoc?_entryDocs (entries : List (String × Value)) (name : String) :
    Record.fieldDoc? (entryDocs entries) name = (entries.lookup name).map Value.toDoc := by
  induction entries with
  | nil => rfl
  | cons e entries ih =>
    obtain ⟨key, v⟩ := e
    rw [entryDocs, Record.fieldDoc?, List.lookup_cons, ih]
    by_cases h : key = name
    · simp [h]
    · have hbeq : (name == key) = false := by simpa using Ne.symm h
      simp only [if_neg h, hbeq]

/-- Where unknown keys are forbidden, the entries of an object pass if the keys are distinct and
new names of fields, and each value passes as that of its field. -/
theorem checkEntries_eq_none_iff {α : Type} (r : Record α) (seen : List String)
    (entries : List (String × Value)) :
    r.checkEntries true .value seen (entryDocs entries) = none ↔
      (entries.map (·.1)).Nodup ∧ ∀ e ∈ entries, e.1 ∈ r.names ∧ e.1 ∉ seen ∧
        r.check .value e.1 e.2.toDoc = none := by
  induction entries generalizing seen with
  | nil => simp [entryDocs, Record.checkEntries]
  | cons e entries ih =>
    obtain ⟨key, v⟩ := e
    rw [entryDocs, Record.checkEntries, List.map_cons, List.nodup_cons, List.forall_mem_cons]
    by_cases hname : key ∈ r.names
    · by_cases hseen : key ∈ seen
      · rw [if_pos hname, if_pos hseen]
        exact iff_of_false nofun fun h => h.2.1.2.1 hseen
      · rw [if_pos hname, if_neg hseen, Option.or_eq_none_iff, ih]
        simp only [hname, hseen, List.mem_cons, not_or, List.mem_map]
        grind
    · rw [if_neg hname, if_pos rfl]
      exact iff_of_false nofun fun h => hname h.2.1.1

theorem mem_of_lookup_eq_some {entries : List (String × Value)} {key : String} {v : Value}
    (h : entries.lookup key = some v) : (key, v) ∈ entries := by
  obtain ⟨before, after, rfl, -⟩ := List.lookup_eq_some_iff.1 h
  exact List.mem_append_right _ List.mem_cons_self

theorem kind_unique {kinds : Kinds} (hdistinct : (kinds.map (·.1)).Nodup) {key : String}
    {kind kind' : Value → Prop} (h : (key, kind) ∈ kinds) (h' : (key, kind') ∈ kinds) :
    kind = kind' :=
  (Prod.mk.inj (List.inj_on_of_nodup_map hdistinct h h' rfl)).2

/-- Distinct entries, each of them under the name of a field and of its kind. -/
def Fit (kinds : Kinds) (entries : List (String × Value)) : Prop :=
  (entries.map (·.1)).Nodup ∧ ∀ e ∈ entries, ∃ kind, (e.1, kind) ∈ kinds ∧ kind e.2

namespace Record.Reads

variable {α : Type} {r : Record α} {kinds : Kinds} {Told : (String → Option Value) → α → Prop}

theorem checkEntries_eq_none_iff_fit (h : r.Reads kinds Told)
    (hdistinct : (kinds.map (·.1)).Nodup) (entries : List (String × Value)) :
    r.checkEntries true .value [] (entryDocs entries) = none ↔ Fit kinds entries := by
  rw [checkEntries_eq_none_iff]
  refine and_congr_right fun _ => forall₂_congr fun e _ => ?_
  rw [h.names, h.check]
  constructor
  · rintro ⟨hname, -, hkinds⟩
    obtain ⟨⟨name, kind⟩, hmem, rfl⟩ := List.mem_map.1 hname
    exact ⟨kind, hmem, hkinds kind hmem⟩
  · rintro ⟨kind, hmem, hkind⟩
    refine ⟨List.mem_map_of_mem hmem, List.not_mem_nil, fun kind' hmem' => ?_⟩
    rw [kind_unique hdistinct hmem' hmem]
    exact hkind

theorem exists_ofFields (h : r.Reads kinds Told) (hdistinct : (kinds.map (·.1)).Nodup)
    {entries : List (String × Value)} (hfit : Fit kinds entries) :
    ∃ x, r.ofFields .value (fun key => (entries.lookup key).map Value.toDoc) = .ok x ∧
      Told (fun key => entries.lookup key) x := by
  refine h.build _ ?_
  rintro ⟨key, kind⟩ hfield v hv
  obtain ⟨kind', hmem, hkind⟩ := hfit.2 _ (mem_of_lookup_eq_some hv)
  rw [kind_unique hdistinct hfield hmem]
  exact hkind

/-- Where unknown keys are forbidden, a record is read from exactly the objects with distinct keys
that are names of fields, each with a value of its kind, and is built as told by the entries. -/
theorem decoder_obj (h : r.Reads kinds Told) (hdistinct : (kinds.map (·.1)).Nodup) (title : String)
    (entries : List (String × Value)) :
    ((∃ x, r.decoder title true .value (Value.obj entries).toDoc = .ok x) ↔ Fit kinds entries) ∧
    ∀ x, r.decoder title true .value (Value.obj entries).toDoc = .ok x →
      Told (fun key => entries.lookup key) x := by
  have hchecks := h.checkEntries_eq_none_iff_fit hdistinct entries
  rw [Value.toDoc, Record.decoder, Record.ofObject, funext (fieldDoc?_entryDocs entries)]
  cases hfault : r.checkEntries true .value [] (entryDocs entries) with
  | some e =>
    rw [hfault] at hchecks
    have hunfit := mt hchecks.2 (Option.some_ne_none e)
    refine ⟨iff_of_false ?_ hunfit, fun x hx => ?_⟩
    · rintro ⟨x, hx⟩
      cases hx
    · cases hx
  | none =>
    have hfit := hchecks.1 hfault
    obtain ⟨x, hx, htold⟩ := h.exists_ofFields hdistinct hfit
    dsimp only
    rw [hx]
    refine ⟨iff_of_true ⟨x, rfl⟩ hfit, fun y hy => ?_⟩
    obtain rfl := Except.ok.inj hy
    exact htold

end Record.Reads

end NodeFleet.Json
