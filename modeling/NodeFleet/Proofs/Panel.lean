import NodeFleet.Fleet.Panel

/-!
# Running transactions and actions

What a transaction or an action made of parts does, told by what its parts do. A transaction
succeeds exactly if all its parts do; an action keeps what it has done up to its first failure.
-/

namespace NodeFleet

variable {α β : Type}

/-- A bind succeeds when both parts do. -/
theorem Except.bind_eq_ok {ε : Type} {x : Except ε α} {k : α → Except ε β} {y : β} :
    (x >>= k) = .ok y ↔ ∃ a, x = .ok a ∧ k a = .ok y := by
  cases x with
  | error e => exact ⟨nofun, fun ⟨_, h, _⟩ => nomatch h⟩
  | ok a => exact ⟨fun h => ⟨a, rfl, h⟩, fun ⟨_, h, hk⟩ => Except.ok.inj h ▸ hk⟩

theorem Except.toOption_eq_some {ε : Type} {x : Except ε α} {a : α} :
    x.toOption = some a ↔ x = .ok a := by
  cases x with
  | error e => simp [Except.toOption]
  | ok b => simp [Except.toOption]

theorem Except.exists_eq_ok {ε : Type} {x : Except ε α} (h : x.toOption.isSome = true) :
    ∃ a, x = .ok a := by
  obtain ⟨a, ha⟩ := Option.isSome_iff_exists.1 h
  exact ⟨a, Except.toOption_eq_some.1 ha⟩

theorem checkValues_of_le {count : Nat} (h : count ≤ maxValues) : checkValues count = .ok () :=
  if_neg (Nat.not_lt_of_le h)

theorem checkValues_of_gt {count : Nat} (h : maxValues < count) :
    checkValues count = .error tooManyValues :=
  if_pos h

namespace Transaction

/-- A bind succeeds when both parts do, the second one on the tables that the first one leaves. -/
@[simp] theorem bind_eq_ok {t : Transaction α} {k : α → Transaction β} {f : Fleet}
    {r : β × Fleet} :
    (t >>= k) f = .ok r ↔ ∃ x f', t f = .ok (x, f') ∧ k x f' = .ok r := by
  simp only [bind, StateT.bind, Except.bind]
  cases t f with
  | error e => simp
  | ok y => rcases y with ⟨x, f'⟩; simp [and_assoc]

@[simp] theorem pure_eq_ok {x : α} {f : Fleet} {r : α × Fleet} :
    (pure x : Transaction α) f = .ok r ↔ (x, f) = r := by
  change (Except.ok (x, f) : Except Error (α × Fleet)) = .ok r ↔ (x, f) = r
  rw [Except.ok.injEq]

@[simp] theorem map_eq_ok {t : Transaction α} {g : α → β} {f : Fleet} {r : β × Fleet} :
    (g <$> t) f = .ok r ↔ ∃ x f', t f = .ok (x, f') ∧ (g x, f') = r := by
  rw [map_eq_pure_bind, bind_eq_ok]
  simp only [pure_eq_ok]

@[simp] theorem read_eq_ok {query : Fleet → Except Error α} {f : Fleet} {x : α} {f' : Fleet} :
    read query f = .ok (x, f') ↔ query f = .ok x ∧ f = f' := by
  simp only [read]
  cases query f with
  | error e => simp [Except.map]
  | ok y => simp [Except.map]

@[simp] theorem check_eq_ok {result : Except Error α} {f : Fleet} {x : α} {f' : Fleet} :
    check result f = .ok (x, f') ↔ result = .ok x ∧ f = f' := by
  simp only [check]
  cases result with
  | error e => simp [Except.map]
  | ok y => simp [Except.map]

@[simp] theorem change_eq_ok {change : Fleet → Fleet} {f : Fleet} {r : Unit × Fleet} :
    Transaction.change change f = .ok r ↔ ((), change f) = r := by
  simp [Transaction.change]

end Transaction

namespace Action

/-- The answer of an action on a panel, and the panel after it. -/
def on (a : Action α) (p : Panel) : Except Error α × Panel := a p

theorem on_bind (a : Action α) (k : α → Action β) (p : Panel) :
    (a >>= k).on p = match a.on p with
      | (.ok x, p') => (k x).on p'
      | (.error e, p') => (.error e, p') := by
  simp only [on, bind, ExceptT.bind, ExceptT.mk, StateT.bind]
  rcases a p with ⟨r, p'⟩
  cases r with
  | error e => rfl
  | ok x => rfl

theorem on_bind_of_ok {a : Action α} {k : α → Action β} {p p' : Panel} {x : α}
    (h : a.on p = (.ok x, p')) : (a >>= k).on p = (k x).on p' := by
  rw [on_bind, h]

theorem on_bind_of_error {a : Action α} {k : α → Action β} {p p' : Panel} {e : Error}
    (h : a.on p = (.error e, p')) : (a >>= k).on p = (.error e, p') := by
  rw [on_bind, h]

/-- An action made of two parts succeeds when both parts do. -/
theorem on_bind_eq_ok {a : Action α} {k : α → Action β} {p p' : Panel} {y : β} :
    (a >>= k).on p = (.ok y, p') ↔
      ∃ x m, a.on p = (.ok x, m) ∧ (k x).on m = (.ok y, p') := by
  rw [on_bind]
  rcases a.on p with ⟨r, m⟩
  cases r with
  | error e => simp
  | ok x => simp [and_assoc]

@[simp] theorem on_pure (x : α) (p : Panel) : (pure x : Action α).on p = (.ok x, p) := rfl

/-- What is made of the value of an action goes the way of its answer. -/
theorem on_bind_pure {a : Action α} {p p' : Panel} {answer : Except Error α}
    (h : a.on p = (answer, p')) (g : α → β) :
    (a >>= fun x => pure (g x)).on p = (answer.map g, p') := by
  cases answer with
  | error e => exact on_bind_of_error h
  | ok x => exact on_bind_of_ok h

theorem on_map_of_ok {a : Action α} {g : α → β} {p p' : Panel} {x : α}
    (h : a.on p = (.ok x, p')) : (g <$> a).on p = (.ok (g x), p') := by
  rw [map_eq_pure_bind, on_bind_of_ok h, on_pure]

theorem on_map_of_error {a : Action α} {g : α → β} {p p' : Panel} {e : Error}
    (h : a.on p = (.error e, p')) : (g <$> a).on p = (.error e, p') := by
  rw [map_eq_pure_bind, on_bind_of_error h]

@[simp] theorem on_check (result : Except Error α) (p : Panel) :
    (check result).on p = (result, p) := rfl

/-- A query leaves the panel as it is. -/
@[simp] theorem on_read_snd (query : Fleet → Except Error α) (p : Panel) :
    ((read query).on p).2 = p := by
  simp only [on, read]
  split <;> rfl

/-- A query answers while the database is open. -/
@[simp] theorem on_read_eq_ok {query : Fleet → Except Error α} {p p' : Panel} {x : α} :
    (read query).on p = (.ok x, p') ↔ p.isOpen = true ∧ query p.fleet = .ok x ∧ p = p' := by
  simp only [on, read]
  cases p.isOpen with
  | false => simp
  | true => simp

theorem on_read_of_open {p : Panel} (hopen : p.isOpen = true) (query : Fleet → Except Error α) :
    (read query).on p = (query p.fleet, p) :=
  if_pos hopen

theorem on_read_of_closed {p : Panel} (hclosed : p.isOpen = false)
    (query : Fleet → Except Error α) : (read query).on p = (.error databaseClosed, p) :=
  if_neg (by simp [hclosed])

theorem on_transact_of_closed {p : Panel} (hclosed : p.isOpen = false) (t : Transaction α) :
    (transact t).on p = (.error databaseClosed, p) :=
  if_neg (by simp [hclosed])

theorem on_transact_of_error {p : Panel} {t : Transaction α} {e : Error} (hopen : p.isOpen = true)
    (h : t p.fleet = .error e) : (transact t).on p = (.error e, p) := by
  simp only [on, transact, StateT.run]
  rw [if_pos hopen, h]

/-- A transaction either succeeds, and the tables are as it leaves them, or it fails, and the
panel is as before. -/
theorem on_transact_cases (t : Transaction α) (p : Panel) :
    (∃ x f, p.isOpen = true ∧ t p.fleet = .ok (x, f) ∧
      (transact t).on p = (.ok x, { p with fleet := f })) ∨
    ∃ e, (transact t).on p = (.error e, p) := by
  simp only [on, transact, StateT.run]
  cases p.isOpen with
  | false => exact .inr ⟨_, rfl⟩
  | true =>
    cases h : t p.fleet with
    | error e => exact .inr ⟨e, rfl⟩
    | ok y => exact .inl ⟨y.1, y.2, rfl, rfl, rfl⟩

@[simp] theorem on_transact_eq_ok {t : Transaction α} {p p' : Panel} {x : α} :
    (transact t).on p = (.ok x, p') ↔
      p.isOpen = true ∧ ∃ f, t p.fleet = .ok (x, f) ∧ { p with fleet := f } = p' := by
  simp only [on, transact, StateT.run]
  cases hopen : p.isOpen with
  | false => simp
  | true =>
    cases h : t p.fleet with
    | error e => simp
    | ok y =>
      rcases y with ⟨y, f⟩
      simp [and_assoc, eq_comm]

/-- A transaction, and a look at what it leaves that finds what it looks for: both succeed, or the
panel is as before. -/
theorem on_transact_read_cases {t : Transaction α} {query : α → Fleet → Except Error β} {p : Panel}
    (h : ∀ x f, t p.fleet = .ok (x, f) → ∃ y, query x f = .ok y) :
    (∃ x f y, t p.fleet = .ok (x, f) ∧
      (transact t >>= fun x => read (query x)).on p = (.ok y, { p with fleet := f })) ∨
    ∃ e, (transact t >>= fun x => read (query x)).on p = (.error e, p) := by
  rcases on_transact_cases t p with ⟨x, f, hopen, ht, hon⟩ | ⟨e, hon⟩
  · obtain ⟨y, hy⟩ := h x f ht
    refine .inl ⟨x, f, y, ht, ?_⟩
    rw [on_bind_of_ok hon]
    exact on_read_eq_ok.2 ⟨hopen, hy, rfl⟩
  · exact .inr ⟨e, on_bind_of_error hon⟩

end Action

namespace Fleet

variable {f : Fleet} {id : Int}

theorem node?_eq_some {n : Node} (h : f.node? id = some n) : n ∈ f.nodes ∧ n.id = id := by
  refine ⟨List.mem_of_find?_eq_some h, ?_⟩
  simpa using List.find?_some h

/-- A number that a node has leads to a node. -/
theorem node?_of_mem {n : Node} (hn : n ∈ f.nodes) : ∃ m, f.node? n.id = some m := by
  cases h : f.node? n.id with
  | none =>
    have := List.find?_eq_none.1 h n hn
    simp at this
  | some m => exact ⟨m, rfl⟩

theorem group?_eq_some {g : Group} (h : f.group? id = some g) : g ∈ f.groups ∧ g.id = id := by
  refine ⟨List.mem_of_find?_eq_some h, ?_⟩
  simpa using List.find?_some h

@[simp] theorem findNode_eq_ok {n : Node} : findNode id f = .ok n ↔ f.node? id = some n := by
  unfold findNode
  cases f.node? id with
  | none => simp
  | some m => simp

@[simp] theorem findGroup_eq_ok {g : Group} : findGroup id f = .ok g ↔ f.group? id = some g := by
  unfold findGroup
  cases f.group? id with
  | none => simp
  | some m => simp

end Fleet

end NodeFleet
