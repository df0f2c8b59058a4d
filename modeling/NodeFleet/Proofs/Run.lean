import NodeFleet.Proofs.Integrity

/-!
# Runs of a panel

A run is a list of events on a panel: operations, with any arguments, and changes of what lies
outside the panel, which are the connection to the database and the remote hosts. The states of a
run are the panels after its beginnings.
-/

namespace NodeFleet

/-- An answer and the panel after it. -/
theorem Operation.answer_eq_some {α : Type} {op : Operation α} {p : Panel} {x : α} :
    (op.answer p).toOption = some x ↔ op.run.on p = (.ok x, op.after p) := by
  change (op.run.on p).1.toOption = some x ↔ op.run.on p = (.ok x, (op.run.on p).2)
  rw [Except.toOption_eq_some, Prod.ext_iff]
  simp

/-- The panel after an operation, without a look at what the operation is. -/
theorem Operation.after_eq_on {α : Type} (op : Operation α) (p : Panel) :
    op.after p = (op.run.on p).2 := rfl

theorem Operation.answer_of_on {α : Type} (op : Operation α) {p q : Panel} {r : Except Error α}
    (h : op.run.on p = (r, q)) : op.answer p = r ∧ op.after p = q :=
  ⟨congrArg Prod.fst h, congrArg Prod.snd h⟩

/-- What a successful answer may tell of a value. -/
abbrev Operation.Telling (β : Type) := {α : Type} → Operation α → α → Option β

/-- What an operation makes of a part of the tables is told by its answer: the part is what the
answer tells, or, if it tells nothing, as before. -/
def Operation.Recounts {α β : Type} (op : Operation α) (p : Panel) (part : Fleet → β)
    (take : Operation.Telling β) : Prop :=
  part (op.after p).fleet = ((op.answer p).toOption.bind (take op)).getD (part p.fleet)

namespace Operation

variable {α β : Type} {op : Operation α} {p : Panel} {part : Fleet → β}
  {take : Operation.Telling β}

theorem getD_ite {c : Prop} [Decidable c] (told before : β) :
    (if c then some told else none).getD before = if c then told else before :=
  apply_ite_left Option.getD c (some told) none before

/-- An operation that is not about the part. -/
theorem recounts_of_quiet (hquiet : ∀ x, take op x = none)
    (hpart : part (op.after p).fleet = part p.fleet) : op.Recounts p part take := by
  change part (op.after p).fleet = ((op.answer p).toOption.bind (take op)).getD (part p.fleet)
  rw [funext hquiet, Option.bind_fun_none, hpart]
  rfl

/-- An operation that fails and leaves the part. -/
theorem recounts_of_error {e : Error} {q : Panel} (h : op.run.on p = (.error e, q))
    (hpart : part q.fleet = part p.fleet) : op.Recounts p part take := by
  obtain ⟨hanswer, hafter⟩ := op.answer_of_on h
  unfold Recounts
  rw [hanswer, hafter, hpart]
  rfl

/-- An operation that is refused. -/
theorem recounts_of_refused {e : Error} (h : op.run.on p = (.error e, p)) :
    op.Recounts p part take :=
  recounts_of_error h rfl

/-- An operation that succeeds. -/
theorem recounts_of_ok {x : α} {q : Panel} (h : op.run.on p = (.ok x, q))
    (hpart : part q.fleet = (take op x).getD (part p.fleet)) : op.Recounts p part take := by
  obtain ⟨hanswer, hafter⟩ := op.answer_of_on h
  unfold Recounts
  rw [hanswer, hafter, hpart]
  rfl

end Operation

/-- What happens to a panel. -/
inductive Event : Type 1 where
  /-- Someone asks for an operation. -/
  | ask {α : Type} (op : Operation α)
  /-- The database is opened or closed, and the remote hosts behave in a new way. -/
  | world (isOpen : Bool) (shell : Shell)

namespace Event

/-- The panel after an event. -/
def after : Event → Panel → Panel
  | ask op, p => op.after p
  | world isOpen shell, p => { p with isOpen := isOpen, shell := shell }

/-- The deeds that an event may do. -/
def deeds : Event → Deed → Prop
  | ask op => op.deeds
  | world _ _ => fun _ => False

/-- What an event brings: what there is to take from a successful answer. -/
def brings {β : Type} (take : {α : Type} → Operation α → α → Option β) : Event → Panel → Option β
  | ask op, p => (op.answer p).toOption.bind (take op)
  | world _ _, _ => none

theorem brings_ask_eq_some {α β : Type} {take : {α : Type} → Operation α → α → Option β}
    {op : Operation α} {p : Panel} {y : β} :
    (ask op).brings take p = some y ↔
      ∃ x, op.run.on p = (.ok x, op.after p) ∧ take op x = some y := by
  simp only [brings, Option.bind_eq_some_iff, Operation.answer_eq_some]

@[simp] theorem after_ask {α : Type} (op : Operation α) (p : Panel) :
    (ask op).after p = op.after p := rfl

/-- An event changes the tables by its own deeds. -/
theorem writes (e : Event) (p : Panel) : Fleet.Writes e.deeds p.fleet (e.after p).fleet := by
  cases e with
  | ask op => exact op.writes p
  | world isOpen shell => exact .refl

end Event

/-- A remote shell that never answers. -/
def Shell.silent : Shell := ⟨fun _ => ⟨0, none⟩, 0, []⟩

namespace Panel

/-- A panel on a new database. -/
def fresh (shell : Shell) : Panel := ⟨.empty, true, shell⟩

/-- The panel after a run. -/
def after (p : Panel) (run : List Event) : Panel := run.foldl (fun p e => e.after p) p

@[simp] theorem after_nil (p : Panel) : p.after [] = p := rfl

theorem after_append (p : Panel) (run later : List Event) :
    p.after (run ++ later) = (p.after run).after later :=
  List.foldl_append

theorem after_concat (p : Panel) (run : List Event) (e : Event) :
    p.after (run ++ [e]) = e.after (p.after run) := by
  rw [after_append]
  rfl

/-- A run changes the tables by the deeds of its events. -/
theorem writes_after (p : Panel) (run : List Event) :
    Fleet.Writes (fun d => ∃ e ∈ run, e.deeds d) p.fleet (p.after run).fleet := by
  induction run generalizing p with
  | nil => exact .refl
  | cons e run ih =>
    refine Relation.ReflTransGen.trans ((e.writes p).mono ?_) ((ih (e.after p)).mono ?_)
    · rintro d hd
      exact ⟨e, List.mem_cons_self, hd⟩
    · rintro d ⟨e', he', hd⟩
      exact ⟨e', List.mem_cons_of_mem _ he', hd⟩

/-- The tables stay sound. -/
theorem sound_after {p : Panel} (h : p.fleet.Sound) (run : List Event) :
    (p.after run).fleet.Sound :=
  (p.writes_after run).sound h

theorem sound_fresh (shell : Shell) (run : List Event) :
    ((fresh shell).after run).fleet.Sound :=
  sound_after Fleet.Sound.empty run

/-- What the events of a run bring, one after the other. -/
def collect {β : Type} (bring : Event → Panel → Option β) (p : Panel) : List Event → List β
  | [] => []
  | e :: run => (bring e p).toList ++ collect bring (e.after p) run

theorem collect_append {β : Type} (bring : Event → Panel → Option β) (p : Panel)
    (run later : List Event) :
    p.collect bring (run ++ later) = p.collect bring run ++ (p.after run).collect bring later := by
  induction run generalizing p with
  | nil => rfl
  | cons e run ih =>
    rw [List.cons_append, collect, collect, ih, List.append_assoc]
    rfl

theorem collect_concat {β : Type} (bring : Event → Panel → Option β) (p : Panel)
    (run : List Event) (e : Event) :
    p.collect bring (run ++ [e]) = p.collect bring run ++ (bring e (p.after run)).toList := by
  rw [collect_append]
  simp [collect]

/-- The last thing that the events of a run bring. -/
theorem getLast?_collect_concat {β : Type} (bring : Event → Panel → Option β) (p : Panel)
    (run : List Event) (e : Event) :
    (p.collect bring (run ++ [e])).getLast? =
      (bring e (p.after run)).or (p.collect bring run).getLast? := by
  rw [collect_concat]
  cases bring e (p.after run) with
  | none => simp
  | some x => simp

theorem mem_collect {β : Type} {bring : Event → Panel → Option β} {p : Panel} {x : β}
    {before later : List Event} {e : Event} (h : bring e (p.after before) = some x) :
    x ∈ p.collect bring (before ++ e :: later) := by
  induction before generalizing p with
  | nil =>
    rw [after_nil] at h
    simp [collect, h]
  | cons e' before ih => exact List.mem_append_right _ (ih h)

end Panel

end NodeFleet
