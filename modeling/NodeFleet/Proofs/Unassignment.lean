import NodeFleet.Proofs.Housing

/-!
# Assignments taken back

An assignment names its user up to blanks at the ends, the loss of an assignment names the user as
the row does. So an assignment of a user who had no node is taken back, down to the order of the
rows, under the name without blanks at the ends, and under no other spelling of it.
-/

namespace NodeFleet

/-- Removing the row of a key undoes an upsert that has added it. -/
theorem filter_upsert_of_not_mem {α κ : Type} [DecidableEq κ] {key : α → κ} {row : α}
    {rows : List α} (h : key row ∉ rows.map key) :
    (upsert key row rows).filter (key · ≠ key row) = rows := by
  have hne : ∀ r ∈ rows, key r ≠ key row := fun r hr he => h (he ▸ List.mem_map_of_mem hr)
  have hadded : upsert key row rows = rows ++ [row] := by
    unfold upsert
    rw [if_neg (by simpa using hne)]
  have hkept : rows.filter (key · ≠ key row) = rows := by
    rw [List.filter_eq_self]
    simpa using hne
  rw [hadded, List.filter_append, hkept]
  simp

namespace Fleet

variable {f : Fleet} {user : String}

theorem nodeOf?_eq_none : f.nodeOf? user = none ↔ user ∉ f.assignments.map (·.userId) := by
  simp [nodeOf?, assignment?]

/-- Tables in which a user has a row are left by taking the row away. -/
theorem unassign_of_mem (h : user ∈ f.assignments.map (·.userId)) :
    unassign user f =
      .ok ((), { f with assignments := f.assignments.filter (·.userId ≠ user) }) := by
  obtain ⟨a, ha, hname⟩ := List.mem_map.1 h
  exact unassign_eq_ok.2 ⟨⟨a, ha, hname⟩, rfl⟩

theorem unassign_of_not_mem (h : user ∉ f.assignments.map (·.userId)) :
    unassign user f =
      .error (.notFound ("Пользователь " ++ user ++ " ни за кем не закреплён")) :=
  if_neg (by simpa using h)

/-- Taking the node from a user who has just been given it leaves the tables of before. -/
theorem unassign_putAssignment {a : Assignment} (h : f.nodeOf? a.userId = none) :
    unassign a.userId (f.putAssignment a) = .ok ((), f) := by
  have hstored : a.userId ∈ (f.putAssignment a).assignments.map (·.userId) :=
    List.mem_map_of_mem (mem_upsert.2 (.inl rfl))
  have hback : (f.putAssignment a).assignments.filter (·.userId ≠ a.userId) = f.assignments :=
    filter_upsert_of_not_mem (nodeOf?_eq_none.1 h)
  rw [unassign_of_mem hstored, hback]
  rfl

/-- A user without a node is given it as a new row. -/
theorem place_of_nodeOf?_eq_none {f' : Fleet} {now : Instant} {id : Int} {a : Assignment}
    (hfree : f.nodeOf? user = none) (h : place now id user f = .ok (a, f')) :
    f' = f.putAssignment ⟨user, id, now.toText⟩ := by
  obtain ⟨n, -, ⟨b, hb, -, -⟩ | ⟨-, -, he⟩⟩ := place_eq_ok.1 h
  · rw [nodeOf?, hb] at hfree
    cases hfree
  · cases he
    rfl

/-- No row is under a name with blanks at the ends. -/
theorem Trimmed.not_mem (h : f.Trimmed) {name : String} (hblank : Text.trim name ≠ name) :
    name ∉ f.assignments.map (·.userId) := by
  intro hmem
  exact hblank (h.trim_eq (List.mem_map.1 hmem))

end Fleet

/-- An assignment that succeeds was made with an open database. -/
theorem Operation.isOpen_of_assign {now : Instant} {id : Int} {name : String} {p q : Panel}
    {a : Assignment} (h : (assign now id name).run.on p = (.ok a, q)) :
    p.isOpen = true ∧ ∃ f, Fleet.place now id (Text.trim name) p.fleet = .ok (a, f) ∧
      { p with fleet := f } = q := by
  dsimp only [run, Action.assign] at h
  split at h
  · cases h
  · exact Action.on_transact_eq_ok.1 h

namespace Panel

/-- In any state of a run: if a user has no node and an assignment succeeds, then taking the node
from the user, named without blanks at the ends, succeeds too and leaves the panel as it was before
the assignment. A spelling of the name with blanks at its ends, which an assignment accepts, names
nobody then: it is refused, and the user keeps the node. -/
theorem unassign_after_assign (shell : Shell) (run : List Event) (now : Instant) (id : Int)
    (name : String) (a : Assignment)
    (hfree : ((fresh shell).after run).fleet.nodeOf? (Text.trim name) = none)
    (hassign : (Operation.assign now id name).answer ((fresh shell).after run) = .ok a) :
    let p := (fresh shell).after run
    let q := (Operation.assign now id name).after p
    let user := Text.trim name
    q.fleet.nodeOf? user = some id ∧
      (Operation.unassign user).answer q = .ok () ∧ (Operation.unassign user).after q = p ∧
      ∀ spelling, Text.trim spelling = user → spelling ≠ user →
        (Operation.unassign spelling).answer q =
          .error (.notFound ("Пользователь " ++ spelling ++ " ни за кем не закреплён")) ∧
        (Operation.unassign spelling).after q = q := by
  intro p q user
  have hon : (Operation.assign now id name).run.on p = (.ok a, q) :=
    Operation.answer_eq_some.1 (congrArg Except.toOption hassign)
  obtain ⟨hopen, f, hplace, hq⟩ := Operation.isOpen_of_assign hon
  obtain ⟨-, hnode, -⟩ := Fleet.place_spec hplace
  obtain rfl := Fleet.place_of_nodeOf?_eq_none hfree hplace
  have htrimmed : q.fleet.Trimmed := by
    have hrun : q = (fresh shell).after (run ++ [.ask (.assign now id name)]) :=
      (after_concat (fresh shell) run (.ask (.assign now id name))).symm
    rw [hrun]
    exact trimmed_fresh shell (run ++ [.ask (.assign now id name)])
  have hqopen : q.isOpen = true := by rw [← hq]; exact hopen
  have hback : Fleet.unassign user q.fleet = .ok ((), p.fleet) := by
    rw [← hq]
    exact Fleet.unassign_putAssignment (a := ⟨user, id, now.toText⟩) hfree
  have hrestored : ({ q with fleet := p.fleet } : Panel) = p := by rw [← hq]
  have hundone : (Operation.unassign user).run.on q = (.ok (), p) :=
    Action.on_transact_eq_ok.2 ⟨hqopen, p.fleet, hback, hrestored⟩
  obtain ⟨hanswer, hafter⟩ := (Operation.unassign user).answer_of_on hundone
  refine ⟨?_, hanswer, hafter, fun spelling hspelling hne => ?_⟩
  · rw [← hq]
    exact (hnode user).trans (if_pos rfl)
  · have hblank : Text.trim spelling ≠ spelling := fun he => hne (he.symm.trans hspelling)
    have hrefused := Fleet.unassign_of_not_mem (htrimmed.not_mem hblank)
    exact (Operation.unassign spelling).answer_of_on
      (Action.on_transact_of_error hqopen hrefused)

/-- A node that has been heard of. -/
def attended : List Event :=
  let now : Instant := ⟨0, 0⟩
  [.ask (.createNode now "" .standard
      ⟨"node", "", some "host", some 443, 1, 0, [], [], .manual, none, none⟩),
    .ask (.recordHeartbeat now 1 ⟨1, none⟩),
    .ask (.reconcile { ReconcilerConfig.standard with probeEnabled := false } (fun _ => .skipped)
      now)]

/-- The user of an assignment with blanks around the name is found without them. -/
theorem unassign_after_assign_blanks :
    let now : Instant := ⟨0, 0⟩
    let p := (fresh .silent).after attended
    let q := (Operation.assign now 1 " user\u00A0").after p
    p.fleet.nodeOf? (Text.trim " user\u00A0") = none ∧
      (Operation.assign now 1 " user\u00A0").answer p = .ok ⟨"user", 1, now.toText⟩ ∧
      (Operation.unassign "user").after q = p := by
  intro now p q
  have hfree : p.fleet.nodeOf? (Text.trim " user\u00A0") = none := by decide +kernel
  have hassign : (Operation.assign now 1 " user\u00A0").answer p =
      .ok ⟨"user", 1, now.toText⟩ := by decide +kernel
  have hname : Text.trim " user\u00A0" = "user" := by decide +kernel
  obtain ⟨-, -, hback, -⟩ :=
    unassign_after_assign .silent attended now 1 " user\u00A0" _ hfree hassign
  rw [hname] at hback
  exact ⟨hfree, hassign, hback⟩

/-- The same text with blanks at its ends names a user to an assignment, and nobody to the loss of
it. -/
theorem unassign_misses_blanks :
    let now : Instant := ⟨0, 0⟩
    let p := (fresh .silent).after attended
    let q := (Operation.assign now 1 " user ").after p
    p.fleet.nodeOf? (Text.trim " user ") = none ∧
      (Operation.assign now 1 " user ").answer p = .ok ⟨"user", 1, now.toText⟩ ∧
      (Operation.unassign " user ").answer q =
        .error (.notFound "Пользователь  user  ни за кем не закреплён") ∧
      ((Operation.unassign " user ").after q).fleet.assignments ≠ p.fleet.assignments := by
  decide +kernel

end Panel

end NodeFleet
