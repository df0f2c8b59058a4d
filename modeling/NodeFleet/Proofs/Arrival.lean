import NodeFleet.Proofs.Housing

/-!
# The order of the assignments

The rows of the assignments stand in the order in which their users came. A log of who was placed
and who left tells that order: the present stay of a user begins with the placement that found the
user without a node, and a placement on another node does not begin a new one.
-/

namespace NodeFleet

/-- What a log tells about a user. -/
inductive Stay where
  /-- The user is given a node, for the first time or in the place of another one. -/
  | placed (user : String)
  /-- The user has no node from then on. -/
  | left (user : String)
  deriving DecidableEq, Repr

namespace Stay

/-- The user that an entry is about. -/
def user : Stay → String
  | placed user => user
  | left user => user

/-- The users with a row, after an entry more. -/
def update (users : List String) : Stay → List String
  | placed user => if user ∈ users then users else users ++ [user]
  | left user => users.filter (· ≠ user)

/-- By a log, a user has a node: the last entry about the user is a placement. -/
def Housed (log : List Stay) (user : String) : Prop :=
  (log.filter (·.user = user)).getLast? = some (placed user)

/-- By a log, the present stay of a user began after the entries `before`: the user was without a
node then, was placed, and has not left since. -/
def Arrived (log : List Stay) (user : String) (before : List Stay) : Prop :=
  ∃ later, log = before ++ placed user :: later ∧ ¬Housed before user ∧ left user ∉ later

/-- By a log, the present stay of one user began before that of another one. -/
def CameBefore (log : List Stay) (user other : String) : Prop :=
  ∃ before before', Arrived log user before ∧ Arrived log other before' ∧
    before.length < before'.length

variable {log : List Stay} {name : String} {before : List Stay}

theorem housed_concat (log : List Stay) (entry : Stay) (name : String) :
    Housed (log ++ [entry]) name ↔
      if entry.user = name then entry = placed name else Housed log name := by
  unfold Housed
  rw [List.filter_append]
  by_cases hname : entry.user = name
  · simp [hname]
  · simp [hname]

/-- The users that are left after all entries of a log are those that have a node. -/
theorem mem_foldl_update : name ∈ log.foldl update [] ↔ Housed log name := by
  induction log using List.reverseRecOn with
  | nil => simp [Housed]
  | append_singleton log entry ih =>
    rw [List.foldl_concat, housed_concat]
    cases entry with
    | placed user =>
      by_cases hname : user = name
      · subst hname
        by_cases hmem : user ∈ log.foldl update []
        · simp [update, Stay.user, hmem]
        · simp [update, Stay.user, hmem]
      · by_cases hmem : user ∈ log.foldl update []
        · simp [update, Stay.user, hmem, hname, ih]
        · simp [update, Stay.user, hmem, hname, Ne.symm hname, ih]
    | left user =>
      by_cases hname : user = name
      · simp [update, Stay.user, hname]
      · simp [update, Stay.user, hname, Ne.symm hname, ih]

/-- Leaving takes away the users that leave, in any order. -/
theorem foldl_update_left (leaving users : List String) :
    (leaving.map left).foldl update users = users.filter (· ∉ leaving) := by
  induction leaving generalizing users with
  | nil => simp
  | cons user leaving ih =>
    rw [List.map_cons, List.foldl_cons, ih, update, List.filter_filter]
    congr 1
    funext name
    simp [Bool.and_comm]

theorem Arrived.concat (h : Arrived log name before) {entry : Stay} (hentry : entry ≠ left name) :
    Arrived (log ++ [entry]) name before := by
  obtain ⟨later, rfl, hhoused, hleft⟩ := h
  refine ⟨later ++ [entry], by simp, hhoused, ?_⟩
  rw [List.mem_append, List.mem_singleton]
  rintro (hmem | he)
  · exact hleft hmem
  · exact hentry he.symm

theorem CameBefore.concat {other : String} (h : CameBefore log name other) {entry : Stay}
    (hname : entry ≠ left name) (hother : entry ≠ left other) :
    CameBefore (log ++ [entry]) name other := by
  obtain ⟨before, before', harrived, harrived', hlt⟩ := h
  exact ⟨before, before', harrived.concat hname, harrived'.concat hother, hlt⟩

theorem Arrived.length_lt (h : Arrived log name before) : before.length < log.length := by
  obtain ⟨later, rfl, -, -⟩ := h
  simp

/-- A user without a node arrives when placed. -/
theorem arrived_placed (h : ¬Housed log name) : Arrived (log ++ [placed name]) name log :=
  ⟨[], rfl, h, List.not_mem_nil⟩

/-- A user who has a node arrived at some time. -/
theorem exists_arrived (h : Housed log name) : ∃ before, Arrived log name before := by
  induction log using List.reverseRecOn with
  | nil => simp [Housed] at h
  | append_singleton log entry ih =>
    by_cases hbefore : Housed log name
    · obtain ⟨before, harrived⟩ := ih hbefore
      refine ⟨before, harrived.concat ?_⟩
      rintro rfl
      simp [housed_concat, Stay.user] at h
    · rw [housed_concat] at h
      split at h
      · subst h
        exact ⟨log, arrived_placed hbefore⟩
      · exact absurd h hbefore

/-- The users with a row stand in the order in which they came. -/
theorem pairwise_foldl_update (log : List Stay) :
    (log.foldl update []).Pairwise (CameBefore log) := by
  induction log using List.reverseRecOn with
  | nil => exact .nil
  | append_singleton log entry ih =>
    rw [List.foldl_concat]
    cases entry with
    | placed user =>
      have hkeep : (log.foldl update []).Pairwise (CameBefore (log ++ [placed user])) :=
        ih.imp fun h => h.concat nofun nofun
      by_cases hmem : user ∈ log.foldl update []
      · rw [update, if_pos hmem]
        exact hkeep
      · rw [update, if_neg hmem, List.pairwise_append]
        refine ⟨hkeep, List.pairwise_singleton _ _, ?_⟩
        intro other hother last hlast
        obtain rfl := List.mem_singleton.1 hlast
        obtain ⟨before, harrived⟩ := exists_arrived (mem_foldl_update.1 hother)
        exact ⟨before, log, harrived.concat nofun, arrived_placed (mt mem_foldl_update.2 hmem),
          harrived.length_lt⟩
    | left user =>
      have hother {name : String}
          (hname : name ∈ (log.foldl update []).filter (· ≠ user)) : left user ≠ left name := by
        have hne := of_decide_eq_true (List.mem_filter.1 hname).2
        rintro ⟨⟩
        exact hne rfl
      refine (ih.sublist List.filter_sublist).imp_of_mem ?_
      intro name other hname hname' h
      exact h.concat (hother hname) (hother hname')

end Stay

/-! ### The users with a row -/

/-- Putting a row in adds its key at the end, unless there is a row with the key. -/
theorem map_key_upsert {α κ : Type} [DecidableEq κ] {key : α → κ} {row : α} {rows : List α} :
    (upsert key row rows).map key =
      if key row ∈ rows.map key then rows.map key else rows.map key ++ [key row] := by
  have hany : rows.any (key · = key row) = true ↔ key row ∈ rows.map key := by
    simp [List.mem_map]
  unfold upsert
  by_cases hmem : key row ∈ rows.map key
  · rw [if_pos (hany.2 hmem), if_pos hmem, map_key_replace]
  · rw [if_neg (mt hany.1 hmem), if_neg hmem, List.map_append, List.map_singleton]

namespace Fleet

/-- The users that have a node, in the order of their rows. -/
def users (f : Fleet) : List String := f.assignments.map (·.userId)

variable {f f' : Fleet} {id : Int} {user : String}

theorem users_place {now : Instant} {a : Assignment} (h : place now id user f = .ok (a, f')) :
    f'.users = Stay.update f.users (.placed user) := by
  obtain ⟨n, -, ⟨b, hb, -, he⟩ | ⟨-, -, he⟩⟩ := place_eq_ok.1 h
  · have hname : b.userId = user := by simpa using List.find?_some hb
    have hmem : user ∈ f.users := hname ▸ List.mem_map_of_mem (List.mem_of_find?_eq_some hb)
    cases he
    exact (if_pos hmem).symm
  · cases he
    exact map_key_upsert

/-- The users of a node are those of its rows. -/
theorem Sound.mem_jobOf_userId (hs : Sound f) {a : Assignment} (ha : a ∈ f.assignments) :
    a.userId ∈ (f.jobOf id).userIds ↔ a.nodeId = id := by
  rw [hs.mem_jobOf]
  have hrow : f.nodeOf? a.userId = some a.nodeId := hs.nodeOf?_eq_some.2 ⟨a, ha, rfl, rfl⟩
  rw [hrow, Option.some.injEq]

theorem Sound.users_withoutNode (hs : Sound f) (id : Int) :
    (f.withoutNode id).users = ((f.jobOf id).userIds.map .left).foldl Stay.update f.users := by
  rw [Stay.foldl_update_left]
  unfold users Fleet.withoutNode
  rw [List.filter_map]
  congr 1
  apply List.filter_congr
  intro a ha
  simp [hs.mem_jobOf_userId ha]

end Fleet

theorem Action.Reassigned.users_eq {now : Instant} {candidates : List Node}
    {preferred : List Int} {names : List String} {counts : UserCounts} {p p' : Panel}
    {report : ReassignReport} (h : Reassigned now candidates preferred names counts p report p') :
    p'.fleet.users =
      (report.moved.map fun move => Stay.placed (Text.trim move.1)).foldl Stay.update
        p.fleet.users := by
  induction h with
  | done => rfl
  | unplaced _ _ ih => exact ih
  | refused _ _ _ ih => exact ih
  | moved _ hassign _ ih =>
    rw [ih, Fleet.users_place (place_of_on_assign hassign)]
    rfl

/-! ### The log of a run -/

namespace Operation

variable {α : Type} {p : Panel}

/-- What a successful answer tells about users, one after the other. -/
def stays {α : Type} : Operation α → α → Option (List Stay)
  | assign _ _ name, _ => some [.placed (Text.trim name)]
  | reassign _ _, report => some (report.moved.map fun move => .placed (Text.trim move.1))
  | unassign name, _ => some [.left (Text.trim name)]
  | deleteNode _, job => some (job.userIds.map .left)
  | _, _ => none

/-- The users with a row, after those before and what a successful answer tells. -/
def occupants (before : List String) {α : Type} (op : Operation α) (answer : α) :
    Option (List String) :=
  (op.stays answer).map (·.foldl Stay.update before)

/-- An operation that is not about users. -/
theorem occupants_of_quiet {op : Operation α} (hquiet : ∀ x, op.stays x = none)
    (h : op.isAboutUsers = false) : op.Recounts p Fleet.users (occupants p.fleet.users) := by
  refine recounts_of_quiet ?_ (congrArg (List.map _) (assignments_after h p))
  intro x
  rw [occupants, hquiet]
  rfl

theorem occupants_assign (now : Instant) (id : Int) (name : String) :
    (assign now id name).Recounts p Fleet.users (occupants p.fleet.users) := by
  rcases Action.on_assign_cases now id name p with ⟨e, hon⟩ | ⟨a, f, hplace, hon⟩
  · exact recounts_of_refused hon
  · exact recounts_of_ok hon (Fleet.users_place hplace)

theorem occupants_reassign (now : Instant) (job : ReassignJob) :
    (reassign now job).Recounts p Fleet.users (occupants p.fleet.users) := by
  rcases Action.on_reassign_cases now job p with ⟨e, hon⟩ | ⟨report, q, hon, hmoves⟩
  · exact recounts_of_refused hon
  · exact recounts_of_ok hon hmoves.users_eq

/-- Only a name without blanks at the ends has a row to lose. -/
theorem occupants_unassign (ht : p.fleet.Trimmed) (name : String) :
    (unassign name).Recounts p Fleet.users (occupants p.fleet.users) := by
  rcases Action.on_unassign_cases name p with ⟨e, hon⟩ | ⟨hrow, hon⟩
  · exact recounts_of_refused hon
  · refine recounts_of_ok hon ?_
    change (p.fleet.assignments.filter (·.userId ≠ name)).map (·.userId) =
      (p.fleet.assignments.map (·.userId)).filter (· ≠ Text.trim name)
    rw [ht.trim_eq hrow, List.filter_map]
    rfl

theorem occupants_deleteNode (hs : p.fleet.Sound) (id : Int) :
    (deleteNode id).Recounts p Fleet.users (occupants p.fleet.users) := by
  rcases Action.on_deleteNode_cases id p with ⟨e, hon⟩ | hon
  · exact recounts_of_refused hon
  · exact recounts_of_ok hon (hs.users_withoutNode id)

theorem recounts_users (op : Operation α) (hs : p.fleet.Sound) (ht : p.fleet.Trimmed) :
    op.Recounts p Fleet.users (occupants p.fleet.users) := by
  cases op with
  | assign now id name => exact occupants_assign now id name
  | reassign now job => exact occupants_reassign now job
  | unassign name => exact occupants_unassign ht name
  | deleteNode id => exact occupants_deleteNode hs id
  | _ => exact occupants_of_quiet (fun _ => rfl) rfl

end Operation

/-- Each event places users or lets them go, as its answer tells. -/
theorem Event.users_after (e : Event) {p : Panel} (hs : p.fleet.Sound) (ht : p.fleet.Trimmed) :
    (e.after p).fleet.users =
      ((e.brings Operation.stays p).getD []).foldl Stay.update p.fleet.users := by
  cases e with
  | world isOpen shell => rfl
  | ask op =>
    have hafter : (op.after p).fleet.users =
        ((op.answer p).toOption.bind (Operation.occupants p.fleet.users op)).getD
          p.fleet.users := op.recounts_users hs ht
    rw [after_ask, hafter]
    cases hanswer : (op.answer p).toOption with
    | none => simp [brings, hanswer]
    | some answer =>
      cases hstays : op.stays answer with
      | none => simp [brings, hanswer, hstays, Operation.occupants]
      | some entries => simp [brings, hanswer, hstays, Operation.occupants]

namespace Panel

/-- What the answers of a run tell about users, one after the other. -/
def stays (p : Panel) (run : List Event) : List Stay :=
  (p.collect (Event.brings Operation.stays) run).flatten

theorem stays_concat (p : Panel) (run : List Event) (e : Event) :
    p.stays (run ++ [e]) =
      p.stays run ++ (e.brings Operation.stays (p.after run)).getD [] := by
  unfold stays
  rw [collect_concat, List.flatten_append]
  cases e.brings Operation.stays (p.after run) with
  | none => rfl
  | some entries => simp

/-- After any run, the rows of the assignments stand in the order in which their users came. -/
theorem pairwise_users (shell : Shell) (run : List Event) :
    ((fresh shell).after run).fleet.users.Pairwise (Stay.CameBefore ((fresh shell).stays run)) := by
  have husers : ((fresh shell).after run).fleet.users =
      ((fresh shell).stays run).foldl Stay.update [] := by
    induction run using List.reverseRecOn with
    | nil => rfl
    | append_singleton run e ih =>
      have hs := sound_fresh shell run
      have ht := trimmed_fresh shell run
      rw [after_concat, e.users_after hs ht, ih, stays_concat, List.foldl_append]
  rw [husers]
  exact Stay.pairwise_foldl_update _

end Panel

end NodeFleet
