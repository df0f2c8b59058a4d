import Mathlib.Data.List.Nodup
import Mathlib.Logic.Function.Basic
import NodeFleet.Api.Limiter

/-!
# The limit on requests, key by key

A limiter sweeps windows that have passed out of its table, when the table has grown with the
windows of all keys. Nobody notices: at clock readings that do not go back, it answers like a
`Ledger` that keeps the last window of every key for ever. What a ledger answers to a key depends on
the times of the key's own visits. `windowsOf` cuts these into windows, and in each of them the
first visits are let through, up to the limit.
-/

namespace NodeFleet.Api

/-- A request that is counted: the reading of the clock, and the key of the client. -/
structure Visit where
  time : Nat
  key : String
  deriving DecidableEq, Repr

/-- The times of the visits under a key. -/
def timesOf (key : String) (visits : List Visit) : List Nat :=
  (visits.filter (·.key = key)).map (·.time)

theorem timesOf_cons (v : Visit) (visits : List Visit) (key : String) :
    timesOf key (v :: visits) =
      if v.key = key then v.time :: timesOf key visits else timesOf key visits := by
  unfold timesOf
  by_cases h : v.key = key
  · rw [if_pos h, List.filter_cons_of_pos (by simpa using h), List.map_cons]
  · rw [if_neg h, List.filter_cons_of_neg (by simpa using h)]

/-- Of the answers to visits, those to a key. -/
def answersTo (key : String) (visits : List Visit) (answers : List Bool) : List Bool :=
  ((visits.zip answers).filter (·.1.key = key)).map (·.2)

theorem answersTo_cons (v : Visit) (visits : List Visit) (answer : Bool) (answers : List Bool)
    (key : String) :
    answersTo key (v :: visits) (answer :: answers) =
      if v.key = key then answer :: answersTo key visits answers
      else answersTo key visits answers := by
  unfold answersTo
  by_cases h : v.key = key
  · rw [if_pos h, List.zip_cons_cons, List.filter_cons_of_pos (by simpa using h), List.map_cons]
  · rw [if_neg h, List.zip_cons_cons, List.filter_cons_of_neg (by simpa using h)]

/-! ### The windows of one key -/

/-- Visits at given times, by windows: a window opens with the first visit, and the next one with
the first visit that is not less than the length of a window after that. -/
def windowsOf (length : Nat) : List Nat → List (List Nat)
  | [] => []
  | opened :: times =>
    (opened :: times.takeWhile (· - opened < length)) ::
      windowsOf length (times.dropWhile (· - opened < length))
termination_by times => times.length
decreasing_by
  have hle := (List.dropWhile_sublist (p := fun t => decide (t - opened < length))
    (l := times)).length_le
  exact Nat.lt_succ_of_le hle

/-- Every visit is in one window. -/
theorem flatten_windowsOf (length : Nat) (times : List Nat) :
    (windowsOf length times).flatten = times := by
  induction times using windowsOf.induct length with
  | case1 => simp [windowsOf]
  | case2 opened times ih =>
    rw [windowsOf, List.flatten_cons, ih, List.cons_append, List.takeWhile_append_dropWhile]

/-- The answers to the visits of a window: the first ones are let through, up to the limit. -/
def verdicts (limit visits : Nat) : List Bool := (List.range visits).map (· < limit)

/-- A window lets no more visits through than the limit. -/
theorem count_verdicts_le (limit visits : Nat) : (verdicts limit visits).count true ≤ limit := by
  have hcount : (verdicts limit visits).count true = min limit visits := by
    unfold verdicts
    rw [List.count, List.countP_map]
    induction visits with
    | zero => simp
    | succ n ih =>
      rw [List.range_succ, List.countP_append, ih, List.countP_singleton]
      by_cases h : n < limit
      · simp only [Function.comp_apply, h, decide_true, beq_self_eq_true, if_true]
        omega
      · simp only [Function.comp_apply, h, decide_false]
        rw [if_neg (by decide)]
        omega
  omega

/-- The window of a key after one more visit. -/
def Window.visited (length now : Nat) : Option Window → Window
  | some w => if now - w.openedAt < length then { w with hits := w.hits + 1 } else ⟨1, now⟩
  | none => ⟨1, now⟩

/-- The answers to the visits of one key, from its last window on. -/
def ownAnswers (limit length : Nat) : Option Window → List Nat → List Bool
  | _, [] => []
  | last, now :: times =>
    let w := Window.visited length now last
    decide (w.hits ≤ limit) :: ownAnswers limit length (some w) times

/-- The visits of a window go on being counted until it has passed; what comes then is answered as
if there had been no window. -/
theorem ownAnswers_some (limit length hits opened : Nat) (times : List Nat) :
    ownAnswers limit length (some ⟨hits, opened⟩) times =
      (List.range' hits (times.takeWhile (· - opened < length)).length).map (decide <| · < limit) ++
        ownAnswers limit length none (times.dropWhile (· - opened < length)) := by
  induction times generalizing hits with
  | nil => rfl
  | cons now times ih =>
    by_cases h : now - opened < length
    · rw [List.takeWhile_cons_of_pos (by simpa using h),
        List.dropWhile_cons_of_pos (by simpa using h), ownAnswers, Window.visited, if_pos h]
      simp only [ih, List.length_cons, List.range'_succ, List.map_cons, List.cons_append,
        Nat.succ_le_iff]
    · rw [List.takeWhile_cons_of_neg (by simpa using h),
        List.dropWhile_cons_of_neg (by simpa using h), ownAnswers, Window.visited, if_neg h]
      rfl

/-- A key that was not seen yet is answered window by window. -/
theorem ownAnswers_none (limit length : Nat) (times : List Nat) :
    ownAnswers limit length none times =
      (windowsOf length times).flatMap fun w => verdicts limit w.length := by
  induction times using windowsOf.induct length with
  | case1 => simp [ownAnswers, windowsOf]
  | case2 opened times ih =>
    rw [windowsOf, List.flatMap_cons, ← ih, ownAnswers, Window.visited, ownAnswers_some, verdicts,
      List.length_cons, List.range_eq_range', List.range'_succ, List.map_cons, List.cons_append]
    rfl

/-! ### A limiter that forgets nothing -/

/-- The last window of every key that was seen. -/
structure Ledger where
  limit : Nat
  /-- The length of a window. -/
  window : Nat
  last : String → Option Window

namespace Ledger

/-- A ledger that has seen no visit. -/
def fresh (limit window : Nat) : Ledger := ⟨limit, window, fun _ => none⟩

/-- Counts a visit; the answer tells whether it is let through. -/
def check (g : Ledger) (v : Visit) : Bool × Ledger :=
  let w := Window.visited g.window v.time (g.last v.key)
  (w.hits ≤ g.limit, { g with last := Function.update g.last v.key (some w) })

/-- The answers to visits, one after the other. -/
def answers (g : Ledger) : List Visit → List Bool
  | [] => []
  | v :: visits => (g.check v).1 :: answers (g.check v).2 visits

/-- The ledger after visits. -/
def after (g : Ledger) (visits : List Visit) : Ledger :=
  visits.foldl (fun g v => (g.check v).2) g

/-- What a key is answered is a function of its own visits. -/
theorem answersTo_answers (g : Ledger) (visits : List Visit) (key : String) :
    answersTo key visits (g.answers visits) =
      ownAnswers g.limit g.window (g.last key) (timesOf key visits) := by
  induction visits generalizing g with
  | nil => rfl
  | cons v visits ih =>
    rw [answers, answersTo_cons, timesOf_cons, ih]
    by_cases h : v.key = key
    · subst h
      rw [if_pos rfl, if_pos rfl, ownAnswers]
      simp only [check, Function.update_self]
    · rw [if_neg h, if_neg h]
      simp only [check, Function.update_of_ne (Ne.symm h)]

/-- No window counts more visits than its key has made. -/
theorem hits_le (g : Ledger) (visits : List Visit) {key : String} {w : Window}
    (h : (g.after visits).last key = some w) :
    w.hits ≤ ((g.last key).elim 0 (·.hits)) + (timesOf key visits).length := by
  induction visits generalizing g with
  | nil =>
    have hlast : g.last key = some w := h
    rw [hlast]
    exact Nat.le_add_right _ _
  | cons v visits ih =>
    have hrest := ih (g.check v).2 h
    rw [timesOf_cons]
    by_cases hkey : v.key = key
    · subst hkey
      rw [if_pos rfl, List.length_cons]
      have hone : (Window.visited g.window v.time (g.last v.key)).hits ≤
          (g.last v.key).elim 0 (·.hits) + 1 := by
        cases g.last v.key with
        | none => exact Nat.le_refl 1
        | some w =>
          rw [Window.visited]
          split
          · exact Nat.le_refl _
          · exact Nat.le_add_left 1 _
      simp only [check, Function.update_self, Option.elim_some] at hrest
      omega
    · rw [if_neg hkey]
      simp only [check, Function.update_of_ne (Ne.symm hkey)] at hrest
      exact hrest

end Ledger

/-! ### The table of a limiter -/

namespace Limiter

/-- The answers to visits, one after the other. -/
def answers (l : Limiter) : List Visit → List Bool
  | [] => []
  | v :: visits => (l.check v.time v.key).1 :: answers (l.check v.time v.key).2 visits

/-- The limiter after visits. -/
def after (l : Limiter) (visits : List Visit) : Limiter :=
  visits.foldl (fun l v => (l.check v.time v.key).2) l

/-- Keys stand in one entry of the table each. -/
def Keyed (windows : List (String × Window)) : Prop := (windows.map (·.1)).Nodup

theorem keyed_cons {windows : List (String × Window)} {key : String} {w : Window} :
    Keyed ((key, w) :: windows) ↔ (∀ v, (key, v) ∉ windows) ∧ Keyed windows := by
  simp [Keyed]

/-- The window that is found under a key is the one that the table has. -/
theorem lookup_eq_some_iff {windows : List (String × Window)} (h : Keyed windows) {key : String}
    {w : Window} : windows.lookup key = some w ↔ (key, w) ∈ windows := by
  induction windows with
  | nil => simp
  | cons entry windows ih =>
    obtain ⟨k, v⟩ := entry
    obtain ⟨hnew, h⟩ := keyed_cons.1 h
    rw [List.lookup_cons, List.mem_cons, Prod.mk.injEq]
    by_cases hk : key = k
    · subst hk
      simp only [beq_self_eq_true, Option.some.injEq, true_and, hnew w, or_false]
      exact eq_comm
    · have hbeq : (key == k) = false := by simpa using hk
      simp only [hbeq, ih h, hk, false_and, false_or]

theorem mem_put {windows : List (String × Window)} (h : Keyed windows) {key k : String}
    {w v : Window} :
    (k, v) ∈ put key w windows ↔ (k = key ∧ v = w) ∨ (k ≠ key ∧ (k, v) ∈ windows) := by
  induction windows with
  | nil => simp [put]
  | cons entry windows ih =>
    obtain ⟨k', v'⟩ := entry
    obtain ⟨hnew, h⟩ := keyed_cons.1 h
    rw [put]
    split
    · next hk =>
      subst hk
      simp only [List.mem_cons, Prod.mk.injEq]
      by_cases hkk : k = k'
      · subst hkk
        simp [hnew v]
      · simp [hkk]
    · next hk =>
      simp only [List.mem_cons, Prod.mk.injEq, ih h]
      by_cases hkk : k = k'
      · subst hkk
        simp [hk]
      · simp [hkk]

theorem keyed_put {windows : List (String × Window)} (h : Keyed windows) (key : String)
    (w : Window) : Keyed (put key w windows) := by
  induction windows with
  | nil => exact keyed_cons.2 ⟨nofun, List.nodup_nil⟩
  | cons entry windows ih =>
    obtain ⟨k, v⟩ := entry
    obtain ⟨hnew, hrest⟩ := keyed_cons.1 h
    rw [put]
    split
    · exact keyed_cons.2 ⟨hnew, hrest⟩
    · next hk =>
      refine keyed_cons.2 ⟨fun v' hput => ?_, ih hrest⟩
      rcases (mem_put hrest).1 hput with ⟨he, -⟩ | ⟨-, hold⟩
      · exact hk he
      · exact hnew v' hold

/-- At a time, a table has the last windows of a ledger, except for some that have passed. -/
structure Agrees (l : Limiter) (g : Ledger) (now : Nat) : Prop where
  limit : l.limit = g.limit
  window : l.window = g.window
  keyed : Keyed l.windows
  known : ∀ key w, (key, w) ∈ l.windows → g.last key = some w
  forgotten : ∀ key w, g.last key = some w → (key, w) ∉ l.windows → l.window ≤ now - w.openedAt

namespace Agrees

variable {l : Limiter} {g : Ledger} {now : Nat}

theorem fresh (limit window : Nat) :
    Agrees (Limiter.fresh limit window) (Ledger.fresh limit window) 0 where
  limit := rfl
  window := rfl
  keyed := List.nodup_nil
  known := nofun
  forgotten := nofun

/-- A window that has passed has passed at any later time too. -/
theorem later (h : Agrees l g now) {time : Nat} (hle : now ≤ time) : Agrees l g time where
  limit := h.limit
  window := h.window
  keyed := h.keyed
  known := h.known
  forgotten key w hlast hnot := by
    have hpassed := h.forgotten key w hlast hnot
    omega

/-- A sweep takes only windows out of the table that have passed. -/
theorem sweep (h : Agrees l g now) : Agrees (l.sweep now) g now := by
  unfold Limiter.sweep
  split
  · exact {
      limit := h.limit
      window := h.window
      keyed := h.keyed.sublist (List.filter_sublist.map _)
      known := fun key w hmem => h.known key w (List.mem_filter.1 hmem).1
      forgotten := fun key w hlast hnot => by
        by_cases hmem : (key, w) ∈ l.windows
        · have hpassed : l.isCurrent now w = false := by
            rw [Bool.eq_false_iff]
            exact fun hcurrent => hnot (List.mem_filter.2 ⟨hmem, hcurrent⟩)
          exact Nat.le_of_not_lt (of_decide_eq_false hpassed)
        · exact h.forgotten key w hlast hmem }
  · exact h

/-- A visit is counted in the same window: one that was forgotten has passed. -/
theorem windowAt_eq (h : Agrees l g now) (key : String) :
    ({ l.windowAt now key with hits := (l.windowAt now key).hits + 1 } : Window) =
      Window.visited g.window now (g.last key) := by
  unfold windowAt
  cases hlookup : l.windows.lookup key with
  | some w =>
    rw [h.known key w ((lookup_eq_some_iff h.keyed).1 hlookup), Window.visited, ← h.window]
    by_cases hcurrent : now - w.openedAt < l.window
    · have hopen : l.isCurrent now w = true := decide_eq_true hcurrent
      simp only [hopen, if_pos hcurrent, if_true]
    · have hpassed : l.isCurrent now w = false := decide_eq_false hcurrent
      simp only [hpassed, if_neg hcurrent, Bool.false_eq_true, if_false]
  | none =>
    have hnot (w : Window) : (key, w) ∉ l.windows := by
      rw [← lookup_eq_some_iff h.keyed, hlookup]
      exact nofun
    cases hlast : g.last key with
    | none => rfl
    | some w =>
      have hpassed := h.forgotten key w hlast (hnot w)
      rw [Window.visited, if_neg (by rw [← h.window]; omega)]

/-- A visit is answered alike. -/
theorem check (h : Agrees l g now) (key : String) :
    (l.check now key).1 = (g.check ⟨now, key⟩).1 ∧
      Agrees (l.check now key).2 (g.check ⟨now, key⟩).2 now := by
  have hs := h.sweep
  have hw := hs.windowAt_eq key
  have hanswer : (l.check now key).1 = (g.check ⟨now, key⟩).1 := by
    have hlimit : (l.sweep now).limit = l.limit := hs.limit.trans h.limit.symm
    have hhits := congrArg Window.hits hw
    dsimp only at hhits
    simp only [Limiter.check, Ledger.check, hhits, h.limit]
  refine ⟨hanswer, ?_⟩
  simp only [Limiter.check, Ledger.check, hw]
  exact {
    limit := hs.limit
    window := hs.window
    keyed := keyed_put hs.keyed key _
    known := fun k w hmem => by
      rcases (mem_put hs.keyed).1 hmem with ⟨rfl, rfl⟩ | ⟨hne, hold⟩
      · exact Function.update_self ..
      · exact (Function.update_of_ne hne ..).trans (hs.known k w hold)
    forgotten := fun k w hlast hnot => by
      rw [mem_put hs.keyed, not_or, not_and, not_and] at hnot
      by_cases hk : k = key
      · subst hk
        have hw : w = Window.visited g.window now (g.last k) :=
          Option.some.inj (hlast.symm.trans (Function.update_self ..))
        exact absurd hw (hnot.1 rfl)
      · have hold : g.last k = some w := (Function.update_of_ne hk ..).symm.trans hlast
        exact hs.forgotten k w hold (hnot.2 hk) }

/-- Visits at times that do not go back are answered alike. -/
theorem run {visits : List Visit} (h : Agrees l g now)
    (hsorted : (visits.map (·.time)).Pairwise (· ≤ ·)) (hle : ∀ v ∈ visits, now ≤ v.time) :
    l.answers visits = g.answers visits ∧
      ∃ time, Agrees (l.after visits) (g.after visits) time := by
  induction visits generalizing l g now with
  | nil => exact ⟨rfl, now, h⟩
  | cons v visits ih =>
    rw [List.map_cons, List.pairwise_cons] at hsorted
    obtain ⟨hanswer, hnext⟩ := (h.later (hle v List.mem_cons_self)).check v.key
    obtain ⟨hanswers, hafter⟩ := ih hnext hsorted.2 fun v' hv' =>
      hsorted.1 _ (List.mem_map_of_mem hv')
    rw [Limiter.answers, Ledger.answers, hanswer, hanswers]
    exact ⟨rfl, hafter⟩

end Agrees

/-- For visits at times that do not go back, under any number of keys, a limiter answers like a
ledger that forgets nothing. What a key is answered depends on the times of its own visits only:
these fall into windows, in each the first visits are let through, and no window lets more through
than the limit. Nor does the table count more visits of a key than it has made. -/
theorem answers_eq_ledger (limit window : Nat) (visits : List Visit)
    (h : (visits.map (·.time)).Pairwise (· ≤ ·)) :
    let answers := (fresh limit window).answers visits
    answers = (Ledger.fresh limit window).answers visits ∧
      (∀ key,
        let windows := windowsOf window (timesOf key visits)
        windows.flatten = timesOf key visits ∧
          answersTo key visits answers = windows.flatMap (fun w => verdicts limit w.length) ∧
          ∀ w ∈ windows, (verdicts limit w.length).count true ≤ limit) ∧
      ∀ entry ∈ ((fresh limit window).after visits).windows,
        entry.2.hits ≤ (timesOf entry.1 visits).length := by
  intro answers
  obtain ⟨hanswers, time, hafter⟩ :=
    (Agrees.fresh limit window).run h fun v _ => Nat.zero_le v.time
  refine ⟨hanswers, fun key => ⟨flatten_windowsOf window _, ?_, fun w _ => ?_⟩,
    fun entry hentry => ?_⟩
  · change answersTo key visits ((fresh limit window).answers visits) = _
    rw [hanswers, Ledger.answersTo_answers]
    exact ownAnswers_none limit window (timesOf key visits)
  · exact count_verdicts_le limit w.length
  · have hhits := Ledger.hits_le _ visits (hafter.known entry.1 entry.2 hentry)
    simpa [Ledger.fresh] using hhits

/-- A client among more keys than the table holds without a sweep. -/
def crowd : List Visit :=
  ⟨0, "client"⟩ :: ((List.range 1200).map fun k => ⟨5, String.ofList ('x' :: Nat.toDigits 10 k)⟩)
    ++ [⟨5, "client"⟩, ⟨10, "client"⟩]

theorem timesOf_crowd : timesOf "client" crowd = [0, 5, 10] := by
  have hothers : ((List.range 1200).map fun k =>
      (⟨5, String.ofList ('x' :: Nat.toDigits 10 k)⟩ : Visit)).filter (·.key = "client") = [] := by
    rw [List.filter_eq_nil_iff]
    intro v hv
    obtain ⟨k, -, rfl⟩ := List.mem_map.1 hv
    have hne : String.ofList ('x' :: Nat.toDigits 10 k) ≠ "client" := by
      intro he
      have hhead := congrArg (fun s => s.toList.head?) he
      rw [String.toList_ofList, List.head?_cons] at hhead
      exact absurd hhead (by decide)
    simpa using hne
  rw [timesOf, crowd, List.cons_append, List.filter_cons_of_pos (by decide), List.filter_append,
    hothers]
  rfl

/-- With one request in ten units of time, the client is let through, refused, and let through
again, when its window has been swept together with those of the crowd. -/
theorem answers_eq_ledger_crowded :
    (crowd.map (·.time)).Pairwise (· ≤ ·) ∧
      answersTo "client" crowd ((fresh 1 10).answers crowd) = [true, false, true] := by
  have htimes : crowd.map (·.time) = 0 :: (List.replicate 1200 5 ++ [5, 10]) := by
    simp only [crowd, List.cons_append, List.map_cons, List.map_append, List.map_map,
      Function.comp_def, List.map_const', List.length_range, List.map_nil]
  have hsorted : (crowd.map (·.time)).Pairwise (· ≤ ·) := by
    rw [htimes, List.pairwise_cons, List.pairwise_append]
    refine ⟨fun t _ => Nat.zero_le t, ?_, by decide, fun t ht t' ht' => ?_⟩
    · rw [List.pairwise_replicate]
      exact .inr (Nat.le_refl 5)
    · rw [List.eq_of_mem_replicate ht]
      revert t'
      decide
  obtain ⟨-, hkey, -⟩ := answers_eq_ledger 1 10 crowd hsorted
  obtain ⟨-, hanswers, -⟩ := hkey "client"
  refine ⟨hsorted, hanswers.trans ?_⟩
  have hwindows : windowsOf 10 [0, 5, 10] = [[0, 5], [10]] := by simp [windowsOf]
  rw [timesOf_crowd, hwindows]
  decide

end Limiter

end NodeFleet.Api
