import CallGateway.Directory.Readiness

/-!
# How long a start waits for the directory

The directory is asked at the start of the wait and then once in every interval. The wait is over
with the first answer that shows something, or with the last question that comes in time. A wait
whose deadline the clock cannot represent never gives up.
-/

namespace CallGateway.Readiness

theorem populated_iff {answer : Except DirectoryError (List String)} :
    populated answer = true ↔ ∃ names, answer = .ok names ∧ names ≠ [] := by
  cases answer with
  | error e => exact iff_of_false Bool.false_ne_true nofun
  | ok names => simp [populated]

namespace Wait

variable {w : Wait} {j k n : Nat}

/-- When the question number `k` is asked, counted from zero. -/
def time (w : Wait) (k : Nat) : Nat := w.start + k * w.interval

theorem time_succ (w : Wait) (k : Nat) : w.time (k + 1) = w.time k + w.interval := by
  rw [time, time, Nat.add_one_mul, Nat.add_assoc]

/-- The answer to this question shows something. -/
def FilledAt (w : Wait) (k : Nat) : Prop :=
  ∃ names, w.answers (w.time k) = .ok names ∧ names ≠ []

instance : Decidable (w.FilledAt k) := decidable_of_iff _ populated_iff

/-- The clock can represent the deadline. -/
def Limited (w : Wait) : Prop := w.start + w.maxWait ≤ w.horizon

instance : Decidable w.Limited := inferInstanceAs (Decidable (_ ≤ _))

/-- The question comes in time. -/
def InTime (w : Wait) (k : Nat) : Prop := w.Limited → k * w.interval ≤ w.maxWait

instance : Decidable (w.InTime k) := inferInstanceAs (Decidable (_ → _))

/-- The question comes in time, and no answer before has shown anything. -/
def Due (w : Wait) (k : Nat) : Prop := w.InTime k ∧ ∀ j < k, ¬ w.FilledAt j

instance : Decidable (w.Due k) := inferInstanceAs (Decidable (_ ∧ _))

theorem due_zero (w : Wait) : w.Due 0 := by
  refine ⟨fun _ => ?_, nofun⟩
  rw [Nat.zero_mul]
  exact Nat.zero_le _

theorem due_succ_iff : w.Due (k + 1) ↔ w.Due k ∧ ¬ w.FilledAt k ∧ w.InTime (k + 1) := by
  constructor
  · rintro ⟨hin, hempty⟩
    refine ⟨⟨fun limited => ?_, fun j hj => hempty j (Nat.lt_succ_of_lt hj)⟩,
      hempty k k.lt_succ_self, hin⟩
    exact Nat.le_trans (Nat.mul_le_mul_right _ k.le_succ) (hin limited)
  · rintro ⟨D, hempty, hin⟩
    refine ⟨hin, fun j hj => ?_⟩
    obtain hj | rfl := Nat.lt_succ_iff_lt_or_eq.1 hj
    · exact D.2 j hj
    · exact hempty

/-- If some question is not due, there is a last one that is. -/
theorem exists_last (h : ¬ w.Due n) : ∃ k < n, w.Due k ∧ ¬ w.Due (k + 1) := by
  induction n with
  | zero => exact absurd w.due_zero h
  | succ n ih =>
    by_cases D : w.Due n
    · exact ⟨n, n.lt_succ_self, D, h⟩
    · obtain ⟨k, hk, hlast⟩ := ih D
      exact ⟨k, Nat.lt_succ_of_lt hk, hlast⟩

/-! ## One question -/

theorem deadline?_of_limited (h : w.Limited) : w.deadline? = some (w.start + w.maxWait) := if_pos h

theorem deadline?_of_not_limited (h : ¬ w.Limited) : w.deadline? = none := if_neg h

/-- A time that the clock cannot represent is behind every deadline that it can. -/
theorem outOfTime_iff (w : Wait) (next : Nat) :
    outOfTime w.deadline? (w.instant? next) = true ↔ w.Limited ∧ w.start + w.maxWait < next := by
  by_cases limited : w.Limited
  · rw [deadline?_of_limited limited, instant?, and_iff_right limited]
    split
    · exact decide_eq_true_iff
    · next beyond => exact iff_of_true rfl (Nat.lt_of_le_of_lt limited (Nat.lt_of_not_le beyond))
  · rw [deadline?_of_not_limited limited]
    exact iff_of_false Bool.false_ne_true fun h => limited h.1

theorem outOfTime_time (w : Wait) (k : Nat) :
    outOfTime w.deadline? (w.instant? (w.time k)) = true ↔ ¬ w.InTime k := by
  rw [outOfTime_iff, InTime, Classical.not_imp, Nat.not_le, time, Nat.add_lt_add_iff_left]

theorem ask_of_filled (h : w.FilledAt k) : w.ask (w.time k) = .ends (.ready (w.time k)) :=
  if_pos (populated_iff.2 h)

theorem ask_of_not_filled (h : ¬ w.FilledAt k) : w.ask (w.time k) =
    if w.InTime (k + 1) then .sleeps (w.time (k + 1)) else .ends (.gaveUp (w.time k)) := by
  rw [ask, if_neg (mt populated_iff.1 h), ← time_succ]
  simp only [outOfTime_time, ite_not]

theorem ask_of_due_succ (D : w.Due (k + 1)) : w.ask (w.time k) = .sleeps (w.time (k + 1)) := by
  obtain ⟨-, hempty, hin⟩ := due_succ_iff.1 D
  rw [ask_of_not_filled hempty, if_pos hin]

/-- The last question that is asked ends the wait. -/
theorem ask_of_last (D : w.Due k) (last : ¬ w.Due (k + 1)) : w.ask (w.time k) =
    .ends (if w.FilledAt k then .ready (w.time k) else .gaveUp (w.time k)) := by
  split
  · next h => exact ask_of_filled h
  · next h =>
    have late : ¬ w.InTime (k + 1) := fun hin => last (due_succ_iff.2 ⟨D, h, hin⟩)
    rw [ask_of_not_filled h, if_neg late]

/-- Nobody sleeps past the deadline. -/
theorem le_deadline_of_sleeps (limited : w.Limited) (h : w.ask now = .sleeps next) :
    next ≤ w.start + w.maxWait := by
  rw [ask] at h
  split at h
  · cases h
  split at h
  · cases h
  next hin =>
  cases h
  exact Nat.le_of_not_lt fun hlt => hin ((w.outOfTime_iff _).2 ⟨limited, hlt⟩)

/-! ## All questions -/

/-- When the directory is asked, from `now` on and with so many questions. -/
def askedFrom (w : Wait) : (questions : Nat) → (now : Nat) → List Nat
  | 0, _ => []
  | questions + 1, now => now ::
    match w.ask now with
    | .ends _ => []
    | .sleeps next => w.askedFrom questions next

def asked (w : Wait) (questions : Nat) : List Nat := w.askedFrom questions w.start

/-- The wait comes to every question that is due. -/
theorem poll_of_due (D : w.Due k) (n : Nat) : w.run (k + n) = w.poll n (w.time k) ∧
    w.asked (k + n) = (List.range k).map w.time ++ w.askedFrom n (w.time k) := by
  induction k generalizing n with
  | zero =>
    have hstart : w.time 0 = w.start := by rw [time, Nat.zero_mul, Nat.add_zero]
    rw [hstart, Nat.zero_add]
    exact ⟨rfl, rfl⟩
  | succ k ih =>
    -- The question before this one was due as well, and did not end the wait.
    obtain ⟨hrun, hasked⟩ := ih (due_succ_iff.1 D).1 (n + 1)
    rw [Nat.add_right_comm, Nat.add_assoc, hrun, hasked, poll, askedFrom, ask_of_due_succ D,
      List.range_succ, List.map_append, List.append_assoc]
    exact ⟨rfl, rfl⟩

theorem run_of_due (D : w.Due n) : w.run n = .waiting (w.time n) := (poll_of_due D 0).1

theorem run_of_last (D : w.Due k) (last : ¬ w.Due (k + 1)) (hn : k < n) :
    w.run n = if w.FilledAt k then .ready (w.time k) else .gaveUp (w.time k) := by
  obtain ⟨m, rfl⟩ := Nat.exists_eq_add_of_lt hn
  rw [Nat.add_assoc, (poll_of_due D (m + 1)).1, poll, ask_of_last D last]

theorem asked_of_last (D : w.Due k) (last : ¬ w.Due (k + 1)) (hn : k < n) :
    w.asked n = (List.range (k + 1)).map w.time := by
  obtain ⟨m, rfl⟩ := Nat.exists_eq_add_of_lt hn
  rw [Nat.add_assoc, (poll_of_due D (m + 1)).2, askedFrom, ask_of_last D last, List.range_succ,
    List.map_append]
  rfl

theorem asked_succ (w : Wait) (n : Nat) :
    w.asked (n + 1) = w.asked n ++ if w.Due n then [w.time n] else [] := by
  split
  · next D =>
    have hlast : w.askedFrom 1 (w.time n) = [w.time n] := by
      rw [askedFrom]
      cases w.ask (w.time n) <;> rfl
    have hnow := (poll_of_due D 0).2
    rw [(poll_of_due D 1).2, hlast]
    rw [Nat.add_zero] at hnow
    rw [hnow, askedFrom, List.append_nil]
  · next h =>
    obtain ⟨k, hk, D, last⟩ := exists_last h
    rw [asked_of_last D last hk, asked_of_last D last (Nat.lt_succ_of_lt hk), List.append_nil]

/-- The directory is asked the questions that are due, and no others. -/
theorem asked_eq (w : Wait) (n : Nat) :
    w.asked n = ((List.range n).filter w.Due).map w.time := by
  induction n with
  | zero => rfl
  | succ n ih =>
    rw [asked_succ, ih, List.range_succ, List.filter_append, List.map_append]
    by_cases D : w.Due n <;> simp [D]

/-! ## The end of a wait -/

theorem inTime_iff (limited : w.Limited) (h : 0 < w.interval) :
    w.InTime k ↔ k ≤ w.maxWait / w.interval := by
  rw [Nat.le_div_iff_mul_le h]
  exact imp_iff_right limited

/-- What is promised of a wait. -/
structure Contract (w : Wait) : Prop where
  /-- The directory is asked one question after the other, each in time, until an answer shows
  something. -/
  asked : ∀ n, w.asked n = ((List.range n).filter w.Due).map w.time
  /-- The first answer that shows something, if it comes in time, ends the wait at once. -/
  ready : ∀ k, w.Due k → w.FilledAt k → ∀ n, k < n → w.run n = .ready (w.time k)
  /-- If no answer that comes in time shows anything, the wait is given up with the last of them. -/
  gaveUp : w.Limited → (∀ k, k * w.interval ≤ w.maxWait → ¬ w.FilledAt k) →
    ∀ n, w.maxWait / w.interval < n → w.run n = .gaveUp (w.time (w.maxWait / w.interval))
  /-- A wait with a deadline comes to an end, which no further questions change. -/
  ends : w.Limited → ∀ n, w.maxWait / w.interval < n →
    w.run n = w.verdict ∧ ∀ next, w.verdict ≠ .waiting next
  /-- Nobody sleeps past the deadline. -/
  awake : w.Limited → ∀ now next, w.ask now = .sleeps next → next ≤ w.start + w.maxWait
  /-- A wait without a deadline goes on until an answer shows something. -/
  endless : ¬ w.Limited → ∀ n, (∃ k < n, w.Due k ∧ w.FilledAt k ∧ w.run n = .ready (w.time k)) ∨
    (∀ k < n, ¬ w.FilledAt k) ∧ w.run n = .waiting (w.time n)

theorem run_of_filled (D : w.Due k) (h : w.FilledAt k) (hn : k < n) :
    w.run n = .ready (w.time k) := by
  rw [run_of_last D (fun D' => (due_succ_iff.1 D').2.1 h) hn, if_pos h]

/-- Whatever the directory answers, a wait with an interval is what it is promised to be. -/
theorem poll_contract (w : Wait) (h : 0 < w.interval) : w.Contract where
  asked := w.asked_eq
  ready _ D filled _ := run_of_filled D filled
  gaveUp := by
    intro limited empty n hn
    have hin {k : Nat} (hk : k ≤ w.maxWait / w.interval) : ¬ w.FilledAt k :=
      empty k ((Nat.le_div_iff_mul_le h).1 hk)
    have D : w.Due (w.maxWait / w.interval) :=
      ⟨(inTime_iff limited h).2 (Nat.le_refl _), fun j hj => hin (Nat.le_of_lt hj)⟩
    have last : ¬ w.Due (w.maxWait / w.interval + 1) := fun D' =>
      Nat.not_succ_le_self _ ((inTime_iff limited h).1 D'.1)
    rw [run_of_last D last hn, if_neg (hin (Nat.le_refl _))]
  ends := by
    intro limited n hn
    have late : ¬ w.Due w.questions := fun D =>
      Nat.not_succ_le_self _ ((inTime_iff limited h).1 D.1)
    obtain ⟨k, hk, D, last⟩ := exists_last late
    rw [verdict, run_of_last D last (Nat.lt_of_lt_of_le hk hn), run_of_last D last hk]
    refine ⟨rfl, ?_⟩
    split <;> nofun
  awake limited _ _ := le_deadline_of_sleeps limited
  endless := by
    intro unlimited n
    have inTime (k : Nat) : w.InTime k := fun limited => absurd limited unlimited
    by_cases D : w.Due n
    · exact .inr ⟨D.2, run_of_due D⟩
    · obtain ⟨k, hk, D, last⟩ := exists_last D
      have filled : w.FilledAt k := Decidable.byContradiction fun hempty =>
        last (due_succ_iff.2 ⟨D, hempty, inTime _⟩)
      exact .inl ⟨k, hk, D, filled, run_of_filled D filled hk⟩

/-- The directory cannot be asked at first, then it is empty, and then, at the very end of the wait,
it has a service to show. -/
def lateService : Wait where
  answers time := if time < 10 then .error .marked else .ok (if time < 25 then [] else ["echo"])
  start := 5
  maxWait := 20
  interval := 10

theorem poll_contract_lateService : 0 < lateService.interval ∧ lateService.Contract ∧
    lateService.asked 9 = [5, 15, 25] ∧ lateService.verdict = .ready 25 :=
  ⟨by decide, lateService.poll_contract (by decide), by decide, by decide⟩

end Wait

end CallGateway.Readiness
