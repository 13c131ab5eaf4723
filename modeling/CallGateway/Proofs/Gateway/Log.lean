import CallGateway.Proofs.Gateway.Session

/-!
# What a further note does to a log

A note is the first to tell the fate of a call or it tells nothing, so fates stay, and tallies
change by the calls whose fates the note tells.
-/

namespace CallGateway.Log

variable {log : Log} {n : Note} {h k : Handle} {test : Option Fate → Bool}

theorem accepted_append : accepted (log ++ [n]) = log.accepted ++ n.accepted?.toList := by
  rw [accepted, List.filterMap_append]
  cases hn : n.accepted? <;> simp [accepted, hn]

theorem submitted_append : submitted (log ++ [n]) = log.submitted ++ n.submitted?.toList := by
  rw [submitted, List.filterMap_append]
  cases hn : n.submitted? <;> simp [submitted, hn]

theorem endings_append :
    endings (log ++ [n]) h = log.endings h ++ if n.ends h then [n] else [] := by
  rw [endings, List.filter_append]
  split <;> simp_all [endings]

/-- The fate of a call stays what it is, and a call without one has the first that comes. -/
theorem fate?_append (hh : h ∈ log.accepted) :
    fate? h (log ++ [n]) = (fate? h log).or (n.fate? h) := by
  induction log with
  | nil => cases hh
  | cons m log ih =>
    cases m with
    | accepted k =>
      simp only [List.cons_append, fate?]
      split
      · rw [List.findSome?_append, List.findSome?_singleton]
      · next hk =>
        refine ih ?_
        have : h = k ∨ h ∈ accepted log := by simpa [accepted, Note.accepted?] using hh
        exact this.resolve_left (Ne.symm hk)
    | _ => exact ih hh

/-- A call that is accepted now has no fate yet. -/
theorem fate?_append_of_not_mem (hh : h ∉ log.accepted) : fate? h (log ++ [n]) = none := by
  induction log with
  | nil =>
    cases n with
    | accepted k =>
      rw [List.nil_append, fate?]
      split <;> rfl
    | _ => rfl
  | cons m log ih =>
    cases m with
    | accepted k =>
      have hk : h ≠ k ∧ h ∉ accepted log := by simpa [accepted, Note.accepted?] using hh
      rw [List.cons_append, fate?, if_neg (Ne.symm hk.1)]
      exact ih hk.2
    | _ => exact ih hh

/-- What is noted after a call has been accepted tells its fate. -/
theorem fate?_of_accepted {l₁ l₂ : Log} (hh : h ∉ l₁.accepted) :
    fate? h (l₁ ++ .accepted h :: l₂) = l₂.findSome? (·.fate? h) := by
  induction l₁ with
  | nil => exact if_pos rfl
  | cons m l₁ ih =>
    cases m with
    | accepted k =>
      have hk : h ≠ k ∧ h ∉ accepted l₁ := by simpa [accepted, Note.accepted?] using hh
      rw [List.cons_append, fate?, if_neg (Ne.symm hk.1)]
      exact ih hk.2
    | _ => exact ih hh

/-- The fate of a call, with what was noted up to then. -/
theorem exists_of_fate? (H : fate? h log = some f) : ∃ l₁ l₂ n l₃,
    log = l₁ ++ .accepted h :: (l₂ ++ n :: l₃) ∧ n.fate? h = some f ∧
      ∀ m ∈ l₂, m.fate? h = none := by
  induction log with
  | nil => cases H
  | cons m log ih =>
    have later (H : fate? h log = some f) : ∃ l₁ l₂ n l₃,
        m :: log = l₁ ++ .accepted h :: (l₂ ++ n :: l₃) ∧ n.fate? h = some f ∧
          ∀ m ∈ l₂, m.fate? h = none := by
      obtain ⟨l₁, l₂, n, l₃, rfl, hn⟩ := ih H
      exact ⟨m :: l₁, l₂, n, l₃, rfl, hn⟩
    cases m with
    | accepted k =>
      rw [fate?] at H
      split at H
      · next hk =>
        subst hk
        obtain ⟨l₂, n, l₃, rfl, hn, hl⟩ := List.findSome?_eq_some_iff.1 H
        exact ⟨[], l₂, n, l₃, rfl, hn, fun m hm => hl m hm⟩
      · exact later H
    | _ => exact later H

/-! ## Tallies -/

theorem countP_congr_of_mem {p q : Handle → Bool} {l : List Handle} (H : ∀ h ∈ l, p h = q h) :
    l.countP p = l.countP q :=
  List.countP_congr fun h hh => by rw [H h hh]

/-- Nobody's fate is told. -/
theorem tally_quiet (hn : n.accepted? = none)
    (hf : ∀ h ∈ log.accepted, fate? h log = none → n.fate? h = none) :
    tally (log ++ [n]) test = log.tally test := by
  rw [tally, accepted_append, hn, Option.toList_none, List.append_nil, tally]
  refine countP_congr_of_mem fun h hh => ?_
  rw [fate?_append hh]
  cases h1 : fate? h log with
  | none => rw [hf h hh h1]; rfl
  | some f => rfl

theorem tally_accepted (hh : h ∉ log.accepted) :
    tally (log ++ [.accepted h]) test = log.tally test + if test none then 1 else 0 := by
  have ha : (Note.accepted h).accepted?.toList = [h] := rfl
  rw [tally, accepted_append, ha, List.countP_append, List.countP_singleton,
    fate?_append_of_not_mem hh, tally]
  congr 1
  refine countP_congr_of_mem fun k hk => ?_
  have hn : (Note.accepted h).fate? k = none := rfl
  rw [fate?_append hk, hn, Option.or_none]

/-- In a list without repetitions one item changes sides. -/
theorem countP_update {p q : Handle → Bool} {l : List Handle} (hl : l.Nodup) (hk : k ∈ l)
    (H : ∀ h ∈ l, h ≠ k → q h = p h) :
    l.countP q + (if p k then 1 else 0) = l.countP p + if q k then 1 else 0 := by
  induction l with
  | nil => cases hk
  | cons h l ih =>
    rw [List.nodup_cons] at hl
    rw [List.countP_cons, List.countP_cons]
    rcases List.mem_cons.1 hk with rfl | hk
    · have : l.countP q = l.countP p := countP_congr_of_mem fun h hh =>
        H h (.tail _ hh) (by rintro rfl; exact hl.1 hh)
      omega
    · have hne : h ≠ k := by rintro rfl; exact hl.1 hk
      have := ih hl.2 hk fun h hh => H h (.tail _ hh)
      rw [H h (.head _) hne]
      omega

/-- The fate of one call is told. -/
theorem tally_settled (test : Option Fate → Bool) (hl : log.accepted.Nodup)
    (hk : k ∈ log.accepted) (hn : n.accepted? = none) (h0 : fate? k log = none)
    (h1 : n.fate? k = some f)
    (hf : ∀ h ∈ log.accepted, h ≠ k → fate? h log = none → n.fate? h = none) :
    tally (log ++ [n]) test + (if test none then 1 else 0) =
      log.tally test + if test (some f) then 1 else 0 := by
  rw [tally, accepted_append, hn, Option.toList_none, List.append_nil, tally]
  have H := countP_update (p := fun h => test (fate? h log))
    (q := fun h => test (fate? h (log ++ [n]))) hl hk fun h hh hne => by
      rw [fate?_append hh]
      cases h2 : fate? h log with
      | none => rw [hf h hh hne h2]; rfl
      | some f => rfl
  rw [fate?_append hk, h0, h1] at H
  exact H

/-! ## Strays -/

theorem strays_append :
    strays (log ++ [n]) = log.strays + if isStray log n then 1 else 0 := by
  rw [strays, List.length_append, List.length_singleton, List.range_succ, List.countP_append,
    List.countP_singleton, strays]
  congr 1
  · refine List.countP_congr fun i hi => ?_
    have hi : i < log.length := List.mem_range.1 hi
    rw [List.getElem?_append_left hi, List.take_append_of_le_length (Nat.le_of_lt hi)]
  · rw [List.getElem?_append_right (Nat.le_refl _), Nat.sub_self, List.take_left]
    rfl

theorem awaits_iff {id : Uuid} : log.awaits id = true ↔
    ∃ h ∈ log.accepted, h.requestId = id ∧ fate? h log = none := by
  simp [awaits]

end CallGateway.Log
