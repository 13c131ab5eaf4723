import CallGateway.Proofs.Server.Pools
import CallGateway.Proofs.Server.Traffic

/-!
# What a server leaves behind

From the start on a server has one instance in the directory for each of its replicas, and nothing
that goes on at the server touches them. Others may come and go. When the server is shut down, the
directory is what the others alone would have made of it.
-/

namespace CallGateway

/-- The change is about the instance, under whatever name. -/
def DirectoryChange.Concerns (id : Uuid) : DirectoryChange → Prop
  | .register _ i | .deregister _ i => i = id
  | .setAvailable _ => False

theorem DirectoryChange.TakesAway.concerns {x : DirectoryChange} {name : String} {id : Uuid}
    (H : x.TakesAway name id) : x.Concerns id := by
  cases x with
  | deregister service i => exact H.2
  | register | setAvailable => exact H.elim

/-! ## Rolls -/

namespace Roll

variable {R R' : Roll} {name : String} {id : Uuid} {x : DirectoryChange} {xs : List DirectoryChange}

/-- What becomes of a pair does not depend on other pairs. -/
theorem mem_change_congr {pair : String × Uuid} (h : pair ∈ R.pairs ↔ pair ∈ R'.pairs)
    (x : DirectoryChange) : pair ∈ (R.change x).pairs ↔ pair ∈ (R'.change x).pairs := by
  cases x with
  | register s id =>
    rw [change_register, change_register]
    split
    · exact h
    · rw [Finset.mem_insert, Finset.mem_insert, h]
  | deregister s id =>
    rw [change_deregister, change_deregister]
    split
    · exact h
    · rw [Finset.mem_erase, Finset.mem_erase, h]
  | setAvailable a => exact h

theorem mem_changes_congr {pair : String × Uuid} (h : pair ∈ R.pairs ↔ pair ∈ R'.pairs)
    (xs : List DirectoryChange) : pair ∈ (R.changes xs).pairs ↔ pair ∈ (R'.changes xs).pairs := by
  induction xs generalizing R R' with
  | nil => exact h
  | cons x xs ih => exact ih (mem_change_congr h x)

/-- Outages do not depend on who is registered. -/
theorem available_change (R : Roll) (x : DirectoryChange) :
    (R.change x).available = match x with
      | .setAvailable a => a
      | _ => R.available := by
  cases x with
  | register s id => rw [change_register]; split <;> rfl
  | deregister s id => rw [change_deregister]; split <;> rfl
  | setAvailable a => rfl

theorem available_changes_congr (h : R.available = R'.available) (xs : List DirectoryChange) :
    (R.changes xs).available = (R'.changes xs).available := by
  induction xs generalizing R R' with
  | nil => exact h
  | cons x xs ih => exact ih (by rw [available_change, available_change, h])

/-- A change about another instance leaves the pair alone. -/
theorem mem_change (H : ¬ x.Concerns id) :
    (name, id) ∈ (R.change x).pairs ↔ (name, id) ∈ R.pairs := by
  cases x with
  | register s i =>
    have hne : (name, id) ≠ (serviceName s, i) := fun h => H (congrArg Prod.snd h).symm
    rw [change_register]
    split
    · rfl
    · rw [Finset.mem_insert, or_iff_right hne]
  | deregister s i =>
    have hne : (name, id) ≠ (serviceName s, i) := fun h => H (congrArg Prod.snd h).symm
    rw [change_deregister]
    split
    · rfl
    · rw [Finset.mem_erase, and_iff_right hne]
  | setAvailable a => rfl

theorem mem_changes (H : ∀ x ∈ xs, ¬ x.Concerns id) :
    (name, id) ∈ (R.changes xs).pairs ↔ (name, id) ∈ R.pairs := by
  induction xs generalizing R with
  | nil => rfl
  | cons x xs ih =>
    obtain ⟨hx, hxs⟩ := List.forall_mem_cons.1 H
    exact (ih hxs).trans (mem_change hx)

end Roll

/-! ## Withdrawals -/

namespace Server

/-- What a server that is shut down does with the directory. -/
def withdrawals (replicas : List Replica) : List DirectoryChange :=
  replicas.map fun r => .deregister r.service r.instanceId

variable {d : Directory} {replicas : List Replica}

theorem under_change_deregister {service : String} (named : serviceName service ≠ "") (id : Uuid)
    (name : String) : (d.change (.deregister service id)).under name =
      if serviceName service = name then (d.under name).erase id else d.under name := by
  cases h : d.deregister service id with
  | ok d₁ =>
    rw [Directory.change, Directory.change?, h, Directory.deregister_eq_ok h]
    split <;> rename_i hn
    · rw [if_pos hn.symm, hn]
    · rw [if_neg (Ne.symm hn)]
  | error e =>
    rw [Directory.change_of_error (x := .deregister service id) h]
    rw [Directory.deregister_eq, if_neg named] at h
    split at h
    · cases h
    · next absent =>
      split
      · next hn => rw [← hn, List.erase_of_not_mem absent]
      · rfl

theorem under_withdrawals (named : ∀ r ∈ replicas, serviceName r.service ≠ "") (name : String) :
    (d.changes (withdrawals replicas)).under name =
      (d.under name).diff (idsUnder name replicas) := by
  induction replicas generalizing d with
  | nil => rfl
  | cons r replicas ih =>
    obtain ⟨hr, hrs⟩ := List.forall_mem_cons.1 named
    rw [withdrawals, List.map_cons, Directory.changes, List.foldl_cons, ← Directory.changes,
      ← withdrawals, ih hrs, under_change_deregister hr, idsUnder_cons]
    split
    · rw [List.diff_cons]
    · rfl

theorem available_withdrawals (R : Roll) (replicas : List Replica) :
    (R.changes (withdrawals replicas)).available = R.available := by
  induction replicas generalizing R with
  | nil => rfl
  | cons r replicas ih =>
    rw [withdrawals, List.map_cons, Roll.changes, List.foldl_cons, ← Roll.changes, ← withdrawals,
      ih, Roll.available_change]

/-- A shutdown withdraws the replicas, and does nothing else to the directory. -/
theorem directory_shutdown (s : Server) :
    s.shutdown.deployment.directory =
      s.deployment.directory.changes (withdrawals s.replicas) := by
  rw [shutdown, Deployment.directory_stopListener, withdrawals, Directory.changes, List.foldl_map]
  refine (List.foldl_hom Deployment.directory fun d r => ?_).symm
  rw [Deployment.directory_stopWorker, Directory.change]
  cases h : d.directory.deregister r.service r.instanceId <;> simp only [Directory.change?, h]

/-- Calls do not touch what the server has registered. -/
structure Stays (s s' : Server) : Prop where
  directory : s'.deployment.directory = s.deployment.directory
  replicas : s'.replicas = s.replicas

theorem Stays.trans {s₁ s₂ s₃ : Server} (H : Stays s₁ s₂) (H' : Stays s₂ s₃) : Stays s₁ s₃ :=
  ⟨H'.directory.trans H.directory, H'.replicas.trans H.replicas⟩

theorem stays_enter (s : Server) (c : Call) (caller : Metadata) :
    Stays s (s.enter c caller).2 := by
  rw [enter]
  dsimp only
  split
  · exact ⟨rfl, rfl⟩
  · exact ⟨rfl, rfl⟩
  · next h => exact ⟨Deployment.directory_submit h, rfl⟩

theorem stays_call (s : Server) (c : Call) (caller : Metadata) : Stays s (s.call c caller).2 := by
  have E := stays_enter s c caller
  rw [call]
  split <;> rename_i he <;> rw [he] at E
  · exact E
  · exact E.trans ⟨Deployment.directory_await .., rfl⟩

theorem stays_handle (s : Server) (r : Http.Request) : Stays s (s.handle r).2 := by
  cases hc : r.call? with
  | none => rw [handle_of_no_call hc]; exact ⟨rfl, rfl⟩
  | some c => rw [handle_of_call? hc]; exact stays_call ..

end Server

/-! ## Life of a server -/

namespace Traffic

open Server (Stays)

/-- What can come up in the life of a server: its traffic, and others at the directory. -/
inductive Occasion
  | event (e : Event)
  | change (x : DirectoryChange)

def meet (t : Traffic) : Occasion → Traffic
  | .event e => t.step e
  | .change x => t.withDeployment
    { t.server.deployment with directory := t.server.deployment.directory.change x }

/-- What comes of a new server by all that comes up. -/
def since (s : Server) (occasions : List Occasion) : Traffic := occasions.foldl meet { server := s }

/-- What others do with the directory. -/
def changesIn : List Occasion → List DirectoryChange
  | [] => []
  | .event _ :: occasions => changesIn occasions
  | .change x :: occasions => x :: changesIn occasions

theorem stays_step (t : Traffic) (e : Event) : Stays t.server (t.step e).server := by
  cases e with
  | serve r => exact Server.stays_handle ..
  | arrive r =>
    rw [step]
    split
    · exact Server.stays_handle ..
    · next c _ =>
      have E := Server.stays_enter t.server c (Server.identity r.headers)
      split <;> next he => rw [he] at E; exact E
  | answer k =>
    rw [step]
    split
    · exact ⟨rfl, rfl⟩
    · split <;> exact ⟨rfl, rfl⟩
  | leave k =>
    rw [step]
    split
    · exact ⟨rfl, rfl⟩
    · exact ⟨Deployment.directory_cancel .., rfl⟩
  | happen e =>
    rw [step]
    split
    · exact ⟨rfl, rfl⟩
    · next h => exact ⟨(Deployment.Happens.of_step? h).directory, rfl⟩
  | pass ms => exact ⟨rfl, rfl⟩

/-- The directory is changed by others only, and the replicas are still the same. -/
theorem directory_foldl_meet (t : Traffic) (occasions : List Occasion) :
    (occasions.foldl meet t).server.deployment.directory =
        t.server.deployment.directory.changes (changesIn occasions) ∧
      (occasions.foldl meet t).server.replicas = t.server.replicas := by
  induction occasions generalizing t with
  | nil => exact ⟨rfl, rfl⟩
  | cons o occasions ih =>
    obtain ⟨hd, hr⟩ := ih (t.meet o)
    cases o with
    | event e =>
      have S := stays_step t e
      rw [show t.meet (.event e) = t.step e from rfl, S.directory] at hd
      exact ⟨hd, hr.trans S.replicas⟩
    | change x => exact ⟨hd, hr⟩

end Traffic

/-! ## Shutdown -/

namespace Server

variable {s : Server} {settings : Settings} {fresh : Nat → Uuid} {calendar : Nat → Instant}

/-- A directory has one instance for each replica of some pools. -/
structure Staffed (pools : List PoolSettings) (d : Directory) : Prop where
  nodup : ∀ name, (d.under name).Nodup
  length : ∀ name, (d.under name).length = PoolSettings.replicasUnder name pools

/-- Of a directory exactly some instances have been withdrawn, among which no others were. -/
structure Withdrawn (own before after : Directory) (others : List DirectoryChange) : Prop where
  /-- The instances have stayed to the end. -/
  present : ∀ name, ∀ id ∈ own.under name, id ∈ before.under name
  /-- All other instances stay. -/
  rest : ∀ name, after.under name = (before.under name).filter fun id => id ∉ own.under name
  /-- A service stays listed exactly if there are others. -/
  listed : ∃ names, (after.setAvailable true).list = .ok names ∧
    ∀ name, name ∈ names ↔ ∃ id ∈ before.under name, id ∉ own.under name
  /-- What is left is the doing of others alone. -/
  alone : after.Refines (Roll.changes {} others)

theorem Enrolled.staffed (E : s.Enrolled) {pools : List PoolSettings}
    (h : s.replicas.map (·.service) = PoolSettings.services pools) :
    Staffed pools s.deployment.directory where
  nodup := by
    obtain ⟨R, -, K⟩ := E.kept
    exact K.nodup
  length name := by
    rw [E.under, idsUnder, List.length_map, ← PoolSettings.length_services_filter, ← h,
      List.filter_map, List.length_map, Function.comp_def]

theorem start_enrolled (H : start settings fresh calendar = .ok s) :
    s.Enrolled ∧ s.replicas.map (·.service) = PoolSettings.services settings.pools := by
  obtain ⟨-, e, h⟩ | ⟨-, k, b, h⟩ := start_cases settings fresh calendar
  · cases h.symm.trans H
  · rw [h] at H
    cases h₁ : (opened settings fresh calendar k b).startPools settings.pools with
    | error e => rw [h₁] at H; cases H
    | ok s₁ =>
      rw [h₁] at H
      cases H
      obtain ⟨E, A, -⟩ := (enrolled_opened settings fresh calendar k b).startPools h₁
      obtain ⟨E', hr⟩ := E.handedOut settings.pools
      exact ⟨E', by rw [hr, A.services]; rfl⟩

theorem withdrawn_of_keeps {d : Directory} {R : Roll} {replicas : List Replica}
    {others : List DirectoryChange} (K : d.Keeps R) (available : R.available = true)
    (under : ∀ name, d.under name = idsUnder name replicas)
    (named : ∀ r ∈ replicas, serviceName r.service ≠ "")
    (H : ∀ x ∈ others, ∀ name, ∀ id ∈ d.under name, ¬ x.Concerns id) :
    Withdrawn d (d.changes others) ((d.changes others).changes (withdrawals replicas)) others := by
  have K₁ := K.changes others
  have K₂ := K₁.changes (withdrawals replicas)
  have rest (name : String) : ((d.changes others).changes (withdrawals replicas)).under name =
      ((d.changes others).under name).filter fun id => id ∉ d.under name := by
    rw [under_withdrawals named, (K₁.nodup name).sdiff_eq_filter, under]
  have left (name : String) (id : Uuid) :
      (name, id) ∈ ((R.changes others).changes (withdrawals replicas)).pairs ↔
        id ∈ (d.changes others).under name ∧ id ∉ d.under name := by
    rw [← K₂.mem, rest, List.mem_filter, decide_eq_true_eq]
  refine ⟨fun name id hid => ?_, rest, ?_, ?_⟩
  · exact Directory.mem_under_changes hid fun x hx taken => H x hx name id hid taken.concerns
  · obtain ⟨names, hlist, -, hnames, -⟩ := K₂.refines.cleared
    exact ⟨names, hlist, fun name => (hnames name).trans (exists_congr fun id => left name id)⟩
  · refine Directory.Keeps.refines ⟨fun name id => ?_, K₂.nodup, K₂.served, K₂.available.trans ?_⟩
    · have none : (name, id) ∉ ({} : Roll).pairs := Finset.notMem_empty _
      rw [K₂.mem, left, K₁.mem]
      by_cases own : ∃ name, id ∈ d.under name
      · -- Others are not concerned with it, so it is where the server has registered it.
        obtain ⟨name', own⟩ := own
        have untouched : ∀ x ∈ others, ¬ x.Concerns id := fun x hx => H x hx name' id own
        rw [Roll.mem_changes untouched, Roll.mem_changes untouched, ← K.mem]
        exact iff_of_false (fun h => h.2 h.1) none
      · have nowhere (name : String) : id ∉ d.under name := fun h => own ⟨name, h⟩
        rw [and_iff_left (nowhere name)]
        exact Roll.mem_changes_congr (iff_of_false (mt (K.mem name id).2 (nowhere name)) none) _
    · exact (available_withdrawals ..).trans (Roll.available_changes_congr available _)

theorem Enrolled.withdrawn (E : s.Enrolled) {others : List DirectoryChange}
    (H : ∀ x ∈ others, ∀ name, ∀ id ∈ s.deployment.directory.under name, ¬ x.Concerns id) :
    Withdrawn s.deployment.directory (s.deployment.directory.changes others)
      ((s.deployment.directory.changes others).changes (withdrawals s.replicas)) others := by
  obtain ⟨R, available, K⟩ := E.kept
  exact withdrawn_of_keeps K available E.under E.named H

/-- From its start to its shutdown a server has one instance for each replica, and then none,
whatever others do with instances of their own in the meantime. -/
theorem start_shutdown (H : start settings fresh calendar = .ok s) :
    Staffed settings.pools s.deployment.directory ∧
      ∀ occasions, (∀ x ∈ Traffic.changesIn occasions, ∀ name,
          ∀ id ∈ s.deployment.directory.under name, ¬ x.Concerns id) →
        Withdrawn s.deployment.directory
          (Traffic.since s occasions).server.deployment.directory
          (Traffic.since s occasions).server.shutdown.deployment.directory
          (Traffic.changesIn occasions) := by
  obtain ⟨E, hr⟩ := start_enrolled H
  refine ⟨E.staffed hr, fun occasions others => ?_⟩
  obtain ⟨hd, hreplicas⟩ := Traffic.directory_foldl_meet { server := s } occasions
  rw [directory_shutdown, Traffic.since, hd, hreplicas]
  exact E.withdrawn others

/-- Another party joins a service, and time passes. -/
def guest : List Traffic.Occasion :=
  [.change (.register "Client 1" ⟨77⟩), .event (.pass 1000)]

/-- Of a service of two pools the other party is all that is left. -/
theorem start_shutdown_guest : ∃ s,
    start Traffic.twoPools Traffic.counted (fun _ => .epoch) = .ok s ∧
      (∀ x ∈ Traffic.changesIn guest, ∀ name, ∀ id ∈ s.deployment.directory.under name,
        ¬ x.Concerns id) ∧
      Staffed Traffic.twoPools.pools s.deployment.directory ∧
      Withdrawn s.deployment.directory (Traffic.since s guest).server.deployment.directory
        (Traffic.since s guest).server.shutdown.deployment.directory
        [.register "Client 1" ⟨77⟩] ∧
      (Traffic.since s guest).server.shutdown.deployment.directory.under "client-1" = [⟨77⟩] := by
  obtain ⟨s, hs, ht⟩ := Traffic.start_of_test Traffic.twoPools (fun s =>
    s.replicas.all (fun r => r.instanceId != ⟨77⟩) &&
      (Traffic.since s guest).server.shutdown.deployment.directory.under "client-1" == [⟨77⟩])
    (by decide +kernel)
  rw [Bool.and_eq_true, List.all_eq_true, beq_iff_eq] at ht
  obtain ⟨others, left⟩ := ht
  have strange : ∀ x ∈ Traffic.changesIn guest, ∀ name, ∀ id ∈ s.deployment.directory.under name,
      ¬ x.Concerns id := by
    intro x hx name id hid
    cases List.mem_singleton.1 hx
    rw [(start_enrolled hs).1.under, idsUnder] at hid
    obtain ⟨r, hr, rfl⟩ := List.mem_map.1 hid
    exact fun h => bne_iff_ne.1 (others r (List.mem_filter.1 hr).1) h.symm
  obtain ⟨staffed, withdrawn⟩ := start_shutdown hs
  exact ⟨s, hs, strange, staffed, withdrawn guest strange, left⟩

end Server

end CallGateway
