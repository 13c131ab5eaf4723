import CallGateway.Deployment

/-!
# What an event does

An event is a step of one gateway or of one worker, with the broker where messages are concerned.
-/

namespace CallGateway

/-- The event is a step of a worker. -/
def Event.byWorker : Event → Bool
  | .take .. | .grant _ | .finish .. => true
  | _ => false

namespace Deployment

/-- An event has happened. -/
inductive Happens (d : Deployment) : Event → Deployment → Prop
  | expire {i k : Nat} {g g' : Gateway} {c : OpenCall} (hg : d.gateways[i]? = some g)
    (hc : g.calls[k]? = some c) (h : g.expire? d.clock c = some g') :
    Happens d (.expire i k) (d.setGateway i g')
  | conclude {i k : Nat} {g g' : Gateway} {c : OpenCall} (hg : d.gateways[i]? = some g)
    (hc : g.calls[k]? = some c) (h : g.conclude? c = some g') :
    Happens d (.conclude i k) (d.setGateway i g')
  | publish {i k : Nat} {g g' : Gateway} {b : Broker} (hg : d.gateways[i]? = some g)
    (h : g.publish? d.broker k = some (g', b)) :
    Happens d (.publish i k) ((d.setGateway i g').withBroker b)
  | listen {i k : Nat} {g g' : Gateway} {b : Broker} {s : Subscription}
    (hg : d.gateways[i]? = some g) (hs : g.listeners[k]? = some s)
    (h : g.listen? d.broker s = some (g', b)) :
    Happens d (.listen i k) ((d.setGateway i g').withBroker b)
  | take {i k : Nat} {w w' : Worker} {b : Broker} {c : Consumer} (hw : d.workers[i]? = some w)
    (hc : w.consumers[k]? = some c) (h : w.take? d.broker c = some (w', b)) :
    Happens d (.take i k) ((d.setWorker i w').withBroker b)
  | grant {i : Nat} {w w' : Worker} (hw : d.workers[i]? = some w)
    (h : w.grant? d.now d.clock = some w') : Happens d (.grant i) (d.setWorker i w')
  | finish {i k : Nat} {w w' : Worker} {b : Broker} (hw : d.workers[i]? = some w)
    (h : w.finish? d.broker d.clock k = some (w', b)) :
    Happens d (.finish i k) ((d.setWorker i w').withBroker b)

variable {d d' : Deployment} {e : Event} {g : Gateway} {w : Worker} {i : Nat}

theorem Happens.of_step? (h : d.step? e = some d') : Happens d e d' := by
  cases e with
  | expire i k =>
    obtain ⟨g, hg, h⟩ := Option.bind_eq_some_iff.1 h
    obtain ⟨c, hc, h⟩ := Option.bind_eq_some_iff.1 h
    obtain ⟨g', hg', h⟩ := Option.bind_eq_some_iff.1 h
    cases h
    exact .expire hg hc hg'
  | conclude i k =>
    obtain ⟨g, hg, h⟩ := Option.bind_eq_some_iff.1 h
    obtain ⟨c, hc, h⟩ := Option.bind_eq_some_iff.1 h
    obtain ⟨g', hg', h⟩ := Option.bind_eq_some_iff.1 h
    cases h
    exact .conclude hg hc hg'
  | publish i k =>
    obtain ⟨g, hg, h⟩ := Option.bind_eq_some_iff.1 h
    obtain ⟨⟨g', b⟩, hg', h⟩ := Option.bind_eq_some_iff.1 h
    cases h
    exact .publish hg hg'
  | listen i k =>
    obtain ⟨g, hg, h⟩ := Option.bind_eq_some_iff.1 h
    obtain ⟨s, hs, h⟩ := Option.bind_eq_some_iff.1 h
    obtain ⟨⟨g', b⟩, hg', h⟩ := Option.bind_eq_some_iff.1 h
    cases h
    exact .listen hg hs hg'
  | take i k =>
    obtain ⟨w, hw, h⟩ := Option.bind_eq_some_iff.1 h
    obtain ⟨c, hc, h⟩ := Option.bind_eq_some_iff.1 h
    obtain ⟨⟨w', b⟩, hw', h⟩ := Option.bind_eq_some_iff.1 h
    cases h
    exact .take hw hc hw'
  | grant i =>
    obtain ⟨w, hw, h⟩ := Option.bind_eq_some_iff.1 h
    obtain ⟨w', hw', h⟩ := Option.bind_eq_some_iff.1 h
    cases h
    exact .grant hw hw'
  | finish i k =>
    obtain ⟨w, hw, h⟩ := Option.bind_eq_some_iff.1 h
    obtain ⟨⟨w', b⟩, hw', h⟩ := Option.bind_eq_some_iff.1 h
    cases h
    exact .finish hw hw'

/-- What is done next is one of the events. -/
theorem of_next? (h : d.next? = some d') : ∃ e, d.step? e = some d' := by
  obtain ⟨e, -, he⟩ := List.exists_of_findSome?_eq_some h
  exact ⟨e, he⟩

/-! ## The directory

Whatever gateways and workers do, they leave the directory as it is. -/

theorem Happens.directory (H : d.Happens e d') : d'.directory = d.directory := by
  cases H <;> rfl

theorem directory_run (fuel : Nat) (d : Deployment) : (run fuel d).directory = d.directory := by
  induction fuel generalizing d with
  | zero => rfl
  | succ fuel ih =>
    rw [run]
    split
    · rfl
    · next h =>
      obtain ⟨e, he⟩ := of_next? h
      exact (ih _).trans (Happens.of_step? he).directory

theorem directory_moveTo (d : Deployment) (time : Nat) :
    (d.moveTo time).directory = d.directory :=
  directory_run ..

theorem directory_awaitCall (i : Nat) (h : Handle) (fuel : Nat) (d : Deployment) :
    (awaitCall i h fuel d).2.directory = d.directory := by
  induction fuel generalizing d with
  | zero => rfl
  | succ fuel ih =>
    rw [awaitCall]
    split
    · rfl
    · exact (ih _).trans (d.directory_moveTo _)
    · rfl

theorem directory_await (d : Deployment) (i : Nat) (h : Handle) :
    (d.await i h).2.directory = d.directory :=
  (directory_awaitCall ..).trans (directory_run ..)

theorem directory_submit {h : Handle} {env : Envelope} (H : d.submit i env = some (.ok (h, d'))) :
    d'.directory = d.directory := by
  obtain ⟨g, -, H⟩ := Option.map_eq_some_iff.1 H
  cases hg : g.submit d.directory d.clock env with
  | error err => rw [hg] at H; cases H
  | ok p => rw [hg] at H; cases H; rfl

theorem directory_cancel (d : Deployment) (i call : Nat) :
    (d.cancel i call).2.directory = d.directory := by
  rw [cancel]
  split <;> rfl

theorem directory_stopWorker (d : Deployment) (i : Nat) :
    (d.stopWorker i).directory = d.directory := by
  rw [stopWorker]
  split <;> rfl

theorem directory_stopListener (d : Deployment) (i : Nat) (s : Subscription) :
    (d.stopListener i s).directory = d.directory := by
  rw [stopListener]
  split <;> rfl

/-! ## One gateway and one worker -/

theorem events_eq (hg : d.gateways = [g]) (hw : d.workers = [w]) :
    d.events = gatewayEvents 0 g ++ workerEvents 0 w := by
  simp [events, hg, hw]

theorem byWorker_of_mem (h : e ∈ gatewayEvents i g) : e.byWorker = false := by
  simp only [gatewayEvents, List.mem_append, List.mem_map] at h
  obtain ((⟨k, -, rfl⟩ | ⟨k, -, rfl⟩) | ⟨k, -, rfl⟩) | ⟨k, -, rfl⟩ := h <;> rfl

theorem of_getElem?_singleton {x y : α} (h : [x][i]? = some y) : i = 0 ∧ y = x := by
  cases i with
  | zero => exact ⟨rfl, (Option.some.inj h).symm⟩
  | succ i => cases h

end Deployment

end CallGateway
