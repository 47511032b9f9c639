import SolveTls.Proofs.Server.Handling

/-! The limits of the server under every interleaving of its tasks. -/

namespace SolveTls

namespace Server

variable {world next : World}

/-- The lifecycle calls change nothing that the limits are about. -/
theorem Admitted.of_clientele (admitted : Admitted world) (same : next.clientele = world.clientele) :
    Admitted next := by
  obtain ⟨clients, rest⟩ := Prod.mk.inj same
  obtain ⟨reports, handlers⟩ := Prod.mk.inj rest
  refine ⟨⟨?_, ?_, ?_, ?_, ?_, ?_⟩, ?_⟩
  · rw [clients]; exact admitted.clients
  · rw [reports]; exact admitted.reports
  · rw [clients]; exact admitted.clientsNodup
  · rw [reports]; exact admitted.reportsNodup
  · rw [clients, handlers]; exact admitted.clientsKnown
  · rw [reports, handlers]; exact admitted.reportsKnown
  · rw [clients, reports, handlers]; exact admitted.handled

/-- The abort of a transport closes its writer, and nothing else. -/
theorem Admitted.abortClients (admitted : Admitted world) (clients : List Nat) :
    Admitted (abortClients clients world) := by
  refine ⟨⟨admitted.clients, admitted.reports, admitted.clientsNodup, admitted.reportsNodup,
    ?_, ?_⟩, ?_⟩
  · intro client member
    rw [Server.abortClients, List.length_mapIdx]
    exact admitted.clientsKnown client member
  · intro client member
    rw [Server.abortClients, List.length_mapIdx]
    exact admitted.reportsKnown client member
  · intro client handler found
    rw [Server.abortClients, List.getElem?_mapIdx, Option.map_eq_some_iff] at found
    obtain ⟨before, here, rfl⟩ := found
    obtain ⟨slot, ran, standing, held, listed, closed⟩ := admitted.handled client before here
    split
    · exact ⟨slot, ran, standing, held, listed, fun _ => rfl⟩
    · exact ⟨slot, ran, standing, held, listed, closed⟩

/-- A shutdown closes writers at most. -/
theorem Admitted.resumeShutdown (admitted : Admitted world) {shutdown : Nat} {point : ShutdownPoint}
    (resumed : resumeShutdown shutdown world point = some next) : Admitted next := by
  cases point with
  | created =>
    simp only [Server.resumeShutdown] at resumed
    split at resumed <;> cases resumed <;> exact admitted.of_clientele rfl
  | waiting servers clients =>
    cases resumed
    exact (admitted.abortClients clients).of_clientele rfl
  | gathering servers clients =>
    simp only [Server.resumeShutdown] at resumed
    split at resumed <;> cases resumed
    exact admitted.of_clientele rfl
  | closing servers clients =>
    cases resumed
    exact admitted.of_clientele rfl
  | finished clients => cases resumed

/-- Every event keeps the limits and the protocol. -/
theorem Admitted.step {event : Event} (admitted : Admitted world)
    (stepped : step world event = some next) : Admitted next := by
  cases event with
  | accept redirect family =>
    cases stepped
    exact admitted.acceptClient redirect family
  | handler client result answers =>
    obtain ⟨handler, found, resumed⟩ := Option.bind_eq_some_iff.mp stepped
    exact admitted.resumeHandler found resumed
  | callback client =>
    obtain ⟨handler, found, called⟩ := Option.bind_eq_some_iff.mp stepped
    split at called
    next ready =>
      cases called
      exact admitted.clientDone found ready.1 ready.2
    next => cases called
  | start http =>
    cases stepped
    exact admitted.of_clientele rfl
  | close =>
    cases stepped
    exact admitted.of_clientele rfl
  | serveForever =>
    cases stepped
    exact admitted.of_clientele clientele_serveForever
  | call call result sockets =>
    obtain ⟨point, found, resumed⟩ := Option.bind_eq_some_iff.mp stepped
    exact admitted.of_clientele (clientele_resumeCall resumed)
  | shutdown shutdown =>
    obtain ⟨task, found, resumed⟩ := Option.bind_eq_some_iff.mp stepped
    exact admitted.resumeShutdown resumed

/-- The limits and the protocol hold in every state of every run. -/
theorem admitted_of_reachable (reached : machine.Reachable world) : Admitted world := by
  apply reached.invariant
  · -- A new server has no client.
    refine ⟨⟨Nat.zero_le _, Nat.zero_le _, List.nodup_nil, List.nodup_nil, ?_, ?_⟩, ?_⟩
    · intro client member
      cases member
    · intro client member
      cases member
    · intro client handler found
      cases found
  · intro state event next admitted stepped
    exact admitted.step stepped

/-- A handler that holds a slot is not through, and one that has given it back is. -/
theorem Standing.done {handler : Handler} {slot : Slot} (standing : Standing handler.point slot) :
    (slot.Holds → handler.done = false) ∧
      (slot = .released ∨ slot = .gone → handler.done = true) := by
  unfold Handler.done Slot.Holds
  cases await : handler.point <;> rw [await] at standing <;> simp only [Standing] at standing
  case finished outcome => rcases standing with rfl | rfl | rfl | rfl <;> simp
  case closing code report raised => rcases standing with rfl | ⟨rfl | rfl, _⟩ <;> simp
  all_goals
    subst standing
    simp

/-- The limits hold in every state, and each client takes and gives back its slots in order. -/
theorem admission_limits (reached : machine.Reachable world) :
    world.clients.length ≤ maxClients ∧ world.reportClients.length ≤ maxReports ∧
    world.clients.Nodup ∧ world.reportClients.Nodup ∧
    (∀ client, client ∈ world.clients ∨ client ∈ world.reportClients →
      ∃ handler, world.handlers[client]? = some handler) ∧
    ∀ client handler, world.handlers[client]? = some handler →
      (client ∈ world.reportClients → handler.done = false) ∧
      (.built ∈ handler.trace → handler.done = false → client ∈ world.reportClients) ∧
      (∀ before stage after, handler.trace = before ++ stage :: after →
        stage = .built ∨ stage = .saving ∨ stage = .saved →
        .reserved ∈ before ∧ .released ∉ before) ∧
      (.refused ∈ handler.trace → .built ∉ handler.trace ∧ .saving ∉ handler.trace) ∧
      handler.trace.count .reserved ≤ 1 ∧
      handler.trace.count .released ≤ handler.trace.count .reserved ∧
      (handler.done = true → handler.trace.count .released = handler.trace.count .reserved) ∧
      (client ∈ world.clients ↔ .removed ∉ handler.trace) ∧
      handler.trace.count .removed ≤ 1 ∧
      (.removed ∈ handler.trace → handler.done = true ∧ handler.writerClosing = true) := by
  have admitted := admitted_of_reachable reached
  refine ⟨admitted.clients, admitted.reports, admitted.clientsNodup, admitted.reportsNodup, ?_, ?_⟩
  · intro client member
    have known : client < world.handlers.length :=
      member.elim (admitted.clientsKnown client) (admitted.reportsKnown client)
    exact ⟨_, List.getElem?_eq_getElem known⟩
  intro client handler found
  obtain ⟨slot, ran, standing, held, listed, closed⟩ := admitted.handled client handler found
  obtain ⟨once, back, left, holding, gone⟩ := counts_of_run ran
  obtain ⟨live, through⟩ := standing.done
  -- A slot that was taken and is not held was given back.
  have released : handler.done = true →
      handler.trace.count .released = handler.trace.count .reserved := by
    intro ended
    have free : ¬ slot.Holds := by
      intro holds
      rw [live holds] at ended
      cases ended
    rw [holding] at free
    omega
  refine ⟨fun member => live (held.mp member), ?_, ?_, refused_of_run ran, once, back, released,
    ?_, left, ?_⟩
  · intro built unfinished
    rw [held]
    have tally := tally_of_run ran
    cases slot with
    | fresh => simp_all [Tally]
    | refused => simp_all [Tally]
    | held | saving | saved => simp [Slot.Holds]
    | released | gone =>
      -- The slot is given back at the end of the handler only.
      rw [through (by simp)] at unfinished
      cases unfinished
  · intro before stage after split reporting
    rw [split] at ran
    exact reserved_of_split ran reporting
  · rw [listed, ← gone]
  · intro removed
    have last := gone.mpr removed
    exact ⟨through (.inr last), closed last⟩

/-- A client whose report is sent, and whose task is cancelled while its connection closes. -/
def cancelledEvents : List Event :=
  [.accept false 2, .handler 0 (.ok ()) {}, .handler 0 (.ok ()) {}, .handler 0 (.ok ()) {},
    .handler 0 (.ok ()) {}, .handler 0 (.error .cancelled) {}, .callback 0]

theorem admission_limits_cancelled :
    ∃ world handler, machine.Reachable world ∧ world.handlers[0]? = some handler ∧
      handler.trace = [.reserved, .built, .released, .removed] ∧ world.clients = [] ∧
      world.reportClients = [] ∧ handler.done = true ∧ handler.writerClosing = true := by
  refine ⟨_, _, ⟨cancelledEvents, rfl⟩, rfl, rfl, rfl, rfl, ?_⟩
  have limits := (admission_limits ⟨cancelledEvents, rfl⟩).2.2.2.2.2 0 _ rfl
  exact limits.2.2.2.2.2.2.2.2.2 (by decide)

end Server

end SolveTls
