import Mathlib.Data.List.Nodup
import SolveTls.Proofs.Server.Frames
import SolveTls.Proofs.Server.Slots

/-! The clients of the server keep to the slot protocol, and so to the limits of the server. -/

namespace SolveTls

open List

namespace Server

variable {world next : World} {client : Nat} {slot : Slot} {handler : Handler}
  {point : HandlerPoint} {stage : Stage}
variable {after : Slot} {answers : Answers} {result : Except Exn Unit}

/-- What the await of a handler says about the slots of its client. -/
def Standing : HandlerPoint → Slot → Prop
  | .created _, slot | .handshaking, slot | .requesting, slot | .replyingEmpty, slot
  | .redirecting _, slot | .redirectClosing _, slot => slot = .fresh
  | .replyingBusy _, slot => slot = .refused
  | .replying _ _, slot => slot = .held
  | .closing _ reportToSave _, slot =>
    slot = .held ∨ (slot = .fresh ∨ slot = .refused) ∧ reportToSave = none
  | .saving _, slot => slot = .saving
  | .finished _, slot => slot = .fresh ∨ slot = .refused ∨ slot = .released ∨ slot = .gone

/-- A handler keeps to the protocol, and the two collections show where it stands. -/
def Handled (held listed : Prop) (handler : Handler) : Prop :=
  ∃ slot, slotProtocol.run .fresh handler.trace = some slot ∧ Standing handler.point slot ∧
    (held ↔ slot.Holds) ∧ (listed ↔ slot ≠ .gone) ∧ (slot = .gone → handler.writerClosing = true)

/-- The collections are sets of handlers within their limits. -/
structure Bounded (world : World) : Prop where
  clients : world.clients.length ≤ maxClients
  reports : world.reportClients.length ≤ maxReports
  clientsNodup : world.clients.Nodup
  reportsNodup : world.reportClients.Nodup
  clientsKnown : ∀ client ∈ world.clients, client < world.handlers.length
  reportsKnown : ∀ client ∈ world.reportClients, client < world.handlers.length

/-- The limits hold and every handler keeps to the protocol. -/
structure Admitted (world : World) : Prop extends Bounded world where
  handled : ∀ client handler, world.handlers[client]? = some handler →
    Handled (client ∈ world.reportClients) (client ∈ world.clients) handler

/-- The same while the code of one handler runs, whose own slots are in this state by now. -/
structure Running (client : Nat) (slot : Slot) (world : World) : Prop extends Bounded world where
  present : ∃ handler, world.handlers[client]? = some handler ∧
    slotProtocol.run .fresh handler.trace = some slot
  held : client ∈ world.reportClients ↔ slot.Holds
  listed : client ∈ world.clients
  others : ∀ other handler, other ≠ client → world.handlers[other]? = some handler →
    Handled (other ∈ world.reportClients) (other ∈ world.clients) handler

/-! ## What the code of a handler does to the collections -/

section Running

variable (running : Running client slot world)

include running

/-- A handler changes its slots and keeps the limit of the reports. -/
theorem Running.change {change : Handler → Handler} {reports : List Nat}
    (moves : ∀ handler : Handler, slotProtocol.run .fresh handler.trace = some slot →
      slotProtocol.run .fresh (change handler).trace = some after)
    (held : client ∈ reports ↔ after.Holds)
    (others : ∀ other, other ≠ client → (other ∈ reports ↔ other ∈ world.reportClients))
    (limit : reports.length ≤ maxReports) (nodup : reports.Nodup) :
    Running client after
      { world with reportClients := reports, handlers := world.handlers.modify client change } := by
  obtain ⟨handler, found, ran⟩ := running.present
  have within : client < world.handlers.length := (List.getElem?_eq_some_iff.mp found).1
  refine ⟨⟨running.clients, limit, running.clientsNodup, nodup, ?_, ?_⟩, ?_, held, running.listed, ?_⟩
  · intro other member
    rw [length_modify]
    exact running.clientsKnown other member
  · intro other member
    rw [length_modify]
    -- Only this client may have been added.
    by_cases same : other = client
    · rw [same]
      exact within
    · exact running.reportsKnown other ((others other same).mp member)
  · exact ⟨change handler, getElem?_modify_same found, moves handler ran⟩
  · intro other handler distinct seen
    rw [getElem?_modify_other distinct] at seen
    have handled := running.others other handler distinct seen
    rw [← others other distinct] at handled
    exact handled

/-- A stage that leaves the collections alone is recorded. -/
theorem Running.note (allowed : slotProtocol.step slot stage = some after)
    (same : slot.Holds ↔ after.Holds) : Running client after (world.note client stage) := by
  refine running.change ?_ (running.held.trans same) (fun _ _ => .rfl) running.reports
    running.reportsNodup
  intro handler ran
  exact Machine.run_concat_eq_some.mpr ⟨slot, ran, allowed⟩

/-- The writer may be closed at any time. -/
theorem Running.closeWriter : Running client slot (world.closeWriter client) := by
  refine running.change ?_ running.held (fun _ _ => .rfl) running.reports running.reportsNodup
  intro handler ran
  exact ran

omit running in
/-- A slot is reserved while one is free. -/
theorem Running.reserve (running : Running client .fresh world)
    (free : world.reportClients.length < maxReports) :
    Running client .held
      ({ world with reportClients := world.reportClients ++ [client] }.note client .reserved) := by
  have absent : client ∉ world.reportClients := by
    rw [running.held]
    simp [Slot.Holds]
  refine running.change ?_ ?_ ?_ ?_ ?_
  · intro handler ran
    exact Machine.run_concat_eq_some.mpr ⟨.fresh, ran, rfl⟩
  · simp [Slot.Holds]
  · intro other distinct
    simp [distinct]
  · rw [length_append, length_singleton]
    omega
  · rw [nodup_append]
    refine ⟨running.reportsNodup, nodup_singleton client, ?_⟩
    intro other member added only same
    rw [same, mem_singleton.mp only] at member
    exact absent member

/-- A slot that is held is given back. -/
theorem Running.release (allowed : slotProtocol.step slot .released = some .released) :
    Running client .released
      ({ world with reportClients := world.reportClients.erase client }.note client .released) := by
  refine running.change ?_ ?_ ?_ ?_ ?_
  · intro handler ran
    exact Machine.run_concat_eq_some.mpr ⟨slot, ran, allowed⟩
  · simp [running.reportsNodup.mem_erase_iff, Slot.Holds]
  · intro other distinct
    exact mem_erase_of_ne distinct
  · have shorter := length_erase_le (a := client) (l := world.reportClients)
    exact le_trans shorter running.reports
  · exact running.reportsNodup.erase client

/-- A handler that reaches an await in accordance with its slots is handled. -/
theorem Running.goto (standing : Standing point slot)
    (there : slot ≠ .gone) : Admitted (world.goto client point) := by
  obtain ⟨handler, found, ran⟩ := running.present
  refine ⟨⟨running.clients, running.reports, running.clientsNodup, running.reportsNodup, ?_, ?_⟩, ?_⟩
  · intro other member
    rw [World.goto, length_modify]
    exact running.clientsKnown other member
  · intro other member
    rw [World.goto, length_modify]
    exact running.reportsKnown other member
  · intro other seen here
    by_cases same : other = client
    · subst same
      rw [World.goto, getElem?_modify_same found] at here
      obtain rfl := Option.some.inj here
      exact ⟨slot, ran, standing, running.held, ⟨fun _ => there, fun _ => running.listed⟩,
        fun gone => absurd gone there⟩
    · rw [World.goto, getElem?_modify_other same] at here
      exact running.others other seen same here

omit running in
/-- The code of a handler starts where its await has left it. -/
theorem Admitted.runs (admitted : Admitted world) (found : world.handlers[client]? = some handler)
    (live : handler.done = false) :
    ∃ slot, Standing handler.point slot ∧ slot ≠ .gone ∧ Running client slot world := by
  obtain ⟨slot, ran, standing, held, listed, closed⟩ := admitted.handled client handler found
  have there : slot ≠ .gone := by
    intro gone
    rw [gone] at standing
    unfold Handler.done at live
    cases await : handler.point <;> simp_all [Standing]
  refine ⟨slot, standing, there, admitted.toBounded, ⟨handler, found, ran⟩, held, listed.mpr there, ?_⟩
  intro other seen _ here
  exact admitted.handled other seen here

/-! ## From one await of a handler to the next -/

/-- The end of a handler gives back the slot that it has, if any. -/
theorem Running.finishClient
    (ready : slot = .fresh ∨ slot = .refused ∨ slot = .held ∨ slot = .saved)
    (outcome : Except Exn Unit) : Admitted (finishClient client outcome world) := by
  unfold Server.finishClient
  by_cases held : client ∈ world.reportClients
  · rw [if_pos held]
    have holds := running.held.mp held
    -- Of the four states, two have a slot, and the protocol lets both give it back.
    have allowed : slotProtocol.step slot .released = some .released := by
      rcases ready with rfl | rfl | rfl | rfl
      · simp [Slot.Holds] at holds
      · simp [Slot.Holds] at holds
      · rfl
      · rfl
    exact (running.release allowed).goto (by simp [Standing]) (by simp)
  · rw [if_neg held]
    have free : ¬ slot.Holds := fun holds => held (running.held.mpr holds)
    rcases ready with rfl | rfl | rfl | rfl
    · exact running.goto (by simp [Standing]) (by simp)
    · exact running.goto (by simp [Standing]) (by simp)
    · exact absurd (.inl rfl) free
    · exact absurd (.inr (.inr rfl)) free

/-- The client is closed next, with nothing to store. -/
theorem Running.closing (ready : slot = .fresh ∨ slot = .refused ∨ slot = .held) (code : Nat)
    (raised : Option Exn) : Admitted (world.goto client (.closing code none raised)) := by
  rcases ready with rfl | rfl | rfl
  all_goals exact running.goto (by simp [Standing]) (by simp)

/-- A report is sent, refused, or fails on the way, and the slot is held in all but the second case. -/
theorem Running.sendReport (ready : slot = .fresh ∨ slot = .held) {status : Nat}
    {error : Option String} {recovering : Bool} {build : Except Exn Unit}
    {except : Exn → World → World}
    (recovers : ∀ raised world, Running client .held world → Admitted (except raised world)) :
    Admitted (sendReport client status error recovering build except world) := by
  -- With the slot held, the report is built.
  have builds : ∀ world, Running client .held world →
      Admitted (sendReport.buildReport client status error recovering build except world) := by
    intro world running
    have built : Running client .held (world.note client .built) := running.note rfl .rfl
    unfold sendReport.buildReport
    cases build with
    | error raised => exact recovers raised _ built
    | ok done => exact built.goto rfl (by simp)
  unfold Server.sendReport
  by_cases absent : client ∉ world.reportClients
  · rw [if_pos absent]
    obtain rfl : slot = .fresh := by
      rcases ready with fresh | held
      · exact fresh
      · exact absurd (running.held.mpr (held ▸ .inl rfl)) absent
    by_cases full : world.reportClients.length ≥ maxReports
    · rw [if_pos full]
      have refused : Running client .refused (world.note client .refused) :=
        running.note rfl (by simp [Slot.Holds])
      exact refused.goto rfl (by simp)
    · rw [if_neg full]
      exact builds _ (running.reserve (Nat.lt_of_not_ge full))
  · rw [if_neg absent]
    obtain rfl : slot = .held := by
      rcases ready with rfl | held
      · have holds := running.held.mp (not_not.mp absent)
        simp [Slot.Holds] at holds
      · exact held
    exact builds world running

/-- An error inside the handler of an `HTTP1Error` leads to the close. -/
theorem Running.leaveRecovery (ready : slot = .fresh ∨ slot = .refused ∨ slot = .held)
    (raised : Exn) : Admitted (leaveRecovery client raised world) := by
  unfold Server.leaveRecovery
  split <;> exact running.closing ready _ _

/-- Any error leads to the close, and an `HTTP1Error` to a report first. -/
theorem Running.recoverFrom (ready : slot = .fresh ∨ slot = .refused ∨ slot = .held) {raised : Exn}
    (other : slot = .refused → ∀ message statusCode, raised ≠ .http1 message statusCode)
    (rebuild : Except Exn Unit) : Admitted (recoverFrom client rebuild raised world) := by
  unfold Server.recoverFrom
  split
  next message statusCode =>
    refine running.sendReport ?_ ?_
    · rcases ready with fresh | refused | held
      · exact .inl fresh
      · exact absurd rfl (other refused message statusCode)
      · exact .inr held
    · intro raised world running
      exact running.leaveRecovery (.inr (.inr rfl)) raised
  next => exact running.closing ready _ _
  next => exact running.closing ready _ _

omit running in
/-- The response of a fresh client. -/
theorem Running.respond (running : Running client .fresh world) (answers : Answers) :
    Admitted (respond client answers world) := by
  unfold Server.respond
  cases answers.policy with
  | error raised => exact running.recoverFrom (.inl rfl) (fun refused => by cases refused) _
  | ok decision =>
    obtain ⟨status, error⟩ := decision
    by_cases empty : status = 204
    · simp only [if_pos empty]
      exact running.goto rfl (by simp)
    · simp only [if_neg empty]
      refine running.sendReport (.inl rfl) ?_
      intro raised world running
      exact running.recoverFrom (.inr (.inr rfl)) (fun refused => by cases refused) _

omit running in
/-- A task runs for the first time, or is cancelled before it has. -/
theorem Running.resumeCreated (running : Running client .fresh world) {httpsPort : Option Nat}
    (resumed : resumeHandler client answers world (.created httpsPort) result = some next) :
    Admitted next := by
  cases result with
  | error raised =>
    cases raised <;> cases resumed
    exact running.goto (.inl rfl) (by simp)
  | ok done =>
    cases httpsPort with
    | some port =>
      obtain rfl := Option.some.inj resumed
      exact running.goto rfl (by simp)
    | none =>
      simp only [resumeHandler] at resumed
      cases constructed : answers.construct <;> rw [constructed] at resumed <;>
        obtain rfl := Option.some.inj resumed
      · exact running.goto (.inl rfl) (by simp)
      · exact running.goto rfl (by simp)

/-- A response was sent, or could not be. -/
theorem Running.resumeReply
    (replying : point = .replyingEmpty ∧ slot = .fresh ∨
      (∃ recovering, point = .replyingBusy recovering ∧ slot = .refused) ∨
      ∃ report recovering, point = .replying report recovering ∧ slot = .held)
    (resumed : resumeHandler client answers world point result = some next) : Admitted next := by
  have ready : slot = .fresh ∨ slot = .refused ∨ slot = .held := by
    rcases replying with ⟨_, fresh⟩ | ⟨_, _, refused⟩ | ⟨_, _, _, held⟩
    · exact .inl fresh
    · exact .inr (.inl refused)
    · exact .inr (.inr held)
  cases result with
  | ok done =>
    rcases replying with ⟨rfl, rfl⟩ | ⟨recovering, rfl, rfl⟩ | ⟨report, recovering, rfl, rfl⟩
    · obtain rfl := Option.some.inj resumed
      exact running.closing ready _ _
    · obtain rfl := Option.some.inj resumed
      exact running.closing ready _ _
    · -- The report that was sent is the one to store.
      obtain rfl := Option.some.inj resumed
      exact running.goto (.inl rfl) (by simp)
  | error raised =>
    -- A response raises no `HTTP1Error`, so the report is not attempted again.
    have other : ∀ message statusCode, raised ≠ .http1 message statusCode := by
      intro message statusCode same
      subst same
      rcases replying with ⟨rfl, _⟩ | ⟨_, rfl, _⟩ | ⟨_, _, rfl, _⟩ <;> cases resumed
    have leaves : next = Server.recoverFrom client answers.rebuild raised world ∨
        next = Server.leaveRecovery client raised world := by
      rcases replying with ⟨rfl, _⟩ | ⟨recovering, rfl, _⟩ | ⟨_, recovering, rfl, _⟩
      · cases raised <;> first | exact .inl (Option.some.inj resumed).symm | cases resumed
      all_goals
        cases recovering <;> cases raised <;> first
          | exact .inl (Option.some.inj resumed).symm
          | exact .inr (Option.some.inj resumed).symm
          | cases resumed
    rcases leaves with rfl | rfl
    · exact running.recoverFrom ready (fun _ => other) _
    · exact running.leaveRecovery ready raised

/-- The connection is closed, and a report that was sent is stored. -/
theorem Running.resumeClosing {code : Nat} {reportToSave : Option Report} {raised : Option Exn}
    (standing : slot = .held ∨ (slot = .fresh ∨ slot = .refused) ∧ reportToSave = none)
    (resumed : resumeHandler client answers world (.closing code reportToSave raised) result =
      some next) : Admitted next := by
  have closed := running.closeWriter
  have ready : slot = .fresh ∨ slot = .refused ∨ slot = .held ∨ slot = .saved := by
    rcases standing with held | ⟨fresh | refused, _⟩
    · exact .inr (.inr (.inl held))
    · exact .inl fresh
    · exact .inr (.inl refused)
  cases result with
  | error replaced =>
    obtain rfl := Option.some.inj resumed
    exact closed.finishClient ready _
  | ok done =>
    cases raised with
    | some raised =>
      obtain rfl := Option.some.inj resumed
      exact closed.finishClient ready _
    | none =>
      cases reportToSave with
      | none =>
        obtain rfl := Option.some.inj resumed
        exact closed.finishClient ready _
      | some report =>
        obtain rfl := Option.some.inj resumed
        -- Only a client with a slot has a report to store.
        obtain rfl : slot = .held := by simpa using standing
        have saving : Running client .saving ((world.closeWriter client).note client .saving) :=
          closed.note rfl (by simp [Slot.Holds])
        exact saving.goto rfl (by simp)

end Running

/-- A handler keeps the limits and the protocol from each of its awaits to the next. -/
theorem Admitted.resumeHandler (admitted : Admitted world)
    (found : world.handlers[client]? = some handler)
    (resumed : resumeHandler client answers world handler.point result = some next) :
    Admitted next := by
  by_cases ended : handler.done = true
  · -- A finished handler is not resumed.
    unfold Handler.done at ended
    split at ended
    next outcome await => rw [await] at resumed; cases resumed
    next => cases ended
  obtain ⟨slot, standing, there, running⟩ := admitted.runs found (by simpa using ended)
  cases await : handler.point <;> rw [await] at standing resumed <;>
    simp only [Standing] at standing
  case created httpsPort =>
    subst standing
    exact running.resumeCreated resumed
  case handshaking | requesting =>
    subst standing
    cases result with
    | ok done =>
      obtain rfl := Option.some.inj resumed
      first | exact running.goto rfl there | exact running.respond answers
    | error raised =>
      obtain rfl := Option.some.inj resumed
      exact running.recoverFrom (.inl rfl) (fun refused => by cases refused) _
  case replyingEmpty => exact running.resumeReply (.inl ⟨rfl, standing⟩) resumed
  case replyingBusy recovering =>
    exact running.resumeReply (.inr (.inl ⟨recovering, rfl, standing⟩)) resumed
  case replying report recovering =>
    exact running.resumeReply (.inr (.inr ⟨report, recovering, rfl, standing⟩)) resumed
  case closing code reportToSave raised => exact running.resumeClosing standing resumed
  case saving report =>
    subst standing
    obtain rfl := Option.some.inj resumed
    have saved : Running client .saved (world.note client .saved) :=
      running.note rfl (by simp [Slot.Holds])
    exact saved.finishClient (.inr (.inr (.inr rfl))) _
  case redirecting httpsPort =>
    subst standing
    obtain rfl := Option.some.inj resumed
    exact running.closeWriter.goto rfl there
  case redirectClosing outcome =>
    subst standing
    have finishes : ∃ outcome, next = world.goto client (.finished outcome) := by
      cases result with
      | ok done => exact ⟨outcome, (Option.some.inj resumed).symm⟩
      | error raised => cases raised <;> exact ⟨_, (Option.some.inj resumed).symm⟩
    obtain ⟨outcome, rfl⟩ := finishes
    exact running.goto (.inl rfl) there
  case finished outcome => cases resumed

/-! ## What else happens to the clients -/

/-- A client is admitted only while there is room for one more. -/
theorem Admitted.acceptClient (admitted : Admitted world) (redirect : Bool) (family : Nat) :
    Admitted (acceptClient redirect family world) := by
  unfold Server.acceptClient
  by_cases closing : world.closing = true
  · rw [if_pos closing]
    exact admitted
  rw [if_neg closing]
  by_cases full : world.clients.length ≥ maxClients
  · rw [if_pos full]
    exact admitted
  rw [if_neg full]
  have admits : ∀ httpsPort, Admitted (acceptClient.enroll world httpsPort) := by
    intro httpsPort
    -- The new handler has a number that neither collection knows.
    have unlisted : world.handlers.length ∉ world.clients := by
      intro member
      exact Nat.lt_irrefl _ (admitted.clientsKnown _ member)
    have unreported : world.handlers.length ∉ world.reportClients := by
      intro member
      exact Nat.lt_irrefl _ (admitted.reportsKnown _ member)
    refine ⟨⟨?_, admitted.reports, ?_, admitted.reportsNodup, ?_, ?_⟩, ?_⟩
    · simp only [acceptClient.enroll, length_append, length_singleton]
      omega
    · simp only [acceptClient.enroll, nodup_append]
      refine ⟨admitted.clientsNodup, nodup_singleton _, ?_⟩
      intro other member added only same
      rw [same, mem_singleton.mp only] at member
      exact unlisted member
    · intro other member
      simp only [acceptClient.enroll, mem_append, mem_singleton, length_append,
        length_singleton] at member ⊢
      rcases member with member | rfl
      · have known := admitted.clientsKnown other member
        omega
      · omega
    · intro other member
      simp only [acceptClient.enroll, length_append, length_singleton]
      have known := admitted.reportsKnown other member
      omega
    · intro other handler here
      simp only [acceptClient.enroll] at here ⊢
      by_cases old : other < world.handlers.length
      · rw [List.getElem?_append_left old] at here
        have distinct : other ≠ world.handlers.length := by omega
        have handled := admitted.handled other handler here
        simpa [distinct] using handled
      · -- Past the old handlers there is only the new one.
        have last : other = world.handlers.length := by
          have within := (List.getElem?_eq_some_iff.mp here).1
          simp only [length_append, length_singleton] at within
          omega
        subst last
        rw [List.getElem?_concat_length] at here
        obtain rfl := Option.some.inj here
        refine ⟨.fresh, rfl, rfl, ?_, ?_, ?_⟩
        · simp [unreported, Slot.Holds]
        · simp
        · intro gone
          cases gone
  split
  · exact admitted
  · exact admits _
  · exact admits _

/-- The callback of a finished task takes its client out and closes the writer. -/
theorem Admitted.clientDone (admitted : Admitted world)
    (found : world.handlers[client]? = some handler) (ended : handler.done = true)
    (first : .removed ∉ handler.trace) : Admitted (clientDone client world) := by
  obtain ⟨slot, ran, standing, held, listed, closed⟩ := admitted.handled client handler found
  have finished : slot = .fresh ∨ slot = .refused ∨ slot = .released ∨ slot = .gone := by
    unfold Handler.done at ended
    cases await : handler.point <;> rw [await] at ended standing
    case finished outcome => exact standing
    all_goals cases ended
  have there : slot ≠ .gone := by
    intro gone
    exact first ((counts_of_run ran).2.2.2.2.mp gone)
  have unheld : client ∉ world.reportClients := by
    rw [held]
    rcases finished with rfl | rfl | rfl | rfl <;> simp [Slot.Holds]
  have leaves : slotProtocol.step slot .removed = some .gone := by
    rcases finished with rfl | rfl | rfl | gone
    · rfl
    · rfl
    · rfl
    · exact absurd gone there
  refine ⟨⟨?_, admitted.reports, admitted.clientsNodup.erase client, admitted.reportsNodup, ?_, ?_⟩, ?_⟩
  · exact le_trans (length_erase_le ..) admitted.clients
  · intro other member
    simp only [Server.clientDone, World.note, World.closeWriter, length_modify] at member ⊢
    exact admitted.clientsKnown other (mem_of_mem_erase member)
  · intro other member
    simp only [Server.clientDone, World.note, World.closeWriter, length_modify] at member ⊢
    exact admitted.reportsKnown other member
  · intro other seen here
    simp only [Server.clientDone, World.note, World.closeWriter] at here ⊢
    by_cases same : other = client
    · subst same
      rw [getElem?_modify_same (getElem?_modify_same found)] at here
      obtain rfl := Option.some.inj here
      refine ⟨.gone, Machine.run_concat_eq_some.mpr ⟨slot, ran, leaves⟩, ?_, ?_, ?_, fun _ => rfl⟩
      · unfold Handler.done at ended
        cases await : handler.point <;> rw [await] at ended
        case finished outcome => simp [Standing]
        all_goals cases ended
      · simp [unheld, Slot.Holds]
      · simp [admitted.clientsNodup.mem_erase_iff]
    · rw [getElem?_modify_other same, getElem?_modify_other same] at here
      have handled := admitted.handled other seen here
      simpa [mem_erase_of_ne same] using handled

end Server

end SolveTls
