import SolveTls.Server.Machine

/-! The handlers leave the listeners alone, and the lifecycle calls leave the clients alone. -/

namespace SolveTls

namespace Server

variable {world next : World} {client call : Nat} {handler : Handler} {sockets : Sockets}
  {answers : Answers} {result : Except Exn Unit}
variable {handlers : List Handler} {change : Handler → Handler}

/-! ## The code of a handler -/

/-- Another handler is not affected by a change to this one. -/
theorem getElem?_modify_other {other : Nat} (distinct : other ≠ client) :
    (handlers.modify client change)[other]? = handlers[other]? := by
  rw [List.getElem?_modify]
  simp [Ne.symm distinct]

/-- The handler that is changed is found changed. -/
theorem getElem?_modify_same (found : handlers[client]? = some handler) :
    (handlers.modify client change)[client]? = some (change handler) := by
  rw [List.getElem?_modify, found]
  simp

/-- A handler that is resumed changes nothing but itself and the report slots. -/
theorem resumeHandler_eq {point : HandlerPoint}
    (resumed : resumeHandler client answers world point result = some next) :
    ∃ change reportClients, next =
      { world with handlers := world.handlers.modify client change, reportClients } := by
  unfold resumeHandler respond recoverFrom sendReport sendReport.buildReport leaveRecovery
    finishClient at resumed
  simp only [World.note, World.goto, World.closeWriter, List.modify_modify_eq] at resumed
  repeat' split at resumed
  all_goals cases resumed
  all_goals exact ⟨_, _, rfl⟩

/-! ## The lifecycle calls -/

/-- The parts of the world that the lifecycle calls do not change. -/
def World.clientele (world : World) : List Nat × List Nat × List Handler :=
  (world.clients, world.reportClients, world.handlers)

theorem clientele_enterStart (http : Bool) :
    (enterStart call http world).clientele = world.clientele := by
  unfold enterStart
  dsimp only
  split <;> rfl

theorem clientele_saveSyn (world : World) :
    (saveSyn call sockets world).clientele = world.clientele := by
  unfold saveSyn
  split <;> rfl

theorem clientele_bindTls (http : Bool) :
    (bindTls call http sockets world).clientele = world.clientele := by
  unfold bindTls
  dsimp only
  split
  · rfl
  · split
    · rfl
    · exact clientele_saveSyn _

theorem clientele_leaveClose (serving : Option Serving) :
    (leaveClose call serving result world).clientele = world.clientele := by
  unfold leaveClose
  split <;> rfl

theorem clientele_enterClose (serving : Option Serving) :
    (enterClose call serving world).clientele = world.clientele := by
  unfold enterClose
  dsimp only
  split
  · exact clientele_leaveClose serving
  · split <;> rfl

theorem clientele_serveForever : (serveForever world).clientele = world.clientele := by
  unfold serveForever
  split
  · rfl
  · split <;> rfl

/-- A lifecycle call that is resumed leaves the clients alone. -/
theorem clientele_resumeCall {point : CallPoint}
    (resumed : resumeCall call sockets world point result = some next) :
    next.clientele = world.clientele := by
  unfold resumeCall at resumed
  split at resumed <;> try split at resumed
  all_goals cases resumed
  all_goals first
    | rfl
    | exact clientele_enterStart _
    | exact clientele_bindTls _
    | exact clientele_saveSyn _
    | exact clientele_enterClose _
    | exact clientele_leaveClose _

end Server

end SolveTls
