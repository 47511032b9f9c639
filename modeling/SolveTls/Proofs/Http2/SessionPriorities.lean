import SolveTls.Proofs.Http2.SessionDealing
import SolveTls.Proofs.Http2.SessionGrammar

/-! Idle streams with a priority and open streams share one limit. -/

namespace SolveTls.HTTP2Session

open Fallible H2 List Reference

variable {κ δ α : Type} {packages : Packages κ δ} {opened : κ → List Nat} {closed : κ → Nat → Bool}
variable {before after : HTTP2Session κ δ} {raised : Exn} {fresh streamId : Nat} {wire : Bytes}
  {headers : Option (List Field)} {ended : Bool} {streams : List Nat}

/-! ### Steps that open no stream -/

/-- The idle streams are the same, and no stream was opened. -/
structure Sustains (packages : Packages κ δ) (opened : κ → List Nat) (closed : κ → Nat → Bool)
    (before after : HTTP2Session κ δ) : Prop where
  idle : after.prioritizedIdleStreams = before.prioritizedIdleStreams
  holds : Holds packages.h2 opened closed before.connection.core after.connection.core

/-- Nothing happens to a library that is left alone. -/
theorem holds_refl (core : κ) : Holds packages.h2 opened closed core core := ⟨rfl, fun _ => id, rfl⟩

/-- Such steps may follow one another. -/
theorem sustains : Progress (Sustains packages opened closed) where
  refl state := ⟨rfl, holds_refl _⟩
  trans first second := by
    -- Streams that were closed first stay closed afterwards.
    refine ⟨second.idle.trans first.idle, second.holds.opened.trans first.holds.opened, ?_,
      second.holds.limit.trans first.holds.limit⟩
    intro streamId shut
    exact second.holds.closed _ (first.holds.closed _ shut)

/-- Bookkeeping that concerns neither the library nor the idle streams. -/
theorem sustains_notes (core : after.connection.core = before.connection.core)
    (idle : after.prioritizedIdleStreams = before.prioritizedIdleStreams) :
    Sustains packages opened closed before after :=
  ⟨idle, by rw [core]; exact holds_refl _⟩

/-- No call of the session opens a stream. -/
theorem sustains_callH2 (inbound : packages.h2.Inbound opened closed) (outcall : Outcall) :
    Returning (Sustains packages opened closed) (callH2 packages outcall.method) := by
  intro before value after ran
  obtain ⟨core, queued, decoder, encoder, calls, law, shape⟩ :=
    callH2_ends outcall.method before (inbound.calls outcall before.connection.core)
  rw [ran] at law shape
  -- The call returned, so its law applies.
  have same : after.connection.core = core :=
    (congrArg (fun session => session.connection.core) shape :)
  refine ⟨(congrArg HTTP2Session.prioritizedIdleStreams shape :), ?_⟩
  rw [same]
  exact law rfl

/-- Nor does sending. -/
theorem sustains_flush : Returning (Sustains packages opened closed) (flush : SessionM κ δ Unit) := by
  intro before value after ran
  obtain ⟨transport, shape⟩ := flush_shape before
  rw [ran] at shape
  obtain rfl : after = _ := shape
  exact sustains_notes rfl rfl

/-- Nor does a pause. -/
theorem sustains_pause : Returning (Sustains packages opened closed) (pause : SessionM κ δ Unit) := by
  intro before value after ran
  simp only [pause] at ran
  split at ran
  · obtain ⟨-, rfl⟩ := Prod.mk.inj ran
    exact sustains_notes rfl rfl
  · cases ran

section Inbound

variable (inbound : packages.h2.Inbound opened closed)

include inbound

/-- Octets that the law lets open no stream. -/
theorem sustains_receiveData {wire : Bytes}
    (quiet : wire = http2Preface ∨ IsWireFrame wire ∧ (headerOf wire).kind = some .settings) :
    Returning (Sustains packages opened closed)
      (onConnection (H2Adapter.receiveData packages wire)) := by
  intro before value after ran
  obtain ⟨result, core, queued, decoder, encoder, calls, law, shape⟩ :=
    receiveData_ends before (inbound.settles before.connection.core wire quiet)
  rw [ran] at shape
  obtain ⟨returned, rfl⟩ := Prod.mk.inj shape
  -- Events were returned, so the call did not raise.
  cases result with
  | error raised => cases returned
  | ok events => exact ⟨rfl, law ⟨events, rfl⟩⟩

/-- Nor do settings that are handed over. -/
theorem sustains_receiveSettings (items : Dict Nat Nat) :
    Returning (Sustains packages opened closed) (receiveSettings packages items) := by
  intro before value after ran
  simp only [receiveSettings, bind_eq_ok, fromExcept_eq_ok, modify_eq_ok] at ran
  obtain ⟨wire, _, ⟨built, rfl⟩, _, _, rfl, events, taken, ran₁, ran₂⟩ := ran
  obtain ⟨-, rfl⟩ := pure_eq_ok.mp ran₂
  obtain ⟨wired, framed, -⟩ := buildSettingsFrame_ok (liftBuilder_eq_ok.mp built)
  have kind : (headerOf wire).kind = some .settings := by
    rw [FrameHeader.kind, wired, headerOf_frameBytes]
    rfl
  have received := sustains_receiveData inbound (.inr ⟨framed, kind⟩) ran₁
  exact ⟨received.idle, received.holds⟩

/-! ### Counting -/

/-- The open streams, as an observation. -/
def openCount (opened : κ → List Nat) (closed : κ → Nat → Bool) (core : κ) : Nat :=
  (opened core).countP fun streamId => !closed core streamId

omit inbound in
/-- Streams are only ever closed. -/
theorem Sustains.openCount_le (kept : Sustains packages opened closed before after) :
    openCount opened closed after.connection.core ≤
      openCount opened closed before.connection.core := by
  unfold openCount
  rw [kept.holds.opened]
  -- A stream that is open afterwards was open before.
  apply countP_mono_left
  intro streamId _ unclosed
  cases before' : closed before.connection.core streamId with
  | false => rfl
  | true =>
    rw [kept.holds.closed _ before'] at unclosed
    cases unclosed

/-- The check passes exactly if idle and open streams are within the limit. -/
theorem checkPriorityLimit_holds (ran : checkPriorityLimit packages before = (.ok (), after)) :
    Sustains packages opened closed before after ∧
      after.prioritizedIdleStreams.length + openCount opened closed after.connection.core ≤
        packages.h2.maxConcurrentStreams after.connection.core := by
  have forgets := inbound.forgets before.connection.core
  have counts : (packages.h2.openInboundStreams before.connection.core).1 =
    openCount opened closed before.connection.core := inbound.counts _
  simp only [checkPriorityLimit, bind_eq_ok, get_eq_ok, failIf_eq_ok] at ran
  obtain ⟨count, counted, ran₁, _, _, ⟨rfl, rfl⟩, within, rfl⟩ := ran
  obtain ⟨returned, rfl⟩ := Prod.mk.inj ran₁
  obtain rfl := Except.ok.inj returned
  have kept : Sustains packages opened closed before { before with
      connection := { before.connection with
        core := (packages.h2.openInboundStreams before.connection.core).2 } } := ⟨rfl, forgets⟩
  refine ⟨kept, ?_⟩
  have fewer := kept.openCount_le
  rw [← counts] at fewer
  exact (Nat.add_le_add_left fewer _).trans (not_lt.mp within)

/-- A check that raises has found more than the limit. -/
theorem checkPriorityLimit_exceeded
    (ran : checkPriorityLimit packages before = (.error raised, after)) :
    packages.h2.maxConcurrentStreams before.connection.core <
      before.prioritizedIdleStreams.length + openCount opened closed before.connection.core := by
  have limit := (inbound.forgets before.connection.core).limit
  have counts : (packages.h2.openInboundStreams before.connection.core).1 =
    openCount opened closed before.connection.core := inbound.counts _
  by_contra within
  -- Within the limit the check passes, so it cannot have raised.
  have passes : checkPriorityLimit packages before = (.ok (), { before with
      connection := { before.connection with
        core := (packages.h2.openInboundStreams before.connection.core).2 } }) := by
    have below : ¬ before.prioritizedIdleStreams.length +
        (packages.h2.openInboundStreams before.connection.core).1 >
          packages.h2.maxConcurrentStreams (packages.h2.openInboundStreams before.connection.core).2 := by
      rw [limit, counts]
      exact within
    simp only [checkPriorityLimit, onConnection, bind_apply, get_apply, History.noting]
    rw [failIf_neg below]
    rfl
  rw [passes] at ran
  cases ran

/-! ### Events -/

/-- Dealing with events opens no stream, apart from requests. -/
theorem reacting_sustains :
    Reacting packages fun _ action => Returning (Sustains packages opened closed) action := by
  refine reacting_returning sustains ?_ (fun _ _ => sustains_callH2 inbound (.acknowledge _ _))
    fun note _ => by cases note <;> exact sustains_notes rfl rfl
  -- Counting lets the library forget closed streams.
  intro before value after ran
  obtain ⟨-, rfl⟩ := Prod.mk.inj ran
  exact ⟨rfl, inbound.forgets _⟩

/-- Accepting a request opens no further stream. -/
theorem sustains_acceptRequest (streamId : Nat) (headers : List Field) (streamEnded : Bool) :
    Returning (Sustains packages opened closed)
      (acceptRequest packages streamId headers streamEnded) := by
  have reacting := reacting_sustains (δ := δ) inbound
  -- Telling the client to continue is the only call.
  exact reacting.on_acceptRequest _ reacting.leading _ _ _
    (fun _ later => sustains.returning_bind (returning_modify fun _ => sustains_notes rfl rfl)
      fun _ => later)
    fun _ _ => sustains_callH2 inbound (.headers _ _ _)

/-- Every event but a request leaves the idle streams alone. -/
theorem sustains_processEvent {event : Event}
    (other : ∀ streamId headers ended, event ≠ .requestReceived streamId headers ended) :
    Returning (Sustains packages opened closed) (processEvent packages event) := by
  have reacting := reacting_sustains (δ := δ) inbound
  refine reacting.on_processEvent event
    (fun streamId headers ended same => absurd same (other streamId headers ended)) fun _ _ _ => ?_
  exact reacting.on_processTrailers (fun _ => returning_modify fun _ => sustains_notes rfl rfl) _ _

/-! ### The shared limit -/

/-- The idle streams are to come, and with the open ones they are within the limit. -/
structure Prioritized (packages : Packages κ δ) (opened : κ → List Nat) (closed : κ → Nat → Bool)
    (session : HTTP2Session κ δ) : Prop where
  distinct : session.prioritizedIdleStreams.Nodup
  odd : ∀ streamId ∈ session.prioritizedIdleStreams, streamId % 2 = 1
  above : ∀ streamId ∈ session.prioritizedIdleStreams,
    packages.h2.highestInboundStreamId session.connection.core < streamId
  ordered : (opened session.connection.core).Pairwise (· < ·)
  bounded : session.prioritizedIdleStreams.length +
    openCount opened closed session.connection.core ≤
      packages.h2.maxConcurrentStreams session.connection.core

/-- While the request that opened a stream is not dealt with, the stream is not counted. -/
structure Pending (packages : Packages κ δ) (opened : κ → List Nat) (closed : κ → Nat → Bool)
    (fresh : Nat) (session : HTTP2Session κ δ) : Prop where
  distinct : session.prioritizedIdleStreams.Nodup
  odd : ∀ streamId ∈ session.prioritizedIdleStreams, streamId % 2 = 1
  highest : packages.h2.highestInboundStreamId session.connection.core = fresh
  ordered : (opened session.connection.core).Pairwise (· < ·)
  bounded : session.prioritizedIdleStreams.length +
    (opened session.connection.core).countP (fun streamId =>
      !closed session.connection.core streamId && streamId != fresh) ≤
      packages.h2.maxConcurrentStreams session.connection.core

/-- The highest stream is up to the streams opened. -/
theorem highest_of_opened {before after : κ} (same : opened after = opened before) :
    packages.h2.highestInboundStreamId after = packages.h2.highestInboundStreamId before := by
  rw [inbound.highest, inbound.highest, same]

/-- Where no stream is opened, the idle streams stay in bounds. -/
theorem Sustains.prioritized (kept : Sustains packages opened closed before after)
    (held : Prioritized packages opened closed before) :
    Prioritized packages opened closed after := by
  have fewer := kept.openCount_le
  refine ⟨?_, ?_, ?_, ?_, ?_⟩
  · rw [kept.idle]
    exact held.distinct
  · rw [kept.idle]
    exact held.odd
  · rw [kept.idle, highest_of_opened inbound kept.holds.opened]
    exact held.above
  · rw [kept.holds.opened]
    exact held.ordered
  · rw [kept.idle, kept.holds.limit]
    exact (Nat.add_le_add_left fewer _).trans held.bounded

omit inbound in
/-- Bookkeeping that concerns neither the library nor the idle streams keeps the limit. -/
theorem Prioritized.noted (held : Prioritized packages opened closed before)
    (inbound : packages.h2.Inbound opened closed)
    (core : after.connection.core = before.connection.core)
    (idle : after.prioritizedIdleStreams = before.prioritizedIdleStreams) :
    Prioritized packages opened closed after :=
  (sustains_notes core idle).prioritized inbound held

/-- So they do while a stream is pending. -/
theorem Sustains.pending (kept : Sustains packages opened closed before after)
    (held : Pending packages opened closed fresh before) :
    Pending packages opened closed fresh after := by
  refine ⟨?_, ?_, ?_, ?_, ?_⟩
  · rw [kept.idle]
    exact held.distinct
  · rw [kept.idle]
    exact held.odd
  · rw [highest_of_opened inbound kept.holds.opened]
    exact held.highest
  · rw [kept.holds.opened]
    exact held.ordered
  · rw [kept.idle, kept.holds.limit, kept.holds.opened]
    refine (Nat.add_le_add_left ?_ _).trans held.bounded
    -- A stream that is open afterwards was open before.
    apply countP_mono_left
    intro streamId _ counted
    rw [Bool.and_eq_true, Bool.not_eq_true'] at counted ⊢
    refine ⟨?_, counted.2⟩
    cases before' : closed before.connection.core streamId with
    | false => rfl
    | true =>
      rw [kept.holds.closed _ before'] at counted
      cases counted.1

/-- The state in which a request has taken its own and lower idle slots back. -/
def vacating (streamId : Nat) (session : HTTP2Session κ δ) : HTTP2Session κ δ :=
  { session with prioritizedIdleStreams := session.prioritizedIdleStreams.filter (streamId < ·) }

/-- A request is refused and its stream closed, or it is counted and accepted. -/
theorem processRequest_sustains
    (ran : processRequest packages streamId headers ended before = (.ok (), after)) :
    Sustains packages opened closed (vacating streamId before) after ∧
      (closed after.connection.core streamId = true ∨
        after.prioritizedIdleStreams.length + openCount opened closed after.connection.core ≤
          packages.h2.maxConcurrentStreams after.connection.core) := by
  simp only [processRequest, bind_eq_ok, modify_eq_ok, get_eq_ok] at ran
  obtain ⟨_, _, rfl, _, _, ⟨rfl, rfl⟩, ran⟩ := ran
  by_cases present : before.capture.streamId.isSome = true
  · rw [if_pos present] at ran
    refine ⟨sustains_callH2 inbound (.reset streamId ErrorCode.refusedStream.code) ran, .inl ?_⟩
    -- The reset returned, so the stream is closed.
    have law := inbound.resets before.connection.core streamId ErrorCode.refusedStream.code
    obtain ⟨core, queued, decoder, encoder, calls, shut, shape⟩ := callH2_ends
      (fun h2 core => h2.resetStream core streamId ErrorCode.refusedStream.code)
      (vacating streamId before) law
    have ran' : callH2 packages
        (fun h2 core => h2.resetStream core streamId ErrorCode.refusedStream.code)
        (vacating streamId before) = (.ok (), after) := ran
    rw [ran'] at shut shape
    have same : after.connection.core = core :=
      (congrArg (fun session => session.connection.core) shape :)
    rw [same]
    exact shut rfl
  · rw [if_neg present] at ran
    simp only [bind_eq_ok] at ran
    obtain ⟨_, checked, ran₁, fields, validated, ran₂, ran₃⟩ := ran
    obtain ⟨counting, within⟩ := checkPriorityLimit_holds inbound ran₁
    have later : Sustains packages opened closed checked after :=
      sustains.trans ((reacting_sustains inbound).on_validateEvent headers false ran₂)
        (sustains_acceptRequest inbound streamId fields ended ran₃)
    refine ⟨sustains.trans counting later, .inr ?_⟩
    -- What was counted can only have become less.
    rw [later.idle, later.holds.limit]
    exact (Nat.add_le_add_left later.openCount_le _).trans within

omit inbound in
/-- Slots that are taken back leave the others in bounds. -/
theorem Prioritized.vacating (held : Prioritized packages opened closed before) (streamId : Nat) :
    Prioritized packages opened closed (vacating streamId before) := by
  have part : before.prioritizedIdleStreams.filter (streamId < ·) ⊆
      before.prioritizedIdleStreams := filter_subset_self _
  refine ⟨held.distinct.filter _, fun other among => held.odd other (part among),
    fun other among => held.above other (part among), held.ordered, ?_⟩
  exact (Nat.add_le_add_right (length_filter_le _ _) _).trans held.bounded

omit inbound in
/-- So they do while a request is pending. -/
theorem Pending.vacating (held : Pending packages opened closed fresh before) (streamId : Nat) :
    Pending packages opened closed fresh (vacating streamId before) := by
  have part : before.prioritizedIdleStreams.filter (streamId < ·) ⊆
      before.prioritizedIdleStreams := filter_subset_self _
  refine ⟨held.distinct.filter _, fun other among => held.odd other (part among), held.highest,
    held.ordered, ?_⟩
  exact (Nat.add_le_add_right (length_filter_le _ _) _).trans held.bounded

/-- With its request dealt with, a fresh stream is counted like the others. -/
theorem Pending.settled (held : Pending packages opened closed fresh before)
    (ran : processRequest packages fresh headers ended before = (.ok (), after)) :
    Prioritized packages opened closed after := by
  obtain ⟨kept, counted⟩ := processRequest_sustains inbound ran
  have pending := kept.pending inbound (held.vacating fresh)
  refine ⟨pending.distinct, pending.odd, fun streamId among => ?_, pending.ordered, ?_⟩
  · -- Only slots above the stream were left, and the stream is the highest.
    rw [pending.highest]
    rw [kept.idle] at among
    exact of_decide_eq_true (mem_filter.mp among).2
  · rcases counted with shut | within
    · refine (Nat.add_le_add_left ?_ _).trans pending.bounded
      -- The stream is closed, so leaving it out makes no difference.
      apply countP_mono_left
      intro streamId _ unclosed
      rw [Bool.and_eq_true]
      refine ⟨unclosed, ?_⟩
      rw [bne_iff_ne]
      rintro rfl
      rw [shut] at unclosed
      cases unclosed
    · exact within

/-- An event keeps the idle streams in bounds. -/
theorem prioritized_processEvent (event : Event) :
    Returning (Keeps (Prioritized packages opened closed)) (processEvent packages event) := by
  intro before value after ran held
  by_cases request : ∃ streamId headers ended, event = .requestReceived streamId headers ended
  · obtain ⟨streamId, headers, ended, rfl⟩ := request
    exact (processRequest_sustains inbound ran).1.prioritized inbound (held.vacating streamId)
  · refine (sustains_processEvent inbound (fun streamId headers ended same => ?_) ran).prioritized
      inbound held
    exact request ⟨streamId, headers, ended, same⟩

/-- So do the events of a frame. -/
theorem prioritized_processEvents (events : List Event) :
    Returning (Keeps (Prioritized packages opened closed)) (processEvents packages events) := by
  induction events with
  | nil => exact (keeps _).returning_pure ()
  | cons event rest ih =>
    exact (keeps _).returning_bind (prioritized_processEvent inbound event) fun _ => ih

/-- Among the events of the frame that opened a stream is its request, which settles it. -/
theorem Pending.processEvents {events : List Event}
    (announced : ∃ headers ended, Event.requestReceived fresh headers ended ∈ events)
    (held : Pending packages opened closed fresh before)
    (ran : processEvents packages events before = (.ok (), after)) :
    Prioritized packages opened closed after := by
  -- The induction is on the events up to the request.
  induction events generalizing before with
  | nil =>
    obtain ⟨_, _, among⟩ := announced
    cases among
  | cons event rest ih =>
    simp only [HTTP2Session.processEvents, bind_eq_ok] at ran
    obtain ⟨_, reached, ran₁, ran₂⟩ := ran
    by_cases request : ∃ streamId headers ended, event = .requestReceived streamId headers ended
    · obtain ⟨streamId, headers, ended, rfl⟩ := request
      by_cases same : streamId = fresh
      · subst same
        exact prioritized_processEvents inbound rest ran₂ (held.settled inbound ran₁)
      · refine ih ?_ ((processRequest_sustains inbound ran₁).1.pending inbound
          (held.vacating streamId)) ran₂
        -- The request of the fresh stream is still to come.
        obtain ⟨headers', ended', among⟩ := announced
        rcases mem_cons.mp among with this' | later
        · cases this'
          exact absurd rfl same
        · exact ⟨headers', ended', later⟩
    · have other : ∀ streamId headers ended, event ≠ .requestReceived streamId headers ended :=
        fun streamId headers ended same => request ⟨streamId, headers, ended, same⟩
      refine ih ?_ ((sustains_processEvent inbound other ran₁).pending inbound held) ran₂
      obtain ⟨headers', ended', among⟩ := announced
      rcases mem_cons.mp among with this' | later
      · exact (other _ _ _ this'.symm).elim
      · exact ⟨headers', ended', later⟩

/-! ### Frames -/

/-- So does what opens no stream. -/
theorem prioritized_of_sustains {action : SessionM κ δ α}
    (returning : Returning (Sustains packages opened closed) action) :
    Returning (Keeps (Prioritized packages opened closed)) action :=
  returning.mono fun _ _ kept held => kept.prioritized inbound held

omit inbound in
/-- The streams below a new one are all lower than it. -/
theorem ordered_append (ordered : streams.Pairwise (· < ·))
    (above : streams.getLast?.getD 0 < fresh) : (streams ++ [fresh]).Pairwise (· < ·) := by
  refine pairwise_append.mpr ⟨ordered, pairwise_singleton _ _, ?_⟩
  intro lower among higher single
  rw [mem_singleton.mp single]
  -- The last one is the highest of an increasing list.
  obtain ⟨front, last, rfl⟩ : ∃ front last, streams = front ++ [last] :=
    ⟨streams.dropLast, streams.getLast (ne_nil_of_mem among),
      (dropLast_append_getLast _).symm⟩
  rw [List.getLast?_concat, Option.getD_some] at above
  rcases mem_append.mp among with inFront | same
  · have below := (pairwise_append.mp ordered).2.2 lower inFront last (mem_singleton_self _)
    omega
  · rw [mem_singleton.mp same]
    exact above

/-- So does a frame that is received. -/
theorem prioritized_receiveWire (framed : IsWireFrame wire) :
    Returning (Keeps (Prioritized packages opened closed)) (receiveWire packages wire) := by
  intro before value after ran held
  simp only [receiveWire, recordHanded, bind_eq_ok, modify_eq_ok] at ran
  obtain ⟨_, _, rfl, events, taken, ran₁, ran₂⟩ := ran
  obtain ⟨result, core, queued, decoder, encoder, calls, law, shape⟩ := receiveData_ends
    (handing before [.wire wire]) (inbound.receives before.connection.core wire framed)
  have ran' : onConnection (H2Adapter.receiveData packages wire) (handing before [.wire wire]) =
    (.ok events, taken) := ran₁
  rw [ran'] at shape
  obtain ⟨returned, reached⟩ := Prod.mk.inj shape
  have idle : taken.prioritizedIdleStreams = before.prioritizedIdleStreams := by
    rw [reached]
    rfl
  have same : taken.connection.core = core := by rw [reached]
  cases result with
  | error raised => cases returned
  | ok raw =>
    obtain rfl := Except.ok.inj returned
    rcases law raw rfl with holds | ⟨fresh, headers, ended, among, above, opens, shut, limit⟩
    · have kept : Sustains packages opened closed before taken := ⟨idle, by rw [same]; exact holds⟩
      exact prioritized_processEvents inbound _ ran₂ (kept.prioritized inbound held)
    · -- The stream that was opened is left out until its request is dealt with.
      have pending : Pending packages opened closed fresh taken := by
        refine ⟨by rw [idle]; exact held.distinct, by rw [idle]; exact held.odd, ?_, ?_, ?_⟩
        · rw [same, inbound.highest, opens, List.getLast?_concat]
          rfl
        · rw [inbound.highest] at above
          rw [same, opens]
          exact ordered_append held.ordered above
        · rw [same, idle, opens, limit, countP_append]
          refine le_trans (Nat.add_le_add_left ?_ _) held.bounded
          have alone : [fresh].countP (fun streamId =>
              !closed core streamId && streamId != fresh) = 0 := by simp
          rw [alone, Nat.add_zero]
          apply countP_mono_left
          intro streamId _ counted
          rw [Bool.and_eq_true, Bool.not_eq_true'] at counted
          rw [Bool.not_eq_true']
          cases earlier : closed before.connection.core streamId with
          | false => rfl
          | true =>
            rw [shut _ earlier] at counted
            cases counted.1
      exact pending.processEvents inbound ⟨decoder.originalHeaders, ended,
        mem_map.mpr ⟨_, among, rfl⟩⟩ ran₂

/-- So does a frame that is delivered. -/
theorem prioritized_deliverFrame (frame : ParsedFrame) (framed : IsWireFrame wire) :
    Returning (Keeps (Prioritized packages opened closed)) (deliverFrame packages frame wire) := by
  have progress := keeps (Prioritized packages opened closed)
  intro before value after ran
  obtain ⟨shown, _, ran₁, rest⟩ := bind_eq_ok.mp ran
  obtain ⟨converted, rfl⟩ := fromExcept_eq_ok.mp ran₁
  have shows := prioritized_receiveWire inbound (isWireFrame_wireForH2 framed converted)
  refine progress.returning_bind ?_ (fun _ => progress.returning_bind
    (prioritized_of_sustains inbound sustains_flush) fun _ =>
      progress.composed_returning.on_runWhen fun _ => prioritized_of_sustains inbound sustains_pause) rest
  -- The handler never returns, so the frame was delivered.
  refine returning_tryCatch ?_ fun raised state value after ran =>
    (handleProtocolError_eq_ok.mp ran).elim
  have applying := (applying_returning sustains (fun core _ idle => sustains_notes core idle)
    (sustains_receiveSettings inbound)).mono (looking_returning progress)
      (prioritized_of_sustains inbound)
  exact applying.on_deliver applying.leading frame (fun _ => prioritized_of_sustains inbound
    (returning_modify fun _ => sustains_notes rfl rfl)) shows

/-- An idle target gets a slot if there is one left. -/
theorem prioritized_processPriorityUpdate (streamId : Nat) :
    Returning (Keeps (Prioritized packages opened closed))
      (processPriorityUpdate packages streamId) := by
  intro before value after ran held
  simp only [processPriorityUpdate, bind_eq_ok, failIf_eq_ok, get_eq_ok] at ran
  obtain ⟨_, _, ⟨odd, rfl⟩, _, _, ⟨rfl, rfl⟩, rest⟩ := ran
  split at rest
  · rename_i idle
    simp only [bind_eq_ok, modify_eq_ok] at rest
    obtain ⟨_, _, rfl, ran₁⟩ := rest
    obtain ⟨kept, within⟩ := checkPriorityLimit_holds inbound ran₁
    have slots : after.prioritizedIdleStreams =
      before.prioritizedIdleStreams.insert streamId := kept.idle
    refine ⟨?_, ?_, ?_, ?_, within⟩
    · rw [slots]
      exact held.distinct.insert
    · rw [slots]
      intro other among
      rcases mem_insert_iff.mp among with rfl | older
      · omega
      · exact held.odd other older
    · rw [slots, highest_of_opened inbound kept.holds.opened]
      intro other among
      rcases mem_insert_iff.mp among with rfl | older
      · exact idle
      · exact held.above other older
    · rw [kept.holds.opened]
      exact held.ordered
  · rcases runWhen_eq_ok.mp rest with ⟨-, ran₁⟩ | ⟨-, rfl⟩
    · exact (checkPriorityLimit_holds inbound ran₁).1.prioritized inbound held
    · exact held

/-- After every frame the limit holds again. -/
theorem prioritized_processFrame (frame : ParsedFrame) (framed : IsWireFrame wire) :
    Returning (Keeps (Prioritized packages opened closed)) (processFrame packages frame wire) := by
  have progress := keeps (Prioritized packages opened closed)
  have quiet := @prioritized_of_sustains κ δ Unit packages opened closed inbound
  have reacting := (reacting_sustains (δ := δ) inbound).mono (looking_returning progress)
    (prioritized_of_sustains inbound)
  refine reacting.on_processFrame ?_ _
    (fun _ later => progress.returning_bind
      (quiet (returning_modify fun _ => sustains_notes rfl rfl)) fun _ => later)
    (reacting.on_checkFirstFrame frame (quiet (returning_modify fun _ => sustains_notes rfl rfl))
      fun _ => quiet (returning_modify fun _ => sustains_notes rfl rfl)) ?_
    (reacting.on_processParsed (prioritized_deliverFrame inbound frame framed)
      (prioritized_processPriorityUpdate inbound))
  · intro note
    cases note <;> exact quiet (returning_modify fun _ => sustains_notes rfl rfl)
  · -- A payload that did not parse ends the connection.
    unfold rejectMalformed
    cases parseFault frame.payload with
    | none => exact progress.returning_pure ()
    | some fault =>
      intro before value after ran
      exact (fail_eq_ok.mp ran).elim

/-! ### Runs -/

/-- A new session has no idle streams. -/
theorem prioritized_create (transport : Transport) :
    Prioritized packages opened closed (create packages transport) := by
  have none : opened (create packages transport).connection.core = [] := inbound.initial
  refine ⟨nodup_nil, ?_, ?_, ?_, ?_⟩
  · intro streamId among
    cases among
  · intro streamId among
    cases among
  · rw [none]
    exact List.Pairwise.nil
  · rw [openCount, none]
    exact Nat.zero_le _

/-- Every frame keeps the idle streams in bounds. -/
theorem framewise_prioritized :
    Framewise packages (Prioritized packages opened closed) where
  begins held := held.noted inbound rfl rfl
  closes held := held.noted inbound rfl rfl
  reads held := held.noted inbound rfl rfl
  buffers _ _ _ held := held.noted inbound rfl rfl
  flushes ran held := (sustains_flush ran).prioritized inbound held
  exchanges outcall _ _ ran held := by
    have called := sustains.returning_bind (sustains_callH2 inbound outcall) fun _ => sustains_flush
    exact (called ran).prioritized inbound held
  prefaced ran held := (sustains_receiveData inbound (.inl rfl) ran).prioritized inbound held
  processes captured ran held :=
    prioritized_processFrame inbound _ captured.framed ran (held.noted inbound rfl rfl)

/-- They are in bounds between any two calls. -/
theorem Between.prioritized {state : HTTP2Session κ δ}
    (between : Between packages state) : Prioritized packages opened closed state :=
  between.holds (prioritized_create inbound) (framewise_prioritized inbound)

omit inbound in
/-- What is above the last of a sorted list is not in it. -/
theorem not_mem_of_above (ordered : streams.Pairwise (· < ·))
    (above : streams.getLast?.getD 0 < streamId) : streamId ∉ streams := by
  -- Otherwise it would be lower than itself.
  intro among
  have later := (pairwise_append.mp (ordered_append ordered above)).2.2 streamId among streamId
    (mem_singleton_self _)
  omega

/-- An odd target is refused only if its slot would be one too many. -/
theorem processPriorityUpdate_refused {target : Nat}
    (held : Prioritized packages opened closed before)
    (ran : processPriorityUpdate packages target before = (.error raised, after)) :
    target % 2 = 0 ∨
      packages.h2.highestInboundStreamId before.connection.core < target ∧
        packages.h2.maxConcurrentStreams before.connection.core <
          (before.prioritizedIdleStreams.insert target).length +
            openCount opened closed before.connection.core := by
  by_cases even : target % 2 = 0
  · exact .inl even
  refine .inr ?_
  simp only [processPriorityUpdate, bind_apply, failIf_neg even, pure_apply, get_apply] at ran
  split at ran
  · rename_i idle
    simp only [bind_apply, modify_apply] at ran
    exact ⟨idle, checkPriorityLimit_exceeded inbound ran⟩
  · -- Nothing is added for other targets, so the check passes.
    by_cases counted : packages.h2.streamClosed before.connection.core target = some false
    · rw [runWhen_pos counted] at ran
      have exceeded := checkPriorityLimit_exceeded inbound ran
      exact absurd held.bounded (not_le.mpr exceeded)
    · rw [runWhen_neg counted] at ran
      cases ran

/-- A first request within the limit is not held up by it. -/
theorem processRequest_within {session : HTTP2Session κ δ} (first : session.capture.streamId = none)
    (within : (session.prioritizedIdleStreams.filter (streamId < ·)).length +
      (packages.h2.openInboundStreams session.connection.core).1 ≤
        packages.h2.maxConcurrentStreams session.connection.core) :
    processRequest packages streamId headers ended session =
      (do
        let fields ← validateEvent packages headers false
        acceptRequest packages streamId fields ended)
      { vacating streamId session with connection := { session.connection with
        core := (packages.h2.openInboundStreams session.connection.core).2 } } := by
  have absent : ¬ (vacating streamId session).capture.streamId.isSome = true := by
    show ¬ session.capture.streamId.isSome = true
    rw [first]
    simp
  have checked : checkPriorityLimit packages (vacating streamId session) = (.ok (),
      { vacating streamId session with connection := { session.connection with
        core := (packages.h2.openInboundStreams session.connection.core).2 } }) := by
    rcases ran : checkPriorityLimit packages (vacating streamId session) with ⟨raised | value, after⟩
    · have exceeded := checkPriorityLimit_exceeded inbound ran
      rw [openCount, ← inbound.counts] at exceeded
      exact absurd within (not_le.mpr exceeded)
    · rw [checkPriorityLimit_ok ran]
      rfl
  have vacated : (modify (fun self : HTTP2Session κ δ => { self with
      prioritizedIdleStreams := self.prioritizedIdleStreams.filter (streamId < ·) }) :
        SessionM κ δ Unit) session = (.ok (), vacating streamId session) := rfl
  simp only [processRequest, bind_apply, vacated, get_apply, if_neg absent, checked]

end Inbound

/--
Idle streams with a priority stay within the limit that they share with the open streams.

Between any two frames of a run, every such stream is odd, higher than all streams opened so far, and
counted once. An odd target is refused only if its slot would be one too many, and a first request
only if the limit is exceeded with it.
-/
theorem priorities_bounded (inbound : packages.h2.Inbound opened closed)
    {state : HTTP2Session κ δ} (between : Between packages state) :
    state.prioritizedIdleStreams.Nodup ∧
    (∀ streamId ∈ state.prioritizedIdleStreams, streamId % 2 = 1 ∧
      packages.h2.highestInboundStreamId state.connection.core < streamId ∧
      streamId ∉ opened state.connection.core) ∧
    state.prioritizedIdleStreams.length +
      (packages.h2.openInboundStreams state.connection.core).1 ≤
        packages.h2.maxConcurrentStreams state.connection.core ∧
    (∀ session target raised after, session.connection.core = state.connection.core →
      session.prioritizedIdleStreams = state.prioritizedIdleStreams →
      processPriorityUpdate packages target session = (.error raised, after) →
        target % 2 = 0 ∨
          packages.h2.highestInboundStreamId state.connection.core < target ∧
            packages.h2.maxConcurrentStreams state.connection.core <
              (state.prioritizedIdleStreams.insert target).length +
                (packages.h2.openInboundStreams state.connection.core).1) ∧
    ∀ (session : HTTP2Session κ δ) streamId headers ended, session.capture.streamId = none →
      (session.prioritizedIdleStreams.filter (streamId < ·)).length +
        (packages.h2.openInboundStreams session.connection.core).1 ≤
          packages.h2.maxConcurrentStreams session.connection.core →
      processRequest packages streamId headers ended session =
        (do
          let fields ← validateEvent packages headers false
          acceptRequest packages streamId fields ended)
        { vacating streamId session with connection := { session.connection with
          core := (packages.h2.openInboundStreams session.connection.core).2 } } := by
  have held := between.prioritized inbound
  refine ⟨held.distinct, fun streamId among => ?_, ?_, fun session target raised after core idle ran =>
    ?_, fun session streamId headers ended first within => processRequest_within inbound first within⟩
  · have above := held.above streamId among
    refine ⟨held.odd streamId among, above, ?_⟩
    rw [inbound.highest] at above
    exact not_mem_of_above held.ordered above
  · rw [inbound.counts]
    exact held.bounded
  · have held' := held.noted inbound core idle
    have refused := processPriorityUpdate_refused inbound held' ran
    rw [core, idle] at refused
    rw [inbound.counts]
    exact refused

/-- One idle stream and one open stream. -/
theorem priorities_bounded_prioritized :
    prioritized.prioritizedIdleStreams = [3] ∧
    (referencePackages.h2.openInboundStreams prioritized.connection.core).1 = 1 ∧
    prioritized.prioritizedIdleStreams.length +
      (referencePackages.h2.openInboundStreams prioritized.connection.core).1 ≤
        referencePackages.h2.maxConcurrentStreams prioritized.connection.core := by
  have inbound : referencePackages.h2.Inbound Reference.Core.opened isClosed :=
    reference_inbound
  have between : Between referencePackages prioritized :=
    run_prioritized.waiting.between
  obtain ⟨-, -, within, -, -⟩ := priorities_bounded inbound between
  exact ⟨by decide +kernel, by decide +kernel, within⟩

end SolveTls.HTTP2Session
