import SolveTls.Proofs.Http2.SessionFragments
import SolveTls.Proofs.Http2.SessionOutput

/-! A response leaves whole and in order, as the windows of the peer allow. -/

namespace SolveTls.HTTP2Session

open Fallible List Reference

variable {κ δ : Type} {packages : Packages κ δ} {streamId : Nat}
variable {statusCode offset : Nat} {left data part content : Bytes}
  {departures : List (Departure κ δ)} {outcall : Outcall}
  {before after state middle : HTTP2Session κ δ} {outcome : Except Exn Unit}
  {later : List (List WireFrame)} {raised : Exn} {last : Bool}

/-! ### What is prepared -/

/-- The fields given, with lower-case names. -/
def normalized (headers : Dict Bytes Bytes) : Dict Bytes Bytes :=
  Dict.ofItems (headers.map fun (name, value) => (lowerOctets name, value))

theorem nodup_normalized (headers : Dict Bytes Bytes) :
    ((normalized headers).map Prod.fst).Nodup := by
  have none : (([] : Dict Bytes Bytes).map Prod.fst).Nodup := nodup_nil
  exact Dict.nodup_update none _

theorem prepareResponse_bodiless (content : Bytes) (headers : Dict Bytes Bytes)
    (without : bodiless statusCode) : prepareResponse content headers statusCode =
      ([], (normalized headers).pop (ascii "content-length")) :=
  if_pos without

theorem prepareResponse_bodied (content : Bytes) (headers : Dict Bytes Bytes)
    (allowed : ¬ bodiless statusCode) : prepareResponse content headers statusCode =
      (content, (normalized headers).set (ascii "content-length") (decimalOctets content.length)) :=
  if_neg allowed

/-- A status without content has none, and any other the one that was given. -/
theorem responseContent_eq (content : Bytes) (headers : Dict Bytes Bytes) (statusCode : Nat) :
    responseContent content headers statusCode = if bodiless statusCode then [] else content := by
  by_cases without : bodiless statusCode
  · rw [responseContent, prepareResponse_bodiless content headers without, if_pos without]
  · rw [responseContent, prepareResponse_bodied content headers without, if_neg without]

/-- The length is declared once, unless the status forbids it. -/
theorem contentLength_declared (content : Bytes) (headers : Dict Bytes Bytes) (statusCode : Nat) :
    ((responseFields content headers statusCode).filter
      fun field => field.1 = ascii "content-length").map Prod.snd =
      if bodiless statusCode then []
      else [decimalOctets (responseContent content headers statusCode).length] := by
  have status : Dict.get? [(ascii ":status", decimalOctets statusCode)]
      (ascii "content-length") = none := by
    rw [Dict.get?, if_neg (by decide)]
    rfl
  have distinct := nodup_normalized headers
  -- Both dictionaries have distinct keys, so there is one field of the name at most.
  rw [responseFields, responseContent, Dict.filter_eq_toList (Dict.nodup_update (by simp) _)]
  by_cases without : bodiless statusCode
  · rw [prepareResponse_bodiless content headers without, if_pos without]
    rw [Dict.get?_update_dict (Dict.nodup_pop distinct _), Dict.get?_pop_self, status]
    rfl
  · rw [prepareResponse_bodied content headers without, if_neg without]
    rw [Dict.get?_update_dict (Dict.nodup_set distinct _ _), Dict.get?_set_self]
    rfl

/-! ### Cutting the content -/

/-- The parts that left, one after another, are the beginning of what there was to send. -/
theorem Cuts.concatenates (cuts : Cuts packages streamId left departures) :
    departures.flatMap Departure.part <+: left := by
  induction cuts with
  | none left => exact nil_prefix
  | @next left departure later fits cuts ih =>
    -- What is left after a part begins with the parts that follow.
    obtain ⟨rest, begun⟩ := fits.cut
    rw [← begun, drop_left] at ih
    rw [flatMap_cons, ← begun]
    exact (prefix_append_right_inj _).mpr ih

/-- Every part fits what the earlier ones left over. -/
theorem Cuts.fits {older newer : List (Departure κ δ)} {departure : Departure κ δ}
    (cuts : Cuts packages streamId left departures)
    (split : departures = older ++ departure :: newer) :
    Fits packages streamId (left.drop (older.flatMap Departure.part).length) departure := by
  induction cuts generalizing older with
  | none left => simp at split
  | @next left first later fits cuts ih =>
    cases older with
    | nil =>
      obtain ⟨rfl, -⟩ := List.cons.inj split
      exact fits
    | cons head older =>
      obtain ⟨rfl, rest⟩ := List.cons.inj split
      have found := ih rest
      rw [drop_drop] at found
      rw [flatMap_cons, length_append]
      exact found

/-! ### One exchange with the library -/

/-- Sending empties the queue: all of it is handed over, or the write raised. -/
theorem flush_cases (state : HTTP2Session κ δ) (queued : state.connection.outgoing ≠ []) :
    (flush state).2.transport.written =
      state.transport.written ++ [state.connection.outgoing] ∨
    (∃ raised, (flush state).1 = .error raised) ∧
      (flush state).2.transport.written = state.transport.written := by
  rw [flush_eq, runWhen_pos queued]
  simp only [transportWrite, handOver]
  cases state.transport.writes.headD .sent with
  | sent => exact .inl rfl
  | sentThenRaised raised => exact .inl rfl
  | refused raised => exact .inr ⟨⟨raised, rfl⟩, rfl⟩

/-- The frames of a call are handed over behind what was queued, or the exchange raised. -/
theorem exchange_cases {shape : List WireFrame → Prop}
    (law : (outcall.method packages.h2 before.connection.core).Ends fun result _ queued =>
      result = .ok () ∧ shape queued ∨ (∃ raised, result = .error raised) ∧ queued = [])
    (visible : ∀ queued, shape queued → queued ≠ [])
    (ran : (do callH2 packages outcall.method; flush) before = (outcome, after)) :
    (∃ queued, shape queued ∧ after.transport.written =
      before.transport.written ++ [before.connection.outgoing ++ queued]) ∨
    (∃ raised, outcome = .error raised) ∧
      after.transport.written = before.transport.written := by
  obtain ⟨core, queued, decoder, encoder, calls, ends, reached⟩ :=
    callH2_ends outcall.method before law
  rw [bind_apply] at ran
  rcases called : callH2 packages outcall.method before with ⟨raised | value, middle⟩
  · -- The library refused, so there was nothing to send.
    rw [called] at ran reached
    obtain ⟨rfl, rfl⟩ := Prod.mk.inj ran
    dsimp only at reached
    exact .inr ⟨⟨raised, rfl⟩, by rw [reached]⟩
  · rw [called] at ran reached ends
    dsimp only at ran reached
    obtain ⟨-, shaped⟩ | ⟨⟨raised, failed⟩, -⟩ := ends
    · have outgoing : middle.connection.outgoing = before.connection.outgoing ++ queued := by
        rw [reached]
      have written : middle.transport.written = before.transport.written := by rw [reached]
      have nonempty : middle.connection.outgoing ≠ [] := by
        rw [outgoing]
        intro empty
        exact visible queued shaped (append_eq_nil_iff.mp empty).2
      have flushed := flush_cases middle nonempty
      rw [ran, outgoing, written] at flushed
      rcases flushed with sent | ⟨refused, unsent⟩
      · exact .inl ⟨queued, shaped, sent⟩
      · exact .inr ⟨refused, unsent⟩
    · cases failed

/-- After a chunk that was received, nothing is queued. -/
theorem receive_quiet (ran : receive packages data before = (.ok (), after)) : Quiet after := by
  -- The last step of a chunk is to send everything.
  obtain ⟨-, -, reached, -, flushed, -⟩ := receive_returned ran
  exact quiet_flush.reached flushed

/-- A check passes in a live session and raises in any other; neither changes it. -/
theorem checkCancelled_cases (state : HTTP2Session κ δ) :
    state.cancelled = false ∧ state.closed = false ∧ checkCancelled state = (.ok (), state) ∨
    ∃ raised, checkCancelled state = (.error raised, state) := by
  simp only [checkCancelled, bind_apply, get_apply]
  cases cancelled : state.cancelled with
  | true => exact .inr ⟨_, by rw [raiseIf_pos rfl, throw_apply]⟩
  | false =>
    rw [raiseIf_neg (by simp), pure_apply]
    dsimp only
    cases closed : state.closed with
    | true => exact .inr ⟨_, by rw [raiseIf_pos rfl, throw_apply]⟩
    | false => exact .inl ⟨rfl, rfl, by rw [raiseIf_neg (by simp), pure_apply]⟩

/-! ### The loop -/

/-- How the loop goes on from a state in which this much of the content is left. -/
structure Sends (packages : Packages κ δ) (streamId : Nat) (left : Bytes)
    (before : HTTP2Session κ δ) (outcome : Except Exn Unit) (after : HTTP2Session κ δ)
    (departures : List (Departure κ δ)) (later : List (List WireFrame)) : Prop where
  turns : Turns packages streamId before departures after
  rest : after.transport.written = before.transport.written ++ later
  only : later.flatten.filter H2.isResponse = departures.map (Departure.frame streamId)
  cuts : Cuts packages streamId left departures
  whole : outcome = .ok () → departures.flatMap Departure.part = left

/-- Nothing is sent any more. -/
theorem Sends.rests (finished : outcome = .ok () → left = []) :
    Sends packages streamId left state outcome state [] [] where
  turns := .rests state
  rest := (append_nil _).symm
  only := rfl
  cuts := .none left
  whole returned := (finished returned).symm

/-- Frames that are no part of a response. -/
theorem filter_silent {frames : List WireFrame} (silent : ∀ frame ∈ frames, Silent frame) :
    frames.filter H2.isResponse = [] := by
  rw [filter_eq_nil_iff]
  intro frame among
  rw [silent frame among]
  exact Bool.false_ne_true

/-- What is written while the peer is waited for is no part of the response. -/
theorem wait_silent (queues : packages.h2.Queues) (captured : Capturing before)
    (quiet : Quiet before)
    (ran : (do let data ← transportRead; receive packages data) before = (outcome, after)) :
    Capturing after ∧ ∃ batches, after.transport.written = before.transport.written ++ batches ∧
      batches.flatten.filter H2.isResponse = [] := by
  have within : Within (Gated Capturing Silent)
      (do let data ← transportRead; receive packages data : SessionM κ δ Unit) := by
    refine gated.within_bind ?_ fun data => within_receive_silent queues data
    intro state
    -- A read moves the script on and does nothing else.
    unfold transportRead
    split
    · exact gated.refl state
    · exact fun open' => ⟨open', Adds.of_eq rfl rfl⟩
  obtain ⟨captured', added⟩ := within.reached ran captured
  have queued : ∀ frame ∈ before.connection.outgoing, Silent frame := by
    rw [quiet]
    simp
  obtain ⟨-, batches, written, silent⟩ := added queued
  exact ⟨captured', batches, written, filter_silent silent⟩

/-- A turn of waiting comes before everything that is sent later. -/
theorem Sends.waiting (queues : packages.h2.Queues) (captured : Capturing before)
    (quiet : Quiet before)
    (ran : (do let data ← transportRead; receive packages data) before = (.ok (), middle))
    (sends : Sends packages streamId left middle outcome after departures later) :
    ∃ batches, Sends packages streamId left before outcome after departures batches := by
  obtain ⟨-, batches, written, silent⟩ := wait_silent queues captured quiet ran
  refine ⟨batches ++ later, ?_, ?_, ?_, sends.cuts, sends.whole⟩
  · exact .next (.waits ran) sends.turns
  · rw [sends.rest, written, append_assoc]
  · rw [flatten_append, filter_append, silent, sends.only, nil_append]

/-- A turn of waiting that raised is the last one. -/
theorem Sends.interrupted (queues : packages.h2.Queues) (captured : Capturing before)
    (quiet : Quiet before)
    (ran : (do let data ← transportRead; receive packages data) before = (.error raised, after)) :
    ∃ batches, Sends packages streamId left before (.error raised) after [] batches := by
  obtain ⟨-, batches, written, silent⟩ := wait_silent queues captured quiet ran
  exact ⟨batches, .final (.waits ran), written, silent, .none left, fun returned => by cases returned⟩

/-- A part comes before everything that is sent later. -/
theorem Sends.sending (fits : Fits packages streamId left ⟨before, part, last⟩)
    (ran : (do callH2 packages (Outcall.data streamId part last).method; flush) before =
      (.ok (), middle))
    (handed : middle.transport.written =
      before.transport.written ++ [[H2.dataFrame streamId part last]])
    (sends : Sends packages streamId (left.drop part.length) middle outcome after departures later) :
    Sends packages streamId left before outcome after (⟨before, part, last⟩ :: departures)
      ([H2.dataFrame streamId part last] :: later) := by
  refine ⟨.next (.sends ran handed) sends.turns, ?_, ?_, .next fits sends.cuts, ?_⟩
  · rw [sends.rest, handed, append_assoc]
    rfl
  · rw [flatten_cons, filter_append, sends.only]
    rfl
  · -- The part and what follows it make up what was left.
    intro returned
    obtain ⟨rest, begun⟩ := fits.cut
    dsimp only at begun
    rw [flatMap_cons, sends.whole returned, ← begun, drop_left]

/-- An exchange that raised is the last turn, whether or not the part was handed over. -/
theorem Sends.broken (fits : Fits packages streamId left ⟨before, part, last⟩)
    (ran : (do callH2 packages (Outcall.data streamId part last).method; flush) before =
      (.error raised, after))
    (written : after.transport.written =
        before.transport.written ++ [[H2.dataFrame streamId part last]] ∨
      after.transport.written = before.transport.written) :
    ∃ departures later,
      Sends packages streamId left before (.error raised) after departures later := by
  rcases written with handed | unsent
  · exact ⟨_, [[H2.dataFrame streamId part last]], .final (.sends ran handed), handed, rfl,
      .next fits (.none _), fun returned => by cases returned⟩
  · exact ⟨[], [], .final (.drops ran unsent), by rw [unsent, append_nil], rfl, .none left,
      fun returned => by cases returned⟩

/-- The part that a turn sends fits what is left. -/
theorem fits_part {window : Int} (unfinished : offset < content.length)
    (running : state.cancelled = false) (opened : state.closed = false)
    (known : packages.h2.localFlowControlWindow state.connection.core streamId = .ok window)
    (available : ¬ min window (packages.h2.maxOutboundFrameSize state.connection.core) ≤ 0)
    {stop : Nat}
    (stops : stop = min (offset + (min window
      (packages.h2.maxOutboundFrameSize state.connection.core : Int)).toNat) content.length) :
    Fits packages streamId (content.drop offset)
      ⟨state, (content.drop offset).take (stop - offset), stop = content.length⟩ := by
  have length : ((content.drop offset).take (stop - offset)).length = stop - offset := by
    rw [length_take, length_drop]
    omega
  refine ⟨ take_prefix _ _, ?_, ⟨window, known, ?_⟩, ?_, running, opened⟩
  · rw [length]
    omega
  · show (((content.drop offset).take (stop - offset)).length : Int) ≤
      min window (packages.h2.maxOutboundFrameSize state.connection.core : Int)
    rw [length]
    omega
  · -- The part is everything exactly when it reaches the end of the content.
    show decide (stop = content.length) = true ↔ _
    rw [decide_eq_true_iff]
    constructor
    · intro reached
      apply take_of_length_le
      rw [length_drop]
      omega
    · intro whole
      have same := congrArg List.length whole
      rw [length, length_drop] at same
      omega

/-- The loop is done, or raises before the turn, or waits, or sends the next part. -/
theorem sendLoop_cases (packages : Packages κ δ) (streamId : Nat) (content : Bytes)
    (turns offset : Nat) (state : HTTP2Session κ δ) :
    content.length ≤ offset ∧
      sendLoop packages streamId content (turns + 1) offset state = (.ok (), state) ∨
    (∃ raised after, sendLoop packages streamId content (turns + 1) offset state =
        (.error raised, after) ∧ Turns packages streamId state [] after ∧
      after.transport = state.transport) ∨
    sendLoop packages streamId content (turns + 1) offset state =
      ((do let data ← transportRead; receive packages data) >>= fun _ =>
        sendLoop packages streamId content turns offset) state ∨
    ∃ stop, Fits packages streamId (content.drop offset)
        ⟨state, (content.drop offset).take (stop - offset), stop = content.length⟩ ∧
      offset < stop ∧ stop ≤ content.length ∧
      sendLoop packages streamId content (turns + 1) offset state =
        ((do
          callH2 packages (Outcall.data streamId ((content.drop offset).take (stop - offset))
            (stop = content.length)).method
          flush) >>= fun _ => sendLoop packages streamId content turns stop) state := by
  by_cases unfinished : offset < content.length
  · refine .inr ?_
    simp only [sendLoop, if_pos unfinished]
    rw [bind_apply]
    rcases checkCancelled_cases state with ⟨running, opened, passed⟩ | ⟨raised, failed⟩
    · simp only [passed, bind_apply]
      rcases flowControlWindow_cases packages streamId state with
        ⟨window, known, asked⟩ | ⟨raised, -, asked⟩
      · simp only [asked, get_apply]
        by_cases available :
            min window (packages.h2.maxOutboundFrameSize state.connection.core) ≤ 0
        · -- Without a window the loop waits, and then tries again at the same place.
          refine .inr (.inl ?_)
          rw [if_pos available]
          exact (congrFun (bind_assoc_eq _ _ _) state).symm
        · refine .inr (.inr ⟨_, fits_part unfinished running opened known available rfl, ?_,
            Nat.min_le_right _ _, ?_⟩)
          · omega
          · rw [if_neg available]
            exact (congrFun (bind_assoc_eq _ _ _) state).symm
      · -- The library refuses, which only the history notes.
        rw [asked]
        exact .inl ⟨raised, _, rfl, .final (.refuses asked), rfl⟩
    · rw [failed]
      exact .inl ⟨raised, state, rfl, .rests state, rfl⟩
  · -- Everything has been sent.
    refine .inl ⟨by omega, ?_⟩
    simp only [sendLoop, if_neg unfinished, pure_apply]

/-- Whatever way the loop ends, what it sent is the beginning of what was left. -/
theorem sendLoop_sends (queues : packages.h2.Queues) (turns : Nat) (captured : Capturing before)
    (quiet : Quiet before)
    (ran : sendLoop packages streamId content turns offset before = (outcome, after)) :
    ∃ departures later,
      Sends packages streamId (content.drop offset) before outcome after departures later := by
  -- The induction is on the turns; each waits for the peer or sends the next part.
  induction turns generalizing before offset with
  | zero =>
    obtain ⟨rfl, rfl⟩ := Prod.mk.inj ran
    exact ⟨[], [], .rests fun returned => by cases returned⟩
  | succ turns ih =>
    rcases sendLoop_cases packages streamId content turns offset before with
      ⟨finished, done⟩ | ⟨raised, reached, failed, turns, silent⟩ | waits |
        ⟨stop, fits, grows, bounded, sent⟩
    · rw [done] at ran
      obtain ⟨rfl, rfl⟩ := Prod.mk.inj ran
      exact ⟨[], [], .rests fun _ => drop_eq_nil_of_le finished⟩
    · rw [failed] at ran
      obtain ⟨rfl, rfl⟩ := Prod.mk.inj ran
      exact ⟨[], [], turns, by rw [silent, append_nil], rfl, .none _,
        fun returned => by cases returned⟩
    · rw [waits, bind_apply] at ran
      rcases waited : (do let data ← transportRead; receive packages data : SessionM κ δ Unit)
        before with ⟨raised | value, middle⟩ <;> rw [waited] at ran
      · obtain ⟨rfl, rfl⟩ := Prod.mk.inj ran
        obtain ⟨batches, sends⟩ := Sends.interrupted queues captured quiet waited
        exact ⟨[], batches, sends⟩
      · obtain ⟨captured', -⟩ := wait_silent queues captured quiet waited
        obtain ⟨data, read, -, received⟩ := bind_eq_ok.mp waited
        obtain ⟨departures, later, sends⟩ := ih captured' (receive_quiet received) ran
        obtain ⟨batches, sends'⟩ := sends.waiting queues captured quiet waited
        exact ⟨departures, batches, sends'⟩
    · have law := queues.data before.connection.core streamId
        ((content.drop offset).take (stop - offset)) (stop = content.length)
      rw [sent, bind_apply] at ran
      rcases exchanged : (do
          callH2 packages (Outcall.data streamId ((content.drop offset).take (stop - offset))
            (stop = content.length)).method
          flush : SessionM κ δ Unit) before with ⟨raised | value, middle⟩ <;>
        rw [exchanged] at ran
      · obtain ⟨rfl, rfl⟩ := Prod.mk.inj ran
        refine Sends.broken fits exchanged ?_
        -- The part may have been handed over before the write raised.
        rcases exchange_cases law (by simp) exchanged with ⟨queued, rfl, handed⟩ | ⟨-, unsent⟩
        · rw [quiet, nil_append] at handed
          exact .inl handed
        · exact .inr unsent
      · rcases exchange_cases law (by simp) exchanged with
          ⟨queued, rfl, handed⟩ | ⟨⟨raised, failed⟩, -⟩
        · rw [quiet, nil_append] at handed
          have captured' : Capturing middle := by
            have same := (outbound.within_bind (outbound_callH2 _) fun _ =>
              outbound_flush).reached exchanged
            rw [Capturing, same.capture]
            exact captured
          obtain ⟨departures, later, sends⟩ := ih captured' (exchange_quiet exchanged) ran
          -- What is left behind the part begins where the part stopped.
          have length : ((content.drop offset).take (stop - offset)).length = stop - offset := by
            rw [length_take, length_drop]
            omega
          have onward : (content.drop offset).drop
              ((content.drop offset).take (stop - offset)).length = content.drop stop := by
            rw [length, drop_drop]
            congr 1
            omega
          rw [← onward] at sends
          exact ⟨_, _, sends.sending fits exchanged handed⟩
        · cases failed

/-! ### The number of turns -/

/-- Receiving a chunk reads nothing further. -/
theorem receive_reads (ran : receive packages data before = (.ok (), after)) :
    after.transport.reads = before.transport.reads := by
  obtain ⟨-, -, reached, looped, flushed, -⟩ := receive_returned ran
  exact (outbound_flush.reached flushed).reads.trans (advance_receiveLoop.reached looped).reads

/-! ### The whole response -/

/-- A response is sent from where it is announced. -/
theorem sendResponse_eq {headers : Dict Bytes Bytes}
    (running : checkCancelled state = (.ok (), state))
    (captured : state.capture.streamId = some streamId) (ready : state.requestReady = true) :
    sendResponse packages content headers statusCode state =
      ((do
        callH2 packages (Outcall.headers streamId (responseFields content headers statusCode)
          (responseContent content headers statusCode = [])).method
        flush) >>= fun _ => get >>= fun self =>
          sendLoop packages streamId (responseContent content headers statusCode)
            ((responseContent content headers statusCode).length +
              self.transport.reads.length + 1) 0) state := by
  simp only [sendResponse, bind_apply, running, get_apply, captured]
  rw [raiseIf_neg (by simp [ready]), pure_apply]
  exact (congrFun (bind_assoc_eq _ _ _) state).symm

/-- A response that is not announced raises, and changes nothing. -/
theorem sendResponse_cases (packages : Packages κ δ) (content : Bytes) (headers : Dict Bytes Bytes)
    (statusCode : Nat) (state : HTTP2Session κ δ) :
    (∃ raised, sendResponse packages content headers statusCode state = (.error raised, state)) ∨
    ∃ streamId, state.capture.streamId = some streamId ∧ state.requestReady = true ∧
      checkCancelled state = (.ok (), state) := by
  rcases checkCancelled_cases state with ⟨-, -, passed⟩ | ⟨raised, failed⟩
  · cases captured : state.capture.streamId with
    | none =>
      refine .inl ⟨.other "No complete HTTP/2 request", ?_⟩
      simp only [sendResponse, bind_apply, passed, get_apply, captured, throw_apply]
    | some streamId =>
      cases ready : state.requestReady with
      | true => exact .inr ⟨streamId, rfl, rfl, passed⟩
      | false =>
        refine .inl ⟨.other "No complete HTTP/2 request", ?_⟩
        simp only [sendResponse, bind_apply, passed, get_apply, captured]
        rw [raiseIf_pos (by simp [ready]), throw_apply]
  · refine .inl ⟨raised, ?_⟩
    simp only [sendResponse, bind_apply, failed]

/-- A block is not empty. -/
theorem block_visible {endStream : Bool} (queued : List WireFrame)
    (block : H2.IsBlock streamId endStream queued) : queued ≠ [] := by
  obtain ⟨first, rest, rfl, -⟩ := block
  exact cons_ne_nil _ _

/--
A response leaves as its fields and then the parts of its content, each as the peer allows.

Whatever way the call ends, the parts that left are the beginning of the content, and END_STREAM
is on the frame that completes it. A call that returns has sent everything.
-/
theorem sendResponse_exact (queues : packages.h2.Queues) {raised : Bool}
    {before after : HTTP2Session κ δ} {outcome : Except Exn Unit} (run : Run packages raised before)
    (content : Bytes) (headers : Dict Bytes Bytes) (statusCode : Nat)
    (ran : sendResponse packages content headers statusCode before = (outcome, after)) :
    ∃ departures,
      Response packages (before.capture.streamId.getD 0)
        (responseFields content headers statusCode) (responseContent content headers statusCode)
        before departures after ∧
      (∀ frame ∈ before.connection.outgoing,
        frame.type ≠ FrameType.data.code ∧ H2.endsStream frame = false) ∧
      departures.flatMap Departure.part <+: responseContent content headers statusCode ∧
      (∀ older departure newer, departures = older ++ departure :: newer →
        Fits packages (before.capture.streamId.getD 0)
          ((responseContent content headers statusCode).drop
            (older.flatMap Departure.part).length) departure) ∧
      (outcome = .ok () → before.transport.written ≠ after.transport.written ∧
        departures.flatMap Departure.part = responseContent content headers statusCode) ∧
      ((responseFields content headers statusCode).filter
        fun field => field.1 = ascii "content-length").map Prod.snd =
        (if bodiless statusCode then []
          else [decimalOctets (responseContent content headers statusCode).length]) ∧
      responseContent content headers statusCode =
        if bodiless statusCode then [] else content := by
  have unanswered := run.unanswered queues
  have declared := contentLength_declared content headers statusCode
  have prepared := responseContent_eq content headers statusCode
  -- It is enough to know the response and how its content was cut.
  suffices sent : ∃ departures,
      Response packages (before.capture.streamId.getD 0)
        (responseFields content headers statusCode) (responseContent content headers statusCode)
        before departures after ∧
      Cuts packages (before.capture.streamId.getD 0)
        (responseContent content headers statusCode) departures ∧
      (outcome = .ok () → before.transport.written ≠ after.transport.written ∧
        departures.flatMap Departure.part = responseContent content headers statusCode) by
    obtain ⟨departures, response, cuts, whole⟩ := sent
    exact ⟨departures, response, unanswered, cuts.concatenates, fun _ _ _ split => cuts.fits split,
      whole, declared, prepared⟩
  rcases sendResponse_cases packages content headers statusCode before with
    ⟨error, failed⟩ | ⟨streamId, captured, ready, running⟩
  · rw [failed] at ran
    obtain ⟨rfl, rfl⟩ := Prod.mk.inj ran
    exact ⟨[], .unsent rfl, .none _, fun returned => by cases returned⟩
  · rw [captured, Option.getD_some]
    rw [sendResponse_eq running captured ready] at ran
    generalize responseContent content headers statusCode = sent,
      responseFields content headers statusCode = fields at ran
    have law := queues.headers before.connection.core streamId fields (sent = [])
    rw [bind_apply] at ran
    rcases announced : (do
        callH2 packages (Outcall.headers streamId fields (sent = [])).method
        flush : SessionM κ δ Unit) before with ⟨error | value, opened⟩ <;>
      rw [announced] at ran
    · -- The fields were not sent, or nothing follows them.
      obtain ⟨rfl, rfl⟩ := Prod.mk.inj ran
      rcases exchange_cases law block_visible announced with ⟨block, headed, first⟩ | ⟨-, unsent⟩
      · exact ⟨[], .sent announced headed first (.rests opened) (append_nil _).symm rfl,
          .none _, fun returned => by cases returned⟩
      · exact ⟨[], .unsent unsent, .none _, fun returned => by cases returned⟩
    · rcases exchange_cases law block_visible announced with
        ⟨block, headed, first⟩ | ⟨⟨error, failed⟩, -⟩
      · have captured' : Capturing opened := by
          have same := (outbound.within_bind (outbound_callH2 _) fun _ =>
            outbound_flush).reached announced
          rw [Capturing, same.capture, captured]
          rfl
        obtain ⟨departures, later, sends⟩ :=
          sendLoop_sends queues _ captured' (exchange_quiet announced) ran
        rw [drop_zero] at sends
        refine ⟨departures, .sent announced headed first sends.turns sends.rest sends.only,
          sends.cuts, fun returned => ⟨?_, sends.whole returned⟩⟩
        -- At least the fields were written.
        rw [sends.rest, first]
        intro same
        have lengths := congrArg List.length same
        simp only [length_append, length_singleton] at lengths
        omega
      · cases failed

/-- The answer to the request for the root page leaves whole. -/
theorem sendResponse_exact_responded :
    ∃ departures : List (Departure Reference.Core Unit),
      Response referencePackages (requested.capture.streamId.getD 0)
        (responseFields (ascii "hi") [] 200) (responseContent (ascii "hi") [] 200)
        requested departures responded ∧
      departures.flatMap Departure.part = ascii "hi" := by
  have queues : referencePackages.h2.Queues := reference_queues
  have returned : ((Call.sendResponse (ascii "hi") [] 200).perform referencePackages
      requested).1 = .ok () := by decide +kernel
  have ran : (Call.sendResponse (ascii "hi") [] 200).perform referencePackages
      requested = (.ok (), responded) := by
    rw [responded, ← returned]
  rw [Call.perform] at ran
  obtain ⟨departures, response, -, -, -, whole, -⟩ :=
    sendResponse_exact queues run_requested (ascii "hi") [] 200 ran
  refine ⟨departures, response, ?_⟩
  rw [(whole rfl).2]
  decide

end SolveTls.HTTP2Session
