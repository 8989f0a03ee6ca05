/-
**The MQTT 5 readers on untrusted bytes.**

No reader of a packet panics on any frame, and the only frames that make one report missing bytes are
those that end inside a variable byte integer (`CutFrame`): a property length, or the identifier of a
subscription. `reports_readWhole` says so of all of them.

`Packet.read_spec` is the consequence for a stream. Either `check` refuses, and the stream is as it
was, or the announced frame is taken off, and the result is that of its reader on the frame alone.
-/

import Rumqtt.V5.Codec.Cuts

namespace Rumqtt.V5

open Mqttbytes Handler Reader

variable {stream : Bytes} {limit : Option UInt32} {header : FixedHeader}

/-! ### Errors of the checks -/

theorem plain_qosLevel (num : UInt8) : Plain (qosLevel num) := by
  unfold qosLevel
  split <;> simp

theorem plain_validateMqttString (bytes : Bytes) :
    Plain ((validateMqttString bytes).mapError ofPrimitive) := by
  cases checked : validateMqttString bytes with
  | ok string => exact plain_ok string
  | error primitive =>
    exact plain_error.mpr (Complete.admits primitive (validateMqttString_error checked) [])

theorem plain_validatePublishTopicName (topic : Bytes) : Plain (validatePublishTopicName topic) := by
  have text := plain_validateMqttString topic
  unfold validatePublishTopicName
  cases checked : (validateMqttString topic).mapError (ofPrimitive (ε := Error)) with
  | error other =>
    rw [checked] at text
    exact plain_error.mpr (plain_error.mp text)
  | ok string => exact plain_ite.mpr ⟨fun _ => by simp, fun _ => plain_ok ()⟩

section

variable (value : UInt8)

theorem plain_pubAckReason : Plain (pubAckReason value) := by
  unfold pubAckReason
  split <;> simp

theorem plain_pubRelReason : Plain (pubRelReason value) := by
  unfold pubRelReason
  split <;> simp

theorem plain_subscribeReason : Plain (subscribeReason value) := by
  unfold subscribeReason
  split <;> simp

theorem plain_unsubAckReason : Plain (unsubAckReason value) := by
  unfold unsubAckReason
  split <;> simp

theorem plain_forwardRule : Plain (forwardRule value) := by
  unfold forwardRule
  split <;> simp

theorem plain_connectReturn : Plain (connectReturn value) := by
  unfold connectReturn
  split <;> simp

theorem plain_disconnectReason : Plain (disconnectReason value) := by
  unfold disconnectReason
  split <;> simp

theorem plain_authReason : Plain (authReason value) := by
  unfold authReason
  split <;> simp

end

theorem plain_packetType (header : FixedHeader) : Plain (packetType header) := by
  unfold packetType
  split <;> simp

theorem plain_validateFixedHeaderFlags (type : PacketType) (byte1 : UInt8) :
    Plain (validateFixedHeaderFlags type byte1) := by
  unfold validateFixedHeaderFlags
  split <;> simp

/-! ### The packets -/

/-- The reader of a frame that was split off the stream. -/
def Packet.readWhole (header : FixedHeader) : FrameReader Packet := do
  let type ← ofExcept (packetType header)
  ofExcept (validateFixedHeaderFlags type header.byte1)
  Packet.readFrame header type

section Packets

variable {frame : Bytes}

theorem quiet_u8 : Steady Complete (readU8 : FrameReader UInt8) := steady_u8 Complete.admits

theorem quiet_u16 : Steady Complete (readU16 : FrameReader UInt16) :=
  steady_u16 Complete.admits

theorem quiet_bytes : Steady Complete (readMqttBytes : FrameReader Bytes) :=
  steady_mqttBytes Complete.admits

theorem quiet_string : Steady Complete (readMqttString : FrameReader String) :=
  steady_mqttString Complete.admits

theorem quiet_check {α : Type} {result : Except Error α} (plain : Plain result) :
    Steady Complete (ofExcept result : FrameReader α) :=
  .ofExcept fun _ failed _ => plain.error failed

theorem quiet_failIf {condition : Prop} [Decidable condition] {error : Error}
    (plain : ∀ n, error ≠ .insufficientBytes n) :
    Steady Complete (Handler.failIf condition error : FrameReader Unit) := .failIf fun _ => plain

theorem quiet_filter : Steady Complete SubscribeFilter.readOne := by
  refine quiet_string.bind fun path => quiet_u8.bind fun options => ?_
  refine (quiet_failIf fun _ => Error.noConfusion).bind fun _ => ?_
  refine (quiet_check (plain_forwardRule _)).bind fun rule => ?_
  exact (quiet_check (plain_qosLevel _)).bind fun qos => .pure _

theorem quiet_login (connectFlags : UInt8) : Steady Complete (ConnectAuth.read connectFlags) := by
  unfold ConnectAuth.read
  split
  · exact .pure _
  · exact quiet_string.bind fun user => .pure _
  · exact quiet_bytes.bind fun pass => .pure _
  · exact quiet_string.bind fun user => quiet_bytes.bind fun pass => .pure _

section

variable (enough : header.headerLen ≤ frame.length)
include enough

theorem reports_publish :
    Reports (CutBody header (frame.drop header.headerLen) .publish)
      ((Publish.read header).run ⟨frame, []⟩) := by
  have level : Plain ((qosLevel ((header.byte1 &&& 0x06) >>> 1)).mapError fun _ => .malformedPacket) := by
    cases qosLevel ((header.byte1 &&& 0x06) >>> 1) <;> simp [Except.mapError]
  refine .check level fun qos read => ?_
  refine .failIf (fun _ => Error.noConfusion) (.advance enough fun s₁ body => ?_)
  refine .bind (.never quiet_bytes) fun topic s₂ readTopic => ?_
  refine .check (plain_validatePublishTopicName _) fun _ _ => ?_
  refine .bind (.never ?_) fun pkid s₃ readId => ?_
  · cases qos with
    | atMostOnce => exact .pure 0
    | atLeastOnce | exactlyOnce => exact quiet_u16
  refine .failIf (fun _ => Error.noConfusion) ?_
  have ahead := unread_fields read body readTopic readId
  refine .bind ?_ fun properties u _ => .never (Steady.takeAll.bind fun payload => .pure _)
  refine (PropertyTable.reports_read PublishProperties.plain).mono fun cut => ?_
  rwa [ahead] at cut

theorem reports_ack {Reason : Type} [DecidableEq Reason] (kind : AckKind Reason)
    (plain : ∀ value, Plain (kind.reason value)) :
    Reports (4 ≤ header.remainingLen ∧ Unterminated ((frame.drop header.headerLen).drop 3))
      ((kind.read header).run ⟨frame, []⟩) := by
  refine .advance enough fun s₁ body => .bind (.never quiet_u16) fun pkid s₂ readId => ?_
  refine .failIf (fun _ => Error.noConfusion) ?_
  split
  · exact .never (.pure _)
  refine .bind (.never quiet_u8) fun ackReason s₃ readReason => ?_
  split
  · exact .never ((quiet_check (plain _)).bind fun reason => .pure _)
  · rename_i long
    refine .bind ?_ fun properties u _ => .never ((quiet_check (plain _)).bind fun reason => .pure _)
    refine (PropertyTable.reports_read_without AckProperties.plain fun _ => nofun).mono
      fun cut => ⟨by omega, ?_⟩
    have behind : s₃.unread = ((frame.drop header.headerLen).drop 2).drop 1 := by
      rw [← body, ← unread_u16 readId, unread_u8 readReason]
      rfl
    rwa [behind, List.drop_drop] at cut

theorem reports_codes {Code : Type} (kind : CodesKind Code)
    (plain : ∀ value, Plain (kind.reason value)) :
    Reports (Unterminated ((frame.drop header.headerLen).drop 2))
      ((kind.read header).run ⟨frame, []⟩) := by
  have code : Steady Complete kind.readCode := quiet_u8.bind fun _ => quiet_check (plain _)
  refine .advance enough fun s₁ body => .bind (.never quiet_u16) fun pkid s₂ readId => ?_
  refine .failIf (fun _ => Error.noConfusion) (.bind ?_ fun properties u _ => .never ?_)
  · rw [← body, ← unread_u16 readId]
    exact PropertyTable.reports_read_without AckProperties.plain_once fun _ => nofun
  · refine Steady.peek.bind fun bytes => (quiet_failIf fun _ => Error.noConfusion).bind fun _ => ?_
    exact (Steady.whileRemaining code).bind fun codes => .pure _

theorem reports_subscribe :
    Reports (CutBody header (frame.drop header.headerLen) .subscribe)
      ((Subscribe.read header).run ⟨frame, []⟩) := by
  refine .advance enough fun s₁ body => .bind (.never quiet_u16) fun pkid s₂ readId => ?_
  refine .failIf (fun _ => Error.noConfusion) (.bind ?_ fun properties u _ => .never ?_)
  · show Reports (behindBlock ((frame.drop header.headerLen).drop 2) = none) _
    rw [← body, ← unread_u16 readId]
    exact PropertyTable.reports_read SubscribeProperties.plain
  · refine (Steady.whileRemaining quiet_filter).bind fun filters => ?_
    exact (quiet_failIf fun _ => Error.noConfusion).bind fun _ => .pure _

theorem reports_unsubscribe :
    Reports (Unterminated ((frame.drop header.headerLen).drop 2))
      ((Unsubscribe.read header).run ⟨frame, []⟩) := by
  refine .advance enough fun s₁ body => .bind (.never quiet_u16) fun pkid s₂ readId => ?_
  refine .failIf (fun _ => Error.noConfusion) (.bind ?_ fun properties u _ => .never ?_)
  · rw [← body, ← unread_u16 readId]
    exact PropertyTable.reports_read_without UnsubscribeProperties.plain fun _ => nofun
  · refine (Steady.whileRemaining quiet_string).bind fun filters => ?_
    exact (quiet_failIf fun _ => Error.noConfusion).bind fun _ => .pure _

theorem reports_connAck :
    Reports (Unterminated ((frame.drop header.headerLen).drop 2))
      ((ConnAck.read header).run ⟨frame, []⟩) := by
  refine .advance enough fun s₁ body => .bind (.never quiet_u8) fun flags s₂ readFlags => ?_
  refine .failIf (fun _ => Error.noConfusion) ?_
  refine .bind (.never quiet_u8) fun returnCode s₃ readCode => ?_
  refine .check (plain_connectReturn _) fun code _ => ?_
  refine .failIf (fun _ => Error.noConfusion) (.bind ?_ fun properties u _ => .never (.pure _))
  rw [← body, unread_u8 readFlags, unread_u8 readCode]
  exact PropertyTable.reports_read_without ConnAckProperties.plain fun _ => nofun

theorem reports_disconnect :
    Reports (Unterminated ((frame.drop header.headerLen).drop 1))
      ((Disconnect.read header).run ⟨frame, []⟩) := by
  refine .check (plain_packetType _) fun type _ => .failIf (fun _ => Error.noConfusion) ?_
  refine .failIf (fun _ => Error.noConfusion) (.advance enough fun s₁ body => ?_)
  split
  · exact .never (.pure _)
  refine .bind (.never quiet_u8) fun reasonCode s₂ readReason => ?_
  refine .check (plain_disconnectReason _) fun reason _ => ?_
  refine .bind ?_ fun properties u _ => .never (.pure _)
  rw [← body, unread_u8 readReason]
  exact PropertyTable.reports_read_without DisconnectProperties.plain fun _ => nofun

theorem reports_auth :
    Reports (Unterminated ((frame.drop header.headerLen).drop 1))
      ((Auth.read header).run ⟨frame, []⟩) := by
  refine .advance enough fun s₁ body => .bind (.never quiet_u8) fun reasonCode s₂ readReason => ?_
  refine .check (plain_authReason _) fun reason _ => .bind ?_ fun properties u _ => .never ?_
  · rw [← body, unread_u8 readReason]
    refine .length (fun _ _ ends => ends) fun read found =>
      .advance (length_bounds found).2 fun t _ => .bind (.never .peek) fun bytes u peeked => ?_
    cases peeked
    refine .bind (.never (quiet_failIf fun _ => Error.noConfusion)) fun _ u checked => ?_
    obtain ⟨complete, rfl⟩ := of_run_failIf checked
    split
    · exact .never ((Steady.observe _).bind fun _ => .pure _)
    · have block : (splitTo read.2 : FrameReader Bytes).run t = .ok (.ok (t.unread.take read.2),
          { t with unread := t.unread.drop read.2 }) := if_pos (Nat.le_of_not_lt complete)
      refine .bind ⟨_, _, block, nofun⟩ fun _ v _ => .never ?_
      · refine Steady.bind (.on (AuthProperties.steady_loop _ _) _ fun _ _ other _ => other) fun _ => ?_
        exact (Steady.observe _).bind fun _ => .pure _
  · refine Steady.peek.bind fun bytes => ?_
    exact (quiet_failIf fun _ => Error.noConfusion).bind fun _ => .pure _

omit enough in
/-- The property block of a will. -/
theorem reports_will (connectFlags : UInt8) :
    Reports (connectFlags &&& 0x04 ≠ 0 ∧ Unterminated s.unread)
      ((LastWill.read connectFlags).run s) := by
  unfold LastWill.read
  split
  · exact .never ((quiet_failIf fun _ => Error.noConfusion).bind fun _ => .pure _)
  · rename_i announced
    refine .bind ?_ fun properties t _ => .never ?_
    · exact (PropertyTable.reports_read_without LastWillProperties.plain fun _ => nofun).mono
        fun cut => ⟨announced, cut⟩
    · refine quiet_bytes.bind fun topic => ?_
      refine (quiet_check (plain_validateMqttString _)).bind fun _ => ?_
      refine quiet_bytes.bind fun message => ?_
      exact (quiet_check (plain_qosLevel _)).bind fun qos => .pure _

theorem reports_connect :
    Reports (CutConnect (frame.drop header.headerLen)) ((Connect.read header).run ⟨frame, []⟩) := by
  refine .advance enough fun s₁ body => .bind (.never quiet_string) fun name s₂ readName => ?_
  refine .bind (.never quiet_u8) fun level s₃ readLevel => ?_
  refine .failIf (fun _ => Error.noConfusion) (.failIf (fun _ => Error.noConfusion) ?_)
  refine .bind (.never quiet_u8) fun connectFlags s₄ readFlags => ?_
  refine .failIf (fun _ => Error.noConfusion) ?_
  refine .bind (.never quiet_u16) fun keepAlive s₅ readAlive => ?_
  rw [← body]
  have named : s₁.unread.drop (dataLen s₁.unread) = level :: connectFlags :: s₄.unread := by
    rw [← unread_u8 readFlags, ← unread_u8 readLevel]
    exact (unread_string readName).symm
  have flags : s₁.unread.getD (dataLen s₁.unread + 1) 0 = connectFlags := by
    have second := congrArg (fun bytes => bytes.getD 1 0) named
    simpa [List.getD_eq_getElem?_getD, List.getElem?_drop] using second
  have block : s₁.unread.drop (dataLen s₁.unread + 4) = s₅.unread := by
    rw [← List.drop_drop, named, unread_u16 readAlive]
    rfl
  have without : ConnectProperties.table.NoIdentifier := fun _ => nofun
  unfold CutConnect
  rw [flags, block]
  refine .bind ?_ fun properties s₆ readProperties => ?_
  · exact (PropertyTable.reports_read_without ConnectProperties.plain without).mono .inl
  refine .bind (.never quiet_string) fun clientId s₇ readClient => ?_
  refine .bind ?_ fun will s₈ _ => .never ?_
  · refine (reports_will connectFlags).mono fun ⟨announced, cut⟩ => .inr ⟨announced, s₆.unread, ?_, ?_⟩
    · exact PropertyTable.unread_read without (fun _ => rfl) readProperties
    · rwa [← unread_string readClient]
  · refine (quiet_login connectFlags).bind fun auth => ?_
    refine Steady.peek.bind fun bytes => ?_
    exact (quiet_failIf fun _ => Error.noConfusion).bind fun _ => .pure _

theorem reports_readFrame {type : PacketType} (some_ : header.remainingLen ≠ 0) :
    Reports (CutBody header (frame.drop header.headerLen) type)
      ((Packet.readFrame header type).run ⟨frame, []⟩) := by
  unfold Packet.readFrame
  rw [if_neg some_]
  have wrap : ∀ {α : Type} {cut : Prop} {read : FrameReader α} {next : α → Packet},
      Reports cut (read.run ⟨frame, []⟩) →
        Reports cut ((read >>= fun a => pure (next a)).run ⟨frame, []⟩) :=
    fun head => .bind head fun _ _ _ => .never (.pure _)
  cases type with
  | connect => exact wrap (reports_connect enough)
  | connAck => exact wrap (reports_connAck enough)
  | publish => exact wrap (reports_publish enough)
  | pubAck =>
    refine wrap (.bind ?_ fun _ _ _ => .never (.pure _))
    exact reports_ack enough PubAck.kind plain_pubAckReason
  | pubRec =>
    refine wrap (.bind ?_ fun _ _ _ => .never (.pure _))
    exact reports_ack enough PubRec.kind plain_pubAckReason
  | pubRel =>
    refine wrap (.bind ?_ fun _ _ _ => .never (.pure _))
    exact reports_ack enough PubRel.kind plain_pubRelReason
  | pubComp =>
    refine wrap (.bind ?_ fun _ _ _ => .never (.pure _))
    exact reports_ack enough PubComp.kind plain_pubRelReason
  | subscribe => exact wrap (reports_subscribe enough)
  | subAck =>
    refine wrap (.bind ?_ fun _ _ _ => .never (.pure _))
    exact reports_codes enough SubAck.kind plain_subscribeReason
  | unsubscribe => exact wrap (reports_unsubscribe enough)
  | unsubAck =>
    refine wrap (.bind ?_ fun _ _ _ => .never (.pure _))
    exact reports_codes enough UnsubAck.kind plain_unsubAckReason
  | pingReq => exact .never (.pure _)
  | pingResp => exact .never (.pure _)
  | disconnect => exact wrap (reports_disconnect enough)
  | auth => exact wrap (reports_auth enough)

/-- A frame without a body is not cut. -/
theorem reports_empty {type : PacketType} {cut : Prop} (empty : header.remainingLen = 0) :
    Reports cut ((Packet.readFrame header type).run ⟨frame, []⟩) := by
  have refused : Steady Complete (Handler.fail .payloadRequired : FrameReader Packet) :=
    .fail fun _ _ => Error.noConfusion
  unfold Packet.readFrame
  rw [if_pos empty]
  cases type with
  | pingReq => exact .never (.pure _)
  | pingResp => exact .never (.pure _)
  | disconnect =>
    refine .bind ?_ fun _ _ _ => .never (.pure _)
    refine .check (plain_packetType _) fun type _ => .failIf (fun _ => Error.noConfusion) ?_
    refine .failIf (fun _ => Error.noConfusion) (.advance enough fun t _ => ?_)
    rw [if_pos empty]
    exact .never (.pure _)
  | _ => exact .never refused

/-- **The reader of a frame does not panic, and it reports missing bytes only of a frame that is
cut.** -/
theorem reports_readWhole :
    Reports (CutFrame header frame) ((Packet.readWhole header).run ⟨frame, []⟩) := by
  refine .check (plain_packetType _) fun type known => ?_
  refine .check (plain_validateFixedHeaderFlags _ _) fun _ _ => ?_
  by_cases empty : header.remainingLen = 0
  · exact reports_empty enough empty
  · refine (reports_readFrame enough empty).mono fun cut => ⟨empty, type, ?_, cut⟩
    rw [known]
    rfl

end

end Packets

/-! ### Frames of a stream -/

theorem check_exceeded {max : UInt32} (parsed : parseFixedHeader stream = .ok header)
    (long : exceeded limit header.frameLength = some max) :
    check stream limit = .error (.payloadSizeLimitExceeded header.frameLength max) := by
  simp only [check, parsed, Except.mapError, bind, Except.bind, long]

theorem check_within (parsed : parseFixedHeader stream = .ok header)
    (fits : exceeded limit header.frameLength = none) :
    check stream limit = if stream.length < header.frameLength then
        .error (.insufficientBytes (header.frameLength - stream.length)) else .ok header := by
  simp only [check, parsed, Except.mapError, bind, Except.bind, fits]

theorem check_ok (checked : check stream limit = .ok header) :
    header.frameLength ≤ stream.length ∧ HasHeader header (stream.take header.frameLength) ∧
      exceeded limit header.frameLength = none := by
  cases parsed : parseFixedHeader stream with
  | error error =>
    unfold check at checked
    rw [parsed] at checked
    cases checked
  | ok found =>
    cases fits : exceeded limit found.frameLength with
    | some max =>
      rw [check_exceeded parsed fits] at checked
      cases checked
    | none =>
      rw [check_within parsed fits] at checked
      split_ifs at checked with short
      obtain rfl := Except.ok.inj checked
      have complete := Nat.le_of_not_lt short
      exact ⟨complete, .of_parse parsed complete, fits⟩

theorem check_frame {frame : Bytes} (whole : HasHeader header frame)
    (rest : Bytes) (fits : exceeded limit header.frameLength = none) :
    check (frame ++ rest) limit = .ok header := by
  have long : ¬ (frame ++ rest).length < header.frameLength := by
    rw [List.length_append, whole.length]
    omega
  rw [check_within (whole.parse rest) fits]
  exact if_neg long

namespace Packet

/-- **A stream that starts with a frame**: the frame is taken off, and the result is that of its
reader. -/
theorem run_read {header : FixedHeader} {frame : Bytes} (whole : HasHeader header frame)
    {limit : Option UInt32} (fits : exceeded limit header.frameLength = none)
    {result : Except Error Packet} {t : Input (List Block)}
    (ran : (readWhole header).run ⟨frame, []⟩ = .ok (result, t)) (rest : Bytes) :
    (read limit).run (frame ++ rest) = .ok (result, rest) := by
  unfold read
  refine (run_get_bind _ _).trans ?_
  rw [check_frame whole rest fits]
  refine (run_bind_ok (a := header) rfl).trans ?_
  have cut : (Writer.splitTo header.frameLength : Handler Error Bytes Bytes).run (frame ++ rest) =
      .ok (.ok frame, rest) := by
    rw [← whole.length]
    show (if frame.length ≤ (frame ++ rest).length then _ else _) = _
    rw [if_pos (by simp), List.take_left, List.drop_left]
  refine (run_bind_ok cut).trans ?_
  have tail : (do
      let type ← ofExcept (packetType header)
      ofExcept (validateFixedHeaderFlags type header.byte1)
      on { unread := frame, seen := [] } (readFrame header type) : Handler Error Bytes Packet) =
        on { unread := frame, seen := [] } (readWhole header) := by
    unfold readWhole
    rw [on_ofExcept_bind]
    refine congrArg (ofExcept (packetType header) >>= ·) (funext fun type => ?_)
    rw [on_ofExcept_bind]
  rw [tail]
  exact run_on ran rest

/-- **What reading does to a stream.** Either the check refuses and nothing is taken, or the announced
frame is taken off; the result is then that of the reader on the frame alone, whatever follows it, and
missing bytes are reported only of a frame that is cut. -/
theorem read_spec (limit : Option UInt32) (stream : Bytes) :
    match check stream limit with
    | .error error => (read limit).run stream = .ok (.error error, stream)
    | .ok header => header.frameLength ≤ stream.length ∧
      HasHeader header (stream.take header.frameLength) ∧
      ∃ result t, (readWhole header).run ⟨stream.take header.frameLength, []⟩ = .ok (result, t) ∧
        (∀ others,
          (read limit).run (stream.take header.frameLength ++ others) = .ok (result, others)) ∧
        (read limit).run stream = .ok (result, stream.drop header.frameLength) ∧
        ∀ n, result = .error (.insufficientBytes n) →
          CutFrame header (stream.take header.frameLength) := by
  cases checked : check stream limit with
  | error error =>
    refine (run_get_bind _ _).trans ?_
    rw [checked]
    rfl
  | ok header =>
    obtain ⟨complete, whole, fits⟩ := check_ok checked
    have enough : header.headerLen ≤ (stream.take header.frameLength).length := by
      rw [whole.length]
      exact Nat.le_add_right _ _
    obtain ⟨result, t, ran, missing⟩ := reports_readWhole enough
    have taken := run_read whole fits ran
    refine ⟨complete, whole, result, t, ran, taken, ?_, missing⟩
    have split := taken (stream.drop header.frameLength)
    rwa [List.take_append_drop] at split

end Packet

end Rumqtt.V5
