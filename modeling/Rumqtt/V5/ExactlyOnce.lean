/-
**Incoming QoS 2 publishes are shown once.**

Answering a QoS 2 publish with PUBREC opens an exchange, which the PUBREL for its identifier closes.
A session reset closes it too, and so does restoring a checkpoint that does not list it; a lost
connection does not. `qos2_exactly_once`: whatever else is requested and received while an exchange
is open, the application has been shown one publish of it. `qos2_hidden_after_restart`: checkpoints
list the open exchanges.

A publish counts as shown once its event is queued. `EventLoop::clean` drops the events that have not
been polled when the connection is lost, so "shown once" bounds what the application sees from above.
-/

import Rumqtt.V5.Inbound

namespace Rumqtt.V5

open MqttState List FixedBitSet

/-- The QoS 2 publishes with an identifier among those shown to the application. -/
def deliveries (pkid : PacketId) (s : MqttState) : List Publish :=
  s.shown.filter fun publish => publish.qos = .exactlyOnce ∧ publish.pkid = pkid

/-- What a QoS 2 publish adds to those shown: itself, unless its exchange was open. -/
def DeliveredOnce (publish : Publish) (s t : MqttState) : Prop :=
  if publish.pkid.toNat ∈ s.incomingPubrec
  then deliveries publish.pkid t = deliveries publish.pkid s
  else ∃ topic, deliveries publish.pkid t = deliveries publish.pkid s ++ [{ publish with topic }]

/-- A publish that is not shown: it is answered with PUBREC, or the connection is given up. -/
def HiddenAgain (s : MqttState) (publish : Publish) : Prop :=
  ∃ answer t, (handleIncomingPacketWithEffects (.publish publish)).run s =
      .ok (.ok { outgoing := some answer }, t) ∧ t.shown = s.shown ∧
    (answer = .pubRec { pkid := publish.pkid } ∨ ∃ reason, answer = .disconnect reason)

/-- The operations that close the exchange of an identifier. -/
def Op.ClosesExchange (pkid : PacketId) : Op → Prop
  | .incoming (.pubRel pubrel) => pubrel.pkid = pkid
  | .resetSession => True
  | .restore _ session => pkid ∉ session.incomingQos2
  | _ => False

variable {s t : MqttState} {pkid : PacketId}

/-! ### What keeps an exchange open -/

namespace MqttState

theorem Requested.exchange {request : Request} {replay : Bool} {notice : Option TrackedNotice}
    {result : RequestResult} (requested : Requested s notice request replay result t)
    (opened : pkid.toNat ∈ s.incomingPubrec) : pkid.toNat ∈ t.incomingPubrec := by
  cases requested with
  | pubrec => exact (mem_growAndInsert ..).mpr (.inr opened)
  | pubrecFailure pubrec _ _ unsent =>
    refine (mem_remove ..).mpr ⟨fun same => unsent ?_, opened⟩
    rwa [← same]
  | _ => exact opened

theorem pubrec_maybeShrink (s : MqttState) :
    s.maybeShrinkOutgoingTrackingCapacity.incomingPubrec = s.incomingPubrec := by
  unfold maybeShrinkOutgoingTrackingCapacity
  dsimp only
  split <;> rfl

theorem Settled.pubrec {id : PacketId} {outgoing : Option Packet}
    (settled : Settled s id outgoing t) : t.incomingPubrec = s.incomingPubrec := by
  cases settled with
  | unparked => rfl
  | quiet => rw [pubrec_maybeShrink]

theorem Dispatched.exchange {packet : Packet} {result : DispatchResult}
    (dispatched : Dispatched s packet result t)
    (others : ¬ (Op.incoming packet).ClosesExchange pkid)
    (opened : pkid.toNat ∈ s.incomingPubrec) : pkid.toNat ∈ t.incomingPubrec := by
  cases dispatched with
  | publish _ _ _ _ _ _ outcome =>
    cases outcome with
    | qos2Answered => exact (mem_growAndInsert ..).mpr (.inr opened)
    | _ => exact opened
  | pubrel pubrel =>
    refine (mem_remove ..).mpr ⟨fun same => others ?_, opened⟩
    exact (UInt16.toNat_inj.mp same).symm
  | puback _ _ _ _ _ settled | pubrecFailed _ _ _ _ _ _ settled | pubcomp _ _ _ _ _ settled =>
    rw [settled.pubrec]
    exact opened
  | _ => exact opened

/-- **A publish of an open exchange is hidden.** -/
theorem Handled.hidden_again {publish : Publish} {result : PacketResult}
    (handled : Handled s (.publish publish) result t) (qos : publish.qos = .exactlyOnce)
    (opened : publish.pkid.toNat ∈ s.incomingPubrec) : t.shown = s.shown := by
  have again : s.isDuplicateIncomingQos2Publish (.publish publish) = true := by
    simp [isDuplicateIncomingQos2Publish, qos, opened]
  cases handled with
  | shown _ _ _ _ visible =>
    rw [again, Bool.or_true] at visible
    cases visible
  | hidden _ _ _ dispatched => exact dispatched.events.publishesIn
  | errorShown _ _ _ visible => cases visible
  | errorHidden _ _ dispatched => exact dispatched.events.publishesIn

theorem Handled.deliveries_eq {packet : Packet} {result : PacketResult}
    (handled : Handled s packet result t) (opened : pkid.toNat ∈ s.incomingPubrec) :
    deliveries pkid t = deliveries pkid s := by
  by_cases other : ∀ publish, packet ≠ .publish publish
  · exact congrArg (filter _) (handled.quieter other).shown
  · push Not at other
    obtain ⟨publish, rfl⟩ := other
    by_cases again : publish.qos = .exactlyOnce ∧ publish.pkid = pkid
    · obtain ⟨qos, rfl⟩ := again
      exact congrArg (filter _) (handled.hidden_again qos opened)
    · cases handled.answered with
      | wrongAlias _ _ _ _ _ hidden => exact congrArg (filter _) hidden
      | resolved topic _ _ _ _ _ shown =>
        rcases shown with hidden | ⟨_, added⟩
        · exact congrArg (filter _) hidden
        · unfold deliveries
          rw [added, filter_append, filter_singleton]
          simp [again]

/-- **A publish answered with PUBREC is shown and opens an exchange**, unless it is open. -/
theorem Handled.opens {publish : Publish} {ack : PubRec}
    (handled : Handled s (.publish publish) (.ok { outgoing := some (.pubRec ack) }) t)
    (fresh : publish.pkid.toNat ∉ s.incomingPubrec) : publish.pkid.toNat ∈ t.incomingPubrec ∧
      publish.qos = .exactlyOnce ∧ ∃ topic, t.shown = s.shown ++ [{ publish with topic }] := by
  have first : s.isDuplicateIncomingQos2Publish (.publish publish) = false := by
    simp [isDuplicateIncomingQos2Publish, fresh]
  cases handled with
  | shown _ _ _ dispatched =>
    cases dispatched with
    | publish _ topic _ _ _ _ outcome =>
      have shown := shown_queuePublish outcome.events { publish with topic }
      cases outcome with
      | qos2Answered qos => exact ⟨(mem_growAndInsert ..).mpr (.inl rfl), qos, topic, shown⟩
      | qos2Again _ sent => exact absurd sent fresh
  | hidden _ _ _ dispatched suppressed =>
    rw [first, Bool.or_false] at suppressed
    cases dispatched with
    | publish => cases suppressed

theorem Sound.hiddenAgain {pool : List Request} {publish : Publish} (sound : s.Sound pool)
    (qos : publish.qos = .exactlyOnce) (opened : publish.pkid.toNat ∈ s.incomingPubrec) :
    HiddenAgain s publish := by
  obtain ⟨result, t, ran, handled⟩ := sound.handleIncoming_run (.publish publish)
  have answered : ∃ answer, result = .ok { outgoing := some answer } ∧
      (answer = .pubRec { pkid := publish.pkid } ∨ ∃ reason, answer = .disconnect reason) := by
    obtain ⟨_, _, _, _, dispatched, rfl, _⟩ := handled.dispatched
    cases dispatched with
    | rejected _ _ refusable | failed _ _ _ _ refusable => exact refusable.elim
    | refused => exact ⟨_, rfl, .inr ⟨_, rfl⟩⟩
    | publish _ _ _ _ _ _ outcome =>
      cases outcome with
      | exceeded => exact ⟨_, rfl, .inr ⟨_, rfl⟩⟩
      | qos2Again => exact ⟨_, rfl, .inl rfl⟩
      | qos2 _ _ unsent | qos2Answered _ _ unsent => exact absurd opened unsent
      | qos0 other | qos1 other | qos1Answered other => cases qos.symm.trans other
  obtain ⟨answer, rfl, which⟩ := answered
  exact ⟨answer, t, ran, handled.hidden_again qos opened, which⟩

end MqttState

/-- An exchange is open, and so many publishes of it have been shown. -/
structure Exchanging (pkid : PacketId) (seen : List Publish) (d : Driver) : Prop where
  healthy : d.Healthy
  opened : pkid.toNat ∈ d.state.incomingPubrec
  seen : deliveries pkid d.state = seen

theorem Exchanging.step {d : Driver} {seen : List Publish} (op : Op)
    (others : ¬ op.ClosesExchange pkid) (exchanging : Exchanging pkid seen d) :
    (d.step op).Satisfies Driver.Excused (Exchanging pkid seen) := by
  obtain ⟨healthy, opened, rfl⟩ := exchanging
  refine (healthy.step_cases op).mono fun after ⟨stepped, healthy'⟩ => ?_
  suffices pkid.toNat ∈ after.state.incomingPubrec ∧
      deliveries pkid after.state = deliveries pkid d.state from ⟨healthy', this.1, this.2⟩
  cases stepped with
  | requested _ requested | replayed _ _ requested =>
    rw [Driver.state_afterRequest]
    exact ⟨requested.exchange opened, congrArg (filter _) requested.quieter.shown⟩
  | received _ handled =>
    rw [Driver.state_afterPacket]
    refine ⟨?_, handled.deliveries_eq opened⟩
    obtain ⟨_, _, _, _, dispatched, _, rfl⟩ := handled.dispatched
    exact dispatched.exchange others opened
  | lost =>
    refine ⟨?_, congrArg (filter _) d.lost_quieter.shown⟩
    show pkid.toNat ∈ d.state.afterClean.incomingPubrec
    unfold afterClean
    split
    · rwa [pubrec_maybeShrink]
    · exact opened
  | reset => exact absurd trivial others
  | restored =>
    refine ⟨(mem_foldl_growAndInsert ..).mpr (.inr ?_), rfl⟩
    exact mem_map_of_mem (not_not.mp others)
  | shrunk =>
    exact ⟨by rwa [pubrec_maybeShrink], congrArg (filter _) (shown_maybeShrink _)⟩
  | absent | forgotten | unrestored | kept => exact ⟨opened, rfl⟩

theorem Exchanging.run {d : Driver} {seen : List Publish} (ops : List Op)
    (others : ∀ op ∈ ops, ¬ op.ClosesExchange pkid) (exchanging : Exchanging pkid seen d) :
    (runSteps Driver.step d ops).Satisfies Driver.Excused (Exchanging pkid seen) := by
  induction ops generalizing d with
  | nil => exact exchanging
  | cons op ops ih =>
    obtain ⟨here, later⟩ := forall_mem_cons.mp others
    rw [runSteps_cons]
    exact (exchanging.step op here).bind fun after => ih later

/-- **Exactly once.** In any run, let a publish be answered with PUBREC, and let none of the later
operations close its exchange. If the publish opened the exchange, it is the one publish shown
since; if the exchange was open before, none is shown. Every further publish of the exchange is hidden and
answered with PUBREC, unless the connection is given up. -/
theorem qos2_exactly_once (options : StateOptions) (earlier later : List Op) (publish : Publish)
    (ack : PubRec) {d : Driver} (reached : runSteps Driver.step (.new options) earlier = .ok d)
    (answered : (handleIncomingPacketWithEffects (.publish publish)).run d.state =
      .ok (.ok { outgoing := some (.pubRec ack) }, t))
    (others : ∀ op ∈ later, ¬ op.ClosesExchange publish.pkid) :
    (runSteps Driver.step d (.incoming (.publish publish) :: later)).Satisfies Driver.Excused
      fun after => DeliveredOnce publish d.state after.state ∧
        ∀ again : Publish, again.qos = .exactlyOnce → again.pkid = publish.pkid →
          HiddenAgain after.state again := by
  have healthy : d.Healthy := by
    have kept := Driver.healthy_run options earlier
    rwa [reached] at kept
  rw [runSteps_cons]
  refine (healthy.step_cases _).bind fun first ⟨stepped, healthy'⟩ => ?_
  cases stepped with
  | received ran handled =>
    cases ran.symm.trans answered
    have started : publish.pkid.toNat ∈ t.incomingPubrec ∧ DeliveredOnce publish d.state t := by
      unfold DeliveredOnce
      split
      · rename_i opened
        refine ⟨?_, handled.deliveries_eq opened⟩
        obtain ⟨_, _, _, _, dispatched, _, rfl⟩ := handled.dispatched
        exact dispatched.exchange id opened
      · rename_i fresh
        obtain ⟨opened, qos, topic, shown⟩ := handled.opens fresh
        refine ⟨opened, topic, ?_⟩
        unfold deliveries
        rw [shown, filter_append, filter_singleton]
        simp [qos]
    rw [← Driver.state_afterPacket d (.publish publish) (.ok { outgoing := some (.pubRec ack) }) t]
      at started
    refine (Exchanging.run later others ⟨healthy', started.1, rfl⟩).mono fun after exchanging => ?_
    refine ⟨?_, fun again qos same => ?_⟩
    · unfold DeliveredOnce at started ⊢
      rw [exchanging.seen]
      exact started.2
    · obtain ⟨live, stale, _, sound, _⟩ := exchanging.healthy
      exact sound.hiddenAgain qos (same ▸ exchanging.opened)

/-- A publish that comes again on the next connection. -/
theorem qos2_exactly_once_redelivered :
    let redelivered : Publish := ⟨true, .exactlyOnce, false, [97], 1, [], none⟩
    (runSteps Driver.step (.new { maxInflight := 10 })
        [.incoming (.publish redelivered), .clean, .incoming (.publish redelivered)]).Satisfies
      Driver.Excused fun d => ∃ topic, deliveries 1 d.state = [{ redelivered with topic }] := by
  intro redelivered
  refine (qos2_exactly_once { maxInflight := 10 } [] [.clean, .incoming (.publish redelivered)]
    redelivered { pkid := 1 } rfl rfl ?_).mono fun after once => once.1
  simp [Op.ClosesExchange]

/-- **An exchange survives a restart.** Let a checkpoint be taken while an exchange is open, and let a
new event loop accept it. A publish of the exchange is hidden there too. -/
theorem qos2_hidden_after_restart (options : StateOptions) (saving restoring : SessionOptions)
    (expiry : Option UInt32) (requests : List Request) (publish : Publish)
    (qos : publish.qos = .exactlyOnce) (opened : publish.pkid.toNat ∈ s.incomingPubrec)
    {session : PersistedSession} {replays : List Request}
    (checkpoint : s.persistedSession saving expiry requests = .ok session)
    (accepted : (newInternal options).restorePersistedSession restoring session =
      .ok (.ok replays, t)) : HiddenAgain t publish := by
  have listed : publish.pkid ∈ session.incomingQos2 := by
    obtain ⟨_, _, built⟩ := Checked.bind_ok.mp checkpoint
    cases built
    refine mem_map.mpr ⟨_, mem_filter.mpr ⟨opened, ?_⟩, UInt16.ofNat_toNat⟩
    exact decide_eq_true publish.pkid.toNat_lt
  rcases (sound_new options).restore_cases restoring session with ⟨_, ran⟩ | ⟨restorable, ran⟩
  · cases ran.symm.trans accepted
  · cases ran.symm.trans accepted
    refine (sound_restoredFrom _ restorable).hiddenAgain qos ?_
    exact (mem_foldl_growAndInsert ..).mpr (.inr (mem_map_of_mem listed))

theorem qos2_hidden_after_restart_saved :
    let new := newInternal { maxInflight := 10 }
    let options : SessionOptions := ⟨"c", false, none, .automatic⟩
    ∃ session t, (new.withIncomingQos2 [1]).persistedSession options none [] = .ok session ∧
      new.restorePersistedSession options session = .ok (.ok [], t) ∧
      HiddenAgain t ⟨true, .exactlyOnce, false, [97], 1, [], none⟩ := by
  intro new options
  refine ⟨_, _, rfl, rfl, ?_⟩
  exact qos2_hidden_after_restart (s := new.withIncomingQos2 [1]) { maxInflight := 10 } options
    options none [] _ rfl (by decide) rfl rfl

end Rumqtt.V5
