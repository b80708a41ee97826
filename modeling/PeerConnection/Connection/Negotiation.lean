import PeerConnection.Connection.RemoteSdp

/-!
# A negotiation with an audio section

With an audio section both descriptions work on the transport named "audio".
This file follows one remote description and one offer through the queue, in
either order: the task of each stays queued until it runs, and what it does
stays on the record of the transport that packets are sent through.
-/

namespace PeerConnection.Connection

open PeerConnection.Text
open PeerConnection.Sdp
open PeerConnection.Runs
open PeerConnection.Transport
open PeerConnection.Transport.TransportController

/-! ## Both descriptions applied -/

/-- What a transport has been given by the two descriptions. -/
structure Negotiated (api : TransportApi) (source : OfferSource) (sdp : Bytes)
    (transport : JsepTransport) : Prop where
  localParameters : .setIceParameters source.iceParam ∈ transport.iceCalls
  localCertificate : .setLocalCertificate source.certificate ∈ transport.dtlsCalls
  remoteParameters : .setRemoteIceParameters
    (sectionTransport api kAudio (sdpEntries sdp)).iceParameters ∈ transport.iceCalls
  remoteFingerprint : ∃ print,
    (sectionTransport api kAudio (sdpEntries sdp)).identityFingerprint = some print ∧
      .setRemoteFingerprint print ∈ transport.dtlsCalls

def ConnectionEvent.isDescription : ConnectionEvent → Bool
  | .setRemoteSdp _ _ => true
  | .createOffer _ _ _ _ => true
  | _ => false

/-- The packet that the pacer hands over in this event. -/
def ConnectionEvent.sentPacket? : ConnectionEvent → Option Packet
  | .sendPacket packet => some packet
  | _ => none

def queuedPacket? : Task → Option Packet
  | .sendRtpPacket _ packet => some packet
  | _ => none

/-- From this state on, as long as no description is set, nothing faults and every
packet goes out through this transport, in the order in which the pacer hands
them over. -/
def Delivers (api : TransportApi) (connection : P2pPeerConnection) (owner : TransportId) :
    Prop :=
  ∀ events outcome, events.filter (·.isDescription) = [] →
    run (connectionStep api) connection events = some outcome →
    ∃ after, outcome = .ok after ∧
      (after.network.controller.objects owner).sentRtpPackets ++
          after.network.queue.filterMap queuedPacket? =
        (connection.network.controller.objects owner).sentRtpPackets ++
          events.filterMap (·.sentPacket?) ∧
      ∀ task tasks, after.network.queue = task :: tasks →
        ∃ next, connectionStep api after (.serve task) = some (.ok next)

/-- Once both descriptions have been set, in either order, and nothing is left to
do, the packets of the pacer go out through the transport that has been given the
parameters of both. -/
def PacketsReach (api : TransportApi) (options : RTCOfferAnswerOptions) (streamId : Bytes)
    (source : OfferSource) (sdp : Bytes) : Prop :=
  ∀ remoteCaller localCaller events final,
    events.filter (·.isDescription) ∈
      [[.setRemoteSdp remoteCaller sdp, .createOffer localCaller options streamId source],
        [.createOffer localCaller options streamId source,
          .setRemoteSdp remoteCaller sdp]] →
    run (connectionStep api) {} events = some (.ok final) → final.network.Idle →
    ∃ owner, Negotiated api source sdp (final.network.controller.objects owner) ∧
      Delivers api final owner

/-! ### The audio transport -/

/-- No transport has been created. -/
structure Blank (controller : TransportController) : Prop where
  mapped : controller.transports.Mapped
  nextTransport : controller.nextTransport = 0
  ices : controller.ices[kAudio]? = none
  dtlsTransports : controller.dtlsTransports[kAudio]? = none

/-- The first transport is the audio transport, on all three ways to it. -/
structure Registered (controller : TransportController) : Prop where
  created : 0 < controller.nextTransport
  name : controller.transports.getTransportByName kAudio = some 0
  ices : controller.ices[kAudio]? = some (some 0)
  dtlsTransports : controller.dtlsTransports[kAudio]? = some (some 0)

theorem Blank.of_extends {before after : TransportController} (hblank : Blank before)
    (hextends : Extends before after) : Blank after where
  mapped := by
    rw [hextends.transports]
    exact hblank.mapped
  nextTransport := hextends.nextTransport.trans hblank.nextTransport
  ices := by
    rw [hextends.ices]
    exact hblank.ices
  dtlsTransports := by
    rw [hextends.dtlsTransports]
    exact hblank.dtlsTransports

theorem Registered.of_extends {before after : TransportController}
    (hregistered : Registered before) (hextends : Extends before after) :
    Registered after where
  created := hextends.nextTransport ▸ hregistered.created
  name := by
    rw [hextends.transports]
    exact hregistered.name
  ices := by
    rw [hextends.ices]
    exact hregistered.ices
  dtlsTransports := by
    rw [hextends.dtlsTransports]
    exact hregistered.dtlsTransports

theorem Blank.registerContent {controller : TransportController} (hblank : Blank controller)
    (description : DescriptionId) (desc : SessionDescription) :
    Registered (controller.registerContent description desc kAudio).1 where
  created := Nat.succ_pos _
  name := by
    rw [getTransportByName_registerContent _ _ hblank.mapped, if_pos rfl,
      hblank.nextTransport]
  ices := by
    rw [getElem?_ices_registerContent, if_pos ⟨rfl, hblank.ices⟩, hblank.nextTransport]
  dtlsTransports := by
    rw [getElem?_dtlsTransports_registerContent, if_pos ⟨rfl, hblank.dtlsTransports⟩,
      hblank.nextTransport]

/-! ### The two tasks -/

theorem mem_iceCalls_recordIceCall (controller : TransportController) (owner : TransportId)
    (call : IceCall) : call ∈ ((controller.recordIceCall owner call).objects owner).iceCalls := by
  simp [recordIceCall]

theorem mem_dtlsCalls_recordDtlsCall (controller : TransportController)
    (owner : TransportId) (call : DtlsCall) :
    call ∈ ((controller.recordDtlsCall owner call).objects owner).dtlsCalls := by
  simp [recordDtlsCall]

/-- The remote parameters are on the record of the audio transport. -/
def RemoteRecorded (api : TransportApi) (sdp : Bytes) (controller : TransportController) :
    Prop :=
  .setRemoteIceParameters (sectionTransport api kAudio (sdpEntries sdp)).iceParameters ∈
      (controller.objects 0).iceCalls ∧
    ∃ print, (sectionTransport api kAudio (sdpEntries sdp)).identityFingerprint = some print ∧
      .setRemoteFingerprint print ∈ (controller.objects 0).dtlsCalls

def LocalRecorded (source : OfferSource) (controller : TransportController) : Prop :=
  .setIceParameters source.iceParam ∈ (controller.objects 0).iceCalls ∧
    .setLocalCertificate source.certificate ∈ (controller.objects 0).dtlsCalls

theorem remoteRecorded_of_run {api : TransportApi} {sdp : Bytes}
    {descriptions : DescriptionId → Option SessionDescription} {description : DescriptionId}
    (halive : descriptions description = some (acceptedDescription api sdp))
    {controller next : TransportController}
    (hrun : controller.runTask descriptions (firstRemoteTask api sdp description 0) =
      .ok next) : RemoteRecorded api sdp next := by
  obtain ⟨middle, hice, hrest⟩ := except_bind_eq_ok_iff.mp hrun
  obtain ⟨owner, hsame, _, rfl⟩ := iceCall_eq_ok_iff.mp hice
  obtain rfl := Option.some.inj hsame
  have hinfo : (acceptedDescription api sdp).transportInfos[0]? =
      some (sectionInfo api kAudio (sdpEntries sdp)) := rfl
  simp only [halive, hinfo] at hrest
  cases hprint : (sectionInfo api kAudio (sdpEntries sdp)).description.identityFingerprint with
  | none => simp [hprint] at hrest
  | some print =>
      simp only [hprint] at hrest
      obtain ⟨owner, hsame, _, rfl⟩ := dtlsCall_eq_ok_iff.mp hrest
      obtain rfl := Option.some.inj hsame
      refine ⟨?_, print, hprint, mem_dtlsCalls_recordDtlsCall _ _ _⟩
      exact ((recordDtlsCall_extends _ _ _).iceCalls 0).subset
        (mem_iceCalls_recordIceCall _ _ _)

theorem localRecorded_of_run {source : OfferSource}
    {descriptions : DescriptionId → Option SessionDescription}
    {controller next : TransportController}
    (hregistered : Registered controller)
    (hrun : controller.runTask descriptions
      (.applyLocal kAudio source.iceParam source.certificate) = .ok next) :
    LocalRecorded source next := by
  obtain ⟨middle, hice, hdtls⟩ := except_bind_eq_ok_iff.mp hrun
  obtain ⟨owner, hsame, _, rfl⟩ := iceCall_eq_ok_iff.mp hice
  rw [hregistered.ices] at hsame
  obtain rfl := Option.some.inj hsame
  obtain ⟨owner, hsame, _, rfl⟩ := dtlsCall_eq_ok_iff.mp hdtls
  rw [(recordIceCall_extends _ _ _).dtlsTransports, hregistered.dtlsTransports] at hsame
  obtain rfl := Option.some.inj hsame
  refine ⟨?_, mem_dtlsCalls_recordDtlsCall _ _ _⟩
  exact ((recordDtlsCall_extends _ _ _).iceCalls 0).subset (mem_iceCalls_recordIceCall _ _ _)

/-- On a blank controller the local task finds a null pointer. -/
theorem Blank.not_run_applyLocal {controller next : TransportController}
    (hblank : Blank controller) {parameters : IceParameters}
    {certificate : Option Certificate}
    {descriptions : DescriptionId → Option SessionDescription} :
    controller.runTask descriptions (.applyLocal kAudio parameters certificate) ≠
      .ok next := by
  intro hrun
  obtain ⟨middle, hice, _⟩ := except_bind_eq_ok_iff.mp hrun
  obtain ⟨owner, hsame, _⟩ := iceCall_eq_ok_iff.mp hice
  rw [hblank.ices] at hsame
  exact absurd hsame (by simp)

/-! ### The remote description on its way -/

/-- The task of the remote description is queued or has done its work. -/
def RemoteApplied (api : TransportApi) (sdp : Bytes) (connection : P2pPeerConnection) : Prop :=
  (∃ description, firstRemoteTask api sdp description 0 ∈ connection.network.queue ∧
    connection.network.descriptions description = some (acceptedDescription api sdp)) ∨
  RemoteRecorded api sdp connection.network.controller

/-- The remote description has not been set. -/
structure Waiting (connection : P2pPeerConnection) : Prop where
  blank : Blank connection.network.controller
  call : connection.network.call = none

/-- The remote description is about to be registered, or it has been and nothing
else will be. -/
inductive RemoteStage (api : TransportApi) (sdp : Bytes) (connection : P2pPeerConnection) :
    Prop where
  | before (call : RemoteCall) (hcall : connection.network.call = some call)
      (hdesc : call.desc = acceptedDescription api sdp)
      (halive : connection.network.descriptions call.description = some call.desc)
      (hremaining : call.remaining = call.desc.contents)
      (hblank : Blank connection.network.controller)
  | after (hregistered : Registered connection.network.controller)
      (happlied : RemoteApplied api sdp connection)
      (hcall : ∀ call, connection.network.call = some call →
        ∀ content ∈ call.remaining, call.desc.firstContentName ≠ some content.name)

section Stages

variable {api : TransportApi} {sdp : Bytes} {before after : P2pPeerConnection}
variable {event : ConnectionEvent}

theorem waiting_init : Waiting {} where
  blank :=
    { mapped := JsepTransportCollection.mapped_empty
      nextTransport := rfl
      ices := by simp
      dtlsTransports := by simp }
  call := rfl

theorem RemoteRecorded.of_prefix {first second : TransportController}
    (hrecorded : RemoteRecorded api sdp first)
    (hkept : (first.objects 0).iceCalls <+: (second.objects 0).iceCalls ∧
      (first.objects 0).dtlsCalls <+: (second.objects 0).dtlsCalls) :
    RemoteRecorded api sdp second := by
  obtain ⟨hparameters, print, hprint, hfingerprint⟩ := hrecorded
  exact ⟨hkept.1.subset hparameters, print, hprint, hkept.2.subset hfingerprint⟩

theorem LocalRecorded.of_prefix {source : OfferSource} {first second : TransportController}
    (hrecorded : LocalRecorded source first)
    (hkept : (first.objects 0).iceCalls <+: (second.objects 0).iceCalls ∧
      (first.objects 0).dtlsCalls <+: (second.objects 0).dtlsCalls) :
    LocalRecorded source second :=
  ⟨hkept.1.subset hrecorded.1, hkept.2.subset hrecorded.2⟩

theorem RemoteApplied.step (hregistered : Registered before.network.controller)
    (happlied : RemoteApplied api sdp before)
    (hstep : connectionStep api before event = some (.ok after))
    (hdescriptions : after.network.descriptions = before.network.descriptions) :
    RemoteApplied api sdp after := by
  rcases happlied with ⟨description, hqueued, halive⟩ | hrecorded
  · rcases queue_kept hstep hqueued with hstill | hrun
    · exact Or.inl ⟨description, hstill, by rw [hdescriptions]; exact halive⟩
    · exact Or.inr (remoteRecorded_of_run halive hrun)
  · exact Or.inr (hrecorded.of_prefix (records_kept hstep hregistered.created))

theorem Waiting.step (hwaiting : Waiting before)
    (hevent : ∀ caller sdp, event ≠ .setRemoteSdp caller sdp)
    (hstep : connectionStep api before event = some (.ok after)) : Waiting after := by
  cases connectionStep_result hstep with
  | empty caller sdp => exact absurd rfl (hevent caller sdp)
  | rejected caller sdp => exact absurd rfl (hevent caller sdp)
  | accepted caller sdp => exact absurd rfl (hevent caller sdp)
  | registered call _ _ hcall => exact absurd (hcall.symm.trans hwaiting.call) (by simp)
  | passed call _ _ hcall => exact absurd (hcall.symm.trans hwaiting.call) (by simp)
  | quiet _ _ hquiet =>
      refine ⟨hwaiting.blank.of_extends hquiet.records, ?_⟩
      rcases hquiet.call with hsame | ⟨hnone, _⟩
      · rw [hsame, hwaiting.call]
      · exact hnone

theorem Waiting.setRemoteSdp {caller : Caller} (hwaiting : Waiting before)
    (haccepted : Accepted sdp)
    (hstep : connectionStep api before (.setRemoteSdp caller sdp) = some (.ok after)) :
    RemoteStage api sdp after := by
  have hnext : before.setRemoteSdp api caller sdp = .next (before.started api caller sdp) :=
    P2pPeerConnection.setRemoteSdp_eq_next_iff.mpr ⟨haccepted, rfl⟩
  rw [connectionStep, hwaiting.call, hnext] at hstep
  obtain rfl := Except.ok.inj (Option.some.inj hstep)
  refine .before (before.remoteCall api caller sdp) rfl rfl
    P2pPeerConnection.started_descriptions_self rfl ?_
  rw [P2pPeerConnection.started_controller]
  exact hwaiting.blank

/-- The content that is registered is the audio section, with the task for it. -/
theorem RemoteStage.registered (hstage : RemoteStage api sdp before)
    (haudio : HasSection kAudio (sdpEntries sdp)) {call : RemoteCall} {content : ContentInfo}
    {contents : List ContentInfo} (hcall : before.network.call = some call)
    (hremaining : call.remaining = content :: contents)
    (hfirst : call.desc.firstContentName = some content.name) :
    RemoteStage api sdp
      { before with
        network :=
          { before.network.post
              (before.network.controller.registerContent call.description call.desc
                content.name).1
              (before.network.controller.registerContent call.description call.desc
                content.name).2 with
            call := some { call with remaining := contents } } } := by
  cases hstage with
  | before current hcurrent hdesc halive hall hblank =>
      obtain rfl := Option.some.inj (hcall.symm.trans hcurrent)
      rw [hall, hdesc, acceptedDescription_contents] at hremaining
      obtain ⟨rfl, rfl⟩ := List.cons.inj hremaining
      have htitle : sectionTitle kAudio (sdpEntries sdp) = kAudio :=
        sectionTitle_of_hasSection haudio
      have hposted := remoteTasks_first api sdp call.description 0
      rw [htitle] at hposted
      rw [sectionContent_name, htitle]
      refine .after (hblank.registerContent call.description call.desc)
        (Or.inl ⟨call.description, ?_, ?_⟩) ?_
      · refine List.mem_append_right _ ?_
        rw [hdesc, registerContent, hblank.nextTransport, hposted]
        exact List.mem_singleton_self _
      · rw [← hdesc]
        exact halive
      · intro next hnext other hother
        obtain rfl := Option.some.inj hnext
        rw [List.mem_singleton.mp hother, hdesc,
          acceptedDescription_firstContentName_of_audio haudio, sectionContent_name]
        intro hsame
        exact sectionTitle_ne (sdpEntries sdp) kVideo_ne_kAudio (by decide)
          (Option.some.inj hsame).symm
  | after hregistered happlied hothers =>
      exact absurd hfirst (hothers call hcall content (by simp [hremaining]))

theorem RemoteStage.quiet (hstage : RemoteStage api sdp before)
    (hquiet : QuietStep before after)
    (hstep : connectionStep api before event = some (.ok after)) :
    RemoteStage api sdp after := by
  cases hstage with
  | before call hcall hdesc halive hall hblank =>
      rcases hquiet.call with hsame | ⟨_, hdone⟩
      · refine .before call (hsame.trans hcall) hdesc ?_ hall
          (hblank.of_extends hquiet.records)
        rw [hquiet.descriptions]
        exact halive
      · have hnothing := hdone call hcall
        rw [hall, hdesc, acceptedDescription_contents] at hnothing
        exact absurd hnothing (by simp)
  | after hregistered happlied hothers =>
      exact .after (hregistered.of_extends hquiet.records)
        (happlied.step hregistered hstep hquiet.descriptions)
        fun call hcall => hothers call (hquiet.call_eq hcall)

/-- The audio section is registered first, and then nothing else is. -/
theorem RemoteStage.step (hstage : RemoteStage api sdp before)
    (haudio : HasSection kAudio (sdpEntries sdp))
    (hevent : ∀ caller sdp, event ≠ .setRemoteSdp caller sdp)
    (hstep : connectionStep api before event = some (.ok after)) :
    RemoteStage api sdp after := by
  cases connectionStep_result hstep with
  | empty caller sdp => exact absurd rfl (hevent caller sdp)
  | rejected caller sdp => exact absurd rfl (hevent caller sdp)
  | accepted caller sdp => exact absurd rfl (hevent caller sdp)
  | registered call content contents hcall hremaining hfirst =>
      exact hstage.registered haudio hcall hremaining hfirst
  | passed call content contents hcall hremaining hfirst =>
      cases hstage with
      | before current hcurrent hdesc halive hall hblank =>
          obtain rfl := Option.some.inj (hcall.symm.trans hcurrent)
          rw [hall, hdesc, acceptedDescription_contents] at hremaining
          obtain ⟨rfl, rfl⟩ := List.cons.inj hremaining
          rw [hdesc, acceptedDescription_firstContentName] at hfirst
          exact absurd rfl hfirst
      | after hregistered happlied hothers =>
          refine .after hregistered (happlied.step hregistered hstep rfl) ?_
          intro next hnext other hother
          obtain rfl := Option.some.inj hnext
          refine hothers call hcall other ?_
          rw [hremaining]
          exact List.mem_cons_of_mem _ hother
  | quiet _ _ hquiet => exact hstage.quiet hquiet hstep

/-! ### The offer on its way -/

/-- The local parameters are in the queue, or on the record of the audio
transport. -/
def LocalApplied (source : OfferSource) (connection : P2pPeerConnection) : Prop :=
  .applyLocal kAudio source.iceParam source.certificate ∈ connection.network.queue ∨
    0 < connection.network.controller.nextTransport ∧
      LocalRecorded source connection.network.controller

theorem nextTransport_mono (hstep : connectionStep api before event = some (.ok after)) :
    before.network.controller.nextTransport ≤ after.network.controller.nextTransport := by
  cases connectionStep_result hstep with
  | empty => exact le_refl _
  | rejected =>
      rw [P2pPeerConnection.store_controller]
  | accepted =>
      rw [P2pPeerConnection.started_controller]
  | registered => exact Nat.le_succ _
  | passed => exact le_refl _
  | quiet _ _ hquiet => exact hquiet.records.nextTransport.ge

theorem LocalApplied.step {source : OfferSource} (happlied : LocalApplied source before)
    (hcontroller : Blank before.network.controller ∨ Registered before.network.controller)
    (hstep : connectionStep api before event = some (.ok after)) :
    LocalApplied source after := by
  have hmono := nextTransport_mono hstep
  rcases happlied with hqueued | ⟨hcreated, hrecorded⟩
  · rcases queue_kept hstep hqueued with hstill | hrun
    · exact Or.inl hstill
    · rcases hcontroller with hblank | hregistered
      · exact absurd hrun hblank.not_run_applyLocal
      · exact Or.inr ⟨hregistered.created.trans_le hmono,
          localRecorded_of_run hregistered hrun⟩
  · exact Or.inr ⟨hcreated.trans_le hmono,
      hrecorded.of_prefix (records_kept hstep hcreated)⟩

/-- An offer with audio posts the task for the audio transport. -/
theorem localApplied_createOffer {caller : Caller} {options : RTCOfferAnswerOptions}
    {streamId : Bytes} {source : OfferSource} (haudio : options.hasAudio = true)
    (hstep : connectionStep api before (.createOffer caller options streamId source) =
      some (.ok after)) : LocalApplied source after := by
  obtain ⟨desc, controller, posted, hdesc, hcontroller, rfl⟩ := createOffer_step hstep
  obtain ⟨contents, hcontents⟩ := offerContents_of_audio streamId source haudio
  obtain ⟨certificate, hcertificate, rfl⟩ := localDesc_eq_ok (by simp [hcontents]) hdesc
  have hmem := mem_localTasks source.certificate
    (show (offeredDesc api options streamId source certificate).contents.head? = _ by
      rw [offeredDesc, hcontents, List.head?_cons])
    (show (offeredDesc api options streamId source certificate).getTransportInfoByName kAudio =
        some (offeredTransportInfo api source certificate kAudio) by
      simp [SessionDescription.getTransportInfoByName, offeredDesc, hcontents, audioContent,
        offeredTransportInfo])
  exact Or.inl (List.mem_append_right _ (localTasks_subset_posted hcontroller hmem))

end Stages

/-! ### Both on their way -/

section Together

variable {api : TransportApi} {options : RTCOfferAnswerOptions} {streamId sdp : Bytes}
variable {source : OfferSource} {remoteCaller localCaller : Caller}

theorem RemoteStage.blank_or_registered {connection : P2pPeerConnection}
    (hstage : RemoteStage api sdp connection) :
    Blank connection.network.controller ∨ Registered connection.network.controller := by
  cases hstage with
  | before _ _ _ _ _ hblank => exact Or.inl hblank
  | after hregistered => exact Or.inr hregistered

theorem not_setRemoteSdp_of_not_isDescription {event : ConnectionEvent}
    (hevent : event.isDescription = false) :
    ∀ caller sdp, event ≠ .setRemoteSdp caller sdp := by
  rintro caller sdp rfl
  exact absurd hevent (by simp [ConnectionEvent.isDescription])

/-- The rule for the part of a run in which no description is set. -/
theorem run_between (Inv : P2pPeerConnection → Prop)
    (hstep : ∀ before event after, Inv before → event.isDescription = false →
      connectionStep api before event = some (.ok after) → Inv after)
    {events : List ConnectionEvent} (hevents : events.filter (·.isDescription) = [])
    {before after : P2pPeerConnection} (hinit : Inv before)
    (hrun : run (connectionStep api) before events = some (.ok after)) : Inv after := by
  refine guarded_run_induction (fun _ => True) hstep (fun _ _ _ _ _ _ => trivial) hinit
    (guarded_of_forall (fun event hevent _ => ?_) before) hrun
  simpa using List.filter_eq_nil_iff.mp hevents event hevent

/-- A run up to its first description, and from there on. -/
theorem run_to_description {events : List ConnectionEvent} {event : ConnectionEvent}
    {later : List ConnectionEvent}
    (hevents : events.filter (·.isDescription) = event :: later)
    {before final : P2pPeerConnection}
    (hrun : run (connectionStep api) before events = some (.ok final)) :
    ∃ early rest reached next, early.filter (·.isDescription) = [] ∧
      rest.filter (·.isDescription) = later ∧
      run (connectionStep api) before early = some (.ok reached) ∧
      connectionStep api reached event = some (.ok next) ∧
      run (connectionStep api) next rest = some (.ok final) := by
  obtain ⟨early, rest, rfl, hearly, _, hrest⟩ := List.filter_eq_cons_iff.mp hevents
  obtain ⟨reached, hreached, hlater⟩ :=
    exists_middle_of_run_append (List.cons_ne_nil event rest) hrun
  obtain ⟨next, hnext, hfinal⟩ := exists_next_of_run_cons hlater
  exact ⟨early, rest, reached, next, List.filter_eq_nil_iff.mpr hearly, hrest, hreached,
    hnext, hfinal⟩

/-- Both descriptions have been set, and nothing has been lost. -/
structure BothSet (api : TransportApi) (source : OfferSource) (sdp : Bytes)
    (connection : P2pPeerConnection) : Prop where
  remote : RemoteStage api sdp connection
  offered : LocalApplied source connection

theorem BothSet.step {before after : P2pPeerConnection} {event : ConnectionEvent}
    (hboth : BothSet api source sdp before) (haudio : HasSection kAudio (sdpEntries sdp))
    (hevent : ∀ caller sdp, event ≠ .setRemoteSdp caller sdp)
    (hstep : connectionStep api before event = some (.ok after)) :
    BothSet api source sdp after where
  remote := hboth.remote.step haudio hevent hstep
  offered := hboth.offered.step hboth.remote.blank_or_registered hstep

theorem bothSet_of_remote_first (haccepted : Accepted sdp)
    (hsection : HasSection kAudio (sdpEntries sdp)) (haudio : options.hasAudio = true)
    {events : List ConnectionEvent} {final : P2pPeerConnection}
    (hevents : events.filter (·.isDescription) =
      [.setRemoteSdp remoteCaller sdp, .createOffer localCaller options streamId source])
    (hrun : run (connectionStep api) {} events = some (.ok final)) :
    BothSet api source sdp final := by
  obtain ⟨early, rest, reached, started, hearly, hrest, hreached, hremote, hlater⟩ :=
    run_to_description hevents hrun
  have hwaiting : Waiting reached :=
    run_between Waiting (fun _ _ _ hwaiting hquiet hstep =>
      hwaiting.step (not_setRemoteSdp_of_not_isDescription hquiet) hstep)
      hearly waiting_init hreached
  have hstarted : RemoteStage api sdp started := hwaiting.setRemoteSdp haccepted hremote
  obtain ⟨between, last, before, offered, hbetween, hlast, hbefore, hoffer, hfinal⟩ :=
    run_to_description hrest hlater
  have hstage : RemoteStage api sdp before :=
    run_between (RemoteStage api sdp) (fun _ _ _ hstage hquiet hstep =>
      hstage.step hsection (not_setRemoteSdp_of_not_isDescription hquiet) hstep)
      hbetween hstarted hbefore
  have hoffered : BothSet api source sdp offered :=
    ⟨hstage.step hsection (by simp) hoffer, localApplied_createOffer haudio hoffer⟩
  exact run_between (BothSet api source sdp) (fun _ _ _ hboth hquiet hstep =>
    hboth.step hsection (not_setRemoteSdp_of_not_isDescription hquiet) hstep)
    hlast hoffered hfinal

theorem bothSet_of_offer_first (haccepted : Accepted sdp)
    (hsection : HasSection kAudio (sdpEntries sdp)) (haudio : options.hasAudio = true)
    {events : List ConnectionEvent} {final : P2pPeerConnection}
    (hevents : events.filter (·.isDescription) =
      [.createOffer localCaller options streamId source, .setRemoteSdp remoteCaller sdp])
    (hrun : run (connectionStep api) {} events = some (.ok final)) :
    BothSet api source sdp final := by
  obtain ⟨early, rest, reached, offered, hearly, hrest, hreached, hoffer, hlater⟩ :=
    run_to_description hevents hrun
  have hwaiting : Waiting reached :=
    run_between Waiting (fun _ _ _ hwaiting hquiet hstep =>
      hwaiting.step (not_setRemoteSdp_of_not_isDescription hquiet) hstep)
      hearly waiting_init hreached
  have hoffered : Waiting offered ∧ LocalApplied source offered :=
    ⟨hwaiting.step (by simp) hoffer, localApplied_createOffer haudio hoffer⟩
  obtain ⟨between, last, before, started, hbetween, hlast, hbefore, hremote, hfinal⟩ :=
    run_to_description hrest hlater
  obtain ⟨hwaiting, hlocal⟩ : Waiting before ∧ LocalApplied source before :=
    run_between (fun state => Waiting state ∧ LocalApplied source state)
      (fun _ _ _ hstage hquiet hstep =>
        ⟨hstage.1.step (not_setRemoteSdp_of_not_isDescription hquiet) hstep,
          hstage.2.step (Or.inl hstage.1.blank) hstep⟩)
      hbetween hoffered hbefore
  have hstarted : BothSet api source sdp started :=
    ⟨hwaiting.setRemoteSdp haccepted hremote, hlocal.step (Or.inl hwaiting.blank) hremote⟩
  exact run_between (BothSet api source sdp) (fun _ _ _ hboth hquiet hstep =>
    hboth.step hsection (not_setRemoteSdp_of_not_isDescription hquiet) hstep)
    hlast hstarted hfinal

/-- When nothing is left to do, both descriptions have been applied. -/
theorem BothSet.negotiated {connection : P2pPeerConnection}
    (hboth : BothSet api source sdp connection) (hidle : connection.network.Idle) :
    Registered connection.network.controller ∧
      Negotiated api source sdp (connection.network.controller.objects 0) := by
  obtain ⟨hqueue, hcall⟩ := hidle
  cases hboth.remote with
  | before call hcurrent => exact absurd (hcall.symm.trans hcurrent) (by simp)
  | after hregistered happlied =>
      have hremote : RemoteRecorded api sdp connection.network.controller := by
        rcases happlied with ⟨_, hqueued, _⟩ | hrecorded
        · rw [hqueue] at hqueued
          exact absurd hqueued (by simp)
        · exact hrecorded
      have hlocal : LocalRecorded source connection.network.controller := by
        rcases hboth.offered with hqueued | ⟨_, hrecorded⟩
        · rw [hqueue] at hqueued
          exact absurd hqueued (by simp)
        · exact hrecorded
      exact ⟨hregistered, hlocal.1, hlocal.2, hremote.1, hremote.2⟩

/-- Only packets are left to do, and the audio transport has sent or will send
these packets. -/
structure Sending (owner : TransportId) (packets : List Packet)
    (connection : P2pPeerConnection) : Prop where
  name : connection.network.controller.transports.getTransportByName kAudio = some owner
  call : connection.network.call = none
  queue : ∀ task ∈ connection.network.queue, ∃ packet, task = .sendRtpPacket kAudio packet
  packets : (connection.network.controller.objects owner).sentRtpPackets ++
    connection.network.queue.filterMap queuedPacket? = packets

theorem Sending.sendPacket {connection : P2pPeerConnection} {owner : TransportId}
    {packets : List Packet} (hsending : Sending owner packets connection)
    (packet : Packet) :
    Sending owner (packets ++ [packet]) (connection.sendPacket packet) where
  name := hsending.name
  call := hsending.call
  queue task htask := by
    rcases List.mem_append.mp htask with hold | hnew
    · exact hsending.queue task hold
    · exact ⟨packet, List.mem_singleton.mp hnew⟩
  packets := by
    rw [← hsending.packets]
    simp [P2pPeerConnection.sendPacket, sendRtpPacket, Network.post, queuedPacket?]

/-- The head of the queue can always be served. -/
theorem Sending.serve {connection : P2pPeerConnection} {owner : TransportId}
    {packets : List Packet} (hsending : Sending owner packets connection) {task : Task}
    {tasks : List Task} (hqueue : connection.network.queue = task :: tasks) :
    ∃ next, connectionStep api connection (.serve task) = some (.ok next) ∧
      Sending owner packets next := by
  obtain ⟨packet, rfl⟩ := hsending.queue task (by simp [hqueue])
  have hserve : connectionStep api connection (.serve (.sendRtpPacket kAudio packet)) =
      some (.ok { connection with
        network := { connection.network with
          controller := connection.network.controller.recordSentRtpPacket owner packet
          queue := tasks } }) := by
    simp [connectionStep, Network.serve, Network.NetworkThreadBusy, hqueue, hsending.call,
      runTask, hsending.name, bind, Except.bind, pure, Except.pure, Except.map]
  refine ⟨_, hserve, hsending.name, hsending.call, fun other hother => ?_, ?_⟩
  · refine hsending.queue other ?_
    rw [hqueue]
    exact List.mem_cons_of_mem _ hother
  · rw [← hsending.packets, hqueue]
    simp [recordSentRtpPacket, queuedPacket?]

/-- By induction on the events; each packet joins the queue, and each task served
moves one from the queue to the transport. -/
theorem Sending.run {connection : P2pPeerConnection} {owner : TransportId}
    {packets : List Packet} (hsending : Sending owner packets connection)
    {events : List ConnectionEvent} (hevents : events.filter (·.isDescription) = [])
    {outcome : Except Fault P2pPeerConnection}
    (hrun : Runs.run (connectionStep api) connection events = some outcome) :
    ∃ after, outcome = .ok after ∧
      Sending owner (packets ++ events.filterMap (·.sentPacket?)) after := by
  induction events generalizing connection packets with
  | nil =>
      obtain rfl := Option.some.inj hrun
      exact ⟨connection, rfl, by simpa using hsending⟩
  | cons event events ih =>
      cases event with
      | setRemoteSdp | createOffer =>
          simp [ConnectionEvent.isDescription] at hevents
      | sendPacket packet =>
          have hrest := ih (hsending.sendPacket packet)
            (by simpa [List.filter_cons, ConnectionEvent.isDescription] using hevents)
            ((run_cons_of_ok rfl).symm.trans hrun)
          simpa [ConnectionEvent.sentPacket?] using hrest
      | advance =>
          simp [Runs.run, connectionStep, Network.advance, hsending.call] at hrun
      | serve task =>
          have hqueue : ∃ tasks, connection.network.queue = task :: tasks := by
            by_contra hqueue
            have hnone : connection.network.serve task = none := by
              rw [Option.eq_none_iff_forall_ne_some]
              intro result hresult
              obtain ⟨tasks, htasks, _⟩ := Network.serve_eq_some_iff.mp hresult
              exact hqueue ⟨tasks, htasks⟩
            simp [Runs.run, connectionStep, hnone] at hrun
          obtain ⟨tasks, hqueue⟩ := hqueue
          obtain ⟨next, hserve, hnext⟩ :
              ∃ next, connectionStep api connection (.serve task) = some (.ok next) ∧
                Sending owner packets next := hsending.serve hqueue
          have hrest := ih hnext
            (by simpa [List.filter_cons, ConnectionEvent.isDescription] using hevents)
            ((run_cons_of_ok hserve).symm.trans hrun)
          simpa [ConnectionEvent.sentPacket?] using hrest

/-- When nothing is left to do, the packets that come go out through the
transport registered under "audio". -/
theorem delivers_of_idle {connection : P2pPeerConnection} {owner : TransportId}
    (hidle : connection.network.Idle)
    (hname : connection.network.controller.transports.getTransportByName kAudio = some owner) :
    Delivers api connection owner := by
  intro events outcome hevents hrun
  have hsending : Sending owner
      (connection.network.controller.objects owner).sentRtpPackets connection :=
    ⟨hname, hidle.2, by simp [hidle.1], by simp [hidle.1]⟩
  obtain ⟨after, rfl, hafter⟩ := hsending.run hevents hrun
  refine ⟨after, rfl, hafter.packets, fun task tasks hqueue => ?_⟩
  obtain ⟨next, hserve, _⟩ := hafter.serve hqueue
  exact ⟨next, hserve⟩

theorem packetsReach_of_audio (haccepted : Accepted sdp)
    (hsection : HasSection kAudio (sdpEntries sdp)) (haudio : options.hasAudio = true) :
    PacketsReach api options streamId source sdp := by
  intro remoteCaller localCaller events final hevents hrun hidle
  have hboth : BothSet api source sdp final := by
    rcases List.mem_pair.mp hevents with hremote | hoffer
    · exact bothSet_of_remote_first haccepted hsection haudio hremote hrun
    · exact bothSet_of_offer_first haccepted hsection haudio hoffer hrun
  obtain ⟨hregistered, hnegotiated⟩ := hboth.negotiated hidle
  exact ⟨0, hnegotiated, delivers_of_idle hidle hregistered.name⟩

end Together

end PeerConnection.Connection
