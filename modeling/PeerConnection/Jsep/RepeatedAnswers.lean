import PeerConnection.Jsep.PacketSending
import PeerConnection.Srtp.Undisturbed

/-!
# Descriptions after rtcp-mux is fully active

A final answer runs `ActivateRtcpMux` again.  It binds the transports that are bound
already, and `SetDtlsTransports` resets an active transport all the same when its owner has
set `active_reset_srtp_params_`, as the controller does.
-/

namespace PeerConnection.Jsep

open PeerConnection.Text
open PeerConnection.Sdp
open PeerConnection.Srtp
open PeerConnection.Runs

variable {T : Type*}

namespace JsepTransport

/-! ## What is below a transport that has been created -/

/-- The transport below is one for DTLS-SRTP with this property. -/
def OverDtls (Inv : DtlsSrtpTransport T → Prop) (transport : JsepTransport T) : Prop :=
  ∃ dtls, transport.rtpTransport = .dtlsSrtp dtls ∧ Inv dtls

section Reachable

variable [DecidableEq T] {api : JsepApi}

omit [DecidableEq T] in
/-- Only a final answer makes the negotiation fully active. -/
theorem isFullyActive_of_not_activates {transport : JsepTransport T}
    {description : JsepTransportDescription} {type : SdpType} {source : ContentSource}
    (haccepted : (transport.negotiated description type source).2 = true)
    (hkept : ¬ transport.activates description type source = true)
    (hactive : (transport.negotiated description type source).1.isFullyActive = true) :
    transport.rtcpMuxNegotiator.isFullyActive = true := by
  rw [activates, RtcpMuxFilter.isActive, hactive, Bool.true_or, Bool.and_true,
    decide_eq_true_eq] at hkept
  rw [negotiated] at haccepted hactive
  generalize transport.rtcpMuxNegotiator = filter at haccepted hactive
  obtain ⟨state, offerEnable⟩ := filter
  cases type with
  | answer => exact absurd rfl hkept
  | rollback => exact hactive
  | offer =>
      revert haccepted hactive
      cases state <;> cases source <;> cases offerEnable <;>
        cases description.rtcpMuxEnabled <;> decide
  | prAnswer =>
      revert haccepted hactive
      cases state <;> cases source <;> cases offerEnable <;>
        cases description.rtcpMuxEnabled <;> decide

/-- What the events of a DTLS-SRTP transport keep, and what does not depend on the ready
flags, is kept by all that happens to the JSEP transport. -/
theorem step_overDtls {Inv : DtlsSrtpTransport T → Prop}
    (hevent : ∀ dtls event next, Inv dtls →
      DtlsSrtpTransport.step api.srtp dtls event = some (.ok next) → Inv next)
    (hready : ∀ (dtls : DtlsSrtpTransport T) (after : RtpTransport T),
      RtpTransport.SameBinding dtls.toRtpTransport after → Inv dtls →
        Inv { dtls with toRtpTransport := after })
    (transport : JsepTransport T) (event : JsepEvent T) (next : JsepTransport T)
    (hinv : OverDtls Inv transport) (hstep : step api transport event = some (.ok next)) :
    OverDtls Inv next := by
  obtain ⟨dtls, hrtp, hdtls⟩ := hinv
  have hhandle := Option.some.inj hstep
  cases event with
  | update update =>
      obtain rfl := Except.ok.inj hhandle
      cases update with
      | setLocalCertificate localCertificate => exact ⟨dtls, hrtp, hdtls⟩
      | setNeedsIceRestartFlag => exact ⟨dtls, hrtp, hdtls⟩
      | setActiveResetSrtpParams activeResetSrtpParams =>
          simp only [JsepTransport.update, hrtp, AnyRtpTransport.setActiveResetSrtpParams]
          exact ⟨_, rfl, hevent dtls ({}, .setActiveResetSrtpParams activeResetSrtpParams) _
            hdtls rfl⟩
      | onDtlsState dtlsTransport state inputs =>
          simp only [JsepTransport.update, hrtp, AnyRtpTransport.onDtlsState]
          exact ⟨_, rfl, hevent dtls (inputs, .onDtlsState dtlsTransport state) _ hdtls rfl⟩
      | onWritableState inputs =>
          simp only [JsepTransport.update, hrtp, AnyRtpTransport.onWritableState]
          exact ⟨_, rfl,
            hevent dtls (inputs, .onWritableState transport.rtpDtlsTransport) _ hdtls rfl⟩
      | onReadyToSend packetTransport =>
          simp only [JsepTransport.update, hrtp, AnyRtpTransport.onReadyToSend]
          exact ⟨_, rfl, hready dtls _
            (RtpTransport.setReadyToSend_same dtls.toRtpTransport _ true) hdtls⟩
  | setDescription source description type inputs =>
      obtain ⟨⟨after, result⟩, hset, rfl⟩ := except_map_eq_ok_iff.mp hhandle
      cases hvalid : api.validate description.transportDesc.iceParameters with
      | some message =>
          rw [setDescription_of_invalid inputs transport hvalid] at hset
          obtain ⟨rfl, -⟩ := Prod.mk.inj (Except.ok.inj hset)
          cases source <;> exact ⟨dtls, hrtp, hdtls⟩
      | none =>
          cases haccepted : (transport.negotiated description type source).2 with
          | false =>
              rw [setDescription_of_refused inputs transport hvalid haccepted] at hset
              obtain ⟨rfl, -⟩ := Prod.mk.inj (Except.ok.inj hset)
              exact ⟨dtls, hrtp, hdtls⟩
          | true =>
              obtain ⟨driven, hrun, hcall⟩ := setDescription_driven inputs hrtp hvalid haccepted
              obtain ⟨hrtpAfter, -⟩ := applyDescription_keeps (hcall.symm.trans hset)
              exact ⟨driven, hrtpAfter, run_induction hevent hdtls hrun⟩

/-- A run without packets is one of a sender. -/
theorem exists_sender_run {transport final : JsepTransport T} {events : List (JsepEvent T)}
    (hrun : run (step api) transport events = some (.ok final))
    (negotiation : MuxNegotiation) :
    ∃ later, run (Sender.step api) ⟨transport, negotiation⟩ (events.map .jsep) =
      some (.ok ⟨final, later⟩) := by
  induction events generalizing transport negotiation with
  | nil =>
      obtain rfl := Except.ok.inj (Option.some.inj hrun)
      exact ⟨negotiation, rfl⟩
  | cons event events ih =>
      obtain ⟨next, hnext, hrest⟩ := exists_next_of_run_cons hrun
      obtain ⟨later, hlater⟩ := ih hrest (Sender.negotiate api ⟨transport, negotiation⟩ event)
      have hhandle : transport.handle api event = .ok next := Option.some.inj hnext
      have hstep : Sender.step api ⟨transport, negotiation⟩ (.jsep event) =
          some (.ok ⟨next, Sender.negotiate api ⟨transport, negotiation⟩ event⟩) := by
        simp only [Sender.step, Sender.handle, hhandle]
      refine ⟨later, ?_⟩
      rw [List.map_cons, run_cons_of_ok hstep]
      exact hlater

/-- The controller has created the transport, and it has come to this state. -/
structure CreatedAndRun (api : JsepApi) (rtpDtlsTransport : T) (rtcpDtlsTransport : Option T)
    (activeResetSrtpParams : Bool) (transport : JsepTransport T) : Prop where
  course : ∃ inputs created mid localCertificate events,
    createDtlsSrtpTransport api.srtp inputs activeResetSrtpParams rtpDtlsTransport
        rtcpDtlsTransport = .ok created ∧
      run (step api)
        (.create mid localCertificate (.dtlsSrtp created) rtpDtlsTransport rtcpDtlsTransport)
        events = some (.ok transport)

omit [DecidableEq T] in
theorem keysInv_withRtpTransport (dtls : DtlsSrtpTransport T) (after : RtpTransport T)
    (hsame : RtpTransport.SameBinding dtls.toRtpTransport after)
    (hinv : DtlsSrtpTransport.KeysInv dtls) :
    DtlsSrtpTransport.KeysInv { dtls with toRtpTransport := after } := by
  have hkeys : DtlsSrtpTransport.SameKeys dtls { dtls with toRtpTransport := after } :=
    DtlsSrtpTransport.sameKeys_of_binding hsame rfl
  exact ⟨hinv.keyed, hinv.provenance.of_same hkeys fun _ => rfl⟩

theorem keysInv_created {inputs : DtlsInputs T} {activeResetSrtpParams : Bool}
    {rtpDtlsTransport : T} {rtcpDtlsTransport : Option T} {created : DtlsSrtpTransport T}
    (hcreated : createDtlsSrtpTransport api.srtp inputs activeResetSrtpParams
      rtpDtlsTransport rtcpDtlsTransport = .ok created) :
    DtlsSrtpTransport.KeysInv created := by
  obtain ⟨bound, hbound, rfl⟩ := except_map_eq_ok_iff.mp hcreated
  have hstep : DtlsSrtpTransport.step api.srtp (.create rtcpDtlsTransport.isNone)
      (inputs, .setDtlsTransports (some rtpDtlsTransport) rtcpDtlsTransport) =
        some (.ok bound) := congrArg some hbound
  have hinv := DtlsSrtpTransport.step_keysInv _ _ _ (.of_not_active rfl) hstep
  have hflag : DtlsSrtpTransport.step api.srtp bound
      ({}, .setActiveResetSrtpParams activeResetSrtpParams) =
        some (.ok (bound.setActiveResetSrtpParams activeResetSrtpParams)) := rfl
  exact DtlsSrtpTransport.step_keysInv _ _ _ hinv hflag

/-- What is bound once rtcp-mux is fully active. -/
theorem CreatedAndRun.overDtls {rtpDtlsTransport : T} {rtcpDtlsTransport : Option T}
    {activeResetSrtpParams : Bool} {transport : JsepTransport T}
    (hrun : CreatedAndRun api rtpDtlsTransport rtcpDtlsTransport activeResetSrtpParams
      transport)
    (hfully : transport.rtcpMuxNegotiator.isFullyActive = true) :
    transport.rtpDtlsTransport = rtpDtlsTransport ∧
      OverDtls (fun dtls => DtlsSrtpTransport.KeysInv dtls ∧
        dtls.bindings =
          { rtpPacketTransport := some rtpDtlsTransport
            rtcpPacketTransport := none
            rtpDtlsTransport := some rtpDtlsTransport
            rtcpDtlsTransport := none
            rtcpMuxEnabled := true
            activeResetSrtpParams := dtls.activeResetSrtpParams }) transport := by
  obtain ⟨inputs, created, mid, localCertificate, events, hcreated, hevents⟩ := hrun.course
  obtain ⟨other, hother, hbindings⟩ := createDtlsSrtpTransport_bindings api.srtp inputs
    activeResetSrtpParams rtpDtlsTransport rtcpDtlsTransport
  obtain rfl := Except.ok.inj (hother.symm.trans hcreated)
  obtain ⟨dtls, hrtp, hkeys⟩ : OverDtls DtlsSrtpTransport.KeysInv transport :=
    run_induction (step_overDtls DtlsSrtpTransport.step_keysInv keysInv_withRtpTransport)
      ⟨other, rfl, keysInv_created hcreated⟩ hevents
  obtain ⟨later, hsender⟩ := exists_sender_run hevents {}
  have hflag : other.activeResetSrtpParams = activeResetSrtpParams :=
    congrArg Bindings.activeResetSrtpParams hbindings
  have hinit : Sender.SenderInv rtpDtlsTransport rtcpDtlsTransport rtcpDtlsTransport.isNone
      ⟨.create mid localCertificate (.dtlsSrtp other) rtpDtlsTransport rtcpDtlsTransport, {}⟩ :=
    ⟨rfl, fun hactive => absurd hactive Bool.false_ne_true, rfl, other, rfl, by
      rw [hbindings, hflag]
      rfl⟩
  have hinv := run_induction Sender.step_senderInv hinit hsender
  have hactive : later.filter.isFullyActive = true := hinv.negotiator ▸ hfully
  have hon : later.outcome = some true := hinv.active hactive
  obtain ⟨bound, hbound, hdtls⟩ := hinv.bound
  obtain rfl := AnyRtpTransport.dtlsSrtp.inj (hbound.symm.trans hrtp)
  refine ⟨hinv.own, bound, hrtp, hkeys, ?_⟩
  rw [hdtls]
  simp only [Sender.boundFor, hactive, if_true, hon, Option.getD_some]

/-- The RTCP transport has been given up by then. -/
theorem CreatedAndRun.rtcpDtlsTransport_eq_none {rtpDtlsTransport : T}
    {rtcpDtlsTransport : Option T} {activeResetSrtpParams : Bool} {transport : JsepTransport T}
    (hrun : CreatedAndRun api rtpDtlsTransport rtcpDtlsTransport activeResetSrtpParams
      transport)
    (hfully : transport.rtcpMuxNegotiator.isFullyActive = true) :
    transport.rtcpDtlsTransport = none := by
  obtain ⟨inputs, created, mid, localCertificate, events, -, hevents⟩ := hrun.course
  have hstep : ∀ (transport : JsepTransport T) (event : JsepEvent T) (next : JsepTransport T),
      (transport.rtcpMuxNegotiator.isFullyActive = true →
        transport.rtcpDtlsTransport = none) →
      step api transport event = some (.ok next) →
      next.rtcpMuxNegotiator.isFullyActive = true → next.rtcpDtlsTransport = none := by
    intro transport event next hinv hnext hactive
    rcases step_mux hnext with hsame | ⟨description, type, source, muxed, haccepted, hset, hsame⟩
    · rw [hsame.rtcpMuxNegotiator] at hactive
      rw [hsame.rtcpDtlsTransport, hinv hactive]
    · rw [hsame.rtcpMuxNegotiator, hset.rtcpMuxNegotiator] at hactive
      rw [hsame.rtcpDtlsTransport, hset.rtcpDtlsTransport, rtcpAfterMux]
      split
      case isTrue => rfl
      case isFalse hkept => exact hinv (isFullyActive_of_not_activates haccepted hkept hactive)
  have hinit : (create mid localCertificate (.dtlsSrtp created) rtpDtlsTransport
      rtcpDtlsTransport).rtcpMuxNegotiator.isFullyActive = true →
      (create mid localCertificate (.dtlsSrtp created) rtpDtlsTransport
        rtcpDtlsTransport).rtcpDtlsTransport = none :=
    fun hactive => absurd hactive Bool.false_ne_true
  exact run_induction hstep hinit hevents hfully

/-! ## The description itself -/

/-- A local description with other ICE credentials than the one before. -/
def iceRestarts (api : JsepApi) (transport : JsepTransport T) (source : ContentSource)
    (description : JsepTransportDescription) : Bool :=
  source = .csLocal && transport.localDescription.any fun old =>
    api.iceCredentialsChanged old.transportDesc.iceUfrag old.transportDesc.icePwd
      description.transportDesc.iceUfrag description.transportDesc.icePwd

omit [DecidableEq T] in
theorem finishLocalDescription_accepted {inputs : JsepInputs T}
    {transport after : JsepTransport T} {iceParameters : IceParameters} {type : SdpType}
    {iceRestarting : Bool}
    (haccepted : transport.finishLocalDescription inputs iceParameters type iceRestarting =
      (after, .ok ())) :
    after =
      { transport with
        needsIceRestart := transport.needsIceRestart && !iceRestarting
        calls := after.calls } := by
  simp only [finishLocalDescription] at haccepted
  obtain ⟨⟨extra, hextra, -⟩, -⟩ := decideTransportProtocol_spec inputs
    (transport.call (transport.dtlsTransports.map fun each =>
      .setIceParameters each iceParameters)) type type
  rw [hextra] at haccepted
  split at haccepted
  case h_1 => exact absurd (Prod.mk.inj haccepted).2 (by simp)
  case h_2 =>
    obtain ⟨rfl, -⟩ := Prod.mk.inj haccepted
    rfl

omit [DecidableEq T] in
/-- What an accepted call sets besides the RTP transport. -/
theorem applyDescription_accepted {inputs : JsepInputs T} {before after : JsepTransport T}
    {source : ContentSource} {description : JsepTransportDescription} {type : SdpType}
    (happly : before.applyDescription inputs api source description type =
      .ok (after, .ok ())) :
    after =
      { before.withDescription source (some description) with
        localCertificate := before.keptCertificate source description
        needsIceRestart := before.needsIceRestart && !before.iceRestarts api source description
        calls := after.calls } := by
  cases source with
  | csRemote =>
      have haccepted := Except.ok.inj happly
      simp only [applyRemoteDescription] at haccepted
      obtain ⟨⟨extra, hextra, -⟩, -⟩ := decideTransportProtocol_spec inputs
        (JsepTransport.call { before with remoteDescription := some description }
          (JsepTransport.dtlsTransports
            { before with remoteDescription := some description } |>.flatMap fun each =>
            [.setRemoteIceParameters each description.transportDesc.iceParameters,
              .setRemoteIceMode each description.iceMode])) type .offer
      rw [hextra] at haccepted
      split at haccepted
      case h_1 => exact absurd (Prod.mk.inj haccepted).2 (by simp)
      case h_2 =>
        obtain ⟨rfl, -⟩ := Prod.mk.inj haccepted
        simp [withDescription, keptCertificate, iceRestarts, call]
  | csLocal =>
      simp only [applyDescription, applyLocalDescription] at happly
      split at happly
      case h_1 hnone =>
        rw [finishLocalDescription_accepted (Except.ok.inj happly)]
        simp [withDescription, keptCertificate, iceRestarts, hnone]
      case h_2 fingerprint hfingerprint =>
        split at happly
        case h_1 => exact absurd happly (by simp)
        case h_2 => exact absurd (Prod.mk.inj (Except.ok.inj happly)).2 (by simp)
        case h_3 =>
          rw [finishLocalDescription_accepted (Except.ok.inj happly)]
          simp [withDescription, keptCertificate, iceRestarts, hfingerprint]

omit [DecidableEq T] in
theorem applyDescription_accepts_iff {inputs : JsepInputs T} {before : JsepTransport T}
    {source : ContentSource} {description : JsepTransportDescription} {type : SdpType} :
    (∃ after, before.applyDescription inputs api source description type =
        .ok (after, .ok ())) ↔
      before.Fits api source description ∧
        before.Agreeable inputs source description type before.rtcpDtlsTransport := by
  by_cases hfits : before.Fits api source description
  · obtain ⟨ended, outcome, hok, hended⟩ :=
      @applyDescription_of_fits T inputs before api source description type hfits
    rw [and_iff_right hfits, ← hended.accepted, hok]
    constructor
    · rintro ⟨after, hafter⟩
      exact (Prod.mk.inj (Except.ok.inj hafter)).2
    · rintro rfl
      exact ⟨ended, rfl⟩
  · refine iff_of_false ?_ fun hboth => hfits hboth.1
    rintro ⟨after, hafter⟩
    by_cases hmisfits : before.Misfits api source description
    · obtain ⟨error, herror⟩ :=
        @applyDescription_of_misfits T inputs before api source description type hmisfits
      exact absurd (herror.symm.trans hafter) (by simp)
    · obtain ⟨abort, habort⟩ :=
        @applyDescription_aborts T inputs before api source description type hfits hmisfits
      exact absurd (habort.symm.trans hafter) (by simp)

/-! ## One more description -/

/-- The state without the records of what has been observed and called. -/
def unrecorded (transport : JsepTransport T) : JsepTransport T :=
  { transport with
    calls := []
    rtpTransport :=
      match transport.rtpTransport with
      | .unencrypted rtp => .unencrypted { rtp with trace := [] }
      | .sdes srtp => .sdes { srtp with trace := [] }
      | .dtlsSrtp dtls => .dtlsSrtp { dtls with trace := [] } }

/-- What a description meets below when rtcp-mux is fully active. -/
structure MuxBound (transport : JsepTransport T) (dtls : DtlsSrtpTransport T) : Prop where
  rtpTransport : transport.rtpTransport = .dtlsSrtp dtls
  isFullyActive : transport.rtcpMuxNegotiator.isFullyActive = true
  rtcpDtlsTransport : transport.rtcpDtlsTransport = none
  bindings : dtls.bindings =
    { rtpPacketTransport := some transport.rtpDtlsTransport
      rtcpPacketTransport := none
      rtpDtlsTransport := some transport.rtpDtlsTransport
      rtcpDtlsTransport := none
      rtcpMuxEnabled := true
      activeResetSrtpParams := dtls.activeResetSrtpParams }

theorem CreatedAndRun.muxBound {rtpDtlsTransport : T} {rtcpDtlsTransport : Option T}
    {activeResetSrtpParams : Bool} {transport : JsepTransport T} {dtls : DtlsSrtpTransport T}
    (hrun : CreatedAndRun api rtpDtlsTransport rtcpDtlsTransport activeResetSrtpParams
      transport)
    (hfully : transport.rtcpMuxNegotiator.isFullyActive = true)
    (hrtp : transport.rtpTransport = .dtlsSrtp dtls) :
    MuxBound transport dtls ∧ DtlsSrtpTransport.KeysInv dtls := by
  obtain ⟨hown, other, hother, hkeys, hbindings⟩ := hrun.overDtls hfully
  obtain rfl := AnyRtpTransport.dtlsSrtp.inj (hother.symm.trans hrtp)
  rw [← hown] at hbindings
  exact ⟨⟨hrtp, hfully, hrun.rtcpDtlsTransport_eq_none hfully, hbindings⟩, hkeys⟩

section Bound

variable {source : ContentSource} {description : JsepTransportDescription} {type : SdpType}
  {inputs : JsepInputs T} {transport : JsepTransport T} {dtls : DtlsSrtpTransport T}

omit [DecidableEq T] in
theorem MuxBound.negotiated_eq (hbound : MuxBound transport dtls) :
    (transport.negotiated description type source).1 = transport.rtcpMuxNegotiator :=
  RtcpMuxFilter.set_of_isFullyActive hbound.isFullyActive _ _ _

omit [DecidableEq T] in
theorem MuxBound.isActive (hbound : MuxBound transport dtls) :
    transport.rtcpMuxNegotiator.isActive = true := by
  rw [RtcpMuxFilter.isActive, hbound.isFullyActive, Bool.true_or]

omit [DecidableEq T] in
theorem MuxBound.activates_eq (hbound : MuxBound transport dtls) :
    transport.activates description type source = decide (type = .answer) := by
  rw [activates, hbound.negotiated_eq, hbound.isActive, Bool.and_true]

omit [DecidableEq T] in
theorem MuxBound.drivenEvents_eq (hbound : MuxBound transport dtls) :
    transport.drivenEvents inputs source description type =
      (if type = .answer then
          [(inputs.activate, .setDtlsTransports (some transport.rtpDtlsTransport) none)]
        else []) ++
        [(inputs.enable, .setRtcpMuxEnabled true),
          (inputs.extensionIds,
            extensionIdsEvent source description.encryptedHeaderExtensionIds)] := by
  simp only [drivenEvents, hbound.activates_eq, hbound.negotiated_eq, hbound.isActive,
    decide_eq_true_eq]

/-- Without the flag of the owner only rtcp-mux and the ids are set. -/
theorem MuxBound.handle_extensionIds (hbound : MuxBound transport dtls)
    (hactive : dtls.isSrtpActive = true)
    (hquiet : type = .answer → dtls.activeResetSrtpParams = false)
    {driven : DtlsSrtpTransport T}
    (hrun : run (DtlsSrtpTransport.step api.srtp) dtls
      (transport.drivenEvents inputs source description type) = some (.ok driven)) :
    (dtls.setRtcpMuxEnabled api.srtp inputs.enable true).handle api.srtp inputs.extensionIds
      (extensionIdsEvent source description.encryptedHeaderExtensionIds) = .ok driven := by
  have hflags : run (DtlsSrtpTransport.step api.srtp) dtls
      [(inputs.enable, .setRtcpMuxEnabled true),
        (inputs.extensionIds,
          extensionIdsEvent source description.encryptedHeaderExtensionIds)] =
        some (.ok driven) := by
    rw [hbound.drivenEvents_eq] at hrun
    by_cases hanswer : type = .answer
    · have hnext : dtls.bindings = dtls.bindings.next
          (.setDtlsTransports (some transport.rtpDtlsTransport) none) := by
        conv_rhs => rw [hbound.bindings]
        exact hbound.bindings
      have hsame : DtlsSrtpTransport.step api.srtp dtls
          (inputs.activate, .setDtlsTransports (some transport.rtpDtlsTransport) none) =
            some (.ok dtls) := congrArg some
        (DtlsSrtpTransport.setDtlsTransports_same api.srtp inputs.activate hactive
          (hquiet hanswer) hnext)
      rw [if_pos hanswer, List.singleton_append, run_cons_of_ok hsame] at hrun
      exact hrun
    · rw [if_neg hanswer, List.nil_append] at hrun
      exact hrun
  have hflag : DtlsSrtpTransport.step api.srtp dtls
      (inputs.enable, .setRtcpMuxEnabled true) =
        some (.ok (dtls.setRtcpMuxEnabled api.srtp inputs.enable true)) := rfl
  rw [run_cons_of_ok hflag] at hflags
  obtain ⟨next, hstep, hend⟩ := exists_next_of_run_cons hflags
  obtain rfl := Except.ok.inj (Option.some.inj hend)
  exact Option.some.inj hstep

/-- Anything that comes after a reset leaves the sessions renewed. -/
theorem run_renewed {before start final : DtlsSrtpTransport T}
    {events : List (DtlsInputs T × DtlsSrtpEvent T)} (hinv : DtlsSrtpTransport.KeysInv start)
    (hrenewed : DtlsSrtpTransport.Renewed before start)
    (hrun : run (DtlsSrtpTransport.step api.srtp) start events = some (.ok final)) :
    DtlsSrtpTransport.Renewed before final := by
  have hstep : ∀ transport event next,
      DtlsSrtpTransport.KeysInv transport ∧ DtlsSrtpTransport.Renewed before transport →
      DtlsSrtpTransport.step api.srtp transport event = some (.ok next) →
      DtlsSrtpTransport.KeysInv next ∧ DtlsSrtpTransport.Renewed before next := by
    rintro transport event next ⟨hkeys, hnew⟩ hnext
    exact ⟨DtlsSrtpTransport.step_keysInv _ _ _ hkeys hnext,
      DtlsSrtpTransport.renewed_step api.srtp hkeys hnew hnext⟩
  exact (run_induction hstep ⟨hinv, hrenewed⟩ hrun).2

omit [DecidableEq T] in
theorem extensionIdsEvent_ids (source : ContentSource) (extensionIds : List ℤ) :
    (extensionIdsEvent source extensionIds : DtlsSrtpEvent T).sendIds?.isSome ∨
      (extensionIdsEvent source extensionIds : DtlsSrtpEvent T).recvIds?.isSome := by
  cases source with
  | csLocal => exact Or.inr rfl
  | csRemote => exact Or.inl rfl

/-- A description leaves the sessions alone exactly when it is no final answer under the
flag of the owner and its ids lead to no other keys. -/
theorem MuxBound.undisturbed_iff (hbound : MuxBound transport dtls)
    (hkeys : DtlsSrtpTransport.KeysInv dtls) (hactive : dtls.isSrtpActive = true)
    {driven : DtlsSrtpTransport T}
    (hrun : run (DtlsSrtpTransport.step api.srtp) dtls
      (transport.drivenEvents inputs source description type) = some (.ok driven)) :
    DtlsSrtpTransport.Undisturbed dtls driven ↔
      (type = .answer → dtls.activeResetSrtpParams = false) ∧
        DtlsSrtpTransport.RekeysAlike api.srtp inputs.extensionIds dtls
          (extensionIdsEvent source description.encryptedHeaderExtensionIds) := by
  have hmux : dtls.rtcpMuxEnabled = true := congrArg Bindings.rtcpMuxEnabled hbound.bindings
  by_cases hquiet : type = .answer → dtls.activeResetSrtpParams = false
  · rw [DtlsSrtpTransport.undisturbed_flag_update_iff api.srtp inputs.extensionIds
      (extensionIdsEvent_ids _ _) hkeys hactive hmux
      (hbound.handle_extensionIds hactive hquiet hrun)]
    exact (and_iff_right hquiet).symm
  · refine iff_of_false ?_ fun halike => hquiet halike.1
    obtain ⟨hanswer, hflag⟩ := Classical.not_imp.mp hquiet
    have hreset : dtls.activeResetSrtpParams = true := by simpa using hflag
    rw [hbound.drivenEvents_eq, if_pos hanswer, List.singleton_append] at hrun
    obtain ⟨next, hnext, hrest⟩ := exists_next_of_run_cons hrun
    have hnew := DtlsSrtpTransport.renewed_setDtlsTransports api.srtp inputs.activate hkeys
      hactive hreset hnext
    have hinv := DtlsSrtpTransport.step_keysInv _ _ _ hkeys hnext
    exact (run_renewed hinv hnew hrest).not_undisturbed

/-- A description that rtcp-mux and the ICE parameters do not stand against. -/
theorem accepted_of_ok {after : JsepTransport T}
    (hset : transport.setDescription inputs api source description type =
      .ok (after, .ok ())) :
    api.validate description.transportDesc.iceParameters = none ∧
      (transport.negotiated description type source).2 = true := by
  cases hvalid : api.validate description.transportDesc.iceParameters with
  | some message =>
      rw [setDescription_of_invalid inputs transport hvalid] at hset
      exact absurd (Prod.mk.inj (Except.ok.inj hset)).2 (by simp)
  | none =>
      exact ⟨rfl, congrArg Prod.snd (setDescription_ok hset).1⟩

/-- What an accepted description makes of the transport. -/
def described (api : JsepApi) (transport : JsepTransport T) (source : ContentSource)
    (description : JsepTransportDescription) (dtls : DtlsSrtpTransport T)
    (calls : List (JsepCall T)) : JsepTransport T :=
  { transport.withDescription source (some description) with
    rtpTransport := .dtlsSrtp dtls
    localCertificate := transport.keptCertificate source description
    needsIceRestart :=
      transport.needsIceRestart && !transport.iceRestarts api source description
    calls := calls }

theorem MuxBound.accepted (hbound : MuxBound transport dtls) {after : JsepTransport T}
    (hset : transport.setDescription inputs api source description type =
      .ok (after, .ok ())) :
    ∃ driven,
      run (DtlsSrtpTransport.step api.srtp) dtls
          (transport.drivenEvents inputs source description type) = some (.ok driven) ∧
        after = transport.described api source description driven after.calls := by
  obtain ⟨hvalid, haccepted⟩ := accepted_of_ok hset
  obtain ⟨driven, hrun, hcall⟩ :=
    setDescription_driven inputs hbound.rtpTransport hvalid haccepted
  refine ⟨driven, hrun, ?_⟩
  have hnone : transport.rtcpAfterMux description type source =
      transport.rtcpDtlsTransport := by
    rw [rtcpAfterMux, hbound.rtcpDtlsTransport, ite_self]
  conv_lhs => rw [applyDescription_accepted (hcall.symm.trans hset)]
  cases source with
  | csLocal =>
      simp [described, drivenTransport, withDescription, keptCertificate, iceRestarts, hnone,
        hbound.negotiated_eq]
  | csRemote =>
      simp [described, drivenTransport, withDescription, keptCertificate, iceRestarts, hnone,
        hbound.negotiated_eq]

omit [DecidableEq T] in
theorem MuxBound.described (hbound : MuxBound transport dtls) {driven : DtlsSrtpTransport T}
    (hbindings : driven.bindings = dtls.bindings) (calls : List (JsepCall T)) :
    MuxBound (transport.described api source description driven calls) driven := by
  have hflag : driven.activeResetSrtpParams = dtls.activeResetSrtpParams :=
    congrArg Bindings.activeResetSrtpParams hbindings
  cases source with
  | csLocal =>
      exact ⟨rfl, hbound.isFullyActive, hbound.rtcpDtlsTransport, by
        rw [hbindings, hbound.bindings, hflag]
        rfl⟩
  | csRemote =>
      exact ⟨rfl, hbound.isFullyActive, hbound.rtcpDtlsTransport, by
        rw [hbindings, hbound.bindings, hflag]
        rfl⟩

/-- The description set a second time meets what the first one met. -/
theorem MuxBound.accepted_again (hbound : MuxBound transport dtls)
    {after : JsepTransport T} {driven : DtlsSrtpTransport T}
    (hbindings : driven.bindings = dtls.bindings)
    (hafter : after = transport.described api source description driven after.calls)
    (hset : transport.setDescription inputs api source description type =
      .ok (after, .ok ())) :
    ∃ repeated, after.setDescription inputs api source description type =
      .ok (repeated, .ok ()) := by
  obtain ⟨hvalid, haccepted⟩ := accepted_of_ok hset
  obtain ⟨first, -, hcall⟩ :=
    setDescription_driven inputs hbound.rtpTransport hvalid haccepted
  have hboundAfter : MuxBound after driven := by
    rw [hafter]
    exact hbound.described hbindings after.calls
  have hnegotiator : after.rtcpMuxNegotiator = transport.rtcpMuxNegotiator := by
    rw [hafter]
    cases source <;> rfl
  have hagain : (after.negotiated description type source).2 = true := by
    rw [negotiated, hnegotiator]
    exact haccepted
  obtain ⟨second, -, hcallAgain⟩ :=
    setDescription_driven inputs hboundAfter.rtpTransport hvalid hagain
  obtain ⟨hfits, hagreeable⟩ := applyDescription_accepts_iff.mp ⟨after, hcall.symm.trans hset⟩
  rw [hcallAgain, applyDescription_accepts_iff]
  constructor
  · intro hlocal fingerprint hfingerprint
    have hcertificate : (after.drivenTransport source description type second).localCertificate =
        transport.localCertificate := by
      rw [hafter]
      simp [drivenTransport, JsepTransport.described, keptCertificate, hfingerprint]
    rw [hcertificate]
    exact hfits hlocal fingerprint hfingerprint
  · intro hdecides
    have hnegotiable := hagreeable hdecides
    have hnone : (transport.drivenTransport source description type first).rtcpDtlsTransport =
        (after.drivenTransport source description type second).rtcpDtlsTransport := by
      simp [drivenTransport, rtcpAfterMux, hbound.rtcpDtlsTransport,
        hboundAfter.rtcpDtlsTransport]
    rw [← hnone]
    have hdescriptions : ∀ side,
        ((after.drivenTransport source description type second).withDescription source
          (some description)).ownDescription side =
        ((transport.drivenTransport source description type first).withDescription source
          (some description)).ownDescription side := by
      intro side
      rw [hafter]
      cases source <;> cases side <;> rfl
    rw [show (JsepTransport.localDescription _) = _ from hdescriptions .csLocal,
      show (JsepTransport.remoteDescription _) = _ from hdescriptions .csRemote]
    exact hnegotiable

/-- The description does not disturb SRTP, and set again it changes nothing, whatever the
DTLS transports do meanwhile. -/
structure LeavesSrtpAlone (api : JsepApi) (inputs : JsepInputs T) (source : ContentSource)
    (description : JsepTransportDescription) (type : SdpType) (dtls : DtlsSrtpTransport T)
    (before after : JsepTransport T) : Prop where
  undisturbed : ∃ driven, after.rtpTransport = .dtlsSrtp driven ∧
    DtlsSrtpTransport.Undisturbed dtls driven
  dtlsTransports : after.dtlsTransports = before.dtlsTransports
  accepted : ∃ repeated, after.setDescription inputs api source description type =
    .ok (repeated, .ok ())
  again : ∀ later repeated, after.setDescription later api source description type =
    .ok (repeated, .ok ()) → repeated.unrecorded = after.unrecorded

omit [DecidableEq T] in
/-- Described once more, with nothing new below. -/
theorem unrecorded_described
    (hsame : ∀ ufrag pwd, api.iceCredentialsChanged ufrag pwd ufrag pwd = false)
    {first second : DtlsSrtpTransport T} {event : Observation T}
    (hsecond : second = first.observe event) {after repeated : JsepTransport T}
    (hafter : after = transport.described api source description first after.calls)
    (hrepeated : repeated = after.described api source description second repeated.calls) :
    repeated.unrecorded = after.unrecorded := by
  have hkept : after.keptCertificate source description = after.localCertificate := by
    rw [hafter]
    cases source with
    | csRemote => rfl
    | csLocal =>
        cases hfingerprint : description.transportDesc.identityFingerprint <;>
          simp [JsepTransport.described, keptCertificate, hfingerprint]
  have hrestarts : after.iceRestarts api source description = false := by
    rw [hafter]
    cases source <;> simp [JsepTransport.described, iceRestarts, withDescription, hsame]
  have hown : after.withDescription source (some description) = after := by
    rw [hafter]
    cases source <;> rfl
  have hrtp : after.rtpTransport = .dtlsSrtp first := by
    rw [hafter]
    rfl
  rw [hrepeated, JsepTransport.described, hkept, hrestarts, hown, hsecond]
  simp only [unrecorded, hrtp, Bool.not_false, Bool.and_true]
  rfl

theorem MuxBound.leavesAlone_iff
    (hsame : ∀ ufrag pwd, api.iceCredentialsChanged ufrag pwd ufrag pwd = false)
    (hbound : MuxBound transport dtls) (hkeys : DtlsSrtpTransport.KeysInv dtls)
    (hactive : dtls.isSrtpActive = true) {after : JsepTransport T}
    (hset : transport.setDescription inputs api source description type =
      .ok (after, .ok ())) :
    LeavesSrtpAlone api inputs source description type dtls transport after ↔
      (type = .answer → dtls.activeResetSrtpParams = false) ∧
        DtlsSrtpTransport.RekeysAlike api.srtp inputs.extensionIds dtls
          (extensionIdsEvent source description.encryptedHeaderExtensionIds) := by
  obtain ⟨driven, hrun, hafter⟩ := hbound.accepted hset
  have hrtp : after.rtpTransport = .dtlsSrtp driven := by
    rw [hafter]
    rfl
  rw [← hbound.undisturbed_iff hkeys hactive hrun]
  constructor
  · intro halone
    obtain ⟨other, hother, hsessions⟩ := halone.undisturbed
    obtain rfl := AnyRtpTransport.dtlsSrtp.inj (hother.symm.trans hrtp)
    exact hsessions
  · intro hsessions
    have hquiet := ((hbound.undisturbed_iff hkeys hactive hrun).mp hsessions).1
    refine ⟨⟨driven, hrtp, hsessions⟩, ?_,
      hbound.accepted_again hsessions.bindings hafter hset, ?_⟩
    · rw [hafter]
      cases source <;> rfl
    · intro later repeated hrepeated
      have hboundAfter : MuxBound after driven := by
        rw [hafter]
        exact hbound.described hsessions.bindings after.calls
      obtain ⟨second, hsecond, hdescribed⟩ := hboundAfter.accepted hrepeated
      have hflag : driven.activeResetSrtpParams = dtls.activeResetSrtpParams :=
        congrArg Bindings.activeResetSrtpParams hsessions.bindings
      have hupdates : (extensionIdsEvent source description.encryptedHeaderExtensionIds :
          DtlsSrtpEvent T).sendIds?.isSome ∨ _ := extensionIdsEvent_ids source _
      have hfirst := hbound.handle_extensionIds hactive hquiet hrun
      have hready : (dtls.setRtcpMuxEnabled api.srtp inputs.enable
          true).toRtpTransport.Settled := by
        rw [DtlsSrtpTransport.setRtcpMuxEnabled_of_active api.srtp inputs.enable hactive]
        exact RtpTransport.settled_setRtcpMuxEnabled _ true
      have hsettled := DtlsSrtpTransport.settled_update api.srtp inputs.extensionIds hupdates
        hready hfirst
      have hlast := hboundAfter.handle_extensionIds hsessions.active
        (fun hanswer => hflag.trans (hquiet hanswer)) hsecond
      have hmux : driven.rtcpMuxEnabled = true :=
        congrArg Bindings.rtcpMuxEnabled hboundAfter.bindings
      have hold := DtlsSrtpTransport.not_bringsNewIds_of_handle api.srtp inputs.extensionIds
        hfirst
      have hobserved := DtlsSrtpTransport.flag_update_again api.srtp later.extensionIds hupdates
        hsessions.active hsettled hmux hold hlast
      exact unrecorded_described hsame hobserved hafter hdescribed

end Bound

/-- A transport that the controller has created, with rtcp-mux fully active and SRTP
active: an accepted description disturbs neither SRTP nor the transports, and set again it
changes nothing, if and only if it is no final answer while the owner's flag is set, and new
extension ids, if it brings any, lead to the keys that are in use. -/
theorem leavesSrtpAlone_iff (api : JsepApi)
    (hsame : ∀ ufrag pwd, api.iceCredentialsChanged ufrag pwd ufrag pwd = false)
    (rtpDtlsTransport : T) (rtcpDtlsTransport : Option T) (activeResetSrtpParams : Bool)
    (transport : JsepTransport T)
    (hcreated : CreatedAndRun api rtpDtlsTransport rtcpDtlsTransport activeResetSrtpParams
      transport)
    (hfully : transport.rtcpMuxNegotiator.isFullyActive = true) (dtls : DtlsSrtpTransport T)
    (hrtp : transport.rtpTransport = .dtlsSrtp dtls) (hactive : dtls.isSrtpActive = true)
    (inputs : JsepInputs T) (source : ContentSource) (description : JsepTransportDescription)
    (type : SdpType) (after : JsepTransport T)
    (hset : transport.setDescription inputs api source description type =
      .ok (after, .ok ())) :
    LeavesSrtpAlone api inputs source description type dtls transport after ↔
      (type = .answer → dtls.activeResetSrtpParams = false) ∧
        DtlsSrtpTransport.RekeysAlike api.srtp inputs.extensionIds dtls
          (extensionIdsEvent source description.encryptedHeaderExtensionIds) := by
  obtain ⟨hbound, hkeys⟩ := hcreated.muxBound hfully hrtp
  exact hbound.leavesAlone_iff hsame hkeys hactive hset

end Reachable

/-! ## The answer once more -/

/-- The offer and the answer ask for rtcp-mux, and DTLS connects. -/
def answeredEvents : List (JsepEvent ℕ) :=
  [sampleCall .csLocal .offer (sampleProposal [1] .actpass),
    sampleCall .csRemote .answer (sampleProposal [2] .active),
    .update (.onDtlsState 0 .connected DtlsSrtpTransport.connectedInputs)]

/-- DTLS stays connected. -/
def stillConnected : JsepInputs ℕ where
  activate := DtlsSrtpTransport.connectedInputs
  enable := DtlsSrtpTransport.connectedInputs
  extensionIds := DtlsSrtpTransport.connectedInputs

/-- What the controller has created, with these events behind it, rtcp-mux fully active and
SRTP active. -/
def IsAnswered (transport : JsepTransport ℕ) (dtls : DtlsSrtpTransport ℕ) : Prop :=
  CreatedAndRun sampleApi 0 none true transport ∧
    transport.rtcpMuxNegotiator.isFullyActive = true ∧
    transport.rtpTransport = .dtlsSrtp dtls ∧ dtls.isSrtpActive = true

theorem sampleApi_sameCredentials (ufrag pwd : Bytes) :
    sampleApi.iceCredentialsChanged ufrag pwd ufrag pwd = false := by
  simp [sampleApi]

/-- The same answer once more resets SRTP. -/
theorem repeatedAnswer_resets :
    ∃ transport dtls after, IsAnswered transport dtls ∧
      dtls.activeResetSrtpParams = true ∧
      transport.setDescription stillConnected sampleApi .csRemote
        (sampleProposal [2] .active).description .answer = .ok (after, .ok ()) ∧
      ¬ LeavesSrtpAlone sampleApi stillConnected .csRemote
        (sampleProposal [2] .active).description .answer dtls transport after := by
  obtain ⟨transport, dtls, after, hanswered, hflag, hset⟩ :
      ∃ transport dtls after, IsAnswered transport dtls ∧
        dtls.activeResetSrtpParams = true ∧
        transport.setDescription stillConnected sampleApi .csRemote
          (sampleProposal [2] .active).description .answer = .ok (after, .ok ()) :=
    ⟨_, _, _, ⟨⟨{}, Sender.soloDtlsSrtpTransport, [], some [1], answeredEvents, rfl, rfl⟩,
      rfl, rfl, rfl⟩, rfl, rfl⟩
  refine ⟨transport, dtls, after, hanswered, hflag, hset, fun halone => ?_⟩
  obtain ⟨hcreated, hfully, hrtp, hactive⟩ := hanswered
  obtain ⟨hbound, hkeys⟩ := hcreated.muxBound hfully hrtp
  have hquiet := ((hbound.leavesAlone_iff sampleApi_sameCredentials hkeys hactive
    hset).mp halone).1 rfl
  exact absurd (hflag.symm.trans hquiet) (by simp)

/-- The same offer once more does not. -/
theorem leavesSrtpAlone_iff_offer :
    ∃ transport dtls after, IsAnswered transport dtls ∧
      transport.setDescription stillConnected sampleApi .csLocal
        (sampleProposal [1] .actpass).description .offer = .ok (after, .ok ()) ∧
      LeavesSrtpAlone sampleApi stillConnected .csLocal
        (sampleProposal [1] .actpass).description .offer dtls transport after := by
  obtain ⟨transport, dtls, after, hanswered, hids, hset⟩ :
      ∃ transport dtls after, IsAnswered transport dtls ∧
        dtls.recvExtensionIds = some [] ∧
        transport.setDescription stillConnected sampleApi .csLocal
          (sampleProposal [1] .actpass).description .offer = .ok (after, .ok ()) :=
    ⟨_, _, _, ⟨⟨{}, Sender.soloDtlsSrtpTransport, [], some [1], answeredEvents, rfl, rfl⟩,
      rfl, rfl, rfl⟩, rfl, rfl⟩
  refine ⟨transport, dtls, after, hanswered, hset, ?_⟩
  obtain ⟨hcreated, hfully, hrtp, hactive⟩ := hanswered
  refine (leavesSrtpAlone_iff sampleApi sampleApi_sameCredentials 0 none true transport
    hcreated hfully dtls hrtp hactive stillConnected .csLocal
    (sampleProposal [1] .actpass).description .offer after hset).mpr ⟨nofun, ?_⟩
  -- the ids are those of the first offer
  rintro ⟨extensionIds, ⟨hsend, -⟩ | ⟨hrecv, hnew⟩⟩
  · exact absurd hsend (by simp [extensionIdsEvent, DtlsSrtpEvent.sendIds?])
  · exact absurd (hids.trans hrecv) hnew

end JsepTransport

end PeerConnection.Jsep
