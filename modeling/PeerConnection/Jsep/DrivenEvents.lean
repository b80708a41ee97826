import PeerConnection.Jsep.JsepEvents
import PeerConnection.Srtp.Bindings

/-!
# What a description does to a DTLS-SRTP transport

A call with a description drives the DTLS-SRTP transport below through a few events: the
activation of rtcp-mux binds it anew, then comes the flag, then the encrypted header
extension ids.  The rest of the call leaves it alone.
-/

namespace PeerConnection.Jsep

open PeerConnection.Sdp
open PeerConnection.Srtp
open PeerConnection.Runs

variable {T : Type*}

/-- The update that belongs to a description of this side. -/
def extensionIdsEvent (source : ContentSource) (extensionIds : List ℤ) : DtlsSrtpEvent T :=
  match source with
  | .csLocal => .updateRecvEncryptedHeaderExtensionIds extensionIds
  | .csRemote => .updateSendEncryptedHeaderExtensionIds extensionIds

/-- `CreateDtlsSrtpTransport`; the mux flag is on if and only if there is no RTCP
transport, and the last flag is a constant of the controller. -/
def createDtlsSrtpTransport [DecidableEq T] (api : SrtpApi) (inputs : DtlsInputs T)
    (activeResetSrtpParams : Bool) (rtpDtlsTransport : T) (rtcpDtlsTransport : Option T) :
    Except SrtpAbort (DtlsSrtpTransport T) :=
  ((DtlsSrtpTransport.create rtcpDtlsTransport.isNone).setDtlsTransports api inputs
    (some rtpDtlsTransport) rtcpDtlsTransport).map fun created =>
      created.setActiveResetSrtpParams activeResetSrtpParams

theorem createDtlsSrtpTransport_bindings [DecidableEq T] (api : SrtpApi)
    (inputs : DtlsInputs T) (activeResetSrtpParams : Bool) (rtpDtlsTransport : T)
    (rtcpDtlsTransport : Option T) :
    ∃ created, createDtlsSrtpTransport api inputs activeResetSrtpParams rtpDtlsTransport
        rtcpDtlsTransport = .ok created ∧
      created.bindings =
        { rtpPacketTransport := some rtpDtlsTransport
          rtcpPacketTransport := rtcpDtlsTransport
          rtpDtlsTransport := some rtpDtlsTransport
          rtcpDtlsTransport := rtcpDtlsTransport
          rtcpMuxEnabled := rtcpDtlsTransport.isNone
          activeResetSrtpParams := activeResetSrtpParams } := by
  let new : DtlsSrtpTransport T := .create rtcpDtlsTransport.isNone
  have hstep : DtlsSrtpTransport.step api new
      (inputs, .setDtlsTransports (some rtpDtlsTransport) rtcpDtlsTransport) =
        some (new.setDtlsTransports api inputs (some rtpDtlsTransport) rtcpDtlsTransport) :=
    rfl
  cases hbound : new.setDtlsTransports api inputs (some rtpDtlsTransport)
      rtcpDtlsTransport with
  | error abort =>
      -- a new transport is not active, so the check cannot fail
      exact absurd hbound (by
        simp [new, DtlsSrtpTransport.setDtlsTransports,
          DtlsSrtpTransport.resetForNewTransports, DtlsSrtpTransport.create,
          SrtpTransport.isSrtpActive])
  | ok bound =>
      have hbindings := DtlsSrtpTransport.bindings_step api new (hstep.trans (congrArg some hbound))
      refine ⟨bound.setActiveResetSrtpParams activeResetSrtpParams, ?_, ?_⟩
      · simp only [createDtlsSrtpTransport, new] at hbound ⊢
        rw [hbound]
        rfl
      · change Bindings.next bound.bindings (.setActiveResetSrtpParams activeResetSrtpParams) = _
        rw [hbindings]
        rfl

namespace JsepTransport

variable [DecidableEq T] {api : JsepApi} {source : ContentSource}
  {description : JsepTransportDescription} {type : SdpType}

/-- What the DTLS-SRTP transport goes through in a call whose rtcp-mux is accepted. -/
def drivenEvents (inputs : JsepInputs T) (transport : JsepTransport T)
    (source : ContentSource) (description : JsepTransportDescription) (type : SdpType) :
    List (DtlsInputs T × DtlsSrtpEvent T) :=
  (if transport.activates description type source then
      [(inputs.activate, .setDtlsTransports (some transport.rtpDtlsTransport) none)]
    else []) ++
    [(inputs.enable,
        .setRtcpMuxEnabled (transport.negotiated description type source).1.isActive),
      (inputs.extensionIds,
        extensionIdsEvent source description.encryptedHeaderExtensionIds)]

/-- The transport when the call goes on to the description itself. -/
def drivenTransport (transport : JsepTransport T) (source : ContentSource)
    (description : JsepTransportDescription) (type : SdpType)
    (driven : DtlsSrtpTransport T) : JsepTransport T :=
  { transport with
    rtcpMuxNegotiator := (transport.negotiated description type source).1
    rtpTransport := .dtlsSrtp driven
    rtcpDtlsTransport := transport.rtcpAfterMux description type source
    calls := transport.calls ++
      if transport.activates description type source then [.rtcpMuxActiveCallback] else [] }

theorem withExtensionIds_dtlsSrtp (api : JsepApi) (source : ContentSource)
    (description : JsepTransportDescription) (type : SdpType) (inputs : JsepInputs T)
    (dtls : DtlsSrtpTransport T) :
    ∃ updated,
      dtls.handle api.srtp inputs.extensionIds
          (extensionIdsEvent source description.encryptedHeaderExtensionIds) = .ok updated ∧
        withExtensionIds api inputs source (.dtlsSrtp dtls) description type =
          some (.dtlsSrtp updated) := by
  cases source <;> exact ⟨_, rfl, rfl⟩

/-- The last two events of a call, after the activation of rtcp-mux or without it. -/
theorem run_flag_extensionIds {inputs : JsepInputs T} {dtls updated : DtlsSrtpTransport T}
    {enable : Bool} {extensionIds : List ℤ}
    (hhandle : (dtls.setRtcpMuxEnabled api.srtp inputs.enable enable).handle api.srtp
      inputs.extensionIds (extensionIdsEvent source extensionIds) = .ok updated) :
    run (DtlsSrtpTransport.step api.srtp) dtls
      [(inputs.enable, .setRtcpMuxEnabled enable),
        (inputs.extensionIds, extensionIdsEvent source extensionIds)] =
      some (.ok updated) := by
  have hflag : DtlsSrtpTransport.step api.srtp dtls
      (inputs.enable, .setRtcpMuxEnabled enable) =
        some (.ok (dtls.setRtcpMuxEnabled api.srtp inputs.enable enable)) := rfl
  have hids : DtlsSrtpTransport.step api.srtp
      (dtls.setRtcpMuxEnabled api.srtp inputs.enable enable)
      (inputs.extensionIds, extensionIdsEvent source extensionIds) = some (.ok updated) :=
    congrArg some hhandle
  rw [run_cons_of_ok hflag, run_cons_of_ok hids, run_nil]

/-- A call over DTLS-SRTP is the run of its events, followed by the description itself. -/
theorem setDescription_driven (inputs : JsepInputs T) {transport : JsepTransport T}
    {dtls : DtlsSrtpTransport T} (hrtp : transport.rtpTransport = .dtlsSrtp dtls)
    (hvalid : api.validate description.transportDesc.iceParameters = none)
    (haccepted : (transport.negotiated description type source).2 = true) :
    ∃ driven,
      run (DtlsSrtpTransport.step api.srtp) dtls
          (transport.drivenEvents inputs source description type) = some (.ok driven) ∧
        transport.setDescription inputs api source description type =
          (transport.drivenTransport source description type driven).applyDescription inputs
            api source description type := by
  have hret := haccepted
  rw [negotiated] at hret
  rw [setDescription_of_valid inputs transport hvalid]
  cases hactivates : transport.activates description type source with
  | false =>
      have hkept : (type = .answer && (transport.rtcpMuxNegotiator.set type
          description.rtcpMuxEnabled source).1.isActive) = false := hactivates
      obtain ⟨updated, hhandle, hids⟩ := withExtensionIds_dtlsSrtp api source
        description type inputs
        (dtls.setRtcpMuxEnabled api.srtp inputs.enable
          (transport.negotiated description type source).1.isActive)
      refine ⟨updated, ?_, ?_⟩
      · rw [drivenEvents, hactivates, if_neg Bool.false_ne_true, List.nil_append]
        exact run_flag_extensionIds hhandle
      · rw [negotiated] at hids
        simp only [setTransports, setRtcpMux, hret, hkept, hrtp, setRtcpMuxEnabled, hids,
          Bool.and_true, Bool.not_true, Bool.false_eq_true, if_false, Except.map]
        simp [drivenTransport, rtcpAfterMux, hactivates, negotiated]
  | true =>
      have hactive : (type = .answer && (transport.rtcpMuxNegotiator.set type
          description.rtcpMuxEnabled source).1.isActive) = true := hactivates
      cases hbound : dtls.setDtlsTransports api.srtp inputs.activate
          (some transport.rtpDtlsTransport) none with
      | error abort => simp [DtlsSrtpTransport.setDtlsTransports] at hbound
      | ok bound =>
          obtain ⟨updated, hhandle, hids⟩ := withExtensionIds_dtlsSrtp api source
            description type inputs
            (bound.setRtcpMuxEnabled api.srtp inputs.enable
              (transport.negotiated description type source).1.isActive)
          refine ⟨updated, ?_, ?_⟩
          · have hactivated : DtlsSrtpTransport.step api.srtp dtls
                (inputs.activate, .setDtlsTransports (some transport.rtpDtlsTransport) none) =
                  some (.ok bound) := congrArg some hbound
            rw [drivenEvents, hactivates, if_pos rfl, List.singleton_append,
              run_cons_of_ok hactivated]
            exact run_flag_extensionIds hhandle
          · rw [negotiated] at hids
            simp only [setTransports, setRtcpMux, hret, hactive, activateRtcpMux, hrtp, hbound,
              setRtcpMuxEnabled, hids, Bool.and_true, Bool.not_true, Bool.false_eq_true,
              if_true, if_false, Except.map, call]
            simp [drivenTransport, rtcpAfterMux, hactivates, negotiated]

omit [DecidableEq T] in
/-- The part of a call that concerns the description itself leaves the RTP transport, the
negotiation and the transports alone. -/
theorem applyDescription_keeps {inputs : JsepInputs T} {before after : JsepTransport T}
    {result : Except RtcError Unit}
    (happly : before.applyDescription inputs api source description type =
      .ok (after, result)) :
    after.rtpTransport = before.rtpTransport ∧
      after.rtcpMuxNegotiator = before.rtcpMuxNegotiator ∧
      after.rtpDtlsTransport = before.rtpDtlsTransport ∧
      after.rtcpDtlsTransport = before.rtcpDtlsTransport := by
  have hkept : ∀ side description,
      (before.withDescription side description).rtpTransport = before.rtpTransport ∧
        (before.withDescription side description).rtcpMuxNegotiator =
          before.rtcpMuxNegotiator ∧
        (before.withDescription side description).rtpDtlsTransport =
          before.rtpDtlsTransport ∧
        (before.withDescription side description).rtcpDtlsTransport =
          before.rtcpDtlsTransport := by
    intro side description
    cases side <;> exact ⟨rfl, rfl, rfl, rfl⟩
  by_cases hfits : before.Fits api source description
  · obtain ⟨ended, outcome, hok, hended⟩ :=
      @applyDescription_of_fits T inputs before api source description type hfits
    obtain ⟨rfl, rfl⟩ := Prod.mk.inj (Except.ok.inj (hok.symm.trans happly))
    obtain ⟨extra, -, hafter⟩ := hended.after_eq
    rw [hafter]
    exact hkept source _
  · by_cases hmisfits : before.Misfits api source description
    · obtain ⟨error, hok⟩ :=
        @applyDescription_of_misfits T inputs before api source description type hmisfits
      obtain ⟨rfl, rfl⟩ := Prod.mk.inj (Except.ok.inj (hok.symm.trans happly))
      exact hkept source none
    · obtain ⟨abort, herror⟩ :=
        @applyDescription_aborts T inputs before api source description type hfits hmisfits
      exact absurd (herror.symm.trans happly) (by simp)

end JsepTransport

end PeerConnection.Jsep
