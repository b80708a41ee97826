import PeerConnection.Jsep.DescriptionCalls

/-!
# Accepted descriptions

What is known after a call that has returned OK: the mux negotiation has accepted the
flag, the description is stored, and an answer of either kind has been negotiated with
the description of the other side, with the outcome passed on to all DTLS transports.
-/

namespace PeerConnection.Jsep

open PeerConnection.Sdp
open PeerConnection.Srtp
open PeerConnection.Runs

/-- The role that a DTLS transport has been given last. -/
def dtlsRoleOf {T : Type*} [DecidableEq T] (calls : List (JsepCall T)) (transport : T) :
    Option SslRole :=
  (calls.filterMap fun
    | .setDtlsRole given role => if given = transport then some role else none
    | _ => none).getLast?

theorem dtlsRoleOf_append_of_mem {T : Type*} [DecidableEq T] (calls : List (JsepCall T))
    {transports : List T} {transport : T} (hmem : transport ∈ transports) (role : SslRole)
    (fingerprint : SslFingerprint) :
    dtlsRoleOf (calls ++ transports.flatMap fun each =>
      [.setDtlsRole each role, .setRemoteFingerprint each fingerprint]) transport =
      some role := by
  rw [dtlsRoleOf, List.filterMap_append, List.getLast?_append]
  generalize hgiven : (transports.flatMap _).filterMap _ = given
  have hall : ∀ each ∈ given, each = role := by
    intro each heach
    rw [← hgiven] at heach
    simp only [List.mem_filterMap, List.mem_flatMap] at heach
    obtain ⟨call, ⟨source, -, hcall⟩, hrole⟩ := heach
    rcases List.mem_pair.mp hcall with rfl | rfl
    · simp only [Option.ite_none_right_eq_some, Option.some.injEq] at hrole
      exact hrole.2.symm
    · exact absurd hrole (by simp)
  have hne : given ≠ [] := by
    have hrole : role ∈ given := by
      rw [← hgiven]
      simp only [List.mem_filterMap, List.mem_flatMap]
      exact ⟨.setDtlsRole transport role, ⟨transport, hmem, by simp⟩, by simp⟩
    exact List.ne_nil_of_mem hrole
  rw [List.getLast?_eq_some_getLast hne, hall _ (List.getLast_mem hne), Option.some_or]

namespace JsepTransport

variable {T : Type*}

/-! ## Negotiated parameters -/

theorem setNegotiatedDtlsParameters_ok {answers : DtlsAnswers}
    {transport after : JsepTransport T} {dtlsTransport : T} {dtlsRole : Option SslRole}
    {remoteFingerprint : SslFingerprint}
    (hok : transport.setNegotiatedDtlsParameters answers dtlsTransport dtlsRole
      remoteFingerprint = (after, .ok ())) :
    after = transport.call (dtlsRole.toList.map (.setDtlsRole dtlsTransport) ++
      [.setRemoteFingerprint dtlsTransport remoteFingerprint]) := by
  simp only [setNegotiatedDtlsParameters] at hok
  split at hok
  · exact absurd (Prod.mk.inj hok).2 (by simp)
  split at hok
  · exact absurd (Prod.mk.inj hok).2 (by simp)
  · rw [← (Prod.mk.inj hok).1]
    simp [call]

/-- Every DTLS transport in use has been given this role. -/
def GivenRole [DecidableEq T] (transport : JsepTransport T) (role : SslRole) : Prop :=
  ∀ each ∈ transport.dtlsTransports, dtlsRoleOf transport.calls each = some role

/-- The two descriptions have been negotiated, by this side as offerer or as answerer. -/
def Negotiated [DecidableEq T] (transport : JsepTransport T)
    (currentDtlsRole : Option SslRole) (localDescriptionType : SdpType) : Prop :=
  ∃ localDescription remoteDescription role fingerprint,
    transport.localDescription = some localDescription ∧
    transport.remoteDescription = some remoteDescription ∧
    negotiateDtls currentDtlsRole localDescriptionType localDescription.transportDesc
      remoteDescription.transportDesc = .ok (role, fingerprint) ∧
    ∀ given, role = some given → transport.GivenRole given

/-- The descriptions and the mux negotiation are what they were. -/
structure SameSession (before after : JsepTransport T) : Prop where
  localDescription : after.localDescription = before.localDescription
  remoteDescription : after.remoteDescription = before.remoteDescription
  rtcpMuxNegotiator : after.rtcpMuxNegotiator = before.rtcpMuxNegotiator

theorem SameSession.ownDescription {before after : JsepTransport T}
    (hsame : SameSession before after) (side : ContentSource) :
    after.ownDescription side = before.ownDescription side := by
  cases side with
  | csLocal => exact hsame.localDescription
  | csRemote => exact hsame.remoteDescription

theorem pushNegotiated_ok {inputs : JsepInputs T} {transport after : JsepTransport T}
    {dtlsRole : Option SslRole} {fingerprint : SslFingerprint}
    (hok : transport.pushNegotiated inputs dtlsRole fingerprint = (after, .ok ())) :
    after = transport.call (transport.dtlsTransports.flatMap fun each =>
      dtlsRole.toList.map (.setDtlsRole each) ++ [.setRemoteFingerprint each fingerprint]) := by
  simp only [pushNegotiated] at hok
  generalize hrtp : transport.setNegotiatedDtlsParameters inputs.rtp
    transport.rtpDtlsTransport dtlsRole fingerprint = first at hok
  obtain ⟨withRtp, result⟩ := first
  cases result with
  | error error => exact absurd (Prod.mk.inj hok).2 (by simp)
  | ok value =>
      have hfirst := setNegotiatedDtlsParameters_ok hrtp
      cases hrtcp : transport.rtcpDtlsTransport with
      | none =>
          rw [hrtcp] at hok
          rw [← (Prod.mk.inj hok).1, hfirst]
          simp [dtlsTransports, hrtcp]
      | some rtcpDtlsTransport =>
          rw [hrtcp] at hok
          rw [setNegotiatedDtlsParameters_ok hok, hfirst]
          simp [dtlsTransports, hrtcp, call]

theorem givenRole_call [DecidableEq T] (transport : JsepTransport T) (role : SslRole)
    (fingerprint : SslFingerprint) :
    (transport.call (transport.dtlsTransports.flatMap fun each =>
      [.setDtlsRole each role, .setRemoteFingerprint each fingerprint])).GivenRole role := by
  intro each heach
  exact dtlsRoleOf_append_of_mem transport.calls heach role fingerprint

theorem negotiateAndSetDtlsParameters_ok [DecidableEq T] {inputs : JsepInputs T}
    {transport after : JsepTransport T} {localDescriptionType : SdpType}
    (hok : transport.negotiateAndSetDtlsParameters inputs localDescriptionType =
      (after, .ok ())) :
    SameSession transport after ∧ after.Negotiated inputs.dtlsRole localDescriptionType := by
  simp only [negotiateAndSetDtlsParameters] at hok
  split at hok
  case h_2 => exact absurd (Prod.mk.inj hok).2 (by simp)
  case h_1 localDescription remoteDescription hlocal hremote =>
    split at hok
    case h_1 => exact absurd (Prod.mk.inj hok).2 (by simp)
    case h_2 role fingerprint hnegotiate =>
      obtain rfl := pushNegotiated_ok hok
      refine ⟨⟨rfl, rfl, rfl⟩, localDescription, remoteDescription, role, fingerprint, hlocal,
        hremote, hnegotiate, ?_⟩
      rintro given rfl
      exact transport.givenRole_call given fingerprint

/-! ## The two calls -/

section Calls

variable [DecidableEq T] {api : JsepApi} {inputs : JsepInputs T}
  {transport after : JsepTransport T} {description : JsepTransportDescription} {type : SdpType}

/-- What is negotiated when a description of this type is set. -/
def NegotiatedWhen (transport : JsepTransport T) (type : SdpType)
    (currentDtlsRole : Option SslRole) (localDescriptionType : SdpType) : Prop :=
  type = .prAnswer ∨ type = .answer →
    transport.Negotiated currentDtlsRole localDescriptionType

theorem decideTransportProtocol_ok {localDescriptionType : SdpType}
    (hok : transport.decideTransportProtocol inputs type localDescriptionType =
      (after, .ok ())) :
    SameSession transport after ∧
      after.NegotiatedWhen type inputs.dtlsRole localDescriptionType := by
  simp only [decideTransportProtocol] at hok
  split at hok
  case isTrue =>
    obtain ⟨hsame, hnegotiated⟩ := negotiateAndSetDtlsParameters_ok hok
    exact ⟨hsame, fun _ => hnegotiated⟩
  case isFalse hother =>
    obtain rfl := (Prod.mk.inj hok).1
    refine ⟨⟨rfl, rfl, rfl⟩, fun hanswer => absurd hanswer ?_⟩
    simpa using hother

theorem finishLocalDescription_ok {iceParameters : IceParameters} {iceRestarting : Bool}
    (hok : transport.finishLocalDescription inputs iceParameters type iceRestarting =
      (after, .ok ())) :
    SameSession transport after ∧ after.NegotiatedWhen type inputs.dtlsRole type := by
  simp only [finishLocalDescription] at hok
  split at hok
  case h_1 => exact absurd (Prod.mk.inj hok).2 (by simp)
  case h_2 hresult =>
    obtain ⟨hsame, hnegotiated⟩ := decideTransportProtocol_ok (Prod.ext rfl hresult)
    obtain rfl := (Prod.mk.inj hok).1
    exact ⟨⟨hsame.localDescription, hsame.remoteDescription, hsame.rtcpMuxNegotiator⟩,
      hnegotiated⟩

theorem applyLocalDescription_ok
    (hok : transport.applyLocalDescription api inputs description type =
      .ok (after, .ok ())) :
    SameSession { transport with localDescription := some description } after ∧
      after.NegotiatedWhen type inputs.dtlsRole type := by
  simp only [applyLocalDescription] at hok
  split at hok
  case h_1 =>
    obtain ⟨hsame, hnegotiated⟩ := finishLocalDescription_ok (Except.ok.inj hok)
    exact ⟨⟨hsame.localDescription, hsame.remoteDescription, hsame.rtcpMuxNegotiator⟩,
      hnegotiated⟩
  case h_2 fingerprint hfingerprint =>
    split at hok
    case h_1 => exact absurd hok (by simp)
    case h_2 => exact absurd (Prod.mk.inj (Except.ok.inj hok)).2 (by simp)
    case h_3 => exact finishLocalDescription_ok (Except.ok.inj hok)

theorem applyRemoteDescription_ok
    (hok : transport.applyRemoteDescription inputs description type = (after, .ok ())) :
    SameSession { transport with remoteDescription := some description } after ∧
      after.NegotiatedWhen type inputs.dtlsRole .offer := by
  simp only [applyRemoteDescription] at hok
  split at hok
  case h_1 => exact absurd (Prod.mk.inj hok).2 (by simp)
  case h_2 hresult =>
    obtain ⟨hsame, hnegotiated⟩ := decideTransportProtocol_ok (Prod.ext rfl hresult)
    obtain rfl := (Prod.mk.inj hok).1
    exact ⟨⟨hsame.localDescription, hsame.remoteDescription, hsame.rtcpMuxNegotiator⟩,
      hnegotiated⟩

theorem applyDescription_ok {source : ContentSource}
    (hok : transport.applyDescription inputs api source description type =
      .ok (after, .ok ())) :
    SameSession (transport.withDescription source (some description)) after ∧
      after.NegotiatedWhen type inputs.dtlsRole (localDescriptionType source type) := by
  cases source with
  | csLocal => exact applyLocalDescription_ok hok
  | csRemote => exact applyRemoteDescription_ok (Except.ok.inj hok)

/-- An accepted call has set rtcp-mux and gone on to the description. -/
theorem exists_muxed_of_ok {source : ContentSource}
    (hok : transport.setDescription inputs api source description type =
      .ok (after, .ok ())) :
    (transport.negotiated description type source).2 = true ∧
      ∃ muxed, MuxSet description type source transport muxed ∧
        muxed.applyDescription inputs api source description type = .ok (after, .ok ()) := by
  have hcourse := @course_setDescription T inputs transport _ api source description type
  generalize transport.setDescription inputs api source description type = outcome
    at hcourse hok
  cases hcourse with
  | invalid => exact absurd (Prod.mk.inj (Except.ok.inj hok)).2 (by simp)
  | refused => exact absurd (Prod.mk.inj (Except.ok.inj hok)).2 (by simp)
  | sdes => exact absurd (Prod.mk.inj (Except.ok.inj hok)).2 (by simp)
  | applied hvalid haccepted hsdes muxed hset => exact ⟨haccepted, muxed, hset, hok⟩

/-- What an accepted call has negotiated and stored. -/
theorem setDescription_ok {source : ContentSource}
    (hok : transport.setDescription inputs api source description type =
      .ok (after, .ok ())) :
    transport.negotiated description type source = (after.rtcpMuxNegotiator, true) ∧
      (∀ side, after.ownDescription side =
        (transport.withDescription source (some description)).ownDescription side) ∧
      after.NegotiatedWhen type inputs.dtlsRole (localDescriptionType source type) := by
  obtain ⟨haccepted, muxed, hset, happly⟩ := exists_muxed_of_ok hok
  obtain ⟨hsame, hnegotiated⟩ := applyDescription_ok happly
  refine ⟨Prod.ext ?_ haccepted, fun side => ?_, hnegotiated⟩
  · rw [hsame.rtcpMuxNegotiator, rtcpMuxNegotiator_withDescription, hset.rtcpMuxNegotiator]
  · rw [hsame.ownDescription, ownDescription_withDescription, hset.ownDescription,
      ownDescription_withDescription]

/-- An accepted local description. -/
theorem setLocalJsepTransportDescription_ok
    (hok : transport.setLocalJsepTransportDescription api inputs description type =
      .ok (after, .ok ())) :
    transport.rtcpMuxNegotiator.set type description.rtcpMuxEnabled .csLocal =
        (after.rtcpMuxNegotiator, true) ∧
      after.localDescription = some description ∧
      after.remoteDescription = transport.remoteDescription ∧
      after.NegotiatedWhen type inputs.dtlsRole type := by
  obtain ⟨hmux, hdescriptions, hnegotiated⟩ :=
    @setDescription_ok T _ api inputs transport after description type .csLocal hok
  exact ⟨hmux, hdescriptions .csLocal, hdescriptions .csRemote, hnegotiated⟩

/-- An accepted remote description. -/
theorem setRemoteJsepTransportDescription_ok
    (hok : transport.setRemoteJsepTransportDescription api inputs description type =
      .ok (after, .ok ())) :
    transport.rtcpMuxNegotiator.set type description.rtcpMuxEnabled .csRemote =
        (after.rtcpMuxNegotiator, true) ∧
      after.remoteDescription = some description ∧
      after.localDescription = transport.localDescription ∧
      after.NegotiatedWhen type inputs.dtlsRole .offer := by
  obtain ⟨hmux, hdescriptions, hnegotiated⟩ :=
    @setDescription_ok T _ api inputs transport after description type .csRemote hok
  exact ⟨hmux, hdescriptions .csRemote, hdescriptions .csLocal, hnegotiated⟩

end Calls

end JsepTransport

end PeerConnection.Jsep
