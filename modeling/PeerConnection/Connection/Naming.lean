import PeerConnection.Connection.Negotiation

/-!
# The name of the transport

The remote description registers the transport under its first content name, the
local description configures its own first content name, and the packet callback
always says "audio".  The three agree exactly when the negotiation has an audio
section; then, in whatever order the two descriptions and their tasks are dealt
with, packets go out through the transport that has been given both sets of
parameters.
-/

namespace PeerConnection.Connection

open PeerConnection.Text
open PeerConnection.Sdp
open PeerConnection.Runs
open PeerConnection.Transport
open PeerConnection.Transport.TransportController

/-! ## The three names -/

/-- Once the controller has taken over the remote description, the three names
denote one registered transport. -/
def NamesAgree (api : TransportApi) (connection : P2pPeerConnection) (sdp : Bytes)
    (localDesc : SessionDescription) : Prop :=
  ∃ registered posted remoteName localName owner,
    connection.network.controller.setRemoteSdp connection.network.nextDescription
      (acceptedDescription api sdp) = .ok (registered, posted) ∧
    (acceptedDescription api sdp).firstContentName = some remoteName ∧
    localDesc.firstContentName = some localName ∧
    registered.transports.getTransportByName remoteName = some owner ∧
    registered.transports.getTransportByName localName = some owner ∧
    registered.transports.getTransportByName kAudio = some owner

theorem namesAgree_of_audio {api : TransportApi} {connection : P2pPeerConnection}
    (hreachable : Reachable api connection) {sdp : Bytes} {localDesc : SessionDescription}
    (hbundle : HasBundle sdp) (haudio : HasSection kAudio (sdpEntries sdp))
    (hlocal : localDesc.firstContentName = some kAudio) :
    NamesAgree api connection sdp localDesc := by
  have hremote : (acceptedDescription api sdp).firstContentName = some kAudio :=
    acceptedDescription_firstContentName_of_audio haudio
  have howner : (connection.network.controller.registerContent
      connection.network.nextDescription (acceptedDescription api sdp)
      kAudio).1.transports.getTransportByName kAudio =
      some connection.network.controller.nextTransport := by
    rw [getTransportByName_registerContent _ _ hreachable.wellFormed.controller.mapped,
      if_pos rfl]
  exact ⟨_, _, kAudio, kAudio, _,
    setRemoteSdp_of_audio api sdp _ haudio (hasBundle_iff.mp hbundle), hremote, hlocal,
    howner, howner, howner⟩

/-- On a new connection nothing is registered under a name that the remote
description does not bring. -/
theorem not_namesAgree_of_no_audio {api : TransportApi} {sdp : Bytes}
    {localDesc : SessionDescription} (haudio : ¬ HasSection kAudio (sdpEntries sdp)) :
    ¬ NamesAgree api {} sdp localDesc := by
  rintro ⟨registered, posted, remoteName, localName, owner, hcall, _, _, _, _, hname⟩
  have hfirst : (acceptedDescription api sdp).firstContentName ≠ some kAudio := by
    rw [acceptedDescription_firstContentName, sectionTitle, if_neg haudio]
    decide
  have hsame := setRemoteSdpFrom_other hfirst JsepTransportCollection.mapped_empty hcall
  rw [hname] at hsame
  simp [JsepTransportCollection.getTransportByName] at hsame

theorem NamesAgree.hasBundle {api : TransportApi} {connection : P2pPeerConnection}
    {sdp : Bytes} {localDesc : SessionDescription}
    (hagree : NamesAgree api connection sdp localDesc) : HasBundle sdp := by
  obtain ⟨registered, posted, _, _, _, hcall, _⟩ := hagree
  rw [hasBundle_iff]
  intro hgroups
  exact absurd ((setRemoteSdp_of_no_group api sdp _ hgroups).symm.trans hcall) (by simp)

/-! ## The condition -/

theorem kAudio_mem_offerContents_iff {options : RTCOfferAnswerOptions} {streamId : Bytes}
    {source : OfferSource} :
    kAudio ∈ (offerContents options streamId source).map (·.name) ↔
      options.hasAudio = true := by
  cases haudio : options.hasAudio <;> cases hvideo : options.hasVideo <;>
    simp [offerContents, haudio, hvideo, audioContent, videoContent, kVideo_ne_kAudio.symm]

/-- For an offer with sections and a text with the same ones, the three names
agree and the packets arrive exactly when there is an audio section, and a BUNDLE
line without which the text is not taken over at all. -/
theorem transportNames_agree_iff {api : TransportApi} {options : RTCOfferAnswerOptions}
    {streamId : Bytes} {source : OfferSource} {desc : SessionDescription} {sdp : Bytes}
    (hcontents : offerContents options streamId source ≠ [])
    (hdesc : localDesc api options streamId source = .ok desc)
    (haccepted : Accepted sdp)
    (hsections : (mediaNames sdp).Perm (desc.contents.map (·.name))) :
    ((∀ connection, Reachable api connection → NamesAgree api connection sdp desc) ∧
        PacketsReach api options streamId source sdp) ↔
      options.hasAudio = true ∧ HasBundle sdp := by
  obtain ⟨certificate, _, rfl⟩ := localDesc_eq_ok hcontents hdesc
  have hsection : HasSection kAudio (sdpEntries sdp) ↔ options.hasAudio = true := by
    rw [hasSection_iff_mem_mediaNames, hsections.mem_iff]
    exact kAudio_mem_offerContents_iff
  constructor
  · rintro ⟨hnames, _⟩
    have hfirst := hnames {} ⟨[], rfl⟩
    refine ⟨hsection.mp ?_, hfirst.hasBundle⟩
    by_contra haudio
    exact not_namesAgree_of_no_audio haudio hfirst
  · rintro ⟨haudio, hbundle⟩
    refine ⟨fun connection hreachable => ?_, ?_⟩
    · exact namesAgree_of_audio hreachable hbundle (hsection.mpr haudio)
        (offeredDesc_firstContentName_of_audio haudio)
    · exact packetsReach_of_audio haccepted (hsection.mpr haudio) haudio

/-! ### Audio only, and video only -/

/-- What a first offer with a certificate draws. -/
def sampleSource : OfferSource where
  cname := ascii "cname"
  iceParam := { ufrag := ascii "ufrg", pwd := ascii "password" }
  certificate := some [1, 2, 3]
  audioStreamId := ascii "audio0"
  localAudioSsrc := 1
  videoStreamId := ascii "video0"
  localVideoSsrc := 2
  localVideoRtxSsrc := 3

def audioOnly : RTCOfferAnswerOptions where
  sendVideo := false
  recvVideo := false

def videoOnly : RTCOfferAnswerOptions where
  sendAudio := false
  recvAudio := false

/-- A text with one video section that has all its attributes. -/
def videoSdp : Bytes :=
  ascii "v=0\na=group:BUNDLE video\nm=video 9 UDP/TLS/RTP/SAVPF 107\n" ++
    ascii "a=ice-ufrag:user\na=ice-pwd:secret\na=fingerprint:sha-256 AB:CD\n"

theorem transportNames_agree_audioOnly :
    ((∀ connection, Reachable rfc4572Api connection → NamesAgree rfc4572Api connection audioSdp
          (offeredDesc rfc4572Api audioOnly (ascii "stream") sampleSource [1, 2, 3])) ∧
        PacketsReach rfc4572Api audioOnly (ascii "stream") sampleSource audioSdp) ↔
      audioOnly.hasAudio = true ∧ HasBundle audioSdp :=
  transportNames_agree_iff (by simp [offerContents, audioOnly, RTCOfferAnswerOptions.hasAudio])
    (localDesc_of_certificate rfl) (by decide +kernel)
    (List.Perm.of_eq (by decide +kernel))

/-- With video only, the transport is registered under an empty name, while the
local description and the packets say "video" and "audio". -/
theorem videoOnly_names_disagree :
    ∃ options streamId source desc sdp connection,
      offerContents options streamId source ≠ [] ∧
      localDesc rfc4572Api options streamId source = .ok desc ∧ Accepted sdp ∧
      HasBundle sdp ∧ (mediaNames sdp).Perm (desc.contents.map (·.name)) ∧
      Reachable rfc4572Api connection ∧ ¬ NamesAgree rfc4572Api connection sdp desc :=
  ⟨videoOnly, ascii "stream", sampleSource,
    offeredDesc rfc4572Api videoOnly (ascii "stream") sampleSource [1, 2, 3], videoSdp, {},
    by simp [offerContents, videoOnly, RTCOfferAnswerOptions.hasVideo],
    localDesc_of_certificate rfl, by decide +kernel, by decide +kernel,
    List.Perm.of_eq (by decide +kernel), ⟨[], rfl⟩,
    not_namesAgree_of_no_audio (by decide +kernel)⟩

end PeerConnection.Connection
