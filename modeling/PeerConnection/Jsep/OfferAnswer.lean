import PeerConnection.Jsep.AcceptedDescriptions

/-!
# Offer and answer

Two transports take turns: what one of them sets as its local description, the other sets
as its remote one.  Each such exchange leaves the two mux negotiations mirror images of each
other.  A round of an offer, provisional answers and an answer, with fingerprints on both
sides, leaves the two sides with opposite DTLS roles, whatever roles they had before.
-/

namespace PeerConnection.Srtp

def SslRole.opposite : SslRole → SslRole
  | .client => .server
  | .server => .client

end PeerConnection.Srtp

namespace PeerConnection.Jsep

open PeerConnection.Text
open PeerConnection.Sdp
open PeerConnection.Srtp
open PeerConnection.Runs

/-! ## Two sides -/

inductive Side where
  | first
  | second
  deriving DecidableEq, Repr

def Side.other : Side → Side
  | .first => .second
  | .second => .first

@[simp]
theorem Side.other_other (side : Side) : side.other.other = side := by
  cases side <;> rfl

structure Peers (T : Type*) where
  first : JsepTransport T
  second : JsepTransport T

section Peers

variable {T : Type*}

def Peers.get (peers : Peers T) : Side → JsepTransport T
  | .first => peers.first
  | .second => peers.second

/-- The two transports as one of them sees them. -/
def Peers.of (side : Side) (own other : JsepTransport T) : Peers T :=
  match side with
  | .first => { first := own, second := other }
  | .second => { first := other, second := own }

@[simp]
theorem Peers.get_of_own (side : Side) (own other : JsepTransport T) :
    (Peers.of side own other).get side = own := by
  cases side <;> rfl

@[simp]
theorem Peers.get_of_other (side : Side) (own other : JsepTransport T) :
    (Peers.of side own other).get side.other = other := by
  cases side <;> rfl

end Peers

/-- A description, and what comes from outside while the two sides set it. -/
structure Proposal (T : Type*) where
  description : JsepTransportDescription
  localInputs : JsepInputs T := {}
  remoteInputs : JsepInputs T := {}

/-- A description is set locally on one side and then remotely on the other. -/
structure Exchange (T : Type*) where
  side : Side
  type : SdpType
  proposal : Proposal T

/-- An exchange in which a call returns an error does not happen. -/
def exchangeStep {T : Type*} [DecidableEq T] (api : JsepApi) :
    System (Peers T) (Exchange T) JsepAbort := fun peers exchange =>
  let proposal := exchange.proposal
  match (peers.get exchange.side).setLocalJsepTransportDescription api proposal.localInputs
      proposal.description exchange.type with
  | .error abort => some (.error abort)
  | .ok (_, .error _) => none
  | .ok (own, .ok ()) =>
      match (peers.get exchange.side.other).setRemoteJsepTransportDescription api
          proposal.remoteInputs proposal.description exchange.type with
      | .error abort => some (.error abort)
      | .ok (_, .error _) => none
      | .ok (other, .ok ()) => some (.ok (Peers.of exchange.side own other))

/-- Either side makes the offer; the answers come from the other one. -/
structure Round (T : Type*) where
  offerer : Side
  offer : Proposal T
  prAnswers : List (Proposal T)
  answer : Proposal T

def Round.exchanges {T : Type*} (round : Round T) : List (Exchange T) :=
  ⟨round.offerer, .offer, round.offer⟩ ::
    (round.prAnswers.map (Exchange.mk round.offerer.other .prAnswer) ++
      [⟨round.offerer.other, .answer, round.answer⟩])

/-! ## What is agreed -/

section Agreement

variable {T : Type*}

/-- The two mux negotiations are mirror images. -/
structure Mirrored (peers : Peers T) : Prop where
  mirror : peers.second.rtcpMuxNegotiator = peers.first.rtcpMuxNegotiator.mirror
  isActive : peers.second.rtcpMuxNegotiator.isActive = peers.first.rtcpMuxNegotiator.isActive

/-- The DTLS transports of the two sides have been given opposite roles. -/
def OppositeRoles [DecidableEq T] (peers : Peers T) : Prop :=
  ∃ role, peers.first.GivenRole role ∧ peers.second.GivenRole role.opposite

/-- Offer and answer have fingerprints. -/
def Round.UsesDtls (round : Round T) : Prop :=
  round.offer.description.transportDesc.identityFingerprint.isSome ∧
    round.answer.description.transportDesc.identityFingerprint.isSome

/-- The roles are opposite after every round with fingerprints on both sides. -/
def RolesAgree [DecidableEq T] (api : JsepApi) (peers : Peers T) (rounds : List (Round T)) :
    Prop :=
  ∀ before round after final, rounds = before ++ round :: after →
    run (exchangeStep api) peers ((before ++ [round]).flatMap Round.exchanges) =
      some (.ok final) →
    round.UsesDtls → OppositeRoles final

end Agreement

/-! ## One exchange -/

section Exchange

variable {T : Type*} [DecidableEq T] {api : JsepApi}

theorem exchangeStep_ok {peers next : Peers T} {exchange : Exchange T}
    (hstep : exchangeStep api peers exchange = some (.ok next)) :
    ∃ own other,
      (peers.get exchange.side).setLocalJsepTransportDescription api
        exchange.proposal.localInputs exchange.proposal.description exchange.type =
          .ok (own, .ok ()) ∧
      (peers.get exchange.side.other).setRemoteJsepTransportDescription api
        exchange.proposal.remoteInputs exchange.proposal.description exchange.type =
          .ok (other, .ok ()) ∧
      next = Peers.of exchange.side own other := by
  simp only [exchangeStep] at hstep
  split at hstep
  case h_1 => exact absurd (Option.some.inj hstep) (by simp)
  case h_2 => exact absurd hstep (by simp)
  case h_3 own hlocal =>
    split at hstep
    case h_1 => exact absurd (Option.some.inj hstep) (by simp)
    case h_2 => exact absurd hstep (by simp)
    case h_3 other hremote =>
      exact ⟨own, other, hlocal, hremote, (Except.ok.inj (Option.some.inj hstep)).symm⟩

omit [DecidableEq T] in
/-- Mirror images, seen from either side. -/
theorem mirrored_iff (peers : Peers T) (side : Side) :
    Mirrored peers ↔
      (peers.get side.other).rtcpMuxNegotiator =
        (peers.get side).rtcpMuxNegotiator.mirror := by
  constructor
  · intro hmirrored
    cases side with
    | first => exact hmirrored.mirror
    | second =>
        change peers.first.rtcpMuxNegotiator = peers.second.rtcpMuxNegotiator.mirror
        rw [hmirrored.mirror, RtcpMuxFilter.mirror_mirror]
  · intro hmirror
    have hfirst : peers.second.rtcpMuxNegotiator = peers.first.rtcpMuxNegotiator.mirror := by
      cases side with
      | first => exact hmirror
      | second =>
          change peers.first.rtcpMuxNegotiator = peers.second.rtcpMuxNegotiator.mirror at hmirror
          rw [hmirror, RtcpMuxFilter.mirror_mirror]
    exact ⟨hfirst, by rw [hfirst, RtcpMuxFilter.isActive_mirror]⟩

/-- An exchange keeps the negotiations mirror images. -/
theorem exchangeStep_mirrored (peers : Peers T) (exchange : Exchange T) (next : Peers T)
    (hmirrored : Mirrored peers) (hstep : exchangeStep api peers exchange = some (.ok next)) :
    Mirrored next := by
  obtain ⟨own, other, hlocal, hremote, rfl⟩ := exchangeStep_ok hstep
  have hown := (JsepTransport.setLocalJsepTransportDescription_ok hlocal).1
  have hother := (JsepTransport.setRemoteJsepTransportDescription_ok hremote).1
  rw [mirrored_iff _ exchange.side, Peers.get_of_own, Peers.get_of_other]
  have hset := RtcpMuxFilter.set_mirror (peers.get exchange.side).rtcpMuxNegotiator
    exchange.type exchange.proposal.description.rtcpMuxEnabled .csLocal
  rw [← (mirrored_iff peers exchange.side).mp hmirrored, hown] at hset
  exact (Prod.mk.inj (hother.symm.trans hset)).1

/-! ## The roles -/

/-- Whatever the roles have been: when both sides accept offer and answer, they come to
opposite roles. -/
theorem negotiateDtlsRole_opposite {answererCurrent offererCurrent : Option SslRole}
    {offered answered : ConnectionRole} {answererRole offererRole : SslRole}
    (hanswerer : JsepTransport.negotiateDtlsRole answererCurrent .answer answered offered =
      .ok answererRole)
    (hofferer : JsepTransport.negotiateDtlsRole offererCurrent .offer offered answered =
      .ok offererRole) :
    answererRole = offererRole.opposite := by
  have hactpass : offered = .actpass := by
    by_contra hother
    simp [JsepTransport.negotiateDtlsRole, hother, JsepTransport.invalidRole] at hofferer
  subst hactpass
  cases answered with
  | active => cases hanswerer; cases hofferer; rfl
  | passive => cases hanswerer; cases hofferer; rfl
  | none => cases hanswerer
  | actpass => cases hanswerer
  | holdconn => cases hanswerer

/-- The offer of this side is what both sides negotiate the answer with. -/
structure Offered (side : Side) (offer : JsepTransportDescription) (peers : Peers T) : Prop where
  localDescription : (peers.get side).localDescription = some offer
  remoteDescription : (peers.get side.other).remoteDescription = some offer

theorem offered_of_offer {peers next : Peers T} {side : Side} {type : SdpType}
    {proposal : Proposal T}
    (hstep : exchangeStep api peers ⟨side, type, proposal⟩ = some (.ok next)) :
    Offered side proposal.description next := by
  obtain ⟨own, other, hlocal, hremote, rfl⟩ := exchangeStep_ok hstep
  obtain ⟨-, hown, -⟩ := JsepTransport.setLocalJsepTransportDescription_ok hlocal
  obtain ⟨-, hother, -⟩ := JsepTransport.setRemoteJsepTransportDescription_ok hremote
  exact ⟨by simpa using hown, by simpa using hother⟩

theorem Offered.answered {peers next : Peers T} {side : Side} {type : SdpType}
    {offer : JsepTransportDescription} {proposal : Proposal T}
    (hoffered : Offered side offer peers)
    (hstep : exchangeStep api peers ⟨side.other, type, proposal⟩ = some (.ok next)) :
    Offered side offer next := by
  obtain ⟨own, other, hlocal, hremote, rfl⟩ := exchangeStep_ok hstep
  obtain ⟨-, -, hown, -⟩ := JsepTransport.setLocalJsepTransportDescription_ok hlocal
  obtain ⟨-, -, hother, -⟩ := JsepTransport.setRemoteJsepTransportDescription_ok hremote
  simp only [Side.other_other] at hother
  cases side with
  | first => exact ⟨hother.trans hoffered.localDescription,
      hown.trans hoffered.remoteDescription⟩
  | second => exact ⟨hother.trans hoffered.localDescription,
      hown.trans hoffered.remoteDescription⟩

theorem Offered.prAnswered {peers final : Peers T} {side : Side}
    {offer : JsepTransportDescription} {prAnswers : List (Proposal T)}
    (hoffered : Offered side offer peers)
    (hrun : run (exchangeStep api) peers (prAnswers.map (Exchange.mk side.other .prAnswer)) =
      some (.ok final)) :
    Offered side offer final := by
  have hsides : ∀ exchange ∈ prAnswers.map (Exchange.mk side.other .prAnswer),
      exchange.side = side.other := by
    intro exchange hmem
    obtain ⟨proposal, -, rfl⟩ := List.mem_map.mp hmem
    rfl
  apply run_induction_of_forall _ hoffered hsides hrun
  intro earlier exchange next hearlier hside hstep
  obtain ⟨_, type, proposal⟩ := exchange
  obtain rfl : _ = side.other := hside
  exact hearlier.answered hstep

/-- With both fingerprints a negotiation comes to a role. -/
theorem negotiateDtls_role {currentDtlsRole : Option SslRole} {type : SdpType}
    {localDescription remoteDescription : TransportDescription} {role : Option SslRole}
    {fingerprint : SslFingerprint}
    (hlocal : localDescription.identityFingerprint.isSome)
    (hremote : remoteDescription.identityFingerprint.isSome)
    (hok : JsepTransport.negotiateDtls currentDtlsRole type localDescription
      remoteDescription = .ok (role, fingerprint)) :
    ∃ given, role = some given ∧
      JsepTransport.negotiateDtlsRole currentDtlsRole type localDescription.connectionRole
        remoteDescription.connectionRole = .ok given := by
  obtain ⟨localFingerprint, hlocal⟩ := Option.isSome_iff_exists.mp hlocal
  obtain ⟨remoteFingerprint, hremote⟩ := Option.isSome_iff_exists.mp hremote
  simp only [JsepTransport.negotiateDtls, hlocal, hremote] at hok
  split at hok
  case h_1 => exact absurd hok (by simp)
  case h_2 given hgiven =>
    exact ⟨given, (Prod.mk.inj (Except.ok.inj hok)).1.symm, hgiven⟩

/-- The given role, for a side whose two descriptions have fingerprints. -/
theorem givenRole_of_negotiated {transport : JsepTransport T}
    {currentDtlsRole : Option SslRole} {type : SdpType}
    {localDescription remoteDescription : JsepTransportDescription}
    (hnegotiated : transport.Negotiated currentDtlsRole type)
    (hlocal : transport.localDescription = some localDescription)
    (hremote : transport.remoteDescription = some remoteDescription)
    (hlocalFingerprint : localDescription.transportDesc.identityFingerprint.isSome)
    (hremoteFingerprint : remoteDescription.transportDesc.identityFingerprint.isSome) :
    ∃ given, transport.GivenRole given ∧
      JsepTransport.negotiateDtlsRole currentDtlsRole type
        localDescription.transportDesc.connectionRole
        remoteDescription.transportDesc.connectionRole = .ok given := by
  obtain ⟨localFound, remoteFound, role, fingerprint, hlocalFound, hremoteFound, hok, hgiven⟩ :=
    hnegotiated
  obtain rfl := Option.some.inj (hlocal.symm.trans hlocalFound)
  obtain rfl := Option.some.inj (hremote.symm.trans hremoteFound)
  obtain ⟨given, rfl, hrole⟩ := negotiateDtls_role hlocalFingerprint hremoteFingerprint hok
  exact ⟨given, hgiven given rfl, hrole⟩

/-- The final answer gives the two sides opposite roles. -/
theorem oppositeRoles_of_answer {peers final : Peers T} {side : Side}
    {offer : JsepTransportDescription} {answer : Proposal T}
    (hoffered : Offered side offer peers)
    (hoffer : offer.transportDesc.identityFingerprint.isSome)
    (hanswer : answer.description.transportDesc.identityFingerprint.isSome)
    (hstep : exchangeStep api peers ⟨side.other, .answer, answer⟩ = some (.ok final)) :
    OppositeRoles final := by
  obtain ⟨own, other, hlocal, hremote, rfl⟩ := exchangeStep_ok hstep
  obtain ⟨-, hownLocal, hownRemote, hownNegotiated⟩ :=
    JsepTransport.setLocalJsepTransportDescription_ok hlocal
  obtain ⟨-, hotherRemote, hotherLocal, hotherNegotiated⟩ :=
    JsepTransport.setRemoteJsepTransportDescription_ok hremote
  simp only [Side.other_other] at hotherLocal
  obtain ⟨answererRole, hanswerer, hanswererRole⟩ := givenRole_of_negotiated
    (hownNegotiated (Or.inr rfl)) hownLocal (hownRemote.trans hoffered.remoteDescription)
    hanswer hoffer
  obtain ⟨offererRole, hofferer, hoffererRole⟩ := givenRole_of_negotiated
    (hotherNegotiated (Or.inr rfl)) (hotherLocal.trans hoffered.localDescription)
    hotherRemote hoffer hanswer
  obtain rfl := negotiateDtlsRole_opposite hanswererRole hoffererRole
  cases side with
  | first => exact ⟨offererRole, hofferer, hanswerer⟩
  | second =>
      refine ⟨offererRole.opposite, hanswerer, ?_⟩
      cases offererRole <;> exact hofferer

/-- A complete round, from any state of the two sides. -/
theorem oppositeRoles_of_round {peers final : Peers T} {round : Round T}
    (hrun : run (exchangeStep api) peers round.exchanges = some (.ok final))
    (hdtls : round.UsesDtls) : OppositeRoles final := by
  rw [Round.exchanges] at hrun
  obtain ⟨offered, hoffer, hrest⟩ := exists_next_of_run_cons hrun
  obtain ⟨prAnswered, hprAnswers, hanswer⟩ := run_concat_eq_ok_iff.mp hrest
  have hoffered := (offered_of_offer hoffer).prAnswered hprAnswers
  exact oppositeRoles_of_answer hoffered hdtls.1 hdtls.2 hanswer

end Exchange

/-! ## Runs -/

/-- What a transport is created with. -/
structure Setup (T : Type*) where
  mid : Bytes := []
  localCertificate : Option Certificate := none
  rtpTransport : AnyRtpTransport T
  rtpDtlsTransport : T
  rtcpDtlsTransport : Option T := none

def Setup.transport {T : Type*} (setup : Setup T) : JsepTransport T :=
  .create setup.mid setup.localCertificate setup.rtpTransport setup.rtpDtlsTransport
    setup.rtcpDtlsTransport

/-- Two new transports. -/
def Peers.fresh {T : Type*} (first second : Setup T) : Peers T where
  first := first.transport
  second := second.transport

/-- In every run of rounds the mux negotiations are mirror images after every exchange,
and the DTLS roles are opposite after every round with fingerprints on both sides. -/
theorem offer_answer_agreement {T : Type*} [DecidableEq T] (api : JsepApi)
    (first second : Setup T) (rounds : List (Round T)) :
    Throughout (exchangeStep api) Mirrored (.fresh first second)
        (rounds.flatMap Round.exchanges) ∧
      RolesAgree api (.fresh first second) rounds := by
  constructor
  · intro before after passed _ hrun
    exact run_induction exchangeStep_mirrored ⟨rfl, rfl⟩ hrun
  · intro before round after final _ hrun hdtls
    rw [List.flatMap_append, List.flatMap_singleton] at hrun
    obtain ⟨middle, -, hround⟩ := exists_middle_of_run_append (by simp [Round.exchanges]) hrun
    exact oppositeRoles_of_round hround hdtls

/-- A certificate stands for its digest. -/
def sampleApi : JsepApi where
  srtp := registeredSrtpApi
  validate parameters :=
    if parameters.ufrag.length < 4 ∨ parameters.pwd.length < 22 then some "too short" else none
  iceCredentialsChanged oldUfrag oldPwd newUfrag newPwd := oldUfrag ≠ newUfrag ∨ oldPwd ≠ newPwd
  createUnique algorithm certificate := some { algorithm := algorithm, digest := certificate }
  fingerprintToString fingerprint := toString fingerprint.digest.length

def sampleProposal (certificate : Certificate) (role : ConnectionRole) : Proposal ℕ where
  description.rtcpMuxEnabled := true
  description.transportDesc :=
    { iceUfrag := List.replicate 4 97
      icePwd := List.replicate 22 98
      identityFingerprint := some { algorithm := ascii "sha-256", digest := certificate }
      connectionRole := role }

def sampleSetup (certificate : Certificate) (rtp rtcp : ℕ) : Setup ℕ where
  localCertificate := some certificate
  rtpTransport := .dtlsSrtp (.create false)
  rtpDtlsTransport := rtp
  rtcpDtlsTransport := some rtcp

/-- Each side makes an offer, and the first round has a provisional answer. -/
def sampleRounds : List (Round ℕ) :=
  [{ offerer := .first
     offer := sampleProposal [1] .actpass
     prAnswers := [sampleProposal [2] .passive]
     answer := sampleProposal [2] .active },
   { offerer := .second
     offer := sampleProposal [2] .actpass
     prAnswers := []
     answer := sampleProposal [1] .passive }]

example : reaches (fun peers : Peers ℕ =>
      dtlsRoleOf peers.first.calls 0 = some .server ∧
      dtlsRoleOf peers.second.calls 2 = some .client ∧
      peers.first.rtcpMuxNegotiator.isActive ∧ peers.second.rtcpMuxNegotiator.isActive)
    (run (exchangeStep sampleApi) (.fresh (sampleSetup [1] 0 1) (sampleSetup [2] 2 3))
      (sampleRounds.flatMap Round.exchanges)) = true := by
  decide +kernel

end PeerConnection.Jsep
