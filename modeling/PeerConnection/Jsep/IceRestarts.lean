import PeerConnection.Jsep.Atomicity
import PeerConnection.Jsep.RepeatedAnswers

/-!
# The flag that asks for an ICE restart

A local description with other ICE credentials clears the flag.  The credentials are
compared with those of `local_description_`, and a local description that fails on its
fingerprint or on the negotiation resets that pointer: the next one is compared with nothing.
-/

namespace PeerConnection.Jsep

open PeerConnection.Text
open PeerConnection.Sdp
open PeerConnection.Srtp
open PeerConnection.Runs

variable {T : Type*}

namespace JsepTransport

/-! ## What a call does to the flag -/

section Calls

variable {api : JsepApi} {inputs : JsepInputs T} {source : ContentSource}
  {description : JsepTransportDescription} {type : SdpType} {before after : JsepTransport T}

theorem needsIceRestart_decideTransportProtocol (transport : JsepTransport T)
    (type localDescriptionType : SdpType) :
    (transport.decideTransportProtocol inputs type localDescriptionType).1.needsIceRestart =
      transport.needsIceRestart := by
  obtain ⟨⟨extra, hextra, -⟩, -⟩ :=
    decideTransportProtocol_spec inputs transport type localDescriptionType
  rw [hextra]
  rfl

theorem finishLocalDescription_refused {iceParameters : IceParameters} {iceRestarting : Bool}
    {error : RtcError}
    (hrefused : before.finishLocalDescription inputs iceParameters type iceRestarting =
      (after, .error error)) :
    after.needsIceRestart = before.needsIceRestart := by
  simp only [finishLocalDescription] at hrefused
  split at hrefused
  case h_1 =>
    obtain ⟨rfl, -⟩ := Prod.mk.inj hrefused
    exact needsIceRestart_decideTransportProtocol _ type type
  case h_2 => exact absurd (Prod.mk.inj hrefused).2 (by simp)

theorem applyDescription_refused {error : RtcError}
    (hrefused : before.applyDescription inputs api source description type =
      .ok (after, .error error)) :
    after.needsIceRestart = before.needsIceRestart := by
  cases source with
  | csRemote =>
      have happly := Except.ok.inj hrefused
      simp only [applyRemoteDescription] at happly
      split at happly
      case h_1 =>
        obtain ⟨rfl, -⟩ := Prod.mk.inj happly
        exact needsIceRestart_decideTransportProtocol _ type .offer
      case h_2 => exact absurd (Prod.mk.inj happly).2 (by simp)
  | csLocal =>
      simp only [applyDescription, applyLocalDescription] at hrefused
      split at hrefused
      case h_1 =>
        have hfinished := finishLocalDescription_refused (Except.ok.inj hrefused)
        exact hfinished
      case h_2 =>
        split at hrefused
        case h_1 => exact absurd hrefused (by simp)
        case h_2 =>
          obtain ⟨rfl, -⟩ := Prod.mk.inj (Except.ok.inj hrefused)
          rfl
        case h_3 =>
          have hfinished := finishLocalDescription_refused (Except.ok.inj hrefused)
          exact hfinished

/-- A call that fails resets the description of its side, or leaves it. -/
theorem applyDescription_refused_local {error : RtcError}
    (hrefused : before.applyDescription inputs api source description type =
      .ok (after, .error error)) :
    after.localDescription = none ∨ after.localDescription = before.localDescription := by
  by_cases hfits : before.Fits api source description
  · obtain ⟨ended, outcome, hok, hended⟩ :=
      @applyDescription_of_fits T inputs before api source description type hfits
    obtain ⟨rfl, rfl⟩ := Prod.mk.inj (Except.ok.inj (hok.symm.trans hrefused))
    obtain ⟨extra, -, hafter⟩ := hended.after_eq
    rw [hafter]
    cases source with
    | csLocal => exact Or.inl rfl
    | csRemote => exact Or.inr rfl
  · by_cases hmisfits : before.Misfits api source description
    · obtain ⟨other, hreset⟩ :=
        @applyDescription_of_misfits T inputs before api source description type hmisfits
      obtain ⟨rfl, -⟩ := Prod.mk.inj (Except.ok.inj (hreset.symm.trans hrefused))
      cases source with
      | csLocal => exact Or.inl rfl
      | csRemote => exact Or.inr rfl
    · obtain ⟨abort, habort⟩ :=
        @applyDescription_aborts T inputs before api source description type hfits hmisfits
      exact absurd (habort.symm.trans hrefused) (by simp)

theorem MuxSet.needsIceRestart (hset : MuxSet description type source before after) :
    after.needsIceRestart = before.needsIceRestart := by
  conv_lhs => rw [hset.rest]

theorem MuxSet.iceRestarts (hset : MuxSet description type source before after) :
    after.iceRestarts api source description = before.iceRestarts api source description := by
  have hlocal : after.localDescription = before.localDescription :=
    hset.ownDescription .csLocal
  rw [JsepTransport.iceRestarts, hlocal, JsepTransport.iceRestarts]

variable [DecidableEq T]

/-- An accepted description clears the flag when it restarts ICE. -/
theorem setDescription_accepted
    (hok : before.setDescription inputs api source description type = .ok (after, .ok ())) :
    after.needsIceRestart =
      (before.needsIceRestart && !before.iceRestarts api source description) := by
  obtain ⟨-, muxed, hset, happly⟩ := exists_muxed_of_ok hok
  rw [applyDescription_accepted happly, hset.needsIceRestart, hset.iceRestarts]

/-- A refused one leaves the flag, and may reset the local description. -/
theorem setDescription_refused {error : RtcError}
    (hrefused : before.setDescription inputs api source description type =
      .ok (after, .error error)) :
    after.needsIceRestart = before.needsIceRestart ∧
      (after.localDescription = none ∨ after.localDescription = before.localDescription) := by
  have hcourse := @course_setDescription T inputs before _ api source description type
  generalize before.setDescription inputs api source description type = outcome
    at hcourse hrefused
  cases hcourse with
  | invalid =>
      obtain ⟨rfl, -⟩ := Prod.mk.inj (Except.ok.inj hrefused)
      cases source <;> exact ⟨rfl, Or.inr rfl⟩
  | refused =>
      obtain ⟨rfl, -⟩ := Prod.mk.inj (Except.ok.inj hrefused)
      exact ⟨rfl, Or.inr rfl⟩
  | sdes hvalid haccepted hsdes muxed hset =>
      obtain ⟨rfl, -⟩ := Prod.mk.inj (Except.ok.inj hrefused)
      exact ⟨hset.needsIceRestart, Or.inr (hset.ownDescription .csLocal)⟩
  | applied hvalid haccepted hsdes muxed hset =>
      have hlocal : muxed.localDescription = before.localDescription :=
        hset.ownDescription .csLocal
      refine ⟨(applyDescription_refused hrefused).trans hset.needsIceRestart, ?_⟩
      rw [← hlocal]
      exact applyDescription_refused_local hrefused

end Calls

end JsepTransport

/-! ## The credentials accepted so far -/

/-- A transport with the ICE parameters of the last local description that has been
accepted. -/
structure IceTracked (T : Type*) where
  transport : JsepTransport T
  acceptedIce : Option IceParameters := none

namespace IceTracked

variable [DecidableEq T] (api : JsepApi)

omit [DecidableEq T] in
def create (mid : Bytes) (localCertificate : Option Certificate)
    (rtpTransport : AnyRtpTransport T) (rtpDtlsTransport : T) (rtcpDtlsTransport : Option T) :
    IceTracked T where
  transport := .create mid localCertificate rtpTransport rtpDtlsTransport rtcpDtlsTransport

/-- The parameters after a call with this result. -/
def acceptedAfter (tracked : IceTracked T) (source : ContentSource)
    (description : JsepTransportDescription) (result : Except RtcError Unit) :
    Option IceParameters :=
  if source = .csLocal ∧ result.isOk = true then some description.transportDesc.iceParameters
  else tracked.acceptedIce

def handle (tracked : IceTracked T) : JsepEvent T → Except JsepAbort (IceTracked T)
  | .setDescription source description type inputs =>
      (tracked.transport.setDescription inputs api source description type).map
        fun (after, result) =>
          { transport := after
            acceptedIce := tracked.acceptedAfter source description result }
  | .update update => .ok { tracked with transport := tracked.transport.update api update }

/-- `JsepTransport.step` with the parameters beside it. -/
def step : System (IceTracked T) (JsepEvent T) JsepAbort := fun tracked event =>
  some (tracked.handle api event)

/-- There is nothing to compare with, or the parameters accepted last. -/
def Remembers (tracked : IceTracked T) : Prop :=
  ∀ description, tracked.transport.localDescription = some description →
    tracked.acceptedIce = some description.transportDesc.iceParameters

/-- An accepted local description with other credentials than the one accepted before clears
the flag, and no call with the same credentials does. -/
def TracksRestarts (tracked : IceTracked T) : JsepEvent T → Prop
  | .setDescription source description type inputs =>
      ∀ after result,
        tracked.transport.setDescription inputs api source description type =
          .ok (after, result) →
        tracked.transport.needsIceRestart = true →
        (source = .csLocal → result = .ok () →
          (∃ old, tracked.acceptedIce = some old ∧
            old ≠ description.transportDesc.iceParameters) →
          after.needsIceRestart = false) ∧
        (tracked.acceptedIce = some description.transportDesc.iceParameters →
          after.needsIceRestart = true)
  | .update _ => True

/-- The call is going to return OK. -/
structure Acceptable (transport : JsepTransport T) (inputs : JsepInputs T)
    (source : ContentSource) (description : JsepTransportDescription) (type : SdpType) :
    Prop where
  passesMux : transport.PassesMux api source description type
  notSdes : transport.rtpTransport.isSdes = false
  fits : transport.Fits api source description
  agreeable : transport.Agreeable inputs source description type
    (transport.rtcpAfterMux description type source)

/-- Where the flag is set and other credentials are going to be accepted, there is a local
description to compare them with. -/
def SeesRestart (tracked : IceTracked T) : JsepEvent T → Prop
  | .setDescription source description type inputs =>
      source = .csLocal → tracked.transport.needsIceRestart = true →
        (∃ old, tracked.acceptedIce = some old ∧
          old ≠ description.transportDesc.iceParameters) →
        Acceptable api tracked.transport inputs source description type →
        tracked.transport.localDescription ≠ none
  | .update _ => True

/-! ## One event -/

section Events

variable {api} {tracked next : IceTracked T} {source : ContentSource}
  {description : JsepTransportDescription} {type : SdpType} {inputs : JsepInputs T}

theorem step_setDescription
    (hstep : step api tracked (.setDescription source description type inputs) =
      some (.ok next)) :
    ∃ after result,
      tracked.transport.setDescription inputs api source description type =
        .ok (after, result) ∧
      next =
        { transport := after
          acceptedIce := tracked.acceptedAfter source description result } := by
  obtain ⟨⟨after, result⟩, hset, hnext⟩ :=
    except_map_eq_ok_iff.mp (Option.some.inj hstep)
  exact ⟨after, result, hset, hnext.symm⟩

/-- Each call remembers the description that it has accepted, or what was remembered. -/
theorem Remembers.step (hremembers : tracked.Remembers) {event : JsepEvent T}
    (hstep : IceTracked.step api tracked event = some (.ok next)) : next.Remembers := by
  cases event with
  | update update =>
      obtain rfl := Except.ok.inj (Option.some.inj hstep)
      intro description hdescription
      apply hremembers
      cases update <;> exact hdescription
  | setDescription source description type inputs =>
      obtain ⟨after, result, hset, rfl⟩ := step_setDescription hstep
      intro found hfound
      cases result with
      | error error =>
          have hkept : tracked.acceptedAfter source description (.error error) =
              tracked.acceptedIce := if_neg (fun hboth => Bool.false_ne_true hboth.2)
          rw [hkept]
          obtain ⟨-, hnone | hsame⟩ := JsepTransport.setDescription_refused hset
          · exact absurd (hnone.symm.trans hfound) (by simp)
          · exact hremembers found (hsame.symm.trans hfound)
      | ok value =>
          obtain ⟨-, hdescriptions, -⟩ := JsepTransport.setDescription_ok hset
          have hlocal := hdescriptions .csLocal
          rw [JsepTransport.ownDescription_withDescription] at hlocal
          cases source with
          | csLocal =>
              obtain rfl := Option.some.inj (hlocal.symm.trans hfound)
              rfl
          | csRemote => exact hremembers found (hlocal.symm.trans hfound)

theorem accepts_iff_acceptable :
    tracked.transport.Accepts api inputs source description type ↔
      Acceptable api tracked.transport inputs source description type := by
  rw [JsepTransport.accepts_iff]
  constructor
  · rintro ⟨hmux, hsdes, hfits, hagreeable⟩
    exact ⟨hmux, hsdes, hfits, hagreeable⟩
  · intro hacceptable
    exact ⟨hacceptable.passesMux, hacceptable.notSdes, hacceptable.fits,
      hacceptable.agreeable⟩

variable (hchanged : ∀ oldUfrag oldPwd newUfrag newPwd,
  api.iceCredentialsChanged oldUfrag oldPwd newUfrag newPwd = true ↔
    oldUfrag ≠ newUfrag ∨ oldPwd ≠ newPwd)

include hchanged

omit [DecidableEq T] in
/-- A restart is seen by what is remembered. -/
theorem iceRestarts_iff (transport : JsepTransport T) :
    transport.iceRestarts api source description = true ↔
      source = .csLocal ∧ ∃ old, transport.localDescription = some old ∧
        old.transportDesc.iceParameters ≠ description.transportDesc.iceParameters := by
  simp only [JsepTransport.iceRestarts, Bool.and_eq_true, decide_eq_true_eq, Option.any_eq_true,
    hchanged, TransportDescription.iceParameters, ne_eq, IceParameters.mk.injEq, not_and_or]

/-- The credentials accepted last never clear the flag. -/
theorem kept_of_same (hremembers : tracked.Remembers) {after : JsepTransport T}
    {result : Except RtcError Unit}
    (hset : tracked.transport.setDescription inputs api source description type =
      .ok (after, result))
    (hflag : tracked.transport.needsIceRestart = true)
    (hsame : tracked.acceptedIce = some description.transportDesc.iceParameters) :
    after.needsIceRestart = true := by
  cases result with
  | error error => rw [(JsepTransport.setDescription_refused hset).1, hflag]
  | ok value =>
      have hstill : tracked.transport.iceRestarts api source description = false := by
        rw [← Bool.not_eq_true, iceRestarts_iff hchanged]
        rintro ⟨-, old, hold, hother⟩
        exact hother (Option.some.inj ((hremembers old hold).symm.trans hsame))
      rw [JsepTransport.setDescription_accepted hset, hflag, hstill]
      rfl

/-- One call, under the invariant. -/
theorem tracksRestarts_iff (hremembers : tracked.Remembers) (event : JsepEvent T) :
    TracksRestarts api tracked event ↔ SeesRestart api tracked event := by
  cases event with
  | update update => exact Iff.rfl
  | setDescription source description type inputs =>
      constructor
      · intro htracks hlocal hflag hother hacceptable hnone
        have haccepts := accepts_iff_acceptable.mpr hacceptable
        obtain ⟨after, hset⟩ := (accepted_iff _).mp haccepts
        have hcleared := (htracks after (.ok ()) hset hflag).1 hlocal rfl hother
        have hunseen : tracked.transport.iceRestarts api source description = false := by
          rw [← Bool.not_eq_true, iceRestarts_iff hchanged]
          rintro ⟨-, old, hold, -⟩
          exact absurd (hnone.symm.trans hold) (by simp)
        rw [JsepTransport.setDescription_accepted hset, hflag, hunseen] at hcleared
        exact absurd hcleared (by simp)
      · intro hsees after result hset hflag
        refine ⟨?_, kept_of_same hchanged hremembers hset hflag⟩
        rintro hlocal rfl hother
        have hacceptable := accepts_iff_acceptable.mp ((accepted_iff _).mpr ⟨after, hset⟩)
        obtain ⟨old, hold⟩ :=
          Option.ne_none_iff_exists'.mp (hsees hlocal hflag hother hacceptable)
        obtain ⟨parameters, haccepted, hdiffer⟩ := hother
        have hparameters : parameters = old.transportDesc.iceParameters :=
          Option.some.inj (haccepted.symm.trans (hremembers old hold))
        have hrestarts : tracked.transport.iceRestarts api source description = true :=
          (iceRestarts_iff hchanged _).mpr ⟨hlocal, old, hold, hparameters ▸ hdiffer⟩
        rw [JsepTransport.setDescription_accepted hset, hrestarts, Bool.not_true, Bool.and_false]

end Events

/-! ## Runs -/

omit [DecidableEq T] in
theorem remembers_create (mid : Bytes) (localCertificate : Option Certificate)
    (rtpTransport : AnyRtpTransport T) (rtpDtlsTransport : T) (rtcpDtlsTransport : Option T) :
    Remembers (create mid localCertificate rtpTransport rtpDtlsTransport rtcpDtlsTransport) :=
  fun _ hdescription => absurd hdescription (by simp [create, JsepTransport.create])

/-- In every run the flag is cleared by the restarts and by nothing else exactly if each
restart that it asks for finds a local description. -/
theorem restartFlag_sound_iff
    (hchanged : ∀ oldUfrag oldPwd newUfrag newPwd,
      api.iceCredentialsChanged oldUfrag oldPwd newUfrag newPwd = true ↔
        oldUfrag ≠ newUfrag ∨ oldPwd ≠ newPwd)
    (mid : Bytes) (localCertificate : Option Certificate) (rtpTransport : AnyRtpTransport T)
    (rtpDtlsTransport : T) (rtcpDtlsTransport : Option T) (events : List (JsepEvent T)) :
    Guarded (step api) (TracksRestarts api)
        (create mid localCertificate rtpTransport rtpDtlsTransport rtcpDtlsTransport) events ↔
      Guarded (step api) (SeesRestart api)
        (create mid localCertificate rtpTransport rtpDtlsTransport rtcpDtlsTransport)
        events := by
  exact guarded_iff_of_invariant (fun _ _ _ hremembers hstep => Remembers.step hremembers hstep)
    (fun _ event hremembers => tracksRestarts_iff hchanged hremembers event)
    (remembers_create mid localCertificate rtpTransport rtpDtlsTransport rtcpDtlsTransport)
    events

/-! ## A restart that is seen, and one that is not -/

/-- The proposal of the sample with another ufrag. -/
def restartingDescription : JsepTransportDescription :=
  let proposal := (sampleProposal [1] .actpass).description
  { proposal with transportDesc := { proposal.transportDesc with iceUfrag := ascii "next" } }

def sampleTracked : IceTracked ℕ :=
  create [] (some [1]) JsepTransport.sampleRtpTransport 0 (some 1)

/-- The owner asks for a restart after the first description. -/
def restartingCalls : List (JsepEvent ℕ) :=
  [JsepTransport.sampleCall .csLocal .offer (sampleProposal [1] .actpass),
    .update .setNeedsIceRestartFlag,
    .setDescription .csLocal restartingDescription .offer {}]

theorem restartFlag_sound_restartingCalls :
    Guarded (step sampleApi) (TracksRestarts sampleApi) sampleTracked restartingCalls ∧
      reaches (fun tracked => !tracked.transport.needsIceRestart)
        (run (step sampleApi) sampleTracked restartingCalls) = true := by
  have hdescribed : reaches (fun tracked => tracked.transport.localDescription.isSome)
      (run (step sampleApi) sampleTracked (restartingCalls.take 2)) = true := rfl
  obtain ⟨described, hrun, hlocal⟩ := exists_of_reaches _ hdescribed
  have hguarded : Guarded (step sampleApi) (SeesRestart sampleApi) sampleTracked
      restartingCalls := by
    apply (guarded_append_iff hrun).mpr
    constructor
    · exact ⟨fun _ hflag => absurd hflag Bool.false_ne_true, fun _ _ =>
        ⟨trivial, fun _ _ => trivial⟩⟩
    · exact ⟨fun _ _ _ _ => Option.isSome_iff_ne_none.mp hlocal, fun _ _ => trivial⟩
  constructor
  · exact (restartFlag_sound_iff sampleApi (by simp [sampleApi]) [] (some [1])
      JsepTransport.sampleRtpTransport 0 (some 1) restartingCalls).mpr hguarded
  · rfl

/-- Before the owner asks, a description with the wrong fingerprint has been refused. -/
def unseenCalls : List (JsepEvent ℕ) :=
  [JsepTransport.sampleCall .csLocal .offer (sampleProposal [1] .actpass),
    JsepTransport.sampleCall .csLocal .offer (sampleProposal [2] .actpass),
    .update .setNeedsIceRestartFlag,
    .setDescription .csLocal restartingDescription .offer {}]

/-- The restart is accepted, and the flag stays. -/
theorem not_tracksRestarts_unseenCalls :
    ¬ Guarded (step sampleApi) (TracksRestarts sampleApi) sampleTracked unseenCalls := by
  let old := (sampleProposal [1] .actpass).description.transportDesc.iceParameters
  let check (tracked : IceTracked ℕ) : Bool :=
    tracked.transport.needsIceRestart && decide (tracked.acceptedIce = some old) &&
      tracked.transport.localDescription.isNone &&
      accepted (tracked.transport.setDescription {} sampleApi .csLocal restartingDescription
        .offer)
  have hchecked : reaches check
      (run (step sampleApi) sampleTracked (unseenCalls.take 3)) = true := rfl
  obtain ⟨tracked, hrun, hall⟩ := exists_of_reaches check hchecked
  simp only [check, Bool.and_eq_true, decide_eq_true_eq] at hall
  obtain ⟨⟨⟨hflag, hold⟩, hnone⟩, haccepted⟩ := hall
  obtain ⟨after, hset⟩ := (accepted_iff _).mp haccepted
  intro hguarded
  obtain ⟨-, htracks, -⟩ := (guarded_append_iff hrun).mp hguarded
  have hother : old ≠ restartingDescription.transportDesc.iceParameters := by decide
  have hcleared := (htracks after (.ok ()) hset hflag).1 rfl rfl ⟨old, hold, hother⟩
  have hkept := JsepTransport.setDescription_accepted hset
  rw [JsepTransport.iceRestarts, Option.isNone_iff_eq_none.mp hnone, hflag, hcleared] at hkept
  exact absurd hkept (by decide)

end IceTracked

end PeerConnection.Jsep
