import PeerConnection.Core.Runs

/-!
# The rtcp-mux negotiation

`RtcpMuxFilter` follows the offers and answers of both sides.  Seen from the other side a
call has the other source, and the states are exchanged in pairs: the filter of the peer
is the mirror image.
-/

namespace PeerConnection.Jsep

inductive ContentSource where
  | csLocal
  | csRemote
  deriving DecidableEq, Repr

def ContentSource.opposite : ContentSource → ContentSource
  | .csLocal => .csRemote
  | .csRemote => .csLocal

/-- `webrtc::SdpType`. -/
inductive SdpType where
  | offer
  | prAnswer
  | answer
  | rollback
  deriving DecidableEq, Repr

/-- `RtcpMuxFilter::State`. -/
inductive MuxState where
  | init
  | receivedOffer
  | sentOffer
  | sentPrAnswer
  | receivedPrAnswer
  | active
  deriving DecidableEq, Repr

structure RtcpMuxFilter where
  state : MuxState := .init
  offerEnable : Bool := false
  deriving DecidableEq, Repr

namespace RtcpMuxFilter

def isFullyActive (filter : RtcpMuxFilter) : Bool :=
  filter.state = .active

def isProvisionallyActive (filter : RtcpMuxFilter) : Bool :=
  filter.state = .sentPrAnswer || filter.state = .receivedPrAnswer

def isActive (filter : RtcpMuxFilter) : Bool :=
  filter.isFullyActive || filter.isProvisionallyActive

def expectOffer (filter : RtcpMuxFilter) (offerEnable : Bool) (source : ContentSource) :
    Bool :=
  filter.state = .init ||
    (filter.state = .active && offerEnable = filter.offerEnable) ||
    (filter.state = .sentOffer && source = .csLocal) ||
    (filter.state = .receivedOffer && source = .csRemote)

def expectAnswer (filter : RtcpMuxFilter) (source : ContentSource) : Bool :=
  (filter.state = .sentOffer && source = .csRemote) ||
    (filter.state = .receivedOffer && source = .csLocal) ||
    (filter.state = .sentPrAnswer && source = .csLocal) ||
    (filter.state = .receivedPrAnswer && source = .csRemote)

def setOffer (filter : RtcpMuxFilter) (offerEnable : Bool) (src : ContentSource) :
    RtcpMuxFilter × Bool :=
  if filter.state = .active then (filter, offerEnable)
  else if !filter.expectOffer offerEnable src then (filter, false)
  else
    ({ offerEnable := offerEnable
       state := if src = .csLocal then .sentOffer else .receivedOffer }, true)

def setProvisionalAnswer (filter : RtcpMuxFilter) (answerEnable : Bool)
    (src : ContentSource) : RtcpMuxFilter × Bool :=
  if filter.state = .active then (filter, answerEnable)
  else if !filter.expectAnswer src then (filter, false)
  else if filter.offerEnable then
    if answerEnable then
      ({ filter with
         state := if src = .csRemote then .receivedPrAnswer else .sentPrAnswer }, true)
    else
      ({ filter with state := if src = .csRemote then .sentOffer else .receivedOffer }, true)
  else if answerEnable then (filter, false)
  else (filter, true)

def setAnswer (filter : RtcpMuxFilter) (answerEnable : Bool) (src : ContentSource) :
    RtcpMuxFilter × Bool :=
  if filter.state = .active then (filter, answerEnable)
  else if !filter.expectAnswer src then (filter, false)
  else if filter.offerEnable && answerEnable then ({ filter with state := .active }, true)
  else if answerEnable then (filter, false)
  else ({ filter with state := .init }, true)

/-- The call that belongs to a description of this type; a rollback has none. -/
def set (filter : RtcpMuxFilter) (type : SdpType) (enable : Bool) (src : ContentSource) :
    RtcpMuxFilter × Bool :=
  match type with
  | .offer => filter.setOffer enable src
  | .prAnswer => filter.setProvisionalAnswer enable src
  | .answer => filter.setAnswer enable src
  | .rollback => (filter, false)

/-! ## The other side -/

end RtcpMuxFilter

def MuxState.mirror : MuxState → MuxState
  | .init => .init
  | .receivedOffer => .sentOffer
  | .sentOffer => .receivedOffer
  | .sentPrAnswer => .receivedPrAnswer
  | .receivedPrAnswer => .sentPrAnswer
  | .active => .active

namespace RtcpMuxFilter

/-- The filter of the peer. -/
def mirror (filter : RtcpMuxFilter) : RtcpMuxFilter :=
  { filter with state := filter.state.mirror }

@[simp]
theorem isActive_mirror (filter : RtcpMuxFilter) : filter.mirror.isActive = filter.isActive := by
  obtain ⟨state, offerEnable⟩ := filter
  cases state <;> rfl

@[simp]
theorem mirror_mirror (filter : RtcpMuxFilter) : filter.mirror.mirror = filter := by
  obtain ⟨state, offerEnable⟩ := filter
  cases state <;> rfl

/-- What one side sets as its own and the other as that of its peer leads to mirror images,
and both accept it or both refuse. -/
theorem set_mirror (filter : RtcpMuxFilter) (type : SdpType) (enable : Bool)
    (src : ContentSource) :
    filter.mirror.set type enable src.opposite =
      ((filter.set type enable src).1.mirror, (filter.set type enable src).2) := by
  obtain ⟨state, offerEnable⟩ := filter
  cases type <;> cases state <;> cases src <;> cases enable <;> cases offerEnable <;> rfl

end RtcpMuxFilter

end PeerConnection.Jsep
