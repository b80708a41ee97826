import PeerConnection.Core.Text

/-!
# Session descriptions

The data of `csession_description.h` that `ToString`, `set_remote_sdp`,
`create_offer` and the transport controller read or write, the lookups of
`SessionDescription`, and the ways in which the C++ code can leave defined
behaviour.
-/

namespace PeerConnection.Sdp

open PeerConnection.Text

/-- The kinds of object reached through a raw or owning pointer. -/
inductive Pointer where
  | iceTransport
  | dtlsTransport
  | transportInfo
  | identityFingerprint
  | certificate
  | transportController
  | transportSend
  deriving DecidableEq, Repr

/-- Undefined behaviour and uncaught exceptions. -/
inductive Fault where
  | indexOutOfRange
  | substrOutOfRange
  | null (pointer : Pointer)
  | dangling (pointer : Pointer)
  deriving DecidableEq, Repr

/-- `text.substr(start)`, which throws when `start` lies behind the end. -/
def substr (text : Bytes) (start : ℕ) : Except Fault Bytes :=
  if text.length < start then .error .substrOutOfRange else .ok (text.drop start)

/-- `items[index]`. -/
def index {α : Type*} (items : List α) (position : ℕ) : Except Fault α :=
  match items[position]? with
  | some item => .ok item
  | none => .error .indexOutOfRange

abbrev Certificate := Bytes

/-- `rtc::SSLFingerprint`. -/
structure SslFingerprint where
  algorithm : Bytes
  digest : Bytes
  deriving DecidableEq, Repr

inductive ConnectionRole where
  | none
  | active
  | passive
  | actpass
  | holdconn
  deriving DecidableEq, Repr

/-- The parts of `rtc_base` and `libice` that print and read transport
attributes.  Their code is not in this repository. -/
structure TransportApi where
  /-- `SSLFingerprint::CreateFromCertificate`. -/
  createFromCertificate : Certificate → Option SslFingerprint
  /-- `SSLFingerprint::CreateUniqueFromRfc4572`; `none` is a null pointer. -/
  createUniqueFromRfc4572 : Bytes → Bytes → Option SslFingerprint
  /-- `SSLFingerprint::GetRfc4572Fingerprint`. -/
  getRfc4572Fingerprint : SslFingerprint → Bytes
  /-- `libice::ConnectionRoleToString`. -/
  connectionRoleToString : ConnectionRole → Bytes

/-! ### The outside parts as their documentation describes them -/

def hexDigit (value : UInt8) : Byte :=
  if value < 10 then 48 + value else 55 + value

def hexValue (digit : Byte) : Option UInt8 :=
  if 48 ≤ digit ∧ digit ≤ 57 then some (digit - 48)
  else if 65 ≤ digit ∧ digit ≤ 70 then some (digit - 55)
  else if 97 ≤ digit ∧ digit ≤ 102 then some (digit - 87)
  else none

/-- Pairs of hexadecimal digits with a colon between them. -/
def encodeHex : Bytes → Bytes
  | [] => []
  | [byte] => [hexDigit (byte / 16), hexDigit (byte % 16)]
  | byte :: bytes => hexDigit (byte / 16) :: hexDigit (byte % 16) :: colon :: encodeHex bytes

def decodeHex : Bytes → Option Bytes
  | [high, low] => do
      let highValue ← hexValue high
      let lowValue ← hexValue low
      return [16 * highValue + lowValue]
  | high :: low :: delimiter :: rest => do
      guard (delimiter = colon)
      let highValue ← hexValue high
      let lowValue ← hexValue low
      let bytes ← decodeHex rest
      return (16 * highValue + lowValue) :: bytes
  | _ => none

/-- The digest algorithms that a fingerprint may name. -/
def fips180DigestAlgorithms : List Bytes :=
  [ascii "sha-1", ascii "sha-224", ascii "sha-256", ascii "sha-384", ascii "sha-512"]

/-- Fingerprints in hexadecimal.  The digest of a certificate is computed outside;
a certificate stands for its digest here. -/
def rfc4572Api : TransportApi where
  createFromCertificate certificate :=
    some { algorithm := ascii "sha-256", digest := certificate }
  createUniqueFromRfc4572 algorithm fingerprint :=
    if algorithm ∈ fips180DigestAlgorithms then
      (decodeHex fingerprint).map fun digest => { algorithm := algorithm, digest := digest }
    else none
  getRfc4572Fingerprint fingerprint := encodeHex fingerprint.digest
  connectionRoleToString
    | .none => []
    | .active => ascii "active"
    | .passive => ascii "passive"
    | .actpass => ascii "actpass"
    | .holdconn => ascii "holdconn"

/-- `libice::IceParameters`. -/
structure IceParameters where
  ufrag : Bytes
  pwd : Bytes
  deriving DecidableEq, Repr

/-- `libice::TransportDescription`. -/
@[ext]
structure TransportDescription where
  iceUfrag : Bytes := []
  icePwd : Bytes := []
  identityFingerprint : Option SslFingerprint := none
  connectionRole : ConnectionRole := .none
  deriving DecidableEq, Repr

def TransportDescription.iceParameters (description : TransportDescription) :
    IceParameters :=
  { ufrag := description.iceUfrag, pwd := description.icePwd }

/-- `libice::TransportInfo`. -/
@[ext]
structure TransportInfo where
  contentName : Bytes := []
  description : TransportDescription := {}
  deriving DecidableEq, Repr

/-- `libice::Candidate`, as far as the SDP parser fills it. -/
structure Candidate where
  foundation : Bytes
  component : Int
  protocol : Bytes
  priority : UInt32
  host : Bytes
  port : UInt16
  type : Bytes
  deriving DecidableEq, Repr

structure FeedbackParam where
  id : Bytes
  param : Bytes := []
  deriving DecidableEq, Repr

/-- `libmedia_transfer_protocol::Codec`.  `params` is a `std::map`, so it is
printed in key order. -/
structure Codec where
  id : Int
  name : Bytes
  clockrate : Int
  channels : ℕ := 1
  params : Std.TreeMap Bytes Bytes := ∅
  feedbackParams : List FeedbackParam := []

structure SsrcGroup where
  semantics : Bytes
  ssrcs : List UInt32
  deriving DecidableEq, Repr

structure StreamParams where
  id : Bytes
  streamIds : List Bytes
  cname : Bytes
  ssrcs : List UInt32
  ssrcGroups : List SsrcGroup := []
  deriving DecidableEq, Repr

inductive MediaType where
  | audio
  | video
  deriving DecidableEq, Repr

inductive RtpTransceiverDirection where
  | sendRecv
  | sendOnly
  | recvOnly
  | inactive
  deriving DecidableEq, Repr

/-- `AudioContentDescription` and `VideoContentDescription` differ in `type()`
only. -/
structure MediaContentDescription where
  type : MediaType
  direction : RtpTransceiverDirection := .sendRecv
  rtcpMux : Bool := false
  codecs : List Codec := []
  sendStreams : List StreamParams := []

structure ContentInfo where
  name : Bytes
  description : MediaContentDescription

structure ContentGroup where
  semantics : Bytes
  contentNames : List Bytes
  deriving DecidableEq, Repr

structure SessionDescription where
  contents : List ContentInfo := []
  transportInfos : List TransportInfo := []
  contentGroups : List ContentGroup := []

namespace SessionDescription

/-- The position of the transport info that `GetTransportInfoByName` points
to. -/
def getTransportInfoIndexByName (desc : SessionDescription) (mid : Bytes) : Option ℕ :=
  desc.transportInfos.findIdx? (·.contentName = mid)

def getTransportInfoByName (desc : SessionDescription) (mid : Bytes) :
    Option TransportInfo :=
  desc.transportInfos.find? (·.contentName = mid)

def getGroupByName (desc : SessionDescription) (name : Bytes) : Option ContentGroup :=
  desc.contentGroups.find? (·.semantics = name)

/-- `contents_[0].name`, where there is a first content. -/
def firstContentName (desc : SessionDescription) : Option Bytes :=
  desc.contents.head?.map (·.name)

/-- A description with one section, bundled with itself. -/
def singleSection (type : MediaType) (name : Bytes) (description : TransportDescription) :
    SessionDescription where
  contents := [{ name := name, description := { type := type } }]
  transportInfos := [{ contentName := name, description := description }]
  contentGroups := [{ semantics := ascii "BUNDLE", contentNames := [name] }]

/-- The pointer and the value that `GetTransportInfoByName` gives agree. -/
theorem getTransportInfoByName_eq (desc : SessionDescription) (mid : Bytes) :
    desc.getTransportInfoByName mid =
      (desc.getTransportInfoIndexByName mid).bind (desc.transportInfos[·]?) :=
  List.find?_eq_bind_findIdx?_getElem?

end SessionDescription

end PeerConnection.Sdp
