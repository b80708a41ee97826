import PeerConnection.Sdp.Description

/-!
# Printing a session description

`SessionDescription::ToString` and the helpers it writes its lines with.  The
stream is a byte list; the only step that can fail is the `substr(1)` of
`AddFmtpLine`.
-/

namespace PeerConnection.Sdp

open PeerConnection.Text

def kMediaProtocolDtlsSavpf : Bytes := ascii "UDP/TLS/RTP/SAVPF"

def kBundle : Bytes := ascii "BUNDLE"

/-- `endl` of the printer: every line ends with CR LF. -/
def crlf : Bytes := [cr, lf]

def addRtcpFbLine (codec : Codec) : Bytes :=
  codec.feedbackParams.flatMap fun param =>
    ascii "a=rtcp-fb:" ++ decimal codec.id ++ ascii " " ++ param.id ++
      (if param.param.isEmpty then [] else ascii " " ++ param.param) ++ crlf

/-- The `;key=value` list that `AddFmtpLine` collects. -/
def fmtpData (codec : Codec) : Bytes :=
  codec.params.toList.flatMap fun param =>
    ascii ";" ++ param.1 ++ ascii "=" ++ param.2

def addFmtpLine (codec : Codec) : Except Fault Bytes := do
  let data ← substr (fmtpData codec) 1
  return ascii "a=fmtp:" ++ decimal codec.id ++ ascii " " ++ data ++ crlf

def rtpMapLine (type : MediaType) (codec : Codec) : Bytes :=
  ascii "a=rtpmap:" ++ decimal codec.id ++ ascii " " ++ codec.name ++ ascii "/" ++
    decimal codec.clockrate ++
    (match type with
      | .audio => ascii "/" ++ decimalNat codec.channels
      | .video => []) ++ crlf

/-- `MediaContentDescriptionImpl<C>::BuildRtpMap`. -/
def buildRtpMap (type : MediaType) : List Codec → Except Fault Bytes
  | [] => .ok []
  | codec :: codecs => do
      let fmtp ← addFmtpLine codec
      let rest ← buildRtpMap type codecs
      return rtpMapLine type codec ++ addRtcpFbLine codec ++ fmtp ++ rest

/-- `MediaContentDescriptionImpl<C>::BuildSsrc`. -/
def buildSsrc (streams : List StreamParams) : Bytes :=
  streams.flatMap fun stream =>
    (stream.ssrcGroups.flatMap fun group =>
      if group.ssrcs.isEmpty then []
      else
        ascii "a=ssrc-group:FID" ++
          (group.ssrcs.flatMap fun ssrc => ascii " " ++ decimalNat ssrc.toNat) ++ crlf) ++
    (stream.ssrcs.flatMap fun ssrc =>
      ascii "a=ssrc:" ++ decimalNat ssrc.toNat ++ ascii " cname:" ++ stream.cname ++ crlf)

/-- The payload types of the `m=` line. -/
def fmt (media : MediaContentDescription) : Bytes :=
  media.codecs.flatMap fun codec => ascii " " ++ decimal codec.id

/-- The ICE and DTLS attributes of one section. -/
def transportText (api : TransportApi) (description : TransportDescription) : Bytes :=
  ascii "a=ice-ufrag:" ++ description.iceUfrag ++ crlf ++
    ascii "a=ice-pwd:" ++ description.icePwd ++ crlf ++
    ascii "a=ice-options:trickle" ++ crlf ++
    (match description.identityFingerprint with
      | some fp =>
          ascii "a=fingerprint:" ++ fp.algorithm ++ ascii " " ++
            api.getRfc4572Fingerprint fp ++ crlf ++
            ascii "a=setup:" ++ api.connectionRoleToString description.connectionRole ++ crlf
      | none => [])

/-- One pass through the loop over `contents_`. -/
def contentText (api : TransportApi) (desc : SessionDescription) (content : ContentInfo) :
    Except Fault Bytes := do
  let rtpMap ← buildRtpMap content.description.type content.description.codecs
  return ascii "m=" ++ content.name ++ ascii " 9 " ++ kMediaProtocolDtlsSavpf ++
    fmt content.description ++ crlf ++
    ascii "c=IN IP4 0.0.0.0" ++ crlf ++
    ascii "a=rtcp:9 IN IP4 0.0.0.0" ++ crlf ++
    (match desc.getTransportInfoByName content.name with
      | some td => transportText api td.description
      | none => []) ++
    ascii "a=mid:" ++ content.name ++ crlf ++
    ascii "a=sendonly" ++ crlf ++
    rtpMap ++ buildSsrc content.description.sendStreams

def contentsText (api : TransportApi) (desc : SessionDescription) :
    List ContentInfo → Except Fault Bytes
  | [] => .ok []
  | content :: contents => do
      let text ← contentText api desc content
      let rest ← contentsText api desc contents
      return text ++ rest

/-- The `a=group:BUNDLE` line, when there is a nonempty BUNDLE group. -/
def bundleText (desc : SessionDescription) : Bytes :=
  match desc.getGroupByName kBundle with
  | some answerBundle =>
      if answerBundle.contentNames.isEmpty then []
      else
        ascii "a=group:BUNDLE" ++
          (answerBundle.contentNames.flatMap fun name => ascii " " ++ name) ++ crlf
  | none => []

def SessionDescription.toString (api : TransportApi) (desc : SessionDescription) :
    Except Fault Bytes := do
  let contents ← contentsText api desc desc.contents
  return ascii "v=0" ++ crlf ++
    ascii "o=- 0 2 IN IP4 127.0.0.1" ++ crlf ++
    ascii "s=-" ++ crlf ++
    ascii "t=0 0" ++ crlf ++
    bundleText desc ++
    ascii "a=msid-semantic: WMS" ++ crlf ++
    contents

end PeerConnection.Sdp
