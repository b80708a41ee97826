import PeerConnection.Core.Scan
import PeerConnection.Sdp.Print

/-!
# Reading a remote description

The line parser of `p2p_peer_connection::set_remote_sdp`, with `GetAttribute`,
`ParseCandidates` and `ParseTransportInfo`.  The loop over the lines returns -1
through `Outcome.stop`, keeping the state at that point, because the members
written so far stay written.
-/

namespace PeerConnection.Sdp

open PeerConnection.Text
open PeerConnection.Scan

def kAudio : Bytes := ascii "audio"
def kVideo : Bytes := ascii "video"

def kBundleAttribute : Bytes := ascii "a=group:BUNDLE"
def kCandidateAttribute : Bytes := ascii "a=candidate:"
def kUfragAttribute : Bytes := ascii "a=ice-ufrag"
def kPwdAttribute : Bytes := ascii "a=ice-pwd"
def kFingerprintAttribute : Bytes := ascii "a=fingerprint"

/-- `a=attr_name:attr_value`; empty unless the line has exactly two fields. -/
def getAttribute (line : Bytes) : Bytes :=
  match tokenize colon line with
  | [_, value] => value
  | _ => []

/-- The candidate that `ParseCandidates` builds from its fields. -/
def candidateOf : List Bytes → Option Candidate
  | foundation :: component :: protocol :: priority :: host :: port :: _ :: type :: _ =>
      some
        { foundation := foundation
          component := atoi component
          protocol := protocol
          priority := UInt32.ofInt (atoi priority)
          host := host
          port := UInt16.ofInt (atoi port)
          type := type }
  | _ => none

/-- `none` stands for the result `false`. -/
def parseCandidates (line : Bytes) (allCandidate : List Candidate) :
    Option (List Candidate) :=
  if ¬ Occurs kCandidateAttribute line then some allCandidate
  else if (getAttribute line).isEmpty then none
  else (candidateOf (tokenize space (getAttribute line))).map (allCandidate ++ [·])

/-- The description with the attribute of this line, and the result. -/
def parseTransportInfo (api : TransportApi) (td : TransportDescription) (line : Bytes) :
    Except Fault (TransportDescription × Bool) :=
  if Occurs kUfragAttribute line then
    .ok ({ td with iceUfrag := getAttribute line }, !(getAttribute line).isEmpty)
  else if Occurs kPwdAttribute line then
    .ok ({ td with icePwd := getAttribute line }, !(getAttribute line).isEmpty)
  else if Occurs kFingerprintAttribute line then
    match tokenize space line with
    | [first, value] => do
        let alg ← substr first 14
        -- A null fingerprint takes the branch `return -1`, which is `true`.
        return ({ td with
          identityFingerprint := api.createUniqueFromRfc4572 (alg.map toLower) value }, true)
    -- Also `return -1`.
    | _ => .ok (td, true)
  else
    .ok (td, true)

/-- The locals of `set_remote_sdp` and the members it writes while it reads. -/
structure ParseState where
  contentGroups : List ContentGroup := []
  mid : Bytes := []
  audioTd : TransportInfo := {}
  videoTd : TransportInfo := {}
  audioContentName : Bytes := []
  videoContentName : Bytes := []
  audioPt : UInt8 := 0
  videoPt : UInt8 := 0
  allCandidate : List Candidate := []

def parseBundleLine (state : ParseState) (field : Bytes) : ParseState :=
  match tokenize space field with
  | _ :: name :: names =>
      { state with
        contentGroups := state.contentGroups ++
          [{ semantics := kBundle, contentNames := name :: names }] }
  | _ => state

def parseMediaLine (state : ParseState) (field : Bytes) : Outcome Fault ParseState :=
  let items := tokenize space field
  if items.length ≤ 2 then .stop state
  else
    match index items 0 >>= fun first => substr first 2 with
    | .error fault => .fault fault
    | .ok mid =>
        if mid = kAudio then
          match index items 3 with
          | .error fault => .fault fault
          | .ok payloadType =>
              .next { state with
                mid := mid
                audioTd := { state.audioTd with contentName := mid }
                audioContentName := mid
                audioPt := UInt8.ofInt (atoi payloadType) }
        else if mid = kVideo then
          match index items 3 with
          | .error fault => .fault fault
          | .ok payloadType =>
              .next { state with
                mid := mid
                videoTd := { state.videoTd with contentName := mid }
                videoContentName := mid
                videoPt := UInt8.ofInt (atoi payloadType) }
        else
          .next { state with mid := mid }

/-- `field.find_first_of("m=") == 0`: one of the two characters comes first. -/
def StartsMediaLine (field : Bytes) : Prop :=
  field.head? = some 109 ∨ field.head? = some 61

instance : DecidablePred StartsMediaLine := fun field =>
  inferInstanceAs (Decidable (field.head? = some 109 ∨ field.head? = some 61))

/-- The calls of `ParseCandidates` and `ParseTransportInfo` for the section whose
transport info is `td`. -/
def parseAttributes (api : TransportApi) (td : TransportInfo)
    (write : ParseState → TransportInfo → ParseState) (state : ParseState)
    (field : Bytes) : Outcome Fault ParseState :=
  match parseCandidates field state.allCandidate with
  | none => .stop state
  | some allCandidate =>
      match parseTransportInfo api td.description field with
      | .error fault => .fault fault
      | .ok (description, accepted) =>
          let next := write { state with allCandidate := allCandidate }
            { td with description := description }
          if accepted then .next next else .stop next

def writeAudioTd (state : ParseState) (td : TransportInfo) : ParseState :=
  { state with audioTd := td }

def writeVideoTd (state : ParseState) (td : TransportInfo) : ParseState :=
  { state with videoTd := td }

/-- The branch on the kind of line at the top of the loop body. -/
def parseLineKind (state : ParseState) (field : Bytes) : Outcome Fault ParseState :=
  if Occurs kBundleAttribute field then .next (parseBundleLine state field)
  else if StartsMediaLine field then parseMediaLine state field
  else .next state

/-- One pass through the loop over the lines. -/
def parseLine (api : TransportApi) (state : ParseState) (field : Bytes) :
    Outcome Fault ParseState :=
  (parseLineKind state field).andThen fun state =>
  if state.mid = kAudio then parseAttributes api state.audioTd writeAudioTd state field
  else if state.mid = kVideo then parseAttributes api state.videoTd writeVideoTd state field
  else .next state

/-- The fields of the text, without the carriage returns. -/
def sdpFields (sdp : Bytes) : List Bytes :=
  if Occurs crlf sdp then (tokenize lf sdp).map List.dropLast else tokenize lf sdp

def parseFields (api : TransportApi) (state : ParseState) (fields : List Bytes) :
    Outcome Fault ParseState :=
  scan (parseLine api) state fields

/-- The contents and transport infos appended once every line has been read. -/
def ParseState.description (state : ParseState) : SessionDescription where
  contents :=
    [{ name := state.audioContentName, description := { type := .audio } },
      { name := state.videoContentName, description := { type := .video } }]
  transportInfos := [state.audioTd, state.videoTd]
  contentGroups := state.contentGroups

end PeerConnection.Sdp
