import PeerConnection.Core.MemberIndex
import PeerConnection.Core.Prefixes
import PeerConnection.Sdp.Description

/-!
# Video codecs and their settings

`WebRtcVideoChannel::MapCodecs` turns a list of codecs, some of which stand for redundancy or
retransmission, into one `VideoCodecSettings` for each regular video codec.  The classes of
`libmedia_transfer_protocol` and `libmedia_codec` are not in this repository; their data has
the fields that the engine reads, and their functions are parameters.
-/

namespace PeerConnection.Engine

open PeerConnection.Text
open PeerConnection.Sdp (FeedbackParam)
open PeerConnection.MemberIndex
open Std

/-- The parameters of a format or codec, a `std::map`. -/
abbrev CodecParameterMap := ExtTreeMap Bytes Bytes

/-- `libmedia_codec::SdpVideoFormat`. -/
structure SdpVideoFormat where
  name : Bytes
  parameters : CodecParameterMap := ∅
  deriving DecidableEq

/-- `libmedia_transfer_protocol::VideoCodec`.  Its `operator==` compares all fields. -/
structure VideoCodec where
  id : ℤ := 0
  name : Bytes
  clockrate : ℤ := 90000
  params : CodecParameterMap := ∅
  feedbackParams : List FeedbackParam := []
  packetization : Option Bytes := none
  deriving DecidableEq

namespace VideoCodec

/-- `VideoCodec(const SdpVideoFormat&)`. -/
def ofFormat (format : SdpVideoFormat) : VideoCodec :=
  { name := format.name, params := format.parameters }

/-- The format that the codec is compared by. -/
def format (codec : VideoCodec) : SdpVideoFormat :=
  { name := codec.name, parameters := codec.params }

def addFeedbackParam (codec : VideoCodec) (param : FeedbackParam) : VideoCodec :=
  { codec with feedbackParams := codec.feedbackParams ++ [param] }

end VideoCodec

/-- `VideoCodec::CodecType`. -/
inductive CodecType where
  | video
  | red
  | ulpfec
  | flexfec
  | rtx
  deriving DecidableEq, Repr

def kRedCodecName : Bytes := ascii "red"
def kUlpfecCodecName : Bytes := ascii "ulpfec"
def kFlexfecCodecName : Bytes := ascii "flexfec-03"
def kRtxCodecName : Bytes := ascii "rtx"
def kCodecParamAssociatedPayloadType : Bytes := ascii "apt"
def kCodecParamRtxTime : Bytes := ascii "rtx-time"

def kNackHistoryMs : ℤ := 1000

/-- The functions of `VideoCodec` and of `rtp_utils` that the engine calls.  `getParam` is
the overload for integers, and `createRtxCodec` takes the payload type of the RTX codec and
that of the codec it is for. -/
structure VideoCodecApi where
  getCodecType : VideoCodec → CodecType
  getParam : VideoCodec → Bytes → Option ℤ
  isValidRtpPayloadType : ℤ → Bool
  createRtxCodec : ℤ → ℤ → VideoCodec

structure UlpfecConfig where
  ulpfecPayloadType : ℤ := -1
  redPayloadType : ℤ := -1
  redRtxPayloadType : ℤ := -1
  deriving DecidableEq, Repr

structure VideoCodecSettings where
  codec : VideoCodec
  ulpfec : UlpfecConfig := {}
  flexfecPayloadType : ℤ := -1
  rtxPayloadType : ℤ := -1
  rtxTime : ℤ := -1
  deriving DecidableEq

/-! ## The outside parts as their documentation describes them -/

/-- `absl::EqualsIgnoreCase`. -/
def equalsIgnoreCase (left right : Bytes) : Bool := left.map toLower = right.map toLower

/-- `VideoCodec::GetCodecType` looks at the name only. -/
def codecTypeOfName (name : Bytes) : CodecType :=
  if equalsIgnoreCase name kRedCodecName then .red
  else if equalsIgnoreCase name kUlpfecCodecName then .ulpfec
  else if equalsIgnoreCase name kFlexfecCodecName then .flexfec
  else if equalsIgnoreCase name kRtxCodecName then .rtx
  else .video

/-- `rtc::FromString<int>`. -/
def intFromString (text : Bytes) : Option ℤ :=
  match text with
  | [] => none
  | byte :: bytes =>
      if byte = 45 then
        if bytes ≠ [] ∧ ∀ digit ∈ bytes, IsDigit digit then some (-(readDigits 0 bytes : ℤ))
        else none
      else if ∀ digit ∈ byte :: bytes, IsDigit digit then some (readDigits 0 (byte :: bytes))
      else none

theorem intFromString_decimal {value : ℤ} (hvalue : 0 ≤ value) :
    intFromString (decimal value) = some value := by
  obtain ⟨number, rfl⟩ := Int.eq_ofNat_of_zero_le hvalue
  have hdigits : ∀ byte ∈ decimalNat number, IsDigit byte :=
    fun _ => isDigit_of_mem_decimalNat
  have hread := readDigits_decimalNat number
  have hdecimal : decimal (number : ℤ) = decimalNat number := rfl
  rw [hdecimal]
  cases htext : decimalNat number with
  | nil => exact absurd htext (decimalNat_ne_nil number)
  | cons byte bytes =>
      rw [htext] at hdigits hread
      have hminus : byte ≠ 45 := (hdigits byte (by simp)).ne (by decide)
      rw [intFromString, if_neg hminus, if_pos hdigits, hread]

/-- `VideoCodec::CreateRtxCodec`. -/
def rtxCodecFor (rtxPayloadType associatedPayloadType : ℤ) : VideoCodec where
  id := rtxPayloadType
  name := kRtxCodecName
  params := (∅ : CodecParameterMap).insert kCodecParamAssociatedPayloadType
    (decimal associatedPayloadType)

def webrtcCodecApi : VideoCodecApi where
  getCodecType codec := codecTypeOfName codec.name
  getParam codec name := codec.params[name]?.bind intFromString
  isValidRtpPayloadType payloadType := decide (0 ≤ payloadType ∧ payloadType ≤ 127)
  createRtxCodec := rtxCodecFor

/-- What the engine relies on in the functions outside of this repository. -/
structure LawfulCodecApi (api : VideoCodecApi) : Prop where
  getCodecType : ∀ codec, api.getCodecType codec = codecTypeOfName codec.name
  isValidRtpPayloadType : ∀ payloadType,
    api.isValidRtpPayloadType payloadType = decide (0 ≤ payloadType ∧ payloadType ≤ 127)
  rtxId : ∀ rtxPayloadType associated, (api.createRtxCodec rtxPayloadType associated).id =
    rtxPayloadType
  rtxName : ∀ rtxPayloadType associated, (api.createRtxCodec rtxPayloadType associated).name =
    kRtxCodecName
  rtxParam : ∀ rtxPayloadType associated, 0 ≤ associated →
    api.getParam (api.createRtxCodec rtxPayloadType associated)
      kCodecParamAssociatedPayloadType = some associated

/-! ## `MapCodecs` -/

/-- The local variables of `MapCodecs` that its first loop fills. -/
structure MappedCodecs where
  videoCodecs : List VideoCodecSettings := []
  payloadCodecType : TreeMap ℤ CodecType := ∅
  rtxMapping : TreeMap ℤ ℤ := ∅
  rtxTimeMapping : TreeMap ℤ ℤ := ∅
  ulpfecConfig : UlpfecConfig := {}
  flexfecPayloadType : Option ℤ := none

section MapCodecs

variable (api : VideoCodecApi)

def mapRed (mapped : MappedCodecs) (payloadType : ℤ) : MappedCodecs :=
  if mapped.ulpfecConfig.redPayloadType ≠ -1 then mapped
  else { mapped with
    ulpfecConfig := { mapped.ulpfecConfig with redPayloadType := payloadType } }

def mapUlpfec (mapped : MappedCodecs) (payloadType : ℤ) : MappedCodecs :=
  if mapped.ulpfecConfig.ulpfecPayloadType ≠ -1 then mapped
  else { mapped with
    ulpfecConfig := { mapped.ulpfecConfig with ulpfecPayloadType := payloadType } }

def mapFlexfec (mapped : MappedCodecs) (payloadType : ℤ) : MappedCodecs :=
  match mapped.flexfecPayloadType with
  | some _ => mapped
  | none => { mapped with flexfecPayloadType := some payloadType }

/-- The times are kept for the RTX entries that carry one. -/
def mapRtxTime (mapped : MappedCodecs) (inCodec : VideoCodec) (associatedPayloadType : ℤ) :
    MappedCodecs :=
  match api.getParam inCodec kCodecParamRtxTime with
  | some rtxTime =>
      if rtxTime > 0 then
        { mapped with
          rtxTimeMapping := mapped.rtxTimeMapping.insert associatedPayloadType rtxTime }
      else mapped
  | none => mapped

def mapRtx (mapped : MappedCodecs) (inCodec : VideoCodec) : Option MappedCodecs :=
  match api.getParam inCodec kCodecParamAssociatedPayloadType with
  | some associatedPayloadType =>
      if api.isValidRtpPayloadType associatedPayloadType then
        let timed := mapRtxTime api mapped inCodec associatedPayloadType
        some { timed with
          rtxMapping := timed.rtxMapping.insert associatedPayloadType inCodec.id }
      else none
  | none => none

/-- The body of the first loop; `none` is `return {}`. -/
def mapCodec (mapped : MappedCodecs) (inCodec : VideoCodec) : Option MappedCodecs :=
  let payloadType := inCodec.id
  if mapped.payloadCodecType.contains payloadType then none
  else
    let registered := { mapped with
      payloadCodecType :=
        mapped.payloadCodecType.insert payloadType (api.getCodecType inCodec) }
    match api.getCodecType inCodec with
    | .red => some (mapRed registered payloadType)
    | .ulpfec => some (mapUlpfec registered payloadType)
    | .flexfec => some (mapFlexfec registered payloadType)
    | .rtx => mapRtx api registered inCodec
    | .video => some { registered with
        videoCodecs := registered.videoCodecs ++ [{ codec := inCodec }] }

/-- The body of the loop over `rtx_mapping`. -/
def checkRtxMapping (mapped : MappedCodecs) (ulpfecConfig : UlpfecConfig) (entry : ℤ × ℤ) :
    Option UlpfecConfig :=
  match mapped.payloadCodecType[entry.1]? with
  | none => none
  | some associatedCodecType =>
      if associatedCodecType ≠ .video ∧ associatedCodecType ≠ .red then none
      else if entry.1 = ulpfecConfig.redPayloadType then
        some { ulpfecConfig with redRtxPayloadType := entry.2 }
      else some ulpfecConfig

/-- The body of the loop over `video_codecs`. -/
def joinSettings (mapped : MappedCodecs) (ulpfecConfig : UlpfecConfig)
    (codecSettings : VideoCodecSettings) : VideoCodecSettings :=
  let payloadType := codecSettings.codec.id
  let joined := { codecSettings with
    ulpfec := ulpfecConfig
    flexfecPayloadType := mapped.flexfecPayloadType.getD (-1) }
  match mapped.rtxMapping[payloadType]? with
  | none => joined
  | some rtxPayloadType =>
      match mapped.rtxTimeMapping[payloadType]? with
      | none => { joined with rtxPayloadType := rtxPayloadType }
      | some rtxTime => { joined with
          rtxPayloadType := rtxPayloadType
          rtxTime := if rtxTime < kNackHistoryMs then rtxTime else kNackHistoryMs }

def mapCodecs (codecs : List VideoCodec) : List VideoCodecSettings :=
  match codecs.foldlM (mapCodec api) {} with
  | none => []
  | some mapped =>
      match mapped.rtxMapping.toList.foldlM (checkRtxMapping mapped) mapped.ulpfecConfig with
      | none => []
      | some ulpfecConfig => mapped.videoCodecs.map (joinSettings mapped ulpfecConfig)

end MapCodecs

end PeerConnection.Engine
