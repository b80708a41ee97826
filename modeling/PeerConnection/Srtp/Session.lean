import PeerConnection.Core.Text

/-!
# SRTP sessions

`SrtpSession` wraps one libsrtp context.  It is keyed for the first time by `SetKey`
and again by `UpdateKey`; both end in `DoSetKey`, which hands a policy to libsrtp.
What libsrtp answers is an input of each call.
-/

namespace PeerConnection.Srtp

open PeerConnection.Text

/-- `srtp_crypto_policy_t`, as far as it is read here. -/
structure CryptoPolicy where
  cipherKeyLen : ℕ
  authTagLen : ℕ
  deriving DecidableEq, Repr

/-- The parts of `rtc_base` and libsrtp that the SRTP code looks things up in.  Their
code is not in this repository. -/
structure SrtpApi where
  /-- `rtc::SrtpCryptoSuiteFromName`. -/
  srtpCryptoSuiteFromName : Bytes → ℤ
  /-- `rtc::GetSrtpKeyAndSaltLengths`. -/
  getSrtpKeyAndSaltLengths : ℤ → Option (ℕ × ℕ)
  /-- `rtc::IsGcmCryptoSuite`. -/
  isGcmCryptoSuite : ℤ → Bool
  /-- `rtc::Base64::Decode` with `DO_STRICT`. -/
  base64Decode : Bytes → Option Bytes
  /-- `srtp_crypto_policy_set_from_profile_for_rtp`; `none` is an error status. -/
  policyFromProfileForRtp : ℤ → Option CryptoPolicy
  policyFromProfileForRtcp : ℤ → Option CryptoPolicy

/-! ### The outside parts as their documentation describes them -/

def base64Value (char : Byte) : Option ℕ :=
  if 65 ≤ char ∧ char ≤ 90 then some (char.toNat - 65)
  else if 97 ≤ char ∧ char ≤ 122 then some (char.toNat - 71)
  else if 48 ≤ char ∧ char ≤ 57 then some (char.toNat + 4)
  else if char = 43 then some 62
  else if char = 47 then some 63
  else none

/-- Groups of four characters; the last one may be padded with `=`. -/
def decodeBase64 : Bytes → Option Bytes
  | [] => some []
  | first :: second :: third :: fourth :: rest => do
      let a ← base64Value first
      let b ← base64Value second
      let high := (a * 4 + b / 16).toUInt8
      if fourth = 61 ∧ rest = [] ∧ third = 61 then return [high]
      let c ← base64Value third
      let middle := (b % 16 * 16 + c / 4).toUInt8
      if fourth = 61 ∧ rest = [] then return [high, middle]
      let d ← base64Value fourth
      let bytes ← decodeBase64 rest
      return high :: middle :: (c % 4 * 64 + d).toUInt8 :: bytes
  | _ => none

/-- The cipher suites of RFC 4568 and RFC 7714. -/
def registeredSrtpApi : SrtpApi where
  srtpCryptoSuiteFromName name :=
    if name = ascii "AES_CM_128_HMAC_SHA1_80" then 1
    else if name = ascii "AES_CM_128_HMAC_SHA1_32" then 2
    else if name = ascii "AEAD_AES_128_GCM" then 7
    else if name = ascii "AEAD_AES_256_GCM" then 8
    else 0
  getSrtpKeyAndSaltLengths suite :=
    if suite = 1 ∨ suite = 2 then some (16, 14)
    else if suite = 7 then some (16, 12)
    else if suite = 8 then some (32, 12)
    else none
  isGcmCryptoSuite suite := suite = 7 ∨ suite = 8
  base64Decode := decodeBase64
  policyFromProfileForRtp suite :=
    if suite = 1 then some { cipherKeyLen := 30, authTagLen := 10 }
    else if suite = 2 then some { cipherKeyLen := 30, authTagLen := 4 }
    else if suite = 7 then some { cipherKeyLen := 28, authTagLen := 16 }
    else if suite = 8 then some { cipherKeyLen := 44, authTagLen := 16 }
    else none
  policyFromProfileForRtcp suite :=
    if suite = 1 ∨ suite = 2 then some { cipherKeyLen := 30, authTagLen := 10 }
    else if suite = 7 then some { cipherKeyLen := 28, authTagLen := 16 }
    else if suite = 8 then some { cipherKeyLen := 44, authTagLen := 16 }
    else none

/-- How the calls into libsrtp end while a session is being keyed. -/
structure LibsrtpResults where
  /-- `IncrementLibsrtpUsageCountAndMaybeInit`. -/
  init : Bool := true
  /-- `srtp_create` or `srtp_update`. -/
  apply : Bool := true
  deriving DecidableEq, Repr

/-- The type of `policy.ssrc`. -/
inductive SsrcType where
  | anyOutbound
  | anyInbound
  deriving DecidableEq, Repr

/-- What a session is keyed with. -/
structure SessionParams where
  cipherSuite : ℤ
  key : Bytes
  extensionIds : List ℤ := []
  deriving DecidableEq, Repr

/-- `srtp_policy_t`, without the constants that all sessions share. -/
structure SrtpPolicy where
  ssrcType : SsrcType
  params : SessionParams
  /-- `policy.rtp.auth_type` is `EXTERNAL_HMAC_SHA1`. -/
  externalHmac : Bool
  deriving DecidableEq, Repr

structure SrtpSession where
  /-- `session_`, with the policy that libsrtp took last. -/
  session : Option SrtpPolicy := none
  rtpAuthTagLen : ℕ := 0
  rtcpAuthTagLen : ℕ := 0
  inited : Bool := false
  externalAuthActive : Bool := false
  externalAuthEnabled : Bool := false
  deriving DecidableEq, Repr

/-- libsrtp knows the profile, and the key has the length that it asks for. -/
def SrtpApi.takes (api : SrtpApi) (params : SessionParams) : Bool :=
  match api.policyFromProfileForRtp params.cipherSuite,
      api.policyFromProfileForRtcp params.cipherSuite with
  | some rtp, some _ => params.key ≠ [] && params.key.length = rtp.cipherKeyLen
  | _, _ => false

namespace SrtpSession

def enableExternalAuth (session : SrtpSession) : SrtpSession :=
  { session with externalAuthEnabled := true }

/-- What the session protects and unprotects packets with. -/
def keying (session : SrtpSession) : Option SessionParams :=
  session.session.map (·.params)

variable (api : SrtpApi)

/-- The buffer of an empty key is a null pointer. -/
def doSetKey (results : LibsrtpResults) (session : SrtpSession) (type : SsrcType)
    (params : SessionParams) : SrtpSession × Bool :=
  match api.policyFromProfileForRtp params.cipherSuite,
      api.policyFromProfileForRtcp params.cipherSuite with
  | some rtp, some rtcp =>
      if params.key = [] ∨ params.key.length ≠ rtp.cipherKeyLen then (session, false)
      else
        let externalHmac := type = .anyOutbound && session.externalAuthEnabled &&
          !api.isGcmCryptoSuite params.cipherSuite
        let policy := { ssrcType := type, params := params, externalHmac := externalHmac }
        -- a context that `srtp_create` refuses is null again, and so is `session_`
        if results.apply then
          ({ session with
            session := some policy
            rtpAuthTagLen := rtp.authTagLen
            rtcpAuthTagLen := rtcp.authTagLen
            externalAuthActive := externalHmac }, true)
        else (session, false)
  | _, _ => (session, false)

def setKey (results : LibsrtpResults) (session : SrtpSession) (type : SsrcType)
    (params : SessionParams) : SrtpSession × Bool :=
  if session.session.isSome then (session, false)
  else if results.init then
    doSetKey api results { session with inited := true } type params
  else (session, false)

def updateKey (results : LibsrtpResults) (session : SrtpSession) (type : SsrcType)
    (params : SessionParams) : SrtpSession × Bool :=
  if session.session.isSome then doSetKey api results session type params
  else (session, false)

def setSend (results : LibsrtpResults) (session : SrtpSession) (params : SessionParams) :
    SrtpSession × Bool :=
  setKey api results session .anyOutbound params

def setRecv (results : LibsrtpResults) (session : SrtpSession) (params : SessionParams) :
    SrtpSession × Bool :=
  setKey api results session .anyInbound params

def updateSend (results : LibsrtpResults) (session : SrtpSession) (params : SessionParams) :
    SrtpSession × Bool :=
  updateKey api results session .anyOutbound params

def updateRecv (results : LibsrtpResults) (session : SrtpSession) (params : SessionParams) :
    SrtpSession × Bool :=
  updateKey api results session .anyInbound params

/-! ## Keying -/

variable {api} {results : LibsrtpResults} {session : SrtpSession} {type : SsrcType}
  {params : SessionParams}

theorem doSetKey_snd :
    (doSetKey api results session type params).2 =
      (api.takes params && results.apply) := by
  unfold doSetKey SrtpApi.takes
  cases api.policyFromProfileForRtp params.cipherSuite with
  | none => rfl
  | some rtp =>
      cases api.policyFromProfileForRtcp params.cipherSuite with
      | none => rfl
      | some rtcp =>
          by_cases hkey : params.key = [] ∨ params.key.length ≠ rtp.cipherKeyLen
          · have hbad : (decide (params.key ≠ []) &&
                decide (params.key.length = rtp.cipherKeyLen)) = false := by
              rcases hkey with hempty | hlength
              · simp [hempty]
              · simp [hlength]
            simp only [if_pos hkey, hbad, Bool.false_and]
          · have hgood := not_or.mp hkey
            simp only [if_neg hkey]
            cases results.apply <;> simp [hgood.1, not_not.mp hgood.2]

/-- A session that has been keyed holds the parameters it was keyed with. -/
theorem keying_of_doSetKey (hset : (doSetKey api results session type params).2 = true) :
    (doSetKey api results session type params).1.keying = some params := by
  unfold doSetKey at hset ⊢
  split at hset
  · split at hset
    · exact absurd hset (by simp)
    · split at hset
      · simp_all [keying]
      · exact absurd hset (by simp)
  · exact absurd hset (by simp)

/-- A new session is keyed when libsrtp starts, knows the suite, and agrees. -/
theorem setKey_snd (hnew : session.session = none) :
    (setKey api results session type params).2 =
      (results.init && (api.takes params && results.apply)) := by
  rw [setKey, hnew]
  cases results.init with
  | false => rfl
  | true => simp [doSetKey_snd]

theorem keying_of_setKey (hset : (setKey api results session type params).2 = true) :
    (setKey api results session type params).1.keying = some params := by
  unfold setKey at hset ⊢
  split at hset
  · exact absurd hset (by simp)
  · split at hset
    · simp_all [keying_of_doSetKey]
    · exact absurd hset (by simp)

theorem updateKey_snd (hkeyed : session.keying.isSome) :
    (updateKey api results session type params).2 =
      (api.takes params && results.apply) := by
  have hsession : session.session.isSome := by simpa [keying] using hkeyed
  rw [updateKey, if_pos hsession, doSetKey_snd]

theorem keying_of_updateKey
    (hset : (updateKey api results session type params).2 = true) :
    (updateKey api results session type params).1.keying = some params := by
  unfold updateKey at hset ⊢
  split at hset
  · simp_all [keying_of_doSetKey]
  · exact absurd hset (by simp)

end SrtpSession

end PeerConnection.Srtp
