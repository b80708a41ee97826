import PeerConnection.Core.Buffers
import PeerConnection.Srtp.DtlsSrtpTransport

/-!
# The keys of the two ends

`ExtractParams` cuts the exported bytes into four parts and puts two keys together from
them, with `memcpy` and a running offset.  The copies stay inside their buffers, and the
two ends of a DTLS association get the same two keys with the directions exchanged.
-/

namespace PeerConnection.Srtp

open PeerConnection.Text
open PeerConnection.Buffers

/-- What the memory of the two key buffers holds before anything is copied. -/
structure FreshKeyBuffers where
  clientWriteKey : ℕ → Byte := fun _ => 0
  serverWriteKey : ℕ → Byte := fun _ => 0

/-- A `rtc::ZeroOnFreeBuffer` of the given size, before it is written. -/
def zeroOnFreeBuffer (memory : ℕ → Byte) (size : ℕ) : Bytes :=
  (List.range size).map memory

/-- The copies of `ExtractParams`, in their order.  There is no result where one of them
leaves its buffers. -/
def copyWriteKeys (fresh : FreshKeyBuffers) (keyLen saltLen : ℕ) (dtlsBuffer : Bytes) :
    Option (Bytes × Bytes) := do
  let clientWriteKey := zeroOnFreeBuffer fresh.clientWriteKey (keyLen + saltLen)
  let serverWriteKey := zeroOnFreeBuffer fresh.serverWriteKey (keyLen + saltLen)
  let offset := 0
  let clientWriteKey ← memcpy clientWriteKey 0 dtlsBuffer offset keyLen
  let offset := offset + keyLen
  let serverWriteKey ← memcpy serverWriteKey 0 dtlsBuffer offset keyLen
  let offset := offset + keyLen
  let clientWriteKey ← memcpy clientWriteKey keyLen dtlsBuffer offset saltLen
  let offset := offset + saltLen
  let serverWriteKey ← memcpy serverWriteKey keyLen dtlsBuffer offset saltLen
  return (clientWriteKey, serverWriteKey)

/-- A `memcpy` of `ExtractParams` has left its buffers. -/
inductive CopyFault where
  | outOfBounds
  deriving DecidableEq, Repr

/-- A server sends with its own write key, everybody else with that of the client. -/
def keysOfRole (suite : ℤ) (role : SslRole) (clientWriteKey serverWriteKey : Bytes) :
    ExtractedKeys :=
  match role with
  | .server => ⟨suite, serverWriteKey, clientWriteKey⟩
  | .client => ⟨suite, clientWriteKey, serverWriteKey⟩

/-- `ExtractParams` with its copies: `exportKeys` takes their result from `writeKeys`. -/
def extractParamsCopying {T : Type*} (api : SrtpApi) (fresh : FreshKeyBuffers)
    (status : T → DtlsStatus) (keyExport : T → KeyExport) (dtlsTransport : Option T) :
    Except CopyFault (Option (T × ExtractedKeys)) :=
  match dtlsTransport with
  | none => .ok none
  | some transport =>
      if !(status transport).isDtlsActive then .ok none
      else
        match (keyExport transport).srtpCryptoSuite with
        | none => .ok none
        | some suite =>
            match api.getSrtpKeyAndSaltLengths suite with
            | none => .ok none
            | some (keyLen, saltLen) =>
                match (keyExport transport).exportKeyingMaterial (keyLen * 2 + saltLen * 2) with
                | none => .ok none
                | some dtlsBuffer =>
                    match copyWriteKeys fresh keyLen saltLen dtlsBuffer with
                    | none => .error .outOfBounds
                    | some (clientWriteKey, serverWriteKey) =>
                        .ok <| (keyExport transport).dtlsRole.map fun role =>
                          (transport, keysOfRole suite role clientWriteKey serverWriteKey)

/-! ## The copies -/

theorem zeroOnFreeBuffer_split (memory : ℕ → Byte) (keyLen saltLen : ℕ) :
    ∃ key salt : Bytes, key.length = keyLen ∧ salt.length = saltLen ∧
      zeroOnFreeBuffer memory (keyLen + saltLen) = key ++ salt := by
  refine ⟨(zeroOnFreeBuffer memory (keyLen + saltLen)).take keyLen,
    (zeroOnFreeBuffer memory (keyLen + saltLen)).drop keyLen, ?_, ?_,
    (List.take_append_drop _ _).symm⟩
  · simp [zeroOnFreeBuffer]
  · simp [zeroOnFreeBuffer]

/-- One write key: its two parts are copied over a buffer that has just room for them. -/
theorem memcpy_key_salt (memory : ℕ → Byte) (keyLen saltLen keyOffset saltOffset : ℕ)
    {dtlsBuffer : Bytes} (hkey : keyOffset + keyLen ≤ dtlsBuffer.length)
    (hsalt : saltOffset + saltLen ≤ dtlsBuffer.length) :
    ∃ withKey, memcpy (zeroOnFreeBuffer memory (keyLen + saltLen)) 0 dtlsBuffer keyOffset
        keyLen = some withKey ∧
      memcpy withKey keyLen dtlsBuffer saltOffset saltLen =
        some (slice dtlsBuffer keyOffset keyLen ++ slice dtlsBuffer saltOffset saltLen) := by
  obtain ⟨key, salt, hkeyLen, hsaltLen, hbuffer⟩ :=
    zeroOnFreeBuffer_split memory keyLen saltLen
  refine ⟨window dtlsBuffer keyOffset keyLen ++ salt, ?_, ?_⟩
  · rw [hbuffer]
    exact memcpy_front hkeyLen hkey
  · have hwindow := length_window hkey
    calc memcpy (window dtlsBuffer keyOffset keyLen ++ salt) keyLen dtlsBuffer saltOffset
          saltLen
        = memcpy (window dtlsBuffer keyOffset keyLen ++ salt)
            (window dtlsBuffer keyOffset keyLen).length dtlsBuffer saltOffset saltLen := by
          rw [hwindow]
      _ = some (window dtlsBuffer keyOffset keyLen ++
            window dtlsBuffer saltOffset saltLen) := memcpy_rest hsaltLen hsalt

/-- No copy leaves its buffers, and together they give the write keys. -/
theorem copyWriteKeys_eq (fresh : FreshKeyBuffers) {keyLen saltLen : ℕ}
    {dtlsBuffer : Bytes} (hlength : dtlsBuffer.length = 2 * (keyLen + saltLen)) :
    copyWriteKeys fresh keyLen saltLen dtlsBuffer =
      some (writeKeys keyLen saltLen dtlsBuffer) := by
  have hclientKeyFits : 0 + keyLen ≤ dtlsBuffer.length := by omega
  have hclientSaltFits : 0 + keyLen + keyLen + saltLen ≤ dtlsBuffer.length := by omega
  have hserverKeyFits : 0 + keyLen + keyLen ≤ dtlsBuffer.length := by omega
  have hserverSaltFits : 0 + keyLen + keyLen + saltLen + saltLen ≤ dtlsBuffer.length := by
    omega
  obtain ⟨clientKey, hclientKey, hclient⟩ := memcpy_key_salt fresh.clientWriteKey keyLen
    saltLen 0 (0 + keyLen + keyLen) hclientKeyFits hclientSaltFits
  obtain ⟨serverKey, hserverKey, hserver⟩ := memcpy_key_salt fresh.serverWriteKey keyLen
    saltLen (0 + keyLen) (0 + keyLen + keyLen + saltLen) hserverKeyFits hserverSaltFits
  simp only [copyWriteKeys, hclientKey, hserverKey, hclient, hserver, Option.bind_eq_bind,
    Option.bind_some, Option.pure_def]
  simp only [writeKeys, Nat.zero_add, Nat.two_mul]

/-- The write keys of a buffer in the layout of RFC 5764. -/
theorem writeKeys_append {keyLen saltLen : ℕ}
    {clientKey serverKey clientSalt serverSalt : Bytes}
    (hclientKey : clientKey.length = keyLen) (hserverKey : serverKey.length = keyLen)
    (hclientSalt : clientSalt.length = saltLen) (hserverSalt : serverSalt.length = saltLen) :
    writeKeys keyLen saltLen (clientKey ++ serverKey ++ clientSalt ++ serverSalt) =
      (clientKey ++ clientSalt, serverKey ++ serverSalt) := by
  subst hclientKey hclientSalt
  have hfirst := window_append_append [] clientKey (serverKey ++ (clientSalt ++ serverSalt))
  have hsecond := window_append_append clientKey serverKey (clientSalt ++ serverSalt)
  have hthird := window_append_append (clientKey ++ serverKey) clientSalt serverSalt
  have hfourth := window_append_append (clientKey ++ serverKey ++ clientSalt) serverSalt []
  simp only [window, List.append_assoc, List.nil_append, List.length_nil, List.append_nil,
    List.length_append, hserverKey, hserverSalt] at hfirst hsecond hthird hfourth
  rw [← Nat.add_assoc] at hfourth
  simp only [writeKeys, slice, List.append_assoc, Nat.two_mul, hfirst, hsecond, hthird,
    hfourth]

/-- Every exported buffer has the four parts. -/
theorem exists_rfc5764_parts {keyLen saltLen : ℕ} {dtlsBuffer : Bytes}
    (hlength : dtlsBuffer.length = 2 * (keyLen + saltLen)) :
    ∃ clientKey serverKey clientSalt serverSalt : Bytes,
      clientKey.length = keyLen ∧ serverKey.length = keyLen ∧
        clientSalt.length = saltLen ∧ serverSalt.length = saltLen ∧
        dtlsBuffer = clientKey ++ serverKey ++ clientSalt ++ serverSalt := by
  refine ⟨dtlsBuffer.take keyLen, (dtlsBuffer.drop keyLen).take keyLen,
    ((dtlsBuffer.drop keyLen).drop keyLen).take saltLen,
    ((dtlsBuffer.drop keyLen).drop keyLen).drop saltLen, ?_, ?_, ?_, ?_, ?_⟩
  · rw [List.length_take]
    omega
  · rw [List.length_take, List.length_drop]
    omega
  · rw [List.length_take, List.length_drop, List.length_drop]
    omega
  · simp only [List.length_drop]
    omega
  · simp only [List.append_assoc, List.take_append_drop]

/-! ## The two ends -/

section Ends

variable {T : Type*} {api : SrtpApi} {fresh : FreshKeyBuffers} {status : T → DtlsStatus}
  {keyExport : T → KeyExport}

/-- The exporter fills the buffer that it is given. -/
def FillsBuffer (keyExport : KeyExport) : Prop :=
  ∀ size buffer, keyExport.exportKeyingMaterial size = some buffer → buffer.length = size

/-- The function with its copies is the one that the events of a transport call. -/
theorem extractParamsCopying_eq (hfills : ∀ transport, FillsBuffer (keyExport transport))
    (dtlsTransport : Option T) :
    extractParamsCopying api fresh status keyExport dtlsTransport =
      .ok (extractParams api status keyExport dtlsTransport) := by
  cases dtlsTransport with
  | none => rfl
  | some transport =>
  cases hactive : (status transport).isDtlsActive with
  | false => simp [extractParamsCopying, extractParams, hactive]
  | true =>
  cases hsuite : (keyExport transport).srtpCryptoSuite with
  | none => simp [extractParamsCopying, extractParams, exportKeys, hactive, hsuite]
  | some suite =>
  cases hlengths : api.getSrtpKeyAndSaltLengths suite with
  | none => simp [extractParamsCopying, extractParams, exportKeys, hactive, hsuite, hlengths]
  | some lengths =>
  obtain ⟨keyLen, saltLen⟩ := lengths
  cases hexport : (keyExport transport).exportKeyingMaterial (keyLen * 2 + saltLen * 2) with
  | none =>
      simp [extractParamsCopying, extractParams, exportKeys, hactive, hsuite, hlengths,
        hexport]
  | some dtlsBuffer =>
  have hsize : dtlsBuffer.length = 2 * (keyLen + saltLen) := by
    have := hfills transport _ _ hexport
    omega
  have hcopies := copyWriteKeys_eq fresh hsize
  cases hrole : (keyExport transport).dtlsRole with
  | none =>
      simp [extractParamsCopying, extractParams, exportKeys, hactive, hsuite, hlengths,
        hexport, hcopies, hrole]
  | some role =>
      cases role <;>
        simp [extractParamsCopying, extractParams, exportKeys, hactive, hsuite, hlengths,
          hexport, hcopies, hrole, keysOfRole]

/-- A transport that is active and knows its suite, its role and its bytes to export. -/
structure Exports (api : SrtpApi) (status : DtlsStatus) (keyExport : KeyExport)
    (suite : ℤ) (role : SslRole) (dtlsBuffer : Bytes) : Prop where
  isDtlsActive : status.isDtlsActive = true
  srtpCryptoSuite : keyExport.srtpCryptoSuite = some suite
  dtlsRole : keyExport.dtlsRole = some role
  exportKeyingMaterial :
    keyExport.exportKeyingMaterial dtlsBuffer.length = some dtlsBuffer

/-- The keys of one end, from the parts of its buffer. -/
theorem Exports.extractParamsCopying {transport : T} {suite : ℤ} {role : SslRole}
    {keyLen saltLen : ℕ} {clientKey serverKey clientSalt serverSalt : Bytes}
    (hexports : Exports api (status transport) (keyExport transport) suite role
      (clientKey ++ serverKey ++ clientSalt ++ serverSalt))
    (hlengths : api.getSrtpKeyAndSaltLengths suite = some (keyLen, saltLen))
    (hclientKey : clientKey.length = keyLen) (hserverKey : serverKey.length = keyLen)
    (hclientSalt : clientSalt.length = saltLen)
    (hserverSalt : serverSalt.length = saltLen) :
    extractParamsCopying api fresh status keyExport (some transport) =
      .ok (some (transport,
        keysOfRole suite role (clientKey ++ clientSalt) (serverKey ++ serverSalt))) := by
  have hsize : (clientKey ++ serverKey ++ clientSalt ++ serverSalt).length =
      keyLen * 2 + saltLen * 2 := by
    simp only [List.length_append]
    omega
  have hexport := hexports.exportKeyingMaterial
  rw [hsize] at hexport
  have hcopies : copyWriteKeys fresh keyLen saltLen
      (clientKey ++ serverKey ++ clientSalt ++ serverSalt) =
        some (clientKey ++ clientSalt, serverKey ++ serverSalt) := by
    rw [copyWriteKeys_eq fresh (by omega),
      writeKeys_append hclientKey hserverKey hclientSalt hserverSalt]
  simp only [PeerConnection.Srtp.extractParamsCopying, hexports.isDtlsActive,
    hexports.srtpCryptoSuite, hexports.dtlsRole, hlengths, hexport, hcopies, Bool.not_true,
    Bool.false_eq_true, if_false, Option.map_some]

/-- Both ends take the two keys out of the exported bytes, each key with its own salt,
and what one end sends with is what the other receives with. -/
theorem extractParams_ends_match {clientTransport serverTransport : T} {suite : ℤ}
    {keyLen saltLen : ℕ} {dtlsBuffer : Bytes} (clientFresh serverFresh : FreshKeyBuffers)
    (hlengths : api.getSrtpKeyAndSaltLengths suite = some (keyLen, saltLen))
    (hlength : dtlsBuffer.length = 2 * (keyLen + saltLen))
    (hclient : Exports api (status clientTransport) (keyExport clientTransport) suite
      .client dtlsBuffer)
    (hserver : Exports api (status serverTransport) (keyExport serverTransport) suite
      .server dtlsBuffer) :
    ∃ clientKeys serverKeys : ExtractedKeys,
      extractParamsCopying api clientFresh status keyExport (some clientTransport) =
          .ok (some (clientTransport, clientKeys)) ∧
        extractParamsCopying api serverFresh status keyExport (some serverTransport) =
          .ok (some (serverTransport, serverKeys)) ∧
        clientKeys.sendKey = serverKeys.recvKey ∧
        clientKeys.recvKey = serverKeys.sendKey ∧
        ∃ clientKey serverKey clientSalt serverSalt : Bytes,
          clientKey.length = keyLen ∧ serverKey.length = keyLen ∧
            clientSalt.length = saltLen ∧ serverSalt.length = saltLen ∧
            dtlsBuffer = clientKey ++ serverKey ++ clientSalt ++ serverSalt ∧
            clientKeys.sendKey = clientKey ++ clientSalt ∧
            serverKeys.sendKey = serverKey ++ serverSalt := by
  obtain ⟨clientKey, serverKey, clientSalt, serverSalt, hclientKey, hserverKey, hclientSalt,
    hserverSalt, rfl⟩ := exists_rfc5764_parts hlength
  exact ⟨⟨suite, clientKey ++ clientSalt, serverKey ++ serverSalt⟩,
    ⟨suite, serverKey ++ serverSalt, clientKey ++ clientSalt⟩,
    hclient.extractParamsCopying hlengths hclientKey hserverKey hclientSalt hserverSalt,
    hserver.extractParamsCopying hlengths hclientKey hserverKey hclientSalt hserverSalt,
    rfl, rfl, clientKey, serverKey, clientSalt, serverSalt, hclientKey, hserverKey,
    hclientSalt, hserverSalt, rfl, rfl, rfl⟩

end Ends

/-- A DTLS association whose client is transport 0; both ends export the bytes 0, 1, 2
and so on. -/
def countingKeyExport (transport : ℕ) : KeyExport where
  srtpCryptoSuite := some 1
  exportKeyingMaterial size := some ((List.range size).map Nat.toUInt8)
  dtlsRole := some (if transport = 0 then .client else .server)

theorem extractParams_ends_match_counting :
    ∃ clientKeys serverKeys : ExtractedKeys,
      extractParamsCopying registeredSrtpApi {} (fun _ => { isDtlsActive := true })
          countingKeyExport (some 0) = .ok (some (0, clientKeys)) ∧
        extractParamsCopying registeredSrtpApi {} (fun _ => { isDtlsActive := true })
          countingKeyExport (some 1) = .ok (some (1, serverKeys)) ∧
        clientKeys.sendKey = serverKeys.recvKey ∧
        clientKeys.recvKey = serverKeys.sendKey := by
  obtain ⟨clientKeys, serverKeys, hclient, hserver, hsend, hrecv, -⟩ :=
    @extractParams_ends_match ℕ registeredSrtpApi (fun _ => { isDtlsActive := true })
      countingKeyExport 0 1 1 16 14 ((List.range 60).map Nat.toUInt8) {} {} (by decide)
      (by decide) ⟨rfl, rfl, rfl, by simp [countingKeyExport]⟩
      ⟨rfl, rfl, rfl, by simp [countingKeyExport]⟩
  exact ⟨clientKeys, serverKeys, hclient, hserver, hsend, hrecv⟩

end PeerConnection.Srtp
