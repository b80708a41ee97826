import PeerConnection.Connection.Reachable

/-!
# Line endings

`set_remote_sdp` looks once for a carriage return before a line feed, and if there is one it cuts
the last byte off every line.  So a text is read alike with line feeds and with pairs, but where
the two are mixed, or the last line has no pair, a byte of a line is lost.
-/

namespace PeerConnection.Connection

open PeerConnection.Text
open PeerConnection.Scan
open PeerConnection.Sdp
open PeerConnection.Runs
open PeerConnection.Transport

/-- What follows a line: a line feed, a carriage return and a line feed, or the end of the text. -/
inductive LineEnding where
  | lf
  | crlf
  | endOfText
  deriving DecidableEq, Repr

namespace LineEnding

def bytes : LineEnding → Bytes
  | lf => [Text.lf]
  | crlf => [cr, Text.lf]
  | endOfText => []

/-- What of it is still in the field when the text has been cut at its line feeds. -/
def left : LineEnding → Bytes
  | lf => []
  | crlf => [cr]
  | endOfText => []

/-- What is made of a line when some line of the text ends with a pair. -/
def cut (line : Bytes) : LineEnding → Bytes
  | lf => line.dropLast
  | crlf => line
  | endOfText => line.dropLast

end LineEnding

/-- The text with these lines and endings. -/
def textOf (lines : List Bytes) (endings : List LineEnding) : Bytes :=
  (List.zipWith (fun line ending => line ++ LineEnding.bytes ending) lines endings).flatten

/-- A line has bytes, and none of them ends it. -/
structure IsLine (line : Bytes) : Prop where
  ne_nil : line ≠ []
  noCr : cr ∉ line
  noLf : lf ∉ line

/-! ## The fields of the text -/

section Fields

variable {lines : List Bytes} {endings : List LineEnding}

/-- Only the last ending may be the end of the text. -/
def EndsOnce (endings : List LineEnding) : Prop := .endOfText ∉ endings.dropLast

instance decidableEndsOnce : DecidablePred EndsOnce := fun endings =>
  inferInstanceAs (Decidable (LineEnding.endOfText ∉ endings.dropLast))

theorem EndsOnce.tail {ending : LineEnding} (hends : EndsOnce (ending :: endings)) :
    EndsOnce endings := by
  cases endings with
  | nil => exact List.not_mem_nil
  | cons next endings =>
      rw [EndsOnce, List.dropLast_cons_cons, List.mem_cons, not_or] at hends
      exact hends.2

theorem EndsOnce.last (hends : EndsOnce (.endOfText :: endings)) : endings = [] := by
  cases endings with
  | nil => rfl
  | cons next endings =>
      rw [EndsOnce, List.dropLast_cons_cons, List.mem_cons, not_or] at hends
      exact absurd rfl hends.1

/-- Cut at the line feeds, the text has a field for each line. -/
theorem tokenize_textOf (hlength : lines.length = endings.length) (hends : EndsOnce endings)
    (hlines : ∀ line ∈ lines, IsLine line) :
    tokenize lf (textOf lines endings) =
      List.zipWith (fun line ending => line ++ LineEnding.left ending) lines endings := by
  induction lines generalizing endings with
  | nil => rfl
  | cons line lines ih =>
      cases endings with
      | nil => exact absurd hlength (by simp)
      | cons ending endings =>
          obtain ⟨hline, hothers⟩ := List.forall_mem_cons.mp hlines
          have hrest := ih (Nat.succ.inj hlength) hends.tail hothers
          rw [List.zipWith_cons_cons, ← hrest, textOf, List.zipWith_cons_cons, List.flatten_cons,
            ← textOf]
          cases ending with
          | lf =>
              rw [LineEnding.bytes, LineEnding.left, List.append_nil, List.append_assoc]
              exact tokenize_word_append hline.ne_nil hline.noLf
          | crlf =>
              have hfield : lf ∉ line ++ [cr] := by
                rw [List.mem_append, not_or]
                exact ⟨hline.noLf, by decide⟩
              rw [LineEnding.bytes, LineEnding.left, List.append_assoc]
              have htext : line ++ ([cr, lf] ++ textOf lines endings) =
                  (line ++ [cr]) ++ lf :: textOf lines endings := by
                simp
              rw [htext]
              exact tokenize_word_append (by simp) hfield
          | endOfText =>
              obtain rfl := hends.last
              obtain rfl : lines = [] := List.length_eq_zero_iff.mp (Nat.succ.inj hlength)
              simpa [LineEnding.bytes, LineEnding.left, textOf] using
                tokenize_word hline.ne_nil hline.noLf

theorem not_mem_cr_textOf (hpairs : .crlf ∉ endings) (hlines : ∀ line ∈ lines, IsLine line) :
    cr ∉ textOf lines endings := by
  intro hcr
  obtain ⟨part, hpart, hmem⟩ := List.mem_flatten.mp hcr
  rw [← List.map_uncurry_zip_eq_zipWith, List.mem_map] at hpart
  obtain ⟨⟨line, ending⟩, hpair, rfl⟩ := hpart
  obtain ⟨hline, hending⟩ := List.of_mem_zip hpair
  rcases List.mem_append.mp hmem with hfront | hback
  · exact (hlines line hline).noCr hfront
  · cases ending with
    | lf => exact absurd hback (show cr ∉ [lf] by decide)
    | crlf => exact hpairs hending
    | endOfText => exact absurd hback List.not_mem_nil

theorem occurs_crlf_textOf (hlength : lines.length = endings.length) (hpairs : .crlf ∈ endings) :
    Occurs crlf (textOf lines endings) := by
  induction lines generalizing endings with
  | nil =>
      obtain rfl : endings = [] := List.length_eq_zero_iff.mp hlength.symm
      exact absurd hpairs List.not_mem_nil
  | cons line lines ih =>
      cases endings with
      | nil => exact absurd hpairs List.not_mem_nil
      | cons ending endings =>
          rw [textOf, List.zipWith_cons_cons, List.flatten_cons, ← textOf]
          rcases List.mem_cons.mp hpairs with rfl | hrest
          · exact ⟨line, textOf lines endings, rfl⟩
          · exact (ih (Nat.succ.inj hlength) hrest).trans (List.suffix_append _ _).isInfix

/-- Without pairs the fields are the lines. -/
theorem sdpFields_textOf_of_not_mem (hlength : lines.length = endings.length)
    (hends : EndsOnce endings) (hlines : ∀ line ∈ lines, IsLine line)
    (hpairs : .crlf ∉ endings) : sdpFields (textOf lines endings) = lines := by
  have hnone : ¬ Occurs crlf (textOf lines endings) := fun hoccurs =>
    not_mem_cr_textOf hpairs hlines (hoccurs.subset (by decide))
  rw [sdpFields, if_neg hnone, tokenize_textOf hlength hends hlines]
  clear hnone hends hlines
  induction lines generalizing endings with
  | nil => rfl
  | cons line lines ih =>
      cases endings with
      | nil => exact absurd hlength (by simp)
      | cons ending endings =>
          rw [List.mem_cons, not_or] at hpairs
          rw [List.zipWith_cons_cons, ih (Nat.succ.inj hlength) hpairs.2]
          cases ending with
          | lf => rw [LineEnding.left, List.append_nil]
          | crlf => exact absurd rfl hpairs.1
          | endOfText => rw [LineEnding.left, List.append_nil]

/-- With a pair a byte is cut off every line that ends otherwise. -/
theorem sdpFields_textOf_of_mem (hlength : lines.length = endings.length)
    (hends : EndsOnce endings) (hlines : ∀ line ∈ lines, IsLine line)
    (hpairs : .crlf ∈ endings) :
    sdpFields (textOf lines endings) = List.zipWith LineEnding.cut lines endings := by
  rw [sdpFields, if_pos (occurs_crlf_textOf hlength hpairs), tokenize_textOf hlength hends hlines,
    List.map_zipWith]
  congr 1
  funext line ending
  cases ending with
  | lf => rw [LineEnding.left, List.append_nil, LineEnding.cut]
  | crlf => rw [LineEnding.left, List.dropLast_concat, LineEnding.cut]
  | endOfText => rw [LineEnding.left, List.append_nil, LineEnding.cut]

theorem zipWith_cut_of_all (hlength : lines.length = endings.length)
    (hall : ∀ ending ∈ endings, ending = .crlf) :
    List.zipWith LineEnding.cut lines endings = lines := by
  induction lines generalizing endings with
  | nil => rfl
  | cons line lines ih =>
      cases endings with
      | nil => exact absurd hlength (by simp)
      | cons ending endings =>
          obtain ⟨rfl, hrest⟩ := List.forall_mem_cons.mp hall
          rw [List.zipWith_cons_cons, ih (Nat.succ.inj hlength) hrest, LineEnding.cut]

end Fields

/-! ## What the caller sees -/

/-- The value returned, the description owned by `remote_desc_` and the payload types. -/
def observed (outcome : Except Fault (ℤ × P2pPeerConnection)) :
    Except Fault (ℤ × Option SessionDescription × UInt8 × UInt8) :=
  outcome.map fun result =>
    (result.1, result.2.remoteDesc.bind result.2.network.descriptions, result.2.audioPt,
      result.2.videoPt)

section Calls

variable (api : TransportApi) (connection : P2pPeerConnection) (caller : Caller)

/-- These lines are read as with line feeds throughout. -/
def ReadAlike (lines : List Bytes) (endings : List LineEnding) : Prop :=
  observed (connection.setRemoteSdpReturned api caller (textOf lines endings)) =
    observed (connection.setRemoteSdpReturned api caller
      (textOf lines (List.replicate lines.length .lf)))

/-- All lines are. -/
def IndependentOf (endings : List LineEnding) : Prop :=
  ∀ lines : List Bytes, lines.length = endings.length → (∀ line ∈ lines, IsLine line) →
    ReadAlike api connection caller lines endings

variable {api connection caller}

/-- The text is used for its fields only. -/
theorem setRemoteSdpReturned_congr {left right : Bytes}
    (hfields : sdpFields left = sdpFields right) :
    connection.setRemoteSdpReturned api caller left =
      connection.setRemoteSdpReturned api caller right := by
  rw [P2pPeerConnection.setRemoteSdpReturned, P2pPeerConnection.setRemoteSdpReturned,
    P2pPeerConnection.readSdp, P2pPeerConnection.readSdp, hfields]

/-- An accepted text is not answered with -1. -/
theorem returned_of_accepted {sdp : Bytes} (haccepted : Accepted sdp)
    {result : ℤ × P2pPeerConnection}
    (hresult : connection.setRemoteSdpReturned api caller sdp = .ok result) : result.1 = 0 := by
  rcases connection.readSdp_cases api sdp with ⟨hfields, -⟩ | ⟨-, hread⟩ | ⟨hrejected, -⟩ |
    ⟨⟨hnot, -⟩, -⟩
  · exact absurd hfields haccepted.1
  · rw [P2pPeerConnection.setRemoteSdpReturned, hread] at hresult
    obtain ⟨registered, -, hresult⟩ := except_bind_eq_ok_iff.mp hresult
    obtain ⟨notified, -, hresult⟩ := except_bind_eq_ok_iff.mp hresult
    obtain rfl := Except.ok.inj hresult
    rfl
  · exact absurd haccepted hrejected.not_accepted
  · exact absurd haccepted hnot

theorem returned_of_rejected {sdp : Bytes} (hrejected : Rejected sdp) :
    ∃ final, connection.setRemoteSdpReturned api caller sdp = .ok (-1, final) := by
  rcases connection.readSdp_cases api sdp with ⟨hfields, -⟩ | ⟨haccepted, -⟩ |
    ⟨-, state, hread⟩ | ⟨⟨-, hnot, -⟩, -⟩
  · exact absurd hfields hrejected.fields_ne_nil
  · exact absurd haccepted hrejected.not_accepted
  · rw [P2pPeerConnection.setRemoteSdpReturned, hread]
    exact ⟨_, rfl⟩
  · exact absurd hrejected hnot

theorem observed_ne {left right : Bytes} (hrejected : Rejected left) (haccepted : Accepted right) :
    observed (connection.setRemoteSdpReturned api caller left) ≠
      observed (connection.setRemoteSdpReturned api caller right) := by
  intro hsame
  obtain ⟨final, hfinal⟩ := @returned_of_rejected api connection caller left hrejected
  rw [hfinal] at hsame
  obtain ⟨result, hresult, hseen⟩ := except_map_eq_ok_iff.mp hsame.symm
  have hzero := returned_of_accepted haccepted hresult
  have hminus : result.1 = -1 := congrArg Prod.fst hseen
  rw [hzero] at hminus
  exact absurd hminus (by decide)

end Calls

/-! ## Lines that show a lost byte -/

/-- The line says nothing, and it opens no section when a byte is lost. -/
def filler : Bytes := ascii "a"

/-- A section that is not collected; without its last byte the line is refused. -/
def probe : Bytes := ascii "m=x a b"

/-- Lines without a section are skipped while none is collected. -/
theorem firstExit_append_of_not_media {mode : Bytes} (hmode : ¬ IsCollected mode)
    {left : List Bytes} (hleft : ∀ line ∈ left, ¬ IsMediaLine line) (right : List Bytes) :
    firstExit lineVerdict (labels nextSection mode (left ++ right)) =
      firstExit lineVerdict (labels nextSection mode right) := by
  induction left with
  | nil => rfl
  | cons line left ih =>
      obtain ⟨hline, hothers⟩ := List.forall_mem_cons.mp hleft
      have hnext : nextSection mode line = mode := if_neg hline
      have hmedia : mediaVerdict line = .pass := if_pos hline
      have hpass : lineVerdict mode line = .pass := by
        rw [lineVerdict, hmedia, if_neg (by simp), if_neg hmode]
      rw [List.cons_append, labels_cons, firstExit_cons, hnext, if_pos hpass, ih hothers]

theorem not_isMediaLine_cut_filler (ending : LineEnding) :
    ¬ IsMediaLine (LineEnding.cut filler ending) := by
  cases ending <;> decide

theorem not_isMediaLine_cut_fillers {endings : List LineEnding} {count : ℕ} :
    ∀ line ∈ List.zipWith LineEnding.cut (List.replicate count filler) endings,
      ¬ IsMediaLine line := by
  intro line hline
  rw [← List.map_uncurry_zip_eq_zipWith, List.mem_map] at hline
  obtain ⟨⟨other, ending⟩, hpair, rfl⟩ := hline
  obtain rfl := List.eq_of_mem_replicate (List.of_mem_zip hpair).1
  exact not_isMediaLine_cut_filler ending

/-- The lines with the probe in one place. -/
def probed (front back : ℕ) : List Bytes :=
  List.replicate front filler ++ probe :: List.replicate back filler

theorem isLine_probed (front back : ℕ) : ∀ line ∈ probed front back, IsLine line := by
  intro line hline
  have heither : line = filler ∨ line = probe := by
    rw [probed, List.mem_append, List.mem_cons] at hline
    rcases hline with hfront | rfl | hback
    · exact Or.inl (List.eq_of_mem_replicate hfront)
    · exact Or.inr rfl
    · exact Or.inl (List.eq_of_mem_replicate hback)
  rcases heither with rfl | rfl
  · exact ⟨by decide, by decide, by decide⟩
  · exact ⟨by decide, by decide, by decide⟩

theorem firstExit_probed (front back : ℕ) :
    firstExit lineVerdict (labels nextSection [] (probed front back)) = none := by
  have hfillers : ∀ count, ∀ line ∈ List.replicate count filler, ¬ IsMediaLine line := by
    intro count line hline
    rw [List.eq_of_mem_replicate hline]
    exact not_isMediaLine_cut_filler .crlf
  have hmode : ¬ IsCollected (nextSection [] probe) := by decide
  have hback := firstExit_append_of_not_media hmode (hfillers back) []
  rw [List.append_nil] at hback
  rw [probed, firstExit_append_of_not_media (by decide) (hfillers front), labels_cons,
    firstExit_cons, if_pos (by decide), hback]
  rfl

theorem firstExit_cut_probed {front back : List LineEnding} {ending : LineEnding}
    (hending : ending ≠ .crlf) :
    firstExit lineVerdict (labels nextSection [] (List.zipWith LineEnding.cut
      (probed front.length back.length) (front ++ ending :: back))) = some .reject := by
  have hcut : LineEnding.cut probe ending = probe.dropLast := by
    cases ending with
    | lf => rfl
    | crlf => exact absurd rfl hending
    | endOfText => rfl
  rw [probed, List.zipWith_append (by simp), List.zipWith_cons_cons, hcut,
    firstExit_append_of_not_media (by decide) not_isMediaLine_cut_fillers, labels_cons,
    firstExit_cons, if_neg (by decide)]
  decide

/-! ## Independence -/

section Independence

variable {api : TransportApi} {connection : P2pPeerConnection} {caller : Caller}
variable {endings : List LineEnding}

theorem sdpFields_textOf_lf {lines : List Bytes} (hlines : ∀ line ∈ lines, IsLine line) :
    sdpFields (textOf lines (List.replicate lines.length .lf)) = lines := by
  have hlf : ∀ ending ∈ List.replicate lines.length LineEnding.lf, ending = .lf :=
    fun ending hending => List.eq_of_mem_replicate hending
  apply sdpFields_textOf_of_not_mem (by rw [List.length_replicate]) _ hlines
  · exact fun hcrlf => absurd (hlf _ hcrlf) (by simp)
  · exact fun hend => absurd (hlf _ (List.mem_of_mem_dropLast hend)) (by simp)

/-- The lines are read alike with these endings and with line feeds exactly when none of the
endings is a pair or all of them are. -/
theorem independentOf_iff (hends : EndsOnce endings) :
    IndependentOf api connection caller endings ↔
      .crlf ∉ endings ∨ ∀ ending ∈ endings, ending = .crlf := by
  constructor
  · intro hindependent
    by_contra hmixed
    rw [not_or, not_not] at hmixed
    obtain ⟨hpairs, hother⟩ := hmixed
    simp only [not_forall] at hother
    obtain ⟨ending, hmem, hending⟩ := hother
    obtain ⟨front, back, rfl⟩ := List.append_of_mem hmem
    have hlength : (probed front.length back.length).length =
        (front ++ ending :: back).length := by
      simp [probed]
    have hlines := isLine_probed front.length back.length
    have hrejected : Rejected (textOf (probed front.length back.length)
        (front ++ ending :: back)) := by
      rw [Rejected, sdpEntries, sdpFields_textOf_of_mem hlength hends hlines hpairs]
      exact firstExit_cut_probed hending
    have haccepted : Accepted (textOf (probed front.length back.length)
        (List.replicate (probed front.length back.length).length .lf)) := by
      rw [Accepted, sdpEntries, sdpFields_textOf_lf hlines]
      exact ⟨by simp [probed], firstExit_probed _ _⟩
    exact observed_ne hrejected haccepted (hindependent _ hlength hlines)
  · intro huniform lines hlength hlines
    have hfields : sdpFields (textOf lines endings) = lines := by
      rcases huniform with hnone | hall
      · exact sdpFields_textOf_of_not_mem hlength hends hlines hnone
      · by_cases hpairs : .crlf ∈ endings
        · rw [sdpFields_textOf_of_mem hlength hends hlines hpairs, zipWith_cut_of_all hlength hall]
        · exact sdpFields_textOf_of_not_mem hlength hends hlines hpairs
    rw [ReadAlike]
    congr 1
    exact setRemoteSdpReturned_congr (hfields.trans (sdpFields_textOf_lf hlines).symm)

end Independence

theorem independentOf_iff_pairs :
    IndependentOf rfc4572Api {} .otherThread [.crlf, .crlf] ↔
      .crlf ∉ [LineEnding.crlf, .crlf] ∨ ∀ ending ∈ [LineEnding.crlf, .crlf], ending = .crlf :=
  independentOf_iff (by decide)

/-- A bundle and an audio section with payload type 111. -/
def bundledLines : List Bytes :=
  [ascii "a=group:BUNDLE audio", ascii "m=audio 9 UDP/TLS/RTP/SAVPF 111"]

/-- The value returned and the audio payload type. -/
def returnedPt (outcome : Except Fault (ℤ × P2pPeerConnection)) : Option (ℤ × UInt8) :=
  outcome.toOption.map fun result => (result.1, result.2.audioPt)

theorem returnedPt_eq (outcome : Except Fault (ℤ × P2pPeerConnection)) :
    returnedPt outcome =
      (observed outcome).toOption.map fun seen => (seen.1, seen.2.2.1) := by
  cases outcome <;> rfl

/-- The last line has no terminator, and the payload type loses its last digit. -/
theorem bundledLines_lose :
    (∀ line ∈ bundledLines, IsLine line) ∧ EndsOnce [.crlf, .endOfText] ∧
      returnedPt (P2pPeerConnection.setRemoteSdpReturned rfc4572Api {} .otherThread
        (textOf bundledLines [.lf, .lf])) = some (0, 111) ∧
      returnedPt (P2pPeerConnection.setRemoteSdpReturned rfc4572Api {} .otherThread
        (textOf bundledLines [.crlf, .endOfText])) = some (0, 11) ∧
      ¬ ReadAlike rfc4572Api {} .otherThread bundledLines [.crlf, .endOfText] := by
  have hlf : returnedPt (P2pPeerConnection.setRemoteSdpReturned rfc4572Api {} .otherThread
      (textOf bundledLines [.lf, .lf])) = some (0, 111) := by
    decide +kernel
  have hcut : returnedPt (P2pPeerConnection.setRemoteSdpReturned rfc4572Api {} .otherThread
      (textOf bundledLines [.crlf, .endOfText])) = some (0, 11) := by
    decide +kernel
  refine ⟨?_, by decide, hlf, hcut, fun halike => ?_⟩
  · intro line hline
    rw [bundledLines, List.mem_cons, List.mem_singleton] at hline
    rcases hline with rfl | rfl
    · exact ⟨by decide, by decide, by decide⟩
    · exact ⟨by decide, by decide, by decide⟩
  · rw [returnedPt_eq] at hlf hcut
    rw [ReadAlike, show List.replicate bundledLines.length .lf = [LineEnding.lf, .lf] from rfl]
      at halike
    rw [halike, hlf] at hcut
    exact absurd hcut (by decide)

end PeerConnection.Connection
