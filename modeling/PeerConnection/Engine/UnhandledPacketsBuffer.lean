import PeerConnection.Core.Ring
import PeerConnection.Core.Runs

/-!
# The buffer of unhandled packets

`UnhandledPacketsBuffer` stashes packets whose stream is not known yet.  Its vector grows
to `kMaxStashedPackets` entries and is a ring from then on; `BackfillPackets` hands the
packets of some streams to a consumer and packs the others.
-/

namespace PeerConnection.Engine

/-- `P` is the type of the packets themselves. -/
structure PacketWithMetadata (P : Type*) where
  ssrc : UInt32
  packetTimeUs : Int64
  packet : P
  deriving DecidableEq

structure UnhandledPacketsBuffer (P : Type*) where
  insertPos : ℕ := 0
  buffer : List (PacketWithMetadata P) := []
  deriving DecidableEq

def kMaxStashedPackets : ℕ := 50

/-- An index is not below the size of the vector. -/
inductive BufferFault where
  | indexOutOfRange
  deriving DecidableEq, Repr

/-- What one pass of `BackfillPackets` has handed over and what it has kept so far. -/
structure Backfill (P : Type*) where
  consumed : List (PacketWithMetadata P) := []
  remaining : List (PacketWithMetadata P) := []

namespace UnhandledPacketsBuffer

variable {P Q : Type*}

/-- `buffer_[pos]`. -/
def entryAt (stash : UnhandledPacketsBuffer P) (pos : ℕ) :
    Except BufferFault (PacketWithMetadata P) :=
  match stash.buffer[pos]? with
  | some entry => .ok entry
  | none => .error .indexOutOfRange

def addPacket (stash : UnhandledPacketsBuffer P) (ssrc : UInt32) (packetTimeUs : Int64)
    (packet : P) : Except BufferFault (UnhandledPacketsBuffer P) :=
  let added := { ssrc := ssrc, packetTimeUs := packetTimeUs, packet := packet }
  let insertPos := (stash.insertPos + 1) % kMaxStashedPackets
  if stash.buffer.length < kMaxStashedPackets then
    .ok { insertPos := insertPos, buffer := stash.buffer ++ [added] }
  else
    (stash.entryAt stash.insertPos).map fun _ =>
      { insertPos := insertPos, buffer := stash.buffer.set stash.insertPos added }

/-- The packet that `AddPacket` would overwrite. -/
def overwrites (stash : UnhandledPacketsBuffer P) : Option (PacketWithMetadata P) :=
  if stash.buffer.length < kMaxStashedPackets then none
  else stash.buffer[stash.insertPos]?

def backfillStart (stash : UnhandledPacketsBuffer P) : ℕ :=
  if stash.buffer.length < kMaxStashedPackets then 0 else stash.insertPos

/-- The body of the loop; its counter is not read. -/
def backfillEntry (stash : UnhandledPacketsBuffer P) (ssrcs : List UInt32)
    (pass : Backfill P) (i : ℕ) : Except BufferFault (Backfill P) :=
  (stash.entryAt ((i + stash.backfillStart) % kMaxStashedPackets)).map fun entry =>
    if entry.ssrc ∈ ssrcs then { pass with consumed := pass.consumed ++ [entry] }
    else { pass with remaining := pass.remaining ++ [entry] }

/-- The second component is what the consumer gets, in this order. -/
def backfillPackets (stash : UnhandledPacketsBuffer P) (ssrcs : List UInt32) :
    Except BufferFault (UnhandledPacketsBuffer P × List (PacketWithMetadata P)) :=
  ((List.range stash.buffer.length).foldlM (stash.backfillEntry ssrcs) {}).map fun pass =>
    ({ insertPos := 0, buffer := pass.remaining }, pass.consumed)

/-! ## The vector as a queue -/

/-- The packets in the order in which `BackfillPackets` visits them. -/
def inOrder (stash : UnhandledPacketsBuffer P) : List (PacketWithMetadata P) :=
  stash.buffer.rotate stash.backfillStart

structure WellFormed (stash : UnhandledPacketsBuffer P) : Prop where
  size : stash.buffer.length ≤ kMaxStashedPackets
  insertPos : stash.insertPos < kMaxStashedPackets

theorem wellFormed_empty : WellFormed ({} : UnhandledPacketsBuffer P) :=
  ⟨Nat.zero_le _, Nat.zero_lt_succ _⟩

theorem inOrder_perm (stash : UnhandledPacketsBuffer P) :
    stash.inOrder.Perm stash.buffer :=
  List.rotate_perm _ _

theorem inOrder_of_room {stash : UnhandledPacketsBuffer P}
    (hroom : stash.buffer.length < kMaxStashedPackets) : stash.inOrder = stash.buffer := by
  rw [inOrder, backfillStart, if_pos hroom, List.rotate_zero]

theorem inOrder_of_full {stash : UnhandledPacketsBuffer P}
    (hfull : stash.buffer.length = kMaxStashedPackets) :
    stash.inOrder = stash.buffer.rotate stash.insertPos := by
  rw [inOrder, backfillStart, if_neg hfull.not_lt]

/-- Below the capacity a packet goes to the end. -/
theorem addPacket_of_room {stash : UnhandledPacketsBuffer P}
    (hroom : stash.buffer.length < kMaxStashedPackets)
    (ssrc : UInt32) (packetTimeUs : Int64) (packet : P) :
    ∃ after, stash.addPacket ssrc packetTimeUs packet = .ok after ∧ WellFormed after ∧
      after.buffer = stash.buffer ++ [⟨ssrc, packetTimeUs, packet⟩] ∧
      after.insertPos = (stash.insertPos + 1) % kMaxStashedPackets := by
  refine ⟨_, if_pos hroom, ⟨?_, Nat.mod_lt _ (by decide)⟩, rfl, rfl⟩
  rw [List.length_append]
  exact hroom

section Calls

variable {stash : UnhandledPacketsBuffer P} (hwell : WellFormed stash)
include hwell

theorem full_of_not_room (hroom : ¬ stash.buffer.length < kMaxStashedPackets) :
    stash.buffer.length = kMaxStashedPackets :=
  le_antisymm hwell.size (not_lt.mp hroom)

/-- A full ring loses the packet at the insert position, which is the first in order. -/
theorem addPacket_of_full (hfull : stash.buffer.length = kMaxStashedPackets)
    (ssrc : UInt32) (packetTimeUs : Int64) (packet : P) :
    ∃ after, stash.addPacket ssrc packetTimeUs packet = .ok after ∧ WellFormed after ∧
      after.buffer.length = kMaxStashedPackets ∧
      after.inOrder = stash.inOrder.tail ++ [⟨ssrc, packetTimeUs, packet⟩] := by
  have hpos : stash.insertPos < stash.buffer.length := hfull ▸ hwell.insertPos
  have hentry : stash.entryAt stash.insertPos = .ok stash.buffer[stash.insertPos] := by
    rw [entryAt, List.getElem?_eq_getElem hpos]
  have hafter : stash.addPacket ssrc packetTimeUs packet = .ok
      { insertPos := (stash.insertPos + 1) % kMaxStashedPackets
        buffer := stash.buffer.set stash.insertPos ⟨ssrc, packetTimeUs, packet⟩ } := by
    rw [addPacket, if_neg hfull.not_lt, hentry]
    rfl
  have hlength : (stash.buffer.set stash.insertPos
      ⟨ssrc, packetTimeUs, packet⟩).length = kMaxStashedPackets := by
    rw [List.length_set, hfull]
  refine ⟨_, hafter, ⟨hlength.le, Nat.mod_lt _ (by decide)⟩, hlength, ?_⟩
  rw [inOrder_of_full hlength, inOrder_of_full hfull]
  simpa only [hfull] using Ring.rotate_set hpos ⟨ssrc, packetTimeUs, packet⟩

theorem overwrites_eq :
    stash.overwrites = Ring.displaced kMaxStashedPackets stash.inOrder := by
  have hlength : stash.inOrder.length = stash.buffer.length := stash.inOrder_perm.length_eq
  rw [overwrites, Ring.displaced, hlength]
  split_ifs with hroom
  · rfl
  · have hfull := full_of_not_room hwell hroom
    rw [inOrder_of_full hfull, List.head?_rotate (hfull ▸ hwell.insertPos)]

/-- The loop reads the packets in order; every index is below the size. -/
theorem map_read_eq :
    (List.range stash.buffer.length).map
        (fun i => stash.buffer[(i + stash.backfillStart) % kMaxStashedPackets]?) =
      stash.inOrder.map some := by
  by_cases hroom : stash.buffer.length < kMaxStashedPackets
  · rw [inOrder_of_room hroom, backfillStart, if_pos hroom]
    apply List.ext_getElem
    · simp
    · intro i hleft hright
      have hi : i < stash.buffer.length := by simpa using hleft
      have hmod : i % kMaxStashedPackets = i := Nat.mod_eq_of_lt (hi.trans hroom)
      simp [hmod, hi]
  · have hfull := full_of_not_room hwell hroom
    rw [inOrder, ← hfull]
    exact Ring.map_range_getElem? stash.buffer stash.backfillStart

end Calls

/-- The loop splits what it reads into the packets of the streams and the others. -/
theorem foldlM_backfillEntry (stash : UnhandledPacketsBuffer P) (ssrcs : List UInt32)
    {indices : List ℕ} {entries : List (PacketWithMetadata P)}
    (hread : indices.map
        (fun i => stash.buffer[(i + stash.backfillStart) % kMaxStashedPackets]?) =
      entries.map some) (pass : Backfill P) :
    indices.foldlM (stash.backfillEntry ssrcs) pass = .ok
      { consumed := pass.consumed ++ entries.filter (·.ssrc ∈ ssrcs)
        remaining := pass.remaining ++ entries.filter (·.ssrc ∉ ssrcs) } := by
  induction indices generalizing entries pass with
  | nil =>
      obtain rfl : entries = [] := by simpa using hread.symm
      simp [pure, Except.pure]
  | cons i indices ih =>
      cases entries with
      | nil => simp at hread
      | cons entry entries =>
          obtain ⟨hentry, hrest⟩ := List.cons.inj hread
          simp only at hentry
          rw [List.foldlM_cons, backfillEntry, entryAt, hentry]
          by_cases hssrc : entry.ssrc ∈ ssrcs
          · simp [Except.map, bind, Except.bind, hssrc, ih hrest]
          · simp [Except.map, bind, Except.bind, hssrc, ih hrest]

theorem backfillPackets_eq {stash : UnhandledPacketsBuffer P} (hwell : WellFormed stash)
    (ssrcs : List UInt32) :
    stash.backfillPackets ssrcs = .ok
      ({ insertPos := 0, buffer := stash.inOrder.filter (·.ssrc ∉ ssrcs) },
        stash.inOrder.filter (·.ssrc ∈ ssrcs)) := by
  rw [backfillPackets, stash.foldlM_backfillEntry ssrcs (map_read_eq hwell)]
  rfl

theorem wellFormed_backfill {stash : UnhandledPacketsBuffer P} (hwell : WellFormed stash)
    (keep : PacketWithMetadata P → Bool) :
    WellFormed { insertPos := 0, buffer := stash.inOrder.filter keep } := by
  refine ⟨?_, Nat.zero_lt_succ _⟩
  calc (stash.inOrder.filter keep).length
      ≤ stash.inOrder.length := List.length_filter_le _ _
    _ = stash.buffer.length := stash.inOrder_perm.length_eq
    _ ≤ kMaxStashedPackets := hwell.size

end UnhandledPacketsBuffer

end PeerConnection.Engine
