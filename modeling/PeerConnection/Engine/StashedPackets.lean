import PeerConnection.Engine.UnhandledPacketsBuffer

/-!
# What becomes of a stashed packet

The calls on the buffer are followed with a history.  In it a packet carries the number
of packets that were added before it, so that no two packets are taken for each other;
the buffer itself never looks at a packet.
-/

namespace PeerConnection.Engine

open PeerConnection.Runs

variable {P Q : Type*}

def PacketWithMetadata.map (change : P → Q) (entry : PacketWithMetadata P) :
    PacketWithMetadata Q :=
  { ssrc := entry.ssrc, packetTimeUs := entry.packetTimeUs, packet := change entry.packet }

namespace UnhandledPacketsBuffer

/-- The buffer with other packets in place of its own. -/
def map (change : P → Q) (stash : UnhandledPacketsBuffer P) : UnhandledPacketsBuffer Q :=
  { insertPos := stash.insertPos, buffer := stash.buffer.map (.map change) }

/-! ## The packets are not looked at -/

theorem entryAt_map (change : P → Q) (stash : UnhandledPacketsBuffer P) (pos : ℕ) :
    (stash.map change).entryAt pos = (stash.entryAt pos).map (.map change) := by
  simp only [entryAt, map, List.getElem?_map]
  cases stash.buffer[pos]? <;> rfl

theorem addPacket_map (change : P → Q) (stash : UnhandledPacketsBuffer P) (ssrc : UInt32)
    (packetTimeUs : Int64) (packet : P) :
    (stash.map change).addPacket ssrc packetTimeUs (change packet) =
      (stash.addPacket ssrc packetTimeUs packet).map (.map change) := by
  have hlength : (stash.map change).buffer.length = stash.buffer.length := List.length_map _
  simp only [addPacket, hlength, entryAt_map]
  split_ifs
  · simp [Except.map, map, PacketWithMetadata.map]
  · have hpos : (stash.map change).insertPos = stash.insertPos := rfl
    rw [hpos]
    cases stash.entryAt stash.insertPos with
    | error reason => rfl
    | ok entry => simp [Except.map, map, PacketWithMetadata.map, List.map_set]

theorem inOrder_map (change : P → Q) (stash : UnhandledPacketsBuffer P) :
    (stash.map change).inOrder = stash.inOrder.map (.map change) := by
  have hlength : (stash.map change).buffer.length = stash.buffer.length := List.length_map _
  have hstart : (stash.map change).backfillStart = stash.backfillStart := by
    simp only [backfillStart, hlength]
    rfl
  rw [inOrder, hstart, inOrder, List.map_rotate]
  rfl

theorem wellFormed_map {change : P → Q} {stash : UnhandledPacketsBuffer P}
    (hwell : WellFormed stash) : WellFormed (stash.map change) :=
  by
  have hlength : (stash.map change).buffer.length = stash.buffer.length := List.length_map _
  exact ⟨hlength.le.trans hwell.size, hwell.insertPos⟩

theorem backfillPackets_map (change : P → Q) {stash : UnhandledPacketsBuffer P}
    (hwell : WellFormed stash) (ssrcs : List UInt32) :
    (stash.map change).backfillPackets ssrcs =
      (stash.backfillPackets ssrcs).map
        (Prod.map (.map change) (List.map (.map change))) := by
  rw [backfillPackets_eq hwell, backfillPackets_eq (wellFormed_map hwell), inOrder_map,
    List.filter_map, List.filter_map]
  rfl

end UnhandledPacketsBuffer

/-! ## The history -/

/-- A packet with the number of packets that were added before it. -/
abbrev Arrival (P : Type*) := PacketWithMetadata (ℕ × P)

def PacketWithMetadata.number (arrival : Arrival P) : ℕ :=
  arrival.packet.1

structure Stash (P : Type*) where
  held : UnhandledPacketsBuffer (ℕ × P) := {}
  /-- All packets that were added. -/
  arrivals : List (Arrival P) := []
  /-- What consumers got, each packet with the list it was asked for by. -/
  delivered : List (List UInt32 × Arrival P) := []
  /-- The packets that were overwritten, each with the number of the one that took its
  place. -/
  overwritten : List (Arrival P × ℕ) := []

inductive StashCall (P : Type*) where
  | addPacket (ssrc : UInt32) (packetTimeUs : Int64) (packet : P)
  | backfillPackets (ssrcs : List UInt32)

namespace Stash

/-- The packet that comes next. -/
def arrival (stash : Stash P) (ssrc : UInt32) (packetTimeUs : Int64) (packet : P) :
    Arrival P :=
  { ssrc := ssrc, packetTimeUs := packetTimeUs, packet := (stash.arrivals.length, packet) }

def call (stash : Stash P) : StashCall P → Except BufferFault (Stash P)
  | .addPacket ssrc packetTimeUs packet =>
      (stash.held.addPacket ssrc packetTimeUs (stash.arrivals.length, packet)).map fun held =>
        { stash with
          held := held
          arrivals := stash.arrivals ++ [stash.arrival ssrc packetTimeUs packet]
          overwritten := stash.overwritten ++
            stash.held.overwrites.toList.map fun old => (old, stash.arrivals.length) }
  | .backfillPackets ssrcs =>
      (stash.held.backfillPackets ssrcs).map fun (held, consumed) =>
        { stash with
          held := held
          delivered := stash.delivered ++ consumed.map fun entry => (ssrcs, entry) }

end Stash

def stashStep : System (Stash P) (StashCall P) BufferFault := fun stash call =>
  some (stash.call call)

/-- The calls on the buffer itself. -/
def bufferStep : System (UnhandledPacketsBuffer P) (StashCall P) BufferFault :=
  fun buffer call =>
    match call with
    | .addPacket ssrc packetTimeUs packet =>
        some (buffer.addPacket ssrc packetTimeUs packet)
    | .backfillPackets ssrcs => some ((buffer.backfillPackets ssrcs).map Prod.fst)

/-- What the buffer holds, without the numbers. -/
def Stash.buffer (stash : Stash P) : UnhandledPacketsBuffer P :=
  stash.held.map Prod.snd

/-! ## Conservation -/

/-- Each packet that was added is delivered, overwritten or held, once. -/
structure Conserved (stash : Stash P) : Prop where
  numbered : stash.arrivals.map (·.number) = List.range stash.arrivals.length
  accounted : (stash.delivered.map Prod.snd ++ stash.overwritten.map Prod.fst ++
    stash.held.buffer).Perm stash.arrivals
  requested : ∀ entry ∈ stash.delivered, entry.2.ssrc ∈ entry.1
  /-- A packet gives way to a later one. -/
  later : ∀ entry ∈ stash.overwritten, entry.1.number < entry.2

/-- The buffer hands over all packets of the streams and keeps all others. -/
def Splits (before after : Stash P) (ssrcs : List UInt32) : Prop :=
  ∃ consumed : List (Arrival P),
    after.delivered = before.delivered ++ consumed.map (fun entry => (ssrcs, entry)) ∧
    consumed.Perm (before.held.buffer.filter (·.ssrc ∈ ssrcs)) ∧
    after.held.buffer.Perm (before.held.buffer.filter (·.ssrc ∉ ssrcs))

open UnhandledPacketsBuffer

/-- Adding a packet works, and what the buffer has lost then is what it overwrites. -/
theorem call_addPacket {stash : Stash P} (hwell : WellFormed stash.held) (ssrc : UInt32)
    (packetTimeUs : Int64) (packet : P) :
    ∃ after, stash.call (.addPacket ssrc packetTimeUs packet) = .ok after ∧
      WellFormed after.held ∧
      after.arrivals = stash.arrivals ++ [stash.arrival ssrc packetTimeUs packet] ∧
      after.delivered = stash.delivered ∧
      after.overwritten = stash.overwritten ++
        stash.held.overwrites.toList.map (fun old => (old, stash.arrivals.length)) ∧
      (stash.held.overwrites.toList ++ after.held.buffer).Perm
        (stash.held.buffer ++ [stash.arrival ssrc packetTimeUs packet]) := by
  have hperm := stash.held.inOrder_perm
  by_cases hroom : stash.held.buffer.length < kMaxStashedPackets
  · obtain ⟨held, hheld, hafter, hbuffer, -⟩ :=
      addPacket_of_room hroom ssrc packetTimeUs (stash.arrivals.length, packet)
    have hover : stash.held.overwrites = none := if_pos hroom
    simp only [Stash.call, hheld, Except.map]
    refine ⟨_, rfl, hafter, rfl, rfl, rfl, ?_⟩
    rw [hover, Option.toList_none, List.nil_append]
    exact List.Perm.of_eq hbuffer
  · have hfull := full_of_not_room hwell hroom
    obtain ⟨held, hheld, hafter, -, horder⟩ :=
      addPacket_of_full hwell hfull ssrc packetTimeUs (stash.arrivals.length, packet)
    simp only [Stash.call, hheld, Except.map]
    refine ⟨_, rfl, hafter, rfl, rfl, rfl, ?_⟩
    have hlength : ¬ stash.held.inOrder.length < kMaxStashedPackets := by
      rwa [hperm.length_eq]
    have hpush := Ring.push_perm (show 0 < kMaxStashedPackets by decide)
      stash.held.inOrder (stash.arrival ssrc packetTimeUs packet)
    rw [Ring.push, if_neg hlength] at hpush
    rw [overwrites_eq hwell]
    calc (Ring.displaced kMaxStashedPackets stash.held.inOrder).toList ++ held.buffer
        |>.Perm ((Ring.displaced kMaxStashedPackets stash.held.inOrder).toList ++
            held.inOrder) := held.inOrder_perm.symm.append_left _
      _ |>.Perm (stash.held.inOrder ++ [stash.arrival ssrc packetTimeUs packet]) := by
          rw [horder]
          exact hpush
      _ |>.Perm (stash.held.buffer ++ [stash.arrival ssrc packetTimeUs packet]) :=
          hperm.append_right _

theorem call_backfillPackets {stash : Stash P} (hwell : WellFormed stash.held)
    (ssrcs : List UInt32) :
    ∃ after, stash.call (.backfillPackets ssrcs) = .ok after ∧ WellFormed after.held ∧
      after.arrivals = stash.arrivals ∧ after.overwritten = stash.overwritten ∧
      Splits stash after ssrcs := by
  simp only [Stash.call, backfillPackets_eq hwell, Except.map]
  refine ⟨_, rfl, wellFormed_backfill hwell _, rfl, rfl, _, rfl, ?_, ?_⟩
  · exact stash.held.inOrder_perm.filter _
  · exact stash.held.inOrder_perm.filter _

structure StashInv (stash : Stash P) : Prop where
  well : WellFormed stash.held
  conserved : Conserved stash

theorem stashInv_empty : StashInv ({} : Stash P) :=
  ⟨wellFormed_empty, by simp, by simp, by simp, by simp⟩

/-- What the buffer overwrites has come earlier than the packet that takes its place. -/
theorem Conserved.number_lt {stash : Stash P} (hconserved : Conserved stash)
    {entry : Arrival P} (hentry : entry ∈ stash.held.buffer) :
    entry.number < stash.arrivals.length := by
  have hmem : entry ∈ stash.arrivals :=
    hconserved.accounted.mem_iff.mp (List.mem_append_right _ hentry)
  apply List.mem_range.mp
  rw [← hconserved.numbered]
  exact List.mem_map_of_mem hmem

theorem overwrites_mem {stash : UnhandledPacketsBuffer P} {entry : PacketWithMetadata P}
    (hentry : entry ∈ stash.overwrites.toList) : entry ∈ stash.buffer := by
  rw [overwrites] at hentry
  split_ifs at hentry
  · simp at hentry
  · exact List.mem_of_getElem? (Option.mem_toList.mp hentry)

/-- A new packet is held, and what it overwrites is accounted for. -/
theorem StashInv.addPacket {stash : Stash P} (hinv : StashInv stash) (ssrc : UInt32)
    (packetTimeUs : Int64) (packet : P) :
    ∃ after, stashStep stash (.addPacket ssrc packetTimeUs packet) = some (.ok after) ∧
      StashInv after := by
  obtain ⟨after, hafter, hwell, harrivals, hdelivered, hoverwritten, hperm⟩ :=
    call_addPacket hinv.well ssrc packetTimeUs packet
  have hold := hinv.conserved
  refine ⟨after, congrArg some hafter, hwell, ?_, ?_, ?_, ?_⟩
  · rw [harrivals, List.map_append, hold.numbered, List.length_append]
    exact List.range_succ.symm
  · have hmap : ∀ old : List (Arrival P),
        (old.map fun entry => (entry, stash.arrivals.length)).map Prod.fst = old := by
      intro old
      rw [List.map_map]
      exact List.map_id old
    rw [hdelivered, hoverwritten, harrivals, List.map_append, hmap]
    calc stash.delivered.map Prod.snd ++
            (stash.overwritten.map Prod.fst ++ stash.held.overwrites.toList) ++
            after.held.buffer
        |>.Perm (stash.delivered.map Prod.snd ++ stash.overwritten.map Prod.fst ++
            (stash.held.overwrites.toList ++ after.held.buffer)) := by
          simp only [List.append_assoc]
          exact List.Perm.refl _
      _ |>.Perm (stash.delivered.map Prod.snd ++ stash.overwritten.map Prod.fst ++
            (stash.held.buffer ++ [stash.arrival ssrc packetTimeUs packet])) :=
          hperm.append_left _
      _ |>.Perm (stash.arrivals ++ [stash.arrival ssrc packetTimeUs packet]) := by
          rw [← List.append_assoc]
          exact hold.accounted.append_right _
  · rw [hdelivered]
    exact hold.requested
  · intro entry hentry
    rw [hoverwritten] at hentry
    rcases List.mem_append.mp hentry with hbefore | hnew
    · exact hold.later entry hbefore
    · obtain ⟨old, hmem, rfl⟩ := List.mem_map.mp hnew
      exact hold.number_lt (overwrites_mem hmem)

/-- Packets that are handed over are accounted for as delivered. -/
theorem StashInv.backfillPackets {stash : Stash P} (hinv : StashInv stash)
    (ssrcs : List UInt32) :
    ∃ after, stashStep stash (.backfillPackets ssrcs) = some (.ok after) ∧
      StashInv after ∧ Splits stash after ssrcs := by
  obtain ⟨after, hafter, hwell, harrivals, hoverwritten, hsplits⟩ :=
    call_backfillPackets hinv.well ssrcs
  have hold := hinv.conserved
  refine ⟨after, congrArg some hafter, ⟨hwell, ?_, ?_, ?_, ?_⟩, hsplits⟩
  · rw [harrivals]
    exact hold.numbered
  · obtain ⟨consumed, hdelivered, hconsumed, hkept⟩ := hsplits
    have hmap : (consumed.map fun entry => (ssrcs, entry)).map Prod.snd = consumed := by
      rw [List.map_map]
      exact List.map_id consumed
    have hsplit : (consumed ++ after.held.buffer).Perm stash.held.buffer := by
      refine (hconsumed.append hkept).trans ?_
      simpa using List.filter_append_perm (fun entry => decide (entry.ssrc ∈ ssrcs))
        stash.held.buffer
    rw [hdelivered, hoverwritten, harrivals, List.map_append, hmap]
    calc stash.delivered.map Prod.snd ++ consumed ++ stash.overwritten.map Prod.fst ++
            after.held.buffer
        |>.Perm (stash.delivered.map Prod.snd ++ stash.overwritten.map Prod.fst ++
            (consumed ++ after.held.buffer)) := by
          simp only [List.append_assoc]
          apply List.Perm.append_left
          exact List.perm_append_comm_assoc _ _ _
      _ |>.Perm (stash.delivered.map Prod.snd ++ stash.overwritten.map Prod.fst ++
            stash.held.buffer) := hsplit.append_left _
      _ |>.Perm stash.arrivals := hold.accounted
  · obtain ⟨consumed, hdelivered, hconsumed, -⟩ := hsplits
    intro entry hentry
    rw [hdelivered] at hentry
    rcases List.mem_append.mp hentry with hbefore | hnew
    · exact hold.requested entry hbefore
    · obtain ⟨packet, hmem, rfl⟩ := List.mem_map.mp hnew
      have hmatch := (List.mem_filter.mp (hconsumed.mem_iff.mp hmem)).2
      simpa using hmatch
  · rw [hoverwritten]
    exact hold.later

theorem StashInv.step {stash : Stash P} (hinv : StashInv stash) (call : StashCall P) :
    ∃ after, stashStep stash call = some (.ok after) ∧ StashInv after := by
  cases call with
  | addPacket ssrc packetTimeUs packet => exact hinv.addPacket ssrc packetTimeUs packet
  | backfillPackets ssrcs =>
      obtain ⟨after, hafter, hnext, -⟩ := hinv.backfillPackets ssrcs
      exact ⟨after, hafter, hnext⟩

theorem bufferStep_eq {stash : Stash P} (hinv : StashInv stash) (call : StashCall P) :
    bufferStep stash.buffer call = (stashStep stash call).map (Except.map Stash.buffer) := by
  cases call with
  | addPacket ssrc packetTimeUs packet =>
      have hadd := addPacket_map Prod.snd stash.held ssrc packetTimeUs
        (stash.arrivals.length, packet)
      simp only [bufferStep, Stash.buffer, hadd, stashStep, Stash.call, Option.map_some]
      cases stash.held.addPacket ssrc packetTimeUs (stash.arrivals.length, packet) <;> rfl
  | backfillPackets ssrcs =>
      have hbackfill := backfillPackets_map Prod.snd hinv.well ssrcs
      simp only [bufferStep, Stash.buffer, hbackfill, stashStep, Stash.call, Option.map_some]
      cases stash.held.backfillPackets ssrcs <;> rfl

/-- The history only follows the buffer: without it the calls do the same. -/
theorem run_bufferStep (calls : List (StashCall P)) {stash : Stash P} (hinv : StashInv stash) :
    run bufferStep stash.buffer calls =
      (run stashStep stash calls).map (Except.map Stash.buffer) := by
  induction calls generalizing stash with
  | nil => rfl
  | cons call calls ih =>
      obtain ⟨after, hafter, hnext⟩ := hinv.step call
      have hbuffer := bufferStep_eq hinv call
      rw [hafter] at hbuffer
      rw [run_cons_of_ok hafter, run_cons_of_ok hbuffer]
      exact ih hnext

/-- Every run of calls stays within the vector and loses no packet: each one is delivered
to a consumer that has asked for it, overwritten by a later one, or held, once.
A `BackfillPackets` after it takes all packets of the streams and no other. -/
theorem packets_conserved (calls : List (StashCall P)) :
    ∃ stash, run stashStep {} calls = some (.ok stash) ∧ Conserved stash ∧
      ∀ ssrcs, ∃ after, stashStep stash (.backfillPackets ssrcs) = some (.ok after) ∧
        Splits stash after ssrcs := by
  obtain ⟨stash, hrun, hinv⟩ :=
    run_total (fun _ call hinv => StashInv.step hinv call) stashInv_empty calls
  refine ⟨stash, hrun, hinv.conserved, fun ssrcs => ?_⟩
  obtain ⟨after, hafter, -, hsplits⟩ := hinv.backfillPackets ssrcs
  exact ⟨after, hafter, hsplits⟩

end PeerConnection.Engine
