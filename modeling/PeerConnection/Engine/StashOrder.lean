import PeerConnection.Engine.StashedPackets

/-!
# The order of stashed packets

A queue of the same capacity is run beside the buffer.  `insert_pos_` is read only when the
vector is full, but it counts the packets since the last `BackfillPackets` and not the
entries of the vector: when that call has left some behind, the vector fills up at another
position than its end, and the packets are out of order from then on.
-/

namespace PeerConnection.Engine

open PeerConnection.Runs
open UnhandledPacketsBuffer

variable {P : Type*}

/-- The queue that the buffer should be. -/
structure Fifo (P : Type*) where
  queue : List (Arrival P) := []
  delivered : List (List UInt32 × Arrival P) := []
  overwritten : List (Arrival P × ℕ) := []

namespace Fifo

def add (fifo : Fifo P) (arrival : Arrival P) : Fifo P :=
  { fifo with
    queue := Ring.push kMaxStashedPackets fifo.queue arrival
    overwritten := fifo.overwritten ++
      (Ring.displaced kMaxStashedPackets fifo.queue).toList.map fun old =>
        (old, arrival.number) }

def backfill (fifo : Fifo P) (ssrcs : List UInt32) : Fifo P :=
  { fifo with
    queue := fifo.queue.filter (·.ssrc ∉ ssrcs)
    delivered := fifo.delivered ++
      (fifo.queue.filter (·.ssrc ∈ ssrcs)).map fun entry => (ssrcs, entry) }

end Fifo

structure StashBesideFifo (P : Type*) where
  stash : Stash P := {}
  fifo : Fifo P := {}

namespace StashBesideFifo

/-- The queue gets the call that the buffer gets. -/
def callFifo (pair : StashBesideFifo P) : StashCall P → Fifo P
  | .addPacket ssrc packetTimeUs packet =>
      pair.fifo.add (pair.stash.arrival ssrc packetTimeUs packet)
  | .backfillPackets ssrcs => pair.fifo.backfill ssrcs

/-- The buffer has handed over and overwritten what the queue has, and goes on as the
queue does. -/
structure InStep (pair : StashBesideFifo P) : Prop where
  queue : pair.stash.held.inOrder = pair.fifo.queue
  delivered : pair.stash.delivered = pair.fifo.delivered
  overwritten : pair.stash.overwritten = pair.fifo.overwritten

end StashBesideFifo

def besideFifoStep : System (StashBesideFifo P) (StashCall P) BufferFault := fun pair call =>
  (stashStep pair.stash call).map <| Except.map fun stash =>
    { stash := stash, fifo := pair.callFifo call }

/-- An `AddPacket` that fills the vector finds `insert_pos_` at the last entry. -/
def FillsAtEnd (pair : StashBesideFifo P) : StashCall P → Prop
  | .addPacket _ _ _ =>
      pair.stash.held.buffer.length + 1 = kMaxStashedPackets →
        pair.stash.held.insertPos + 1 = kMaxStashedPackets
  | .backfillPackets _ => True

/-- The invariant of the runs that stay in step. -/
structure OrderInv (pair : StashBesideFifo P) : Prop where
  stash : StashInv pair.stash
  inStep : pair.InStep

theorem orderInv_empty : OrderInv ({} : StashBesideFifo P) :=
  ⟨stashInv_empty, rfl, rfl, rfl⟩

/-- The packets that are held have different numbers. -/
theorem StashInv.nodup {stash : Stash P} (hinv : StashInv stash) : stash.held.buffer.Nodup := by
  have hnumbers : (stash.arrivals.map (·.number)).Nodup := by
    rw [hinv.conserved.numbered]
    exact List.nodup_range
  have hall := hinv.conserved.accounted.nodup_iff.mpr hnumbers.of_map
  exact (List.nodup_append'.mp hall).2.1

/-! ## One call -/

/-- Both hand over what they hold of the streams, in their order. -/
theorem OrderInv.backfill {pair : StashBesideFifo P} (hinv : OrderInv pair)
    (ssrcs : List UInt32) :
    ∃ next, besideFifoStep pair (.backfillPackets ssrcs) = some (.ok next) ∧
      OrderInv next := by
  have hbackfill := backfillPackets_eq hinv.stash.well ssrcs
  obtain ⟨after, hafter, hnext, -⟩ := hinv.stash.backfillPackets ssrcs
  have hcall := Option.some.inj hafter
  simp only [Stash.call, hbackfill, Except.map] at hcall
  obtain rfl := Except.ok.inj hcall
  refine ⟨{ stash := _, fifo := pair.fifo.backfill ssrcs }, ?_, hnext, ?_, ?_,
    hinv.inStep.overwritten⟩
  · rw [besideFifoStep, hafter]
    rfl
  · simp only [Fifo.backfill, ← hinv.inStep.queue]
    rw [inOrder, backfillStart]
    split_ifs <;> exact List.rotate_zero _
  · simp only [Fifo.backfill, ← hinv.inStep.queue, hinv.inStep.delivered]

/-- What both lose to a new packet is the same, whatever comes of the order. -/
theorem OrderInv.addPacket {pair : StashBesideFifo P} (hinv : OrderInv pair) (ssrc : UInt32)
    (packetTimeUs : Int64) (packet : P) :
    ∃ held next, pair.stash.held.addPacket ssrc packetTimeUs
        (pair.stash.arrivals.length, packet) = .ok held ∧
      besideFifoStep pair (.addPacket ssrc packetTimeUs packet) = some (.ok next) ∧
      next.stash.held = held ∧ StashInv next.stash ∧
      next.fifo = pair.fifo.add (pair.stash.arrival ssrc packetTimeUs packet) ∧
      next.stash.delivered = next.fifo.delivered ∧
      next.stash.overwritten = next.fifo.overwritten := by
  obtain ⟨after, hafter, hnext⟩ := hinv.stash.addPacket ssrc packetTimeUs packet
  have hcall := Option.some.inj hafter
  cases hheld : pair.stash.held.addPacket ssrc packetTimeUs
      (pair.stash.arrivals.length, packet) with
  | error reason =>
      simp only [Stash.call, hheld, Except.map] at hcall
      exact absurd hcall (by simp)
  | ok held =>
      simp only [Stash.call, hheld, Except.map] at hcall
      obtain rfl := Except.ok.inj hcall
      refine ⟨held,
        { stash := _
          fifo := pair.fifo.add (pair.stash.arrival ssrc packetTimeUs packet) },
        rfl, ?_, rfl, hnext, rfl, hinv.inStep.delivered, ?_⟩
      · rw [besideFifoStep, hafter]
        rfl
      · simp only [Fifo.add, overwrites_eq hinv.stash.well,
          hinv.inStep.queue, hinv.inStep.overwritten]
        rfl

/-- The order of the buffer after a packet that finds room. -/
theorem inOrder_addPacket_of_room {stash after : UnhandledPacketsBuffer P}
    (hroom : stash.buffer.length < kMaxStashedPackets) {ssrc : UInt32}
    {packetTimeUs : Int64} {packet : P}
    (hadd : stash.addPacket ssrc packetTimeUs packet = .ok after) :
    after.inOrder =
      if stash.buffer.length + 1 = kMaxStashedPackets then
        (stash.buffer ++ [PacketWithMetadata.mk ssrc packetTimeUs packet]).rotate
          ((stash.insertPos + 1) % kMaxStashedPackets)
      else stash.inOrder ++ [⟨ssrc, packetTimeUs, packet⟩] := by
  obtain ⟨other, hother, -, hbuffer, hpos⟩ :=
    addPacket_of_room hroom ssrc packetTimeUs packet
  obtain rfl := Except.ok.inj (hadd.symm.trans hother)
  have hlength : after.buffer.length = stash.buffer.length + 1 := by
    rw [hbuffer, List.length_append]
    rfl
  split_ifs with hfills
  · rw [inOrder_of_full (hlength.trans hfills), hbuffer, hpos]
  · have hstill : after.buffer.length < kMaxStashedPackets := by omega
    rw [inOrder_of_room hstill, inOrder_of_room hroom, hbuffer]

/-- A packet that fills the vector at its end, or does not fill it, keeps the order. -/
theorem OrderInv.keeps {pair : StashBesideFifo P} (hinv : OrderInv pair) {ssrc : UInt32}
    {packetTimeUs : Int64} {packet : P}
    (hfills : FillsAtEnd pair (.addPacket ssrc packetTimeUs packet)) :
    ∃ next, besideFifoStep pair (.addPacket ssrc packetTimeUs packet) = some (.ok next) ∧
      OrderInv next := by
  obtain ⟨held, next, hheld, hnext, hstash, hnextInv, hfifo, hdelivered, hoverwritten⟩ :=
    hinv.addPacket ssrc packetTimeUs packet
  refine ⟨next, hnext, hnextInv, ?_, hdelivered, hoverwritten⟩
  have hlength : pair.fifo.queue.length = pair.stash.held.buffer.length := by
    rw [← hinv.inStep.queue]
    exact (inOrder_perm _).length_eq
  rw [hstash, hfifo, Fifo.add, Ring.push, hlength]
  by_cases hroom : pair.stash.held.buffer.length < kMaxStashedPackets
  · rw [inOrder_addPacket_of_room hroom hheld, if_pos hroom, ← hinv.inStep.queue]
    split_ifs with hfull
    · have hpos : (pair.stash.held.insertPos + 1) % kMaxStashedPackets = 0 := by
        rw [hfills hfull, Nat.mod_self]
      rw [hpos, List.rotate_zero, inOrder_of_room hroom]
      rfl
    · rfl
  · have hfull := full_of_not_room hinv.stash.well hroom
    obtain ⟨other, hother, -, -, horder⟩ := addPacket_of_full hinv.stash.well hfull ssrc
      packetTimeUs (pair.stash.arrivals.length, packet)
    obtain rfl := Except.ok.inj (hheld.symm.trans hother)
    rw [horder, if_neg hroom, ← hinv.inStep.queue]
    rfl

/-- A packet that fills the vector elsewhere leaves it to be read from another packet
than the first in the queue. -/
theorem OrderInv.breaks {pair : StashBesideFifo P} (hinv : OrderInv pair)
    {call : StashCall P} (hfills : ¬ FillsAtEnd pair call) :
    ∃ next, besideFifoStep pair call = some (.ok next) ∧
      next.stash.held.buffer.length = kMaxStashedPackets ∧
      next.stash.held.insertPos ≠ 0 ∧ StashInv next.stash ∧
      next.fifo.queue = next.stash.held.buffer := by
  cases call with
  | backfillPackets ssrcs => exact absurd trivial hfills
  | addPacket ssrc packetTimeUs packet =>
      obtain ⟨hfull, hpos⟩ := Classical.not_imp.mp hfills
      obtain ⟨held, next, hheld, hnext, rfl, hnextInv, hfifo, -, -⟩ :=
        hinv.addPacket ssrc packetTimeUs packet
      have hroom : pair.stash.held.buffer.length < kMaxStashedPackets := by omega
      obtain ⟨other, hother, -, hbuffer, hinsert⟩ := addPacket_of_room hroom ssrc
        packetTimeUs (pair.stash.arrivals.length, packet)
      obtain rfl := Except.ok.inj (hheld.symm.trans hother)
      have hbound := hinv.stash.well.insertPos
      refine ⟨next, hnext, ?_, ?_, hnextInv, ?_⟩
      · rw [hbuffer, List.length_append]
        exact hfull
      · rw [hinsert, Nat.mod_eq_of_lt (by omega)]
        exact Nat.succ_ne_zero _
      · rw [hfifo, Fifo.add, Ring.push, ← hinv.inStep.queue, inOrder_of_room hroom,
          if_pos hroom, hbuffer]
        rfl

/-! ## Runs -/

theorem OrderInv.step {pair next : StashBesideFifo P} {call : StashCall P}
    (hinv : OrderInv pair) (hfills : FillsAtEnd pair call)
    (hnext : besideFifoStep pair call = some (.ok next)) : OrderInv next := by
  have hkept : ∃ kept, besideFifoStep pair call = some (.ok kept) ∧ OrderInv kept := by
    cases call with
    | addPacket ssrc packetTimeUs packet => exact hinv.keeps hfills
    | backfillPackets ssrcs => exact hinv.backfill ssrcs
  obtain ⟨kept, hstep, hkept⟩ := hkept
  obtain rfl := Except.ok.inj (Option.some.inj (hstep.symm.trans hnext))
  exact hkept

/-- A full vector that is read from elsewhere is not in the order of the queue. -/
theorem not_inStep {pair : StashBesideFifo P} (hstash : StashInv pair.stash)
    (hfull : pair.stash.held.buffer.length = kMaxStashedPackets)
    (hpos : pair.stash.held.insertPos ≠ 0)
    (hqueue : pair.fifo.queue = pair.stash.held.buffer) : ¬ pair.InStep := by
  intro hinStep
  have horder := hinStep.queue
  rw [hqueue, inOrder_of_full hfull] at horder
  rcases hstash.nodup.rotate_eq_self_iff.mp horder with hturn | hempty
  · apply hpos
    rwa [hfull, Nat.mod_eq_of_lt hstash.well.insertPos] at hturn
  · rw [hempty] at hfull
    exact absurd hfull (Nat.succ_ne_zero _).symm

/-- The buffer is a queue in every state of a run exactly when each `AddPacket` that fills
the vector finds `insert_pos_` at its end. -/
theorem inStep_iff (calls : List (StashCall P)) :
    Throughout besideFifoStep StashBesideFifo.InStep {} calls ↔
      Guarded besideFifoStep FillsAtEnd {} calls := by
  apply guarded_iff_throughout (fun _ _ _ => OrderInv.step) (fun _ hinv => hinv.inStep) _
    orderInv_empty
  intro pair call hinv hfills
  obtain ⟨next, hnext, hfull, hpos, hstash, hqueue⟩ := hinv.breaks hfills
  exact ⟨next, hnext, not_inStep hstash hfull hpos hqueue⟩

/-- A step that misses the condition shows with the next packet, which overwrites another
one than the oldest. -/
theorem overwrites_younger {calls : List (StashCall P)} {pair : StashBesideFifo P}
    (hguarded : Guarded besideFifoStep FillsAtEnd {} calls)
    (hrun : run besideFifoStep {} calls = some (.ok pair)) {call : StashCall P}
    (hfills : ¬ FillsAtEnd pair call) :
    ∃ next younger oldest, besideFifoStep pair call = some (.ok next) ∧
      next.stash.held.overwrites = some younger ∧ next.fifo.queue.head? = some oldest ∧
      younger ≠ oldest := by
  have hends : Ends OrderInv (fun _ => True) (.ok pair) :=
    guarded_run_induction _ (fun _ _ _ => OrderInv.step) (fun _ _ _ _ _ _ => trivial)
      orderInv_empty hguarded hrun
  obtain ⟨next, hnext, hfull, hpos, hstash, hqueue⟩ := OrderInv.breaks hends hfills
  have hinsert : next.stash.held.insertPos < next.stash.held.buffer.length :=
    hfull ▸ hstash.well.insertPos
  have hfirst : 0 < next.stash.held.buffer.length := Nat.zero_lt_of_lt hinsert
  refine ⟨next, next.stash.held.buffer[next.stash.held.insertPos],
    next.stash.held.buffer[0], hnext, ?_, ?_, ?_⟩
  · rw [overwrites, if_neg hfull.not_lt, List.getElem?_eq_getElem hinsert]
  · rw [hqueue, List.head?_eq_getElem?, List.getElem?_eq_getElem hfirst]
  · intro hsame
    exact hpos (hstash.nodup.getElem_inj_iff.mp hsame)

/-- The number of the first packet that was overwritten. -/
def firstOverwritten (overwritten : List (Arrival P × ℕ)) : Option ℕ :=
  overwritten.head?.map fun entry => entry.1.number

/-- A packet, a `BackfillPackets` for no stream, and as many packets as the vector holds:
the newest packet is overwritten instead of the oldest. -/
theorem newest_overwritten :
    ∃ (calls : List (StashCall Unit)) (pair : StashBesideFifo Unit),
      run besideFifoStep {} calls = some (.ok pair) ∧
        firstOverwritten pair.stash.overwritten = some 49 ∧
        firstOverwritten pair.fifo.overwritten = some 0 := by
  let calls : List (StashCall Unit) :=
    .addPacket 1 0 () :: .backfillPackets [] :: List.replicate 50 (.addPacket 1 0 ())
  have hreaches : reaches
      (fun pair : StashBesideFifo Unit =>
        firstOverwritten pair.stash.overwritten = some 49 &&
          firstOverwritten pair.fifo.overwritten = some 0)
      (run besideFifoStep {} calls) = true := by
    decide
  obtain ⟨pair, hrun, hcheck⟩ := exists_of_reaches _ hreaches
  exact ⟨calls, pair, hrun, by simpa using hcheck⟩

end PeerConnection.Engine
