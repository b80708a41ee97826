import Mathlib

/-!
# One counter for several streams

A 16-bit counter numbers a sequence of labelled items, and wraps.  All items
together have consecutive numbers.  The items of one label have consecutive
numbers exactly when what comes between two of them fills whole turns of the
counter.
-/

namespace PeerConnection.Counters

variable {α β : Type*}

/-- The items with the values of a counter that starts here. -/
def numbered (start : UInt16) : List α → List (α × UInt16)
  | [] => []
  | item :: items => (item, start) :: numbered (start + 1) items

/-- Each value is the successor of the one before, modulo 2^16. -/
def Consecutive (values : List UInt16) : Prop := values.IsChain fun value next => next = value + 1

instance (values : List UInt16) : Decidable (Consecutive values) :=
  inferInstanceAs (Decidable (values.IsChain fun value next => next = value + 1))

@[simp]
theorem numbered_nil (start : UInt16) : numbered start ([] : List α) = [] := rfl

@[simp]
theorem numbered_cons (start : UInt16) (item : α) (items : List α) :
    numbered start (item :: items) = (item, start) :: numbered (start + 1) items := rfl

theorem numbered_append (start : UInt16) (front back : List α) :
    numbered start (front ++ back) =
      numbered start front ++ numbered (start + UInt16.ofNat front.length) back := by
  induction front generalizing start with
  | nil => simp
  | cons item front ih =>
      have hcount : start + 1 + UInt16.ofNat front.length =
          start + UInt16.ofNat (front.length + 1) := by
        rw [UInt16.ofNat_add, add_assoc, add_comm 1]
        rfl
      simp [ih, hcount]

@[simp]
theorem length_numbered (start : UInt16) (items : List α) :
    (numbered start items).length = items.length := by
  induction items generalizing start with
  | nil => rfl
  | cons item items ih => simp [ih]

theorem map_fst_numbered (start : UInt16) (items : List α) :
    (numbered start items).map Prod.fst = items := by
  induction items generalizing start with
  | nil => rfl
  | cons item items ih => simp [ih]

/-- The numbers of all items are consecutive. -/
theorem consecutive_numbered (start : UInt16) (items : List α) :
    Consecutive ((numbered start items).map Prod.snd) := by
  induction items generalizing start with
  | nil => exact List.isChain_nil
  | cons item items ih =>
      apply List.isChain_cons.mpr
      refine ⟨fun next hnext => ?_, ih (start + 1)⟩
      cases items with
      | nil => simp at hnext
      | cons other items => simpa using hnext.symm

/-! ## Streams -/

/-- Between two successive items of one label the counter makes whole turns. -/
def WholeTurns (labels : List α) : Prop :=
  ∀ before between after label, labels = before ++ label :: between ++ label :: after →
    label ∉ between → 2 ^ 16 ∣ between.length

/-- The next item of the label is as far from the front as the counter has come back
to where it started. -/
def NextWholeTurn (label : α) (labels : List α) : Prop :=
  ∀ between after, labels = between ++ label :: after → label ∉ between →
    2 ^ 16 ∣ between.length

theorem wholeTurns_cons_iff {label : α} {labels : List α} :
    WholeTurns (label :: labels) ↔ NextWholeTurn label labels ∧ WholeTurns labels := by
  constructor
  · intro hturns
    constructor
    · rintro between after rfl hnot
      exact hturns [] between after label rfl hnot
    · rintro before between after other rfl hnot
      exact hturns (label :: before) between after other rfl hnot
  · rintro ⟨hnext, hturns⟩ before between after other hsplit hnot
    cases before with
    | nil =>
        obtain ⟨rfl, rfl⟩ := List.cons.inj hsplit
        exact hnext between after rfl hnot
    | cons first before =>
        obtain ⟨rfl, rfl⟩ := List.cons.inj hsplit
        exact hturns before between after other rfl hnot

section Streams

variable [DecidableEq α]

/-- The numbers of the items with one label. -/
def stream (label : α) (items : List (α × UInt16)) : List UInt16 :=
  (items.filter fun item => item.1 = label).map Prod.snd

theorem stream_numbered_of_not_mem {label : α} {labels : List α} (hnot : label ∉ labels)
    (start : UInt16) : stream label (numbered start labels) = [] := by
  rw [stream, List.map_eq_nil_iff, List.filter_eq_nil_iff]
  intro item hitem hlabel
  apply hnot
  rw [← map_fst_numbered start labels]
  exact List.mem_map.mpr ⟨item, hitem, by simpa using hlabel⟩

theorem stream_numbered_split {label : α} {between after : List α} (hnot : label ∉ between)
    (start : UInt16) :
    stream label (numbered start (between ++ label :: after)) =
      (start + UInt16.ofNat between.length) ::
        stream label (numbered (start + UInt16.ofNat between.length + 1) after) := by
  have hfront := stream_numbered_of_not_mem hnot start
  rw [stream, List.map_eq_nil_iff] at hfront
  simp [stream, numbered_append, List.filter_append, hfront]

/-- A shift of the counter by a length is no shift exactly for whole turns. -/
theorem add_ofNat_eq_self_iff {start : UInt16} {length : ℕ} :
    start + UInt16.ofNat length = start ↔ 2 ^ 16 ∣ length := by
  rw [add_eq_left, ← UInt16.toNat_inj, UInt16.toNat_ofNat']
  exact Nat.dvd_iff_mod_eq_zero.symm

/-- The stream of a label goes on with the counter exactly after whole turns. -/
theorem head?_stream_iff {label : α} {labels : List α} {start : UInt16} :
    (∀ value ∈ (stream label (numbered start labels)).head?, value = start) ↔
      NextWholeTurn label labels := by
  constructor
  · rintro hhead between after rfl hnot
    rw [stream_numbered_split hnot] at hhead
    exact add_ofNat_eq_self_iff.mp (hhead _ rfl)
  · intro hnext value hvalue
    by_cases hmem : label ∈ labels
    · obtain ⟨between, after, rfl, hnot⟩ := List.eq_append_cons_of_mem hmem
      rw [stream_numbered_split hnot] at hvalue
      obtain rfl : start + UInt16.ofNat between.length = value := by simpa using hvalue
      exact add_ofNat_eq_self_iff.mpr (hnext between after rfl hnot)
    · rw [stream_numbered_of_not_mem hmem] at hvalue
      simp at hvalue

/-- The items of each label have consecutive numbers exactly when what comes between
two of them fills whole turns. -/
theorem consecutive_streams_iff {labels : List α} {start : UInt16} :
    (∀ label, Consecutive (stream label (numbered start labels))) ↔ WholeTurns labels := by
  induction labels generalizing start with
  | nil =>
      refine iff_of_true (fun label => List.isChain_nil) ?_
      rintro before between after label hsplit
      simp at hsplit
  | cons first labels ih =>
      rw [wholeTurns_cons_iff, ← ih, ← head?_stream_iff]
      have hsame : stream first (numbered start (first :: labels)) =
          start :: stream first (numbered (start + 1) labels) := by
        simp [stream]
      have hother : ∀ label, label ≠ first → stream label (numbered start (first :: labels)) =
          stream label (numbered (start + 1) labels) := by
        intro label hlabel
        simp [stream, hlabel.symm]
      constructor
      · intro hstreams
        have hfirst := hstreams first
        rw [hsame, Consecutive, List.isChain_cons] at hfirst
        refine ⟨hfirst.1, fun label => ?_⟩
        by_cases hlabel : label = first
        · rw [hlabel]
          exact hfirst.2
        · rw [← hother label hlabel]
          exact hstreams label
      · rintro ⟨hhead, hstreams⟩ label
        by_cases hlabel : label = first
        · rw [hlabel, hsame]
          exact List.isChain_cons.mpr ⟨hhead, hstreams first⟩
        · rw [hother label hlabel]
          exact hstreams label

end Streams

end PeerConnection.Counters
