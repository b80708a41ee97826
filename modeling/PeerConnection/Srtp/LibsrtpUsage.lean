import PeerConnection.Core.CheckedInts
import PeerConnection.Core.Runs
import PeerConnection.Srtp.Session

/-!
# Who uses libsrtp

All sessions share one counter: libsrtp is initialised when it leaves zero and shut down
when it comes back.  A session counts itself when it is keyed for the first time and again
when it is destroyed; whoever initialises libsrtp elsewhere counts for good.  The counter is
an `int`, which must not overflow.
-/

namespace PeerConnection.Srtp

open PeerConnection.Runs
open PeerConnection.CheckedInts

/-- How the calls end with which libsrtp is initialised. -/
structure InitResults where
  /-- `srtp_init`. -/
  init : Bool := true
  /-- `srtp_install_event_handler`. -/
  installEventHandler : Bool := true
  /-- `external_crypto_init`. -/
  externalCryptoInit : Bool := true
  deriving DecidableEq, Repr

inductive LibsrtpFault where
  /-- `g_libsrtp_usage_count` leaves the range of an `int`. -/
  | overflow
  deriving DecidableEq, Repr

structure Libsrtp where
  /-- `g_libsrtp_usage_count`. -/
  usageCount : ℤ := 0
  /-- `srtp_init` has succeeded, and `srtp_shutdown` has not been called since. -/
  initialized : Bool := false
  /-- The calls of `ProhibitLibsrtpInitialization`. -/
  prohibited : ℕ := 0
  /-- The calls of `srtp_shutdown`. -/
  shutdowns : ℕ := 0
  deriving DecidableEq, Repr

namespace Libsrtp

/-- libsrtp has been initialised here, or by someone who has prohibited it here. -/
def isUp (libsrtp : Libsrtp) : Bool :=
  libsrtp.initialized || decide (0 < libsrtp.prohibited)

/-- `++` and `--`. -/
def changeCount (libsrtp : Libsrtp) (change : ℤ) : Except LibsrtpFault Libsrtp :=
  match checked 32 (libsrtp.usageCount + change) with
  | some usageCount => .ok { libsrtp with usageCount := usageCount }
  | none => .error .overflow

def prohibitLibsrtpInitialization (libsrtp : Libsrtp) : Except LibsrtpFault Libsrtp :=
  { libsrtp with prohibited := libsrtp.prohibited + 1 }.changeCount 1

def incrementLibsrtpUsageCountAndMaybeInit (results : InitResults) (libsrtp : Libsrtp) :
    Except LibsrtpFault (Libsrtp × Bool) :=
  if libsrtp.usageCount = 0 then
    if !results.init then .ok (libsrtp, false)
    else
      let started := { libsrtp with initialized := true }
      if !results.installEventHandler then .ok (started, false)
      else if !results.externalCryptoInit then .ok (started, false)
      else (started.changeCount 1).map fun counted => (counted, true)
  else (libsrtp.changeCount 1).map fun counted => (counted, true)

def decrementLibsrtpUsageCountAndMaybeDeinit (libsrtp : Libsrtp) :
    Except LibsrtpFault Libsrtp :=
  (libsrtp.changeCount (-1)).map fun counted =>
    if counted.usageCount = 0 then
      { counted with initialized := false, shutdowns := counted.shutdowns + 1 }
    else counted

end Libsrtp

namespace SrtpSession

/-- `SetKey`, with the counter. -/
def countedSetKey (api : SrtpApi) (init : InitResults) (apply : Bool) (libsrtp : Libsrtp)
    (session : SrtpSession) (type : SsrcType) (params : SessionParams) :
    Except LibsrtpFault (Libsrtp × SrtpSession × Bool) :=
  if session.session.isSome then .ok (libsrtp, session, false)
  else
    (libsrtp.incrementLibsrtpUsageCountAndMaybeInit init).map fun (counted, ok) =>
      (counted, session.setKey api { init := ok, apply := apply } type params)

/-- The destructor. -/
def destroy (libsrtp : Libsrtp) (session : SrtpSession) : Except LibsrtpFault Libsrtp :=
  if session.inited then libsrtp.decrementLibsrtpUsageCountAndMaybeDeinit else .ok libsrtp

end SrtpSession

/-! ## All sessions of a program -/

structure LibsrtpUsers where
  libsrtp : Libsrtp := {}
  /-- The sessions in the order of their creation, with `none` for a destroyed one. -/
  sessions : List (Option SrtpSession) := []
  deriving DecidableEq, Repr

/-- A session is named by its place in the list. -/
inductive LibsrtpCall where
  | create
  /-- `SetSend` or `SetRecv`. -/
  | setKey (name : ℕ) (init : InitResults) (apply : Bool) (type : SsrcType)
      (params : SessionParams)
  /-- `UpdateSend` or `UpdateRecv`. -/
  | updateKey (name : ℕ) (apply : Bool) (type : SsrcType) (params : SessionParams)
  | destroy (name : ℕ)
  | prohibit
  deriving DecidableEq, Repr

namespace LibsrtpUsers

def live (users : LibsrtpUsers) (name : ℕ) : Option SrtpSession :=
  users.sessions[name]?.join

/-- The live sessions with `inited_` set. -/
def initedCount (users : LibsrtpUsers) : ℕ :=
  users.sessions.countP fun session => session.any (·.inited)

end LibsrtpUsers

def libsrtpStep (api : SrtpApi) : System LibsrtpUsers LibsrtpCall LibsrtpFault :=
  fun users call =>
    match call with
    | .create => some (.ok { users with sessions := users.sessions ++ [some {}] })
    | .setKey name init apply type params =>
        (users.live name).map fun session =>
          (session.countedSetKey api init apply users.libsrtp type params).map
            fun (libsrtp, keyed, _) =>
              { libsrtp := libsrtp, sessions := users.sessions.set name (some keyed) }
    | .updateKey name apply type params =>
        (users.live name).map fun session =>
          .ok { users with
            sessions := users.sessions.set name
              (some (session.updateKey api { apply := apply } type params).1) }
    | .destroy name =>
        (users.live name).map fun session =>
          (session.destroy users.libsrtp).map fun libsrtp =>
            { libsrtp := libsrtp, sessions := users.sessions.set name none }
    | .prohibit =>
        some (users.libsrtp.prohibitLibsrtpInitialization.map fun libsrtp =>
          { users with libsrtp := libsrtp })

/-! ## The counter -/

namespace Libsrtp

variable {libsrtp next : Libsrtp}

theorem changeCount_eq_ok_iff {change : ℤ} :
    libsrtp.changeCount change = .ok next ↔ Fits 32 (libsrtp.usageCount + change) ∧
      next = { libsrtp with usageCount := libsrtp.usageCount + change } := by
  rw [changeCount, checked]
  by_cases hfits : Fits 32 (libsrtp.usageCount + change)
  · simp [hfits, eq_comm]
  · simp [hfits]

theorem changeCount_eq_error {change : ℤ} (hbeyond : ¬ Fits 32 (libsrtp.usageCount + change)) :
    libsrtp.changeCount change = .error .overflow := by
  rw [changeCount, checked, if_neg hbeyond]

/-- What is initialised stays so, and nothing is shut down. -/
structure Started (before after : Libsrtp) : Prop where
  prohibited : after.prohibited = before.prohibited
  shutdowns : after.shutdowns = before.shutdowns
  initialized : before.initialized = true → after.initialized = true

theorem Started.isUp {before after : Libsrtp} (hstarted : Started before after)
    (hup : before.isUp = true) : after.isUp = true := by
  rw [Libsrtp.isUp, Bool.or_eq_true] at hup ⊢
  rw [hstarted.prohibited]
  exact hup.imp_left hstarted.initialized

/-- The count goes up by one, or libsrtp could not be initialised for the first user. -/
theorem increment_cases {results : InitResults} {ok : Bool}
    (hincrement : libsrtp.incrementLibsrtpUsageCountAndMaybeInit results = .ok (next, ok)) :
    Started libsrtp next ∧
      ((ok = false ∧ next.usageCount = libsrtp.usageCount) ∨
        (ok = true ∧ next.usageCount = libsrtp.usageCount + 1 ∧
          (libsrtp.usageCount = 0 → next.initialized = true))) := by
  rw [incrementLibsrtpUsageCountAndMaybeInit] at hincrement
  split_ifs at hincrement with hzero hinit hhandler hcrypto
  · obtain ⟨rfl, rfl⟩ := Prod.mk.inj (Except.ok.inj hincrement)
    exact ⟨⟨rfl, rfl, id⟩, Or.inl ⟨rfl, rfl⟩⟩
  · obtain ⟨rfl, rfl⟩ := Prod.mk.inj (Except.ok.inj hincrement)
    exact ⟨⟨rfl, rfl, fun _ => rfl⟩, Or.inl ⟨rfl, rfl⟩⟩
  · obtain ⟨rfl, rfl⟩ := Prod.mk.inj (Except.ok.inj hincrement)
    exact ⟨⟨rfl, rfl, fun _ => rfl⟩, Or.inl ⟨rfl, rfl⟩⟩
  · obtain ⟨counted, hcounted, hpair⟩ := except_map_eq_ok_iff.mp hincrement
    obtain ⟨rfl, rfl⟩ := Prod.mk.inj hpair
    obtain ⟨-, rfl⟩ := changeCount_eq_ok_iff.mp hcounted
    exact ⟨⟨rfl, rfl, fun _ => rfl⟩, Or.inr ⟨rfl, rfl, fun _ => rfl⟩⟩
  · obtain ⟨counted, hcounted, hpair⟩ := except_map_eq_ok_iff.mp hincrement
    obtain ⟨rfl, rfl⟩ := Prod.mk.inj hpair
    obtain ⟨-, rfl⟩ := changeCount_eq_ok_iff.mp hcounted
    exact ⟨⟨rfl, rfl, id⟩, Or.inr ⟨rfl, rfl, fun hcount => absurd hcount hzero⟩⟩

/-- Past the first user, libsrtp is not asked. -/
theorem increment_of_used (hused : libsrtp.usageCount ≠ 0) (results : InitResults) :
    libsrtp.incrementLibsrtpUsageCountAndMaybeInit results =
      (libsrtp.changeCount 1).map fun counted => (counted, true) := by
  rw [incrementLibsrtpUsageCountAndMaybeInit, if_neg hused]

theorem fits_one : Fits 32 1 := by decide

theorem exists_increment (hfits : Fits 32 (libsrtp.usageCount + 1)) (results : InitResults) :
    ∃ next, libsrtp.incrementLibsrtpUsageCountAndMaybeInit results = .ok next := by
  rw [incrementLibsrtpUsageCountAndMaybeInit]
  split_ifs
  · exact ⟨_, rfl⟩
  · exact ⟨_, rfl⟩
  · exact ⟨_, rfl⟩
  · have hcounted := (@changeCount_eq_ok_iff { libsrtp with initialized := true } _ 1).mpr
      ⟨hfits, rfl⟩
    exact ⟨_, congrArg (Except.map _) hcounted⟩
  · have hcounted := (@changeCount_eq_ok_iff libsrtp _ 1).mpr ⟨hfits, rfl⟩
    exact ⟨_, congrArg (Except.map _) hcounted⟩

/-- libsrtp is shut down when the count comes back to zero. -/
theorem decrement_eq (hfits : Fits 32 (libsrtp.usageCount + -1)) :
    libsrtp.decrementLibsrtpUsageCountAndMaybeDeinit = .ok
      (if libsrtp.usageCount = 1 then
        { libsrtp with
          usageCount := 0, initialized := false, shutdowns := libsrtp.shutdowns + 1 }
      else { libsrtp with usageCount := libsrtp.usageCount - 1 }) := by
  rw [decrementLibsrtpUsageCountAndMaybeDeinit, changeCount_eq_ok_iff.mpr ⟨hfits, rfl⟩]
  by_cases hlast : libsrtp.usageCount = 1
  · simp [Except.map, hlast]
  · have hmore : libsrtp.usageCount + -1 ≠ 0 := by omega
    simp only [Except.map, if_neg hmore, if_neg hlast, sub_eq_add_neg]

end Libsrtp

/-! ## The flags of the sessions -/

namespace SrtpSession

variable {api : SrtpApi} {results : LibsrtpResults} {session : SrtpSession} {type : SsrcType}
  {params : SessionParams}

@[simp]
theorem inited_doSetKey :
    (session.doSetKey api results type params).1.inited = session.inited := by
  unfold doSetKey
  split
  · split
    · rfl
    · split <;> rfl
  · rfl

@[simp]
theorem inited_updateKey :
    (session.updateKey api results type params).1.inited = session.inited := by
  unfold updateKey
  split
  · exact inited_doSetKey
  · rfl

/-- A session that has no key yet takes the flag from the counter. -/
theorem inited_setKey (hnew : session.session = none) :
    (session.setKey api results type params).1.inited = (session.inited || results.init) := by
  rw [setKey, hnew]
  cases hinit : results.init with
  | false => simp
  | true =>
      simp only [Option.isSome_none, Bool.false_eq_true, if_false, if_true, Bool.or_true]
      exact inited_doSetKey

end SrtpSession

namespace LibsrtpUsers

variable {users : LibsrtpUsers} {name : ℕ} {session : SrtpSession}

/-- What a change of one session does to the number of those that count. -/
theorem initedCount_set (hlive : users.live name = some session)
    (libsrtp : Libsrtp) (replacement : Option SrtpSession) :
    initedCount { libsrtp := libsrtp, sessions := users.sessions.set name replacement } +
        (if session.inited then 1 else 0) =
      users.initedCount + (if replacement.any (·.inited) then 1 else 0) := by
  have hsome : users.sessions[name]? = some (some session) := by
    rw [live, Option.join_eq_some_iff] at hlive
    exact hlive
  obtain ⟨hbound, hget⟩ := List.getElem?_eq_some_iff.mp hsome
  have hcount := List.countP_set (p := fun session => session.any (·.inited))
    (a := replacement) hbound
  have hmember : session.inited = true →
      0 < users.sessions.countP fun session => session.any (·.inited) := by
    intro hinited
    exact List.countP_pos_iff.mpr ⟨some session, hget ▸ List.getElem_mem hbound, hinited⟩
  rw [hget] at hcount
  rw [initedCount, initedCount, hcount]
  cases hinited : session.inited with
  | false => simp [hinited]
  | true =>
      have hpos := hmember hinited
      simp only [Option.any_some, hinited, if_true]
      omega

theorem initedCount_pos (hlive : users.live name = some session)
    (hinited : session.inited = true) : 0 < users.initedCount := by
  have hcount := initedCount_set hlive users.libsrtp none
  rw [if_pos hinited] at hcount
  simp only [Option.any_none, Bool.false_eq_true, if_false] at hcount
  omega

end LibsrtpUsers

end PeerConnection.Srtp
