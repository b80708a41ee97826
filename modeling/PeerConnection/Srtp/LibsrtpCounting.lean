import PeerConnection.Srtp.LibsrtpUsage

/-!
# What the usage counter counts

The counter is the number of live sessions with `inited_` set and of the calls that prohibit
the initialisation, as long as no session is keyed again after a failure: `SetKey` counts a
session whose flag is set once more, and its destructor takes back only one.
-/

namespace PeerConnection.Srtp

open PeerConnection.Runs
open PeerConnection.CheckedInts
open PeerConnection.Srtp.LibsrtpUsers

/-- The counter counts what uses libsrtp, and whatever counts finds it initialised. -/
structure Counted (users : LibsrtpUsers) : Prop where
  count : users.libsrtp.usageCount = users.initedCount + users.libsrtp.prohibited
  fits : Fits 32 users.libsrtp.usageCount
  up : 0 < users.libsrtp.usageCount → users.libsrtp.isUp = true

/-- No session is counted twice, and the counter stays in its range. -/
def CountsOnce (users : LibsrtpUsers) : LibsrtpCall → Prop
  | .setKey name _ _ _ _ => ∀ session, users.live name = some session →
      session.session = none →
        session.inited = false ∧ Fits 32 (users.libsrtp.usageCount + 1)
  | .prohibit => Fits 32 (users.libsrtp.usageCount + 1)
  | .create | .updateKey _ _ _ _ | .destroy _ => True

variable {api : SrtpApi} {users next : LibsrtpUsers} {call : LibsrtpCall}

theorem counted_init : Counted {} := ⟨rfl, fits_zero 32, by simp⟩

/-- A change of one session that goes with the change of the counter. -/
theorem Counted.of_set {name : ℕ} {session : SrtpSession} (hcounted : Counted users)
    (hlive : users.live name = some session) {libsrtp : Libsrtp}
    {replacement : Option SrtpSession}
    (hprohibited : libsrtp.prohibited = users.libsrtp.prohibited)
    (hcount : libsrtp.usageCount + (if session.inited then 1 else 0) =
      users.libsrtp.usageCount + (if replacement.any (·.inited) then 1 else 0))
    (hfits : Fits 32 libsrtp.usageCount)
    (hup : 0 < libsrtp.usageCount → libsrtp.isUp = true) :
    Counted { libsrtp := libsrtp, sessions := users.sessions.set name replacement } := by
  refine ⟨?_, hfits, hup⟩
  have hsessions := initedCount_set hlive libsrtp replacement
  have hbefore := hcounted.count
  change libsrtp.usageCount = _ + (libsrtp.prohibited : ℤ)
  rw [hprohibited]
  split_ifs at hcount hsessions <;> omega

theorem counted_setKey {name : ℕ} {init : InitResults} {apply : Bool} {type : SsrcType}
    {params : SessionParams} (hcounted : Counted users)
    (honce : CountsOnce users (.setKey name init apply type params))
    (hstep : libsrtpStep api users (.setKey name init apply type params) = some (.ok next)) :
    Counted next ∧ next.libsrtp.shutdowns = users.libsrtp.shutdowns := by
  obtain ⟨session, hlive, hset⟩ := Option.map_eq_some_iff.mp hstep
  obtain ⟨⟨libsrtp, keyed, ret⟩, hkeyed, rfl⟩ := except_map_eq_ok_iff.mp hset
  rw [SrtpSession.countedSetKey] at hkeyed
  cases hsession : session.session with
  | some policy =>
      rw [hsession, Option.isSome_some, if_pos rfl] at hkeyed
      obtain ⟨rfl, hrest⟩ := Prod.mk.inj (Except.ok.inj hkeyed)
      obtain ⟨rfl, -⟩ := Prod.mk.inj hrest
      exact ⟨hcounted.of_set hlive rfl rfl hcounted.fits hcounted.up, rfl⟩
  | none =>
      rw [hsession, Option.isSome_none, if_neg Bool.false_ne_true] at hkeyed
      obtain ⟨⟨counted, ok⟩, hincrement, hpair⟩ := except_map_eq_ok_iff.mp hkeyed
      obtain ⟨rfl, hrest⟩ := Prod.mk.inj hpair
      have hinited := @SrtpSession.inited_setKey api { init := ok, apply := apply } session type
        params hsession
      rw [(honce session hlive hsession).1, Bool.false_or] at hinited
      obtain rfl : (session.setKey api { init := ok, apply := apply } type params).1 = keyed :=
        congrArg Prod.fst hrest
      obtain ⟨hstarted, hcases⟩ := Libsrtp.increment_cases hincrement
      refine ⟨hcounted.of_set hlive hstarted.prohibited ?_ ?_ fun hpos => ?_,
        hstarted.shutdowns⟩
      · rw [Option.any_some, hinited, (honce session hlive hsession).1]
        rcases hcases with ⟨rfl, hcount⟩ | ⟨rfl, hcount, -⟩
        · simpa using hcount
        · simpa using hcount
      · rcases hcases with ⟨-, hcount⟩ | ⟨-, hcount, -⟩
        · rw [hcount]
          exact hcounted.fits
        · rw [hcount]
          exact (honce session hlive hsession).2
      · rcases hcases with ⟨rfl, hcount⟩ | ⟨rfl, hcount, hfirst⟩
        · exact hstarted.isUp (hcounted.up (hcount ▸ hpos))
        · by_cases hzero : users.libsrtp.usageCount = 0
          · rw [Libsrtp.isUp, hfirst hzero, Bool.true_or]
          · have hbefore := hcounted.count
            exact hstarted.isUp (hcounted.up (by omega))

/-- Whoever is counted can be taken back. -/
theorem Counted.fits_decrement {name : ℕ} {session : SrtpSession} (hcounted : Counted users)
    (hlive : users.live name = some session) (hinited : session.inited = true) :
    Fits 32 (users.libsrtp.usageCount + -1) := by
  have hcount := hcounted.count
  have hpos := initedCount_pos hlive hinited
  exact (fits_zero 32).between hcounted.fits (by omega) (by omega)

/-- The destroyed session was the last that used libsrtp. -/
def LastUser (users : LibsrtpUsers) (call : LibsrtpCall) : Prop :=
  ∃ name session, call = .destroy name ∧ users.live name = some session ∧
    session.inited = true ∧ users.initedCount = 1 ∧ users.libsrtp.prohibited = 0

/-- `srtp_shutdown` is called when the last user goes, and only then. -/
structure ShutDownInTime (users : LibsrtpUsers) (call : LibsrtpCall) (next : LibsrtpUsers) :
    Prop where
  last : LastUser users call → next.libsrtp.shutdowns = users.libsrtp.shutdowns + 1
  other : ¬ LastUser users call → next.libsrtp.shutdowns = users.libsrtp.shutdowns

theorem ShutDownInTime.of_other (hother : ∀ name, call ≠ .destroy name)
    (hshutdowns : next.libsrtp.shutdowns = users.libsrtp.shutdowns) :
    ShutDownInTime users call next :=
  ⟨fun ⟨name, _, hcall, _⟩ => absurd hcall (hother name), fun _ => hshutdowns⟩

theorem counted_destroy {name : ℕ} (hcounted : Counted users)
    (hstep : libsrtpStep api users (.destroy name) = some (.ok next)) :
    Counted next ∧ ShutDownInTime users (.destroy name) next := by
  obtain ⟨session, hlive, hset⟩ := Option.map_eq_some_iff.mp hstep
  obtain ⟨libsrtp, hdestroyed, rfl⟩ := except_map_eq_ok_iff.mp hset
  rw [SrtpSession.destroy] at hdestroyed
  have hcount := hcounted.count
  cases hinited : session.inited with
  | false =>
      rw [hinited, if_neg Bool.false_ne_true] at hdestroyed
      obtain rfl := Except.ok.inj hdestroyed
      refine ⟨hcounted.of_set hlive rfl (by simp [hinited]) hcounted.fits hcounted.up, ?_, ?_⟩
      · rintro ⟨other, found, hcall, hfound, hflag, -⟩
        obtain rfl := LibsrtpCall.destroy.inj hcall
        obtain rfl := Option.some.inj (hlive.symm.trans hfound)
        exact absurd (hinited.symm.trans hflag) Bool.false_ne_true
      · exact fun _ => rfl
  | true =>
      have hpos := initedCount_pos hlive hinited
      have hfits := hcounted.fits_decrement hlive hinited
      rw [hinited, if_pos rfl, Libsrtp.decrement_eq hfits] at hdestroyed
      by_cases hone : users.libsrtp.usageCount = 1
      · rw [if_pos hone] at hdestroyed
        obtain rfl := Except.ok.inj hdestroyed
        refine ⟨hcounted.of_set hlive rfl (by simp [hinited, hone]) (fits_zero 32) (by simp),
          fun _ => rfl, fun hother => ?_⟩
        exact absurd ⟨name, session, rfl, hlive, hinited, by omega, by omega⟩ hother
      · rw [if_neg hone] at hdestroyed
        obtain rfl := Except.ok.inj hdestroyed
        refine ⟨hcounted.of_set hlive rfl (by simp [hinited]) hfits fun hmore => ?_, ?_,
          fun _ => rfl⟩
        · exact hcounted.up (by change 0 < users.libsrtp.usageCount - 1 at hmore; omega)
        · rintro ⟨_, _, -, -, -, hlast, hnone⟩
          exact absurd (by omega) hone

/-- What one call does to the count and to libsrtp. -/
theorem counted_step (hcounted : Counted users) (honce : CountsOnce users call)
    (hstep : libsrtpStep api users call = some (.ok next)) :
    Counted next ∧ ShutDownInTime users call next := by
  cases call with
  | create =>
      obtain rfl := Except.ok.inj (Option.some.inj hstep)
      refine ⟨⟨?_, hcounted.fits, hcounted.up⟩, .of_other (by simp) rfl⟩
      have hsame : initedCount { users with sessions := users.sessions ++ [some {}] } =
          users.initedCount := by
        simp [initedCount, List.countP_append]
      rw [hsame]
      exact hcounted.count
  | setKey name init apply type params =>
      obtain ⟨hnext, hshutdowns⟩ := counted_setKey hcounted honce hstep
      exact ⟨hnext, .of_other (by simp) hshutdowns⟩
  | updateKey name apply type params =>
      obtain ⟨session, hlive, hset⟩ := Option.map_eq_some_iff.mp hstep
      obtain rfl := Except.ok.inj hset
      exact ⟨hcounted.of_set hlive rfl (by simp) hcounted.fits hcounted.up,
        .of_other (by simp) rfl⟩
  | destroy name => exact counted_destroy hcounted hstep
  | prohibit =>
      obtain ⟨libsrtp, hprohibited, rfl⟩ := except_map_eq_ok_iff.mp (Option.some.inj hstep)
      obtain ⟨hfits, rfl⟩ := Libsrtp.changeCount_eq_ok_iff.mp hprohibited
      refine ⟨⟨?_, hfits, fun _ => by simp [Libsrtp.isUp]⟩, .of_other (by simp) rfl⟩
      have hcount := hcounted.count
      change users.libsrtp.usageCount + 1 = (users.initedCount : ℤ) + (_ + 1 : ℕ)
      omega

/-! ## Runs -/

/-- What the counter says in one state. -/
structure UsageAccounted (users : LibsrtpUsers) : Prop where
  count : users.libsrtp.usageCount = users.initedCount + users.libsrtp.prohibited
  nonneg : 0 ≤ users.libsrtp.usageCount
  up : ∀ name session, users.live name = some session → session.inited = true →
    users.libsrtp.isUp = true

theorem Counted.accounted (hcounted : Counted users) : UsageAccounted users where
  count := hcounted.count
  nonneg := by
    have hcount := hcounted.count
    omega
  up name session hlive hinited := by
    have hpos := initedCount_pos hlive hinited
    have hcount := hcounted.count
    exact hcounted.up (by omega)

/-- In a run of calls the counter is right in every state, libsrtp is shut down in time, and
nothing overflows. -/
structure UsageSound (api : SrtpApi) (calls : List LibsrtpCall) : Prop where
  accounted : Throughout (libsrtpStep api) UsageAccounted {} calls
  shutdown : ∀ before call after passed next, calls = before ++ call :: after →
    run (libsrtpStep api) {} before = some (.ok passed) →
    libsrtpStep api passed call = some (.ok next) → ShutDownInTime passed call next
  defined : ∀ before after, calls = before ++ after →
    run (libsrtpStep api) {} before ≠ some (.error .overflow)

/-- A call that keeps the count right does not overflow. -/
theorem libsrtpStep_ne_error (hcounted : Counted users) (honce : CountsOnce users call)
    (reason : LibsrtpFault) : libsrtpStep api users call ≠ some (.error reason) := by
  intro hstep
  cases call with
  | create => simp [libsrtpStep] at hstep
  | setKey name init apply type params =>
      obtain ⟨session, hlive, hset⟩ := Option.map_eq_some_iff.mp hstep
      rw [SrtpSession.countedSetKey] at hset
      cases hsession : session.session with
      | some policy => simp [hsession, Except.map] at hset
      | none =>
          obtain ⟨started, hstarted⟩ :=
            Libsrtp.exists_increment (honce session hlive hsession).2 init
          simp [hsession, hstarted, Except.map] at hset
  | updateKey name apply type params =>
      obtain ⟨session, hlive, hset⟩ := Option.map_eq_some_iff.mp hstep
      exact absurd hset (by simp)
  | destroy name =>
      obtain ⟨session, hlive, hset⟩ := Option.map_eq_some_iff.mp hstep
      rw [SrtpSession.destroy] at hset
      cases hinited : session.inited with
      | false => simp [hinited, Except.map] at hset
      | true =>
          have hfits := hcounted.fits_decrement hlive hinited
          rw [hinited, if_pos rfl, Libsrtp.decrement_eq hfits] at hset
          exact absurd hset (by simp [Except.map])
  | prohibit =>
      have hprohibited := (@Libsrtp.changeCount_eq_ok_iff
        { users.libsrtp with prohibited := users.libsrtp.prohibited + 1 } _ 1).mpr ⟨honce, rfl⟩
      rw [libsrtpStep, Libsrtp.prohibitLibsrtpInitialization, hprohibited] at hstep
      exact absurd (Option.some.inj hstep) (by simp [Except.map])

/-- Where a count would be wrong or beyond the range, the call shows it at once. -/
theorem countsOnce_of_step (haccounted : UsageAccounted users)
    (hnext : ∀ next, libsrtpStep api users call = some (.ok next) → UsageAccounted next)
    (hdefined : libsrtpStep api users call ≠ some (.error .overflow)) :
    CountsOnce users call := by
  cases call with
  | setKey name init apply type params =>
      intro session hlive hsession
      have hstep : libsrtpStep api users (.setKey name init apply type params) =
          some ((session.countedSetKey api init apply users.libsrtp type params).map
            fun keyed =>
              { libsrtp := keyed.1, sessions := users.sessions.set name (some keyed.2.1) }) := by
        rw [libsrtpStep, hlive, Option.map_some]
      rw [SrtpSession.countedSetKey, hsession, Option.isSome_none,
        if_neg Bool.false_ne_true] at hstep
      have hfits : Fits 32 (users.libsrtp.usageCount + 1) := by
        by_contra hbeyond
        have hused : users.libsrtp.usageCount ≠ 0 := by
          intro hzero
          rw [hzero] at hbeyond
          exact hbeyond Libsrtp.fits_one
        rw [Libsrtp.increment_of_used hused, Libsrtp.changeCount_eq_error hbeyond] at hstep
        exact hdefined hstep
      refine ⟨?_, hfits⟩
      by_contra hinited
      rw [Bool.not_eq_false] at hinited
      have hcount := haccounted.count
      have hpos := initedCount_pos hlive hinited
      have hcounted := (@Libsrtp.changeCount_eq_ok_iff users.libsrtp _ 1).mpr ⟨hfits, rfl⟩
      rw [Libsrtp.increment_of_used (by omega), hcounted] at hstep
      have hafter := (hnext _ hstep).count
      have hsessions := initedCount_set hlive
        { users.libsrtp with usageCount := users.libsrtp.usageCount + 1 }
        (some (session.setKey api { init := true, apply := apply } type params).1)
      rw [Option.any_some, SrtpSession.inited_setKey hsession, hinited, Bool.true_or] at hsessions
      simp only [if_true] at hsessions
      rw [Nat.add_right_cancel hsessions] at hafter
      change users.libsrtp.usageCount + 1 = _ + (users.libsrtp.prohibited : ℤ) at hafter
      omega
  | prohibit =>
      by_contra hbeyond
      have hoverflow := @Libsrtp.changeCount_eq_error
        { users.libsrtp with prohibited := users.libsrtp.prohibited + 1 } 1 hbeyond
      apply hdefined
      rw [libsrtpStep, Libsrtp.prohibitLibsrtpInitialization, hoverflow]
      rfl
  | create => trivial
  | updateKey name apply type params => trivial
  | destroy name => trivial

/-- The counter is right in a run exactly when every session is counted once. -/
theorem usageSound_iff (api : SrtpApi) (calls : List LibsrtpCall) :
    UsageSound api calls ↔ Guarded (libsrtpStep api) CountsOnce {} calls := by
  constructor
  · intro hsound
    apply guarded_of_steps
    intro before call after passed hcalls hbefore
    have haccounted := hsound.accounted before (call :: after) passed hcalls hbefore
    refine @countsOnce_of_step api passed call haccounted (fun next hstep => ?_)
      (fun hstep => ?_)
    · apply hsound.accounted (before ++ [call]) after next
      · rw [hcalls, List.append_assoc, List.singleton_append]
      · exact run_concat_eq_ok_iff.mpr ⟨passed, hbefore, hstep⟩
    · apply hsound.defined (before ++ [call]) after
      · rw [hcalls, List.append_assoc, List.singleton_append]
      · rw [run_append hbefore]
        simp [run, hstep]
  · intro hguarded
    have hcounted : Throughout (libsrtpStep api) Counted {} calls :=
      throughout_of_guarded
        (fun _ _ _ hinv honce hstep => (counted_step hinv honce hstep).1) (fun _ hinv => hinv)
        counted_init hguarded
    refine ⟨fun before after passed hcalls hrun =>
      (hcounted before after passed hcalls hrun).accounted, ?_, ?_⟩
    · rintro before call after passed next rfl hbefore hstep
      have honce := guard_of_guarded hguarded hbefore
      exact (counted_step (hcounted before _ passed rfl hbefore) honce hstep).2
    · rintro before after rfl hrun
      obtain ⟨front, call, passed, rfl, hfront, hstep⟩ := exists_fault_step hrun
      rw [List.append_assoc, List.singleton_append] at hguarded hcounted
      have honce := guard_of_guarded hguarded hfront
      exact libsrtpStep_ne_error (hcounted front _ passed rfl hfront) honce .overflow hstep

/-- The first key is too short, and the session is keyed again. -/
def retriedCalls : List LibsrtpCall :=
  [.create, .setKey 0 {} true .anyOutbound { cipherSuite := 1, key := List.replicate 29 7 },
    .setKey 0 {} true .anyOutbound { cipherSuite := 1, key := List.replicate 30 7 },
    .destroy 0]

/-- The session has been counted twice: nothing uses libsrtp any more, and it stays up. -/
theorem not_usageSound_retriedCalls : ¬ UsageSound registeredSrtpApi retriedCalls := by
  intro hsound
  have hrun : run (libsrtpStep registeredSrtpApi) {} retriedCalls =
      some (.ok { libsrtp := { usageCount := 1, initialized := true }, sessions := [none] }) := by
    decide
  have hcount := (hsound.accounted retriedCalls [] _ (List.append_nil _).symm hrun).count
  exact absurd hcount (by decide)

end PeerConnection.Srtp
