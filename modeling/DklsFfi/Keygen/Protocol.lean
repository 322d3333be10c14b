import DklsFfi.Keygen.Refinement

/-!
Keygen sessions over whole runs. `KeygenReach` is every session a host can
hold after any sequence of calls with any arguments, paired with the engine
steps run on it. Those steps are a protocol run (`Keygen.Refinement`) from the
state the session started with. Its invariant `TraceOf` says which steps a
session in each round has run; from it follow the order of engine steps, that
`Share ks` means `handle_msg4` returned `Ok(ks)`, and what
`dkls_keygen_keyshare` can hand out.
-/

namespace DklsFfi.Keygen

variable {D : Dkg}

/-- The sessions a host can hold with the engine steps run on each: a new
session, and whatever a call that returns leaves at its handle (`none`
once released). -/
inductive KeygenReach : Option (KeygenSessionHandle D) → List (KeygenEvent D) → Prop
  | new (state : D.State) (n : Nat) :
      KeygenReach (some (KeygenSessionHandle.new state n)) []
  | step {s : KeygenSessionHandle D} {tr : List (KeygenEvent D)} (c : KeygenCall)
      {r : KeygenReply D} :
      KeygenReach (some s) tr → c.apply (some s) = .ok r →
        KeygenReach r.session (tr ++ r.events)

/-- Every keygen constructor returns a session in `Init`. -/
theorem KeygenInit.apply_new {c : KeygenInit D} {r : KeygenReply D}
    {s : KeygenSessionHandle D} (h : c.apply = .ok r) (hs : r.session = some s) :
    ∃ state n, s = KeygenSessionHandle.new state n := by
  rcases KeygenInit.apply_cases h with ⟨state, n, rfl⟩ | ⟨hnone, -⟩
  · cases hs
    exact ⟨state, n, rfl⟩
  · rw [hnone] at hs
    cases hs

/-- The engine steps a session in a live round has run: the protocol up to
that round, every step returning `Ok`. -/
def liveTrace : Round D.Keyshare → List (KeygenEvent D) → Prop
  | .init, tr => tr = []
  | .waitMsg1, tr => tr = [.generateMsg1]
  | .waitMsg2, tr => tr = [.generateMsg1, .handleMsg1 none]
  | .waitMsg3, tr => tr = [.generateMsg1, .handleMsg1 none, .handleMsg2 none]
  | .waitMsg4, tr => ∃ c,
      tr = [.generateMsg1, .handleMsg1 none, .handleMsg2 none, .handleMsg3 c none]
  | .share ks, tr => ∃ c,
      tr = [.generateMsg1, .handleMsg1 none, .handleMsg2 none, .handleMsg3 c none,
        .handleMsg4 (.ok ks)]
  | .failed, _ => False

/-- The steps of a failed session: a round's steps followed by its step
returning `Err`, or the steps of `WaitMsg4` when its batch did not decode. -/
def FailedTrace (tr : List (KeygenEvent D)) : Prop :=
  ∃ round pre, liveTrace round pre ∧
    ((round = .waitMsg4 ∧ tr = pre) ∨ ∃ e, Fails round e ∧ tr = pre ++ [e])

/-- The invariant of a reachable session: its engine steps as its round says. -/
def TraceOf (round : Round D.Keyshare) (tr : List (KeygenEvent D)) : Prop :=
  match round with
  | .failed => FailedTrace tr
  | round => liveTrace round tr

theorem traceOf_live {round : Round D.Keyshare} (h : round ≠ .failed)
    {tr : List (KeygenEvent D)} : TraceOf round tr ↔ liveTrace round tr := by
  cases round <;> simp_all [TraceOf]

theorem Fails.ne_failed {round : Round D.Keyshare} {e : KeygenEvent D}
    (h : Fails round e) : round ≠ .failed := by
  cases h <;> nofun

/-- A step returning `Ok` extends the steps of its round to those of the
next round. -/
theorem Advances.liveTrace {round next : Round D.Keyshare} {e : KeygenEvent D}
    (h : Advances round e next) {tr : List (KeygenEvent D)}
    (hinv : TraceOf round tr) : TraceOf next (tr ++ [e]) := by
  cases h with
  | handleMsg3 c => subst hinv; exact ⟨c, rfl⟩
  | handleMsg4 ks => obtain ⟨c, rfl⟩ := hinv; exact ⟨c, rfl⟩
  | _ => subst hinv; rfl

/-- One call preserves the invariant. -/
theorem traceOf_moves {s : KeygenSessionHandle D} {tr : List (KeygenEvent D)}
    {s' : Option (KeygenSessionHandle D)} {events : List (KeygenEvent D)}
    (hinv : TraceOf s.round tr) (hm : Moves s s' events) :
    ∀ live ∈ s', TraceOf live.round (tr ++ events) := by
  intro live hlive
  cases hm with
  | stay => cases hlive; simpa using hinv
  | abort hround =>
      cases hlive
      rw [hround] at hinv
      exact ⟨.waitMsg4, tr, hinv, .inl ⟨rfl, by simp⟩⟩
  | advance state hadv => cases hlive; exact hadv.liveTrace hinv
  | fail state hfail =>
      cases hlive
      exact ⟨s.round, tr, (traceOf_live hfail.ne_failed).mp hinv, .inr ⟨_, hfail, rfl⟩⟩
  | release => cases hlive

theorem Moves.release_events {s : KeygenSessionHandle D} {events : List (KeygenEvent D)}
    (h : Moves s none events) : events = [] := by
  cases h; rfl

/-- Every reachable session carries the invariant; a released one keeps the
steps it had. -/
theorem KeygenReach.traceOf {s : Option (KeygenSessionHandle D)}
    {tr : List (KeygenEvent D)} (h : KeygenReach s tr) :
    ∃ round, TraceOf round tr ∧ ∀ live ∈ s, live.round = round := by
  induction h with
  | new state n => exact ⟨.init, rfl, fun _ h => by cases h; rfl⟩
  | @step s tr c r _ hc ih =>
      obtain ⟨round, hinv, hround⟩ := ih
      rw [← hround s rfl] at hinv
      have hm := c.apply_moves hc
      cases hs : r.session with
      | none =>
          rw [hs] at hm
          rw [hm.release_events]
          exact ⟨s.round, by simpa using hinv, fun _ h => by cases h⟩
      | some live =>
          rw [hs] at hm
          exact ⟨live.round, traceOf_moves hinv hm live rfl, fun _ h => by cases h; rfl⟩

/-- The engine steps `tr` run from `Init` on the engine state `st`: a protocol
run, each step the engine operation of its round on the state the previous
one left, ending in the state and round of the session while it lives. -/
def EngineRun (st : D.State) (s : Option (KeygenSessionHandle D))
    (tr : List (KeygenEvent D)) : Prop :=
  ∃ q, Runs ⟨st, .init⟩ tr q ∧ ∀ live ∈ s, live.protocol = q

/-- The steps recorded for a reachable session are the engine operations the
calls ran on it. -/
theorem KeygenReach.engineRun {s : Option (KeygenSessionHandle D)}
    {tr : List (KeygenEvent D)} (h : KeygenReach s tr) : ∃ st, EngineRun st s tr := by
  induction h with
  | new state n => exact ⟨state, _, .refl, fun _ h => by cases h; rfl⟩
  | @step s tr c r _ hc ih =>
      obtain ⟨st, q, hrun, hq⟩ := ih
      rw [← hq s rfl] at hrun
      obtain ⟨msgs, hd, -⟩ := c.apply_implements hc
      have hm := c.apply_moves hc
      cases hs : r.session with
      | none =>
          rw [hs] at hm
          rw [hm.release_events]
          exact ⟨st, _, by simpa using hrun, fun _ h => by cases h⟩
      | some live =>
          rw [hs] at hd
          exact ⟨st, _, (hd.runs hrun).1, fun _ h => by cases h; rfl⟩

/-- The state-changing engine operations, by name. -/
inductive KeygenOp where
  | generateMsg1
  | handleMsg1
  | handleMsg2
  | handleMsg3
  | handleMsg4
  deriving DecidableEq

/-- The order in which the engine expects its operations. -/
def keygenProtocol : List KeygenOp :=
  [.generateMsg1, .handleMsg1, .handleMsg2, .handleMsg3, .handleMsg4]

def KeygenEvent.op : KeygenEvent D → KeygenOp
  | .generateMsg1 => .generateMsg1
  | .handleMsg1 _ => .handleMsg1
  | .handleMsg2 _ => .handleMsg2
  | .handleMsg3 _ _ => .handleMsg3
  | .handleMsg4 _ => .handleMsg4

/-- Whether the engine operation returned `Ok`; `generate_msg1` cannot fail. -/
def KeygenEvent.ok : KeygenEvent D → Bool
  | .generateMsg1 => true
  | .handleMsg1 error | .handleMsg2 error | .handleMsg3 _ error => error.isNone
  | .handleMsg4 result => result.isOk

theorem liveTrace_ordered {round : Round D.Keyshare} {tr : List (KeygenEvent D)}
    (h : liveTrace round tr) :
    tr.map KeygenEvent.op <+: keygenProtocol ∧ ∀ e ∈ tr, e.ok = true := by
  cases round <;> simp only [liveTrace] at h
  all_goals first
    | exact h.elim
    | (subst h; simp [KeygenEvent.op, KeygenEvent.ok, keygenProtocol])
    | (obtain ⟨c, rfl⟩ := h
       simp [KeygenEvent.op, KeygenEvent.ok, keygenProtocol, Except.isOk, Except.toBool])

/-- The steps allowed by the invariant run in protocol order, each after its
predecessor returned `Ok`. -/
theorem TraceOf.ordered {round : Round D.Keyshare} {tr : List (KeygenEvent D)}
    (h : TraceOf round tr) :
    tr.map KeygenEvent.op <+: keygenProtocol ∧ ∀ e ∈ tr.dropLast, e.ok = true := by
  by_cases hf : round = .failed
  · subst hf
    obtain ⟨round, pre, hpre, ⟨-, rfl⟩ | ⟨e, hfail, rfl⟩⟩ := h
    · have hord := liveTrace_ordered hpre
      exact ⟨hord.1, fun e he => hord.2 e (List.dropLast_subset _ he)⟩
    · refine ⟨?_, by simpa using (liveTrace_ordered hpre).2⟩
      cases hfail <;> simp only [liveTrace] at hpre
      all_goals first
        | (subst hpre; simp [KeygenEvent.op, keygenProtocol])
        | (obtain ⟨c, rfl⟩ := hpre; simp [KeygenEvent.op, keygenProtocol])
  · have hord := liveTrace_ordered ((traceOf_live hf).mp h)
    exact ⟨hord.1, fun e he => hord.2 e (List.dropLast_subset _ he)⟩

/-- No failed session has seen `handle_msg4` return `Ok`. -/
theorem FailedTrace.not_share {tr : List (KeygenEvent D)} (h : FailedTrace tr)
    (ks : D.Keyshare) : .handleMsg4 (.ok ks) ∉ tr := by
  obtain ⟨round, pre, hpre, ⟨rfl, rfl⟩ | ⟨e, hfail, rfl⟩⟩ := h
  · obtain ⟨c, rfl⟩ := hpre
    simp
  · cases hfail <;> simp only [liveTrace] at hpre
    all_goals first
      | (subst hpre; simp)
      | (obtain ⟨c, rfl⟩ := hpre; simp)

/-- A live session is in `Share ks` exactly when `handle_msg4` returned
`Ok(ks)` on it. -/
theorem TraceOf.share_iff {round : Round D.Keyshare} {tr : List (KeygenEvent D)}
    (h : TraceOf round tr) (ks : D.Keyshare) :
    round = .share ks ↔ .handleMsg4 (.ok ks) ∈ tr := by
  cases round with
  | failed => exact ⟨nofun, fun hmem => (FailedTrace.not_share h ks hmem).elim⟩
  | share ks' =>
      obtain ⟨c, rfl⟩ := h
      simp [eq_comm]
  | _ =>
      refine ⟨nofun, fun hmem => ?_⟩
      first
        | (subst h; simp at hmem)
        | (obtain ⟨c, rfl⟩ := h; simp at hmem)

/-- `dkls_keygen_keyshare` hands out a keyshare only from `Share`, and it is
the one the round holds. -/
theorem dklsKeygenKeyshare_share {s : KeygenSessionHandle D} {errOut : Bool}
    {r : KeygenReply D} {ks : D.Keyshare}
    (h : dklsKeygenKeyshare (some s) errOut = .ok r) (hret : r.ret = .keyshare (some ks)) :
    s.round = .share ks := by
  simp only [dklsKeygenKeyshare] at h
  split at h
  · rename_i hround
    cases h
    cases hret
    exact hround
  · rw [(reject_session h).2.1] at hret
    cases hret
  · rw [(reject_session h).2.1] at hret
    cases hret

/-- The guarantees on the engine steps of one keygen session `s`, which has
run the steps `tr`: they are engine operations, each on the state the previous
one left, from the state the session started with; the operations form a
prefix of the protocol, each at most once, each after its predecessor returned
`Ok`; the session is in `Share ks` exactly when `handle_msg4` returned
`Ok(ks)`; and `dkls_keygen_keyshare` returns a keyshare only after all four
rounds succeeded, and then the one `handle_msg4` returned. -/
structure KeygenOrder (s : Option (KeygenSessionHandle D)) (tr : List (KeygenEvent D)) :
    Prop where
  engine_run : ∃ st, EngineRun st s tr
  in_order : tr.map KeygenEvent.op <+: keygenProtocol
  at_most_once : (tr.map KeygenEvent.op).Nodup
  after_ok : ∀ e ∈ tr.dropLast, e.ok = true
  share_iff : ∀ live ∈ s, ∀ ks, live.round = .share ks ↔ .handleMsg4 (.ok ks) ∈ tr
  keyshare_after_all_rounds : ∀ live ∈ s, ∀ errOut r ks,
    dklsKeygenKeyshare (some live) errOut = .ok r → r.ret = .keyshare (some ks) →
      ∃ c, tr = [.generateMsg1, .handleMsg1 none, .handleMsg2 none, .handleMsg3 c none,
        .handleMsg4 (.ok ks)]

/-- Over every sequence of calls with any arguments, from any session a
constructor built, the engine is driven in protocol order. -/
theorem keygen_engine_order {s : Option (KeygenSessionHandle D)}
    {tr : List (KeygenEvent D)} (h : KeygenReach s tr) : KeygenOrder s tr := by
  obtain ⟨round, hinv, hround⟩ := h.traceOf
  have hord := hinv.ordered
  refine ⟨h.engineRun, hord.1, hord.1.sublist.nodup (by decide), hord.2, ?_, ?_⟩
  · intro live hlive ks
    rw [hround live hlive]
    exact hinv.share_iff ks
  · intro live hlive errOut r ks hk hret
    have hshare := dklsKeygenKeyshare_share hk hret
    rw [hround live hlive] at hshare
    subst hshare
    exact hinv

theorem keygen_engine_order_new :
    KeygenReach (some (KeygenSessionHandle.new (D := unitDkg) () 3)) [] ∧
      KeygenOrder (some (KeygenSessionHandle.new (D := unitDkg) () 3)) [] :=
  ⟨.new (D := unitDkg) () 3, keygen_engine_order (.new (D := unitDkg) () 3)⟩

end DklsFfi.Keygen
