import DklsFfi.Sign.Refinement

/-!
Sign sessions over whole runs, as `Keygen.Protocol` does for keygen. The
steps recorded for a session are a protocol run (`Sign.Refinement`) from the
state it started with, ended by `combine_signatures` when the combining call
released it. The invariant `TraceOf` fixes the engine steps a session in each
round has run,
down to the pre-signature that `Pre` holds and the partial signature of
`WaitMsg4`; a released session may add one `combine_signatures` on that
partial signature. Hence the pre-signature is consumed at most once and the
combination only ever sees this session's own partial signature.
-/

namespace DklsFfi.Sign

variable {K : Type} {S : Dsg K}

/-- The sessions a host can hold with the engine steps run on each: a new
session, and whatever a call that returns leaves at its handle. -/
inductive SignReach : Option (SignSessionHandle S) → List (SignEvent S) → Prop
  | new (state : S.State) : SignReach (some (SignSessionHandle.new state)) []
  | step {s : SignSessionHandle S} {tr : List (SignEvent S)} (c : SignCall)
      {r : SignReply S} :
      SignReach (some s) tr → c.apply (some s) = .ok r →
        SignReach r.session (tr ++ r.events)

/-- Every sign constructor returns a session in `Init`. -/
theorem SignInit.apply_new {c : SignInit K} {r : SignReply S} {s : SignSessionHandle S}
    (h : c.apply = .ok r) (hs : r.session = some s) :
    ∃ state, s = SignSessionHandle.new state := by
  rcases SignInit.apply_cases h with ⟨state, rfl⟩ | ⟨hnone, -⟩
  · cases hs
    exact ⟨state, rfl⟩
  · rw [hnone] at hs
    cases hs

/-- The engine steps a session in a live round has run. -/
def liveTrace : Round S.PreSignature S.PartialSignature → List (SignEvent S) → Prop
  | .init, tr => tr = []
  | .waitMsg1, tr => tr = [.generateMsg1]
  | .waitMsg2, tr => tr = [.generateMsg1, .handleMsg1 none]
  | .waitMsg3, tr => tr = [.generateMsg1, .handleMsg1 none, .handleMsg2 none]
  | .pre p, tr =>
      tr = [.generateMsg1, .handleMsg1 none, .handleMsg2 none, .handleMsg3 (.ok p)]
  | .waitMsg4 q, tr => ∃ p hash,
      tr = [.generateMsg1, .handleMsg1 none, .handleMsg2 none, .handleMsg3 (.ok p),
        .createPartialSignature p hash q]
  | .failed, _ => False
  | .finished, _ => False

/-- The steps of a failed session: a round's steps followed by its step
returning `Err`, or the steps of `WaitMsg3` when its batch did not decode. -/
def FailedTrace (tr : List (SignEvent S)) : Prop :=
  ∃ round pre, liveTrace round pre ∧
    ((round = .waitMsg3 ∧ tr = pre) ∨ ∃ e, Fails round e ∧ tr = pre ++ [e])

/-- The invariant of a reachable session. No round of it is `Finished`. -/
def TraceOf (round : Round S.PreSignature S.PartialSignature)
    (tr : List (SignEvent S)) : Prop :=
  match round with
  | .failed => FailedTrace tr
  | round => liveTrace round tr

/-- The steps of a released session: those of the round it was in, with one
`combine_signatures` on the partial signature of `WaitMsg4`. -/
def ReleasedTrace (tr : List (SignEvent S)) : Prop :=
  (∃ round, TraceOf round tr) ∨
    ∃ q pre error, liveTrace (.waitMsg4 q) pre ∧ tr = pre ++ [.combineSignatures q error]

theorem traceOf_live {round : Round S.PreSignature S.PartialSignature}
    (h : round ≠ .failed) {tr : List (SignEvent S)} :
    TraceOf round tr ↔ liveTrace round tr := by
  cases round <;> simp_all [TraceOf]

theorem Fails.ne_failed {round : Round S.PreSignature S.PartialSignature}
    {e : SignEvent S} (h : Fails round e) : round ≠ .failed := by
  cases h <;> nofun

theorem Advances.traceOf {round next : Round S.PreSignature S.PartialSignature}
    {e : SignEvent S} (h : Advances round e next) {tr : List (SignEvent S)}
    (hinv : TraceOf round tr) : TraceOf next (tr ++ [e]) := by
  cases h with
  | createPartialSignature p hash q => subst hinv; exact ⟨p, hash, rfl⟩
  | _ => subst hinv; rfl

/-- One call preserves the invariant, and a releasing call leaves a released
trace. -/
theorem traceOf_moves {s : SignSessionHandle S} {tr : List (SignEvent S)}
    {s' : Option (SignSessionHandle S)} {events : List (SignEvent S)}
    (hinv : TraceOf s.round tr) (hm : Moves s s' events) :
    (∀ live ∈ s', TraceOf live.round (tr ++ events)) ∧
      (s' = none → ReleasedTrace (tr ++ events)) := by
  cases hm with
  | stay => exact ⟨fun _ h => by cases h; simpa using hinv, nofun⟩
  | abort hround =>
      refine ⟨fun _ h => ?_, nofun⟩
      cases h
      rw [hround] at hinv
      exact ⟨.waitMsg3, tr, hinv, .inl ⟨rfl, by simp⟩⟩
  | advance state hadv => exact ⟨fun _ h => by cases h; exact hadv.traceOf hinv, nofun⟩
  | fail state hfail =>
      refine ⟨fun _ h => ?_, nofun⟩
      cases h
      exact ⟨s.round, tr, (traceOf_live hfail.ne_failed).mp hinv, .inr ⟨_, hfail, rfl⟩⟩
  | release => exact ⟨nofun, fun _ => .inl ⟨s.round, by simpa using hinv⟩⟩
  | combine error hround =>
      refine ⟨nofun, fun _ => .inr ⟨_, tr, error, ?_, rfl⟩⟩
      rw [hround] at hinv
      exact hinv

/-- The invariant of every reachable session, live or released. -/
def SignInv : Option (SignSessionHandle S) → List (SignEvent S) → Prop
  | some live, tr => TraceOf live.round tr
  | none, tr => ReleasedTrace tr

theorem SignReach.inv {s : Option (SignSessionHandle S)} {tr : List (SignEvent S)}
    (h : SignReach s tr) : SignInv s tr := by
  induction h with
  | new state => exact (rfl : ([] : List (SignEvent S)) = [])
  | @step s tr c r _ hc ih =>
      have hstep := traceOf_moves ih (c.apply_moves hc)
      cases hs : r.session with
      | none => exact hstep.2 hs
      | some live => exact hstep.1 live hs

/-- The engine steps `tr` run from `Init` on the engine state `st`: a protocol
run, each step the engine operation of its round on the state the previous
one left, ending in the session while it lives or after a release that ran
nothing; a release by `dkls_sign_combine` ends the run with
`combine_signatures` on the partial signature of `WaitMsg4`. -/
inductive EngineRun (st : S.State) : Option (SignSessionHandle S) → List (SignEvent S) → Prop
  | live {tr : List (SignEvent S)} {s : SignSessionHandle S} :
      Runs ⟨st, .init⟩ tr s → EngineRun st (some s) tr
  | released {tr : List (SignEvent S)} {q : SignSessionHandle S} :
      Runs ⟨st, .init⟩ tr q → EngineRun st none tr
  | combined {tr : List (SignEvent S)} {q : SignSessionHandle S} {inbound : List Message}
      {partialSignature : S.PartialSignature} {error : Option S.SignError} :
      Runs ⟨st, .init⟩ tr q → q.round = .waitMsg4 partialSignature →
        EngineStep inbound q.state (.combineSignatures partialSignature error) q.state [] →
          EngineRun st none (tr ++ [.combineSignatures partialSignature error])

/-- The steps recorded for a reachable session are the engine operations the
calls ran on it. -/
theorem SignReach.engineRun {s : Option (SignSessionHandle S)} {tr : List (SignEvent S)}
    (h : SignReach s tr) : ∃ st, EngineRun st s tr := by
  induction h with
  | new state => exact ⟨state, .live .refl⟩
  | @step s tr c r _ hc ih =>
      obtain ⟨st, hrun⟩ := ih
      cases hrun with
      | live hrun =>
          obtain ⟨msgs, hd, -⟩ := c.apply_implements hc
          generalize r.events = events at hd ⊢
          cases hs : r.session with
          | none =>
              rw [hs] at hd
              cases hd with
              | release => exact ⟨st, by simpa using EngineRun.released hrun⟩
              | combine hround hstep => exact ⟨st, .combined hrun hround hstep⟩
          | some live =>
              rw [hs] at hd
              exact ⟨st, .live (hd.runs hrun)⟩

/-- The engine operations of the sign protocol, by name. -/
inductive SignOp where
  | generateMsg1
  | handleMsg1
  | handleMsg2
  | handleMsg3
  | createPartialSignature
  | combineSignatures
  deriving DecidableEq

/-- The order in which the engine expects its operations. -/
def signProtocol : List SignOp :=
  [.generateMsg1, .handleMsg1, .handleMsg2, .handleMsg3, .createPartialSignature,
    .combineSignatures]

def SignEvent.op : SignEvent S → SignOp
  | .generateMsg1 => .generateMsg1
  | .handleMsg1 _ => .handleMsg1
  | .handleMsg2 _ => .handleMsg2
  | .handleMsg3 _ => .handleMsg3
  | .createPartialSignature _ _ _ => .createPartialSignature
  | .combineSignatures _ _ => .combineSignatures

/-- Whether the engine operation returned `Ok`; `generate_msg1` and
`create_partial_signature` cannot fail. -/
def SignEvent.ok : SignEvent S → Bool
  | .generateMsg1 | .createPartialSignature _ _ _ => true
  | .handleMsg1 error | .handleMsg2 error | .combineSignatures _ error => error.isNone
  | .handleMsg3 result => result.isOk

/-- The guarantees on the engine steps `tr` run on one sign session: the
operations form a prefix of the protocol, each at most once, each after its
predecessor returned `Ok`; `create_partial_signature` consumes the
pre-signature `handle_msg3` returned, and only once, so no two digests are
signed with it; `combine_signatures` only receives the partial signature that
`create_partial_signature` produced on this session. -/
structure SignOrder (tr : List (SignEvent S)) : Prop where
  in_order : tr.map SignEvent.op <+: signProtocol
  at_most_once : (tr.map SignEvent.op).Nodup
  after_ok : ∀ e ∈ tr.dropLast, e.ok = true
  pre_from_round3 : ∀ pre hash q,
    .createPartialSignature pre hash q ∈ tr → .handleMsg3 (.ok pre) ∈ tr
  one_digest : ∀ pre hash hash' q q', .createPartialSignature pre hash q ∈ tr →
    .createPartialSignature pre hash' q' ∈ tr → hash = hash' ∧ q = q'
  combine_own_partial : ∀ q error, .combineSignatures q error ∈ tr →
    ∃ pre hash, .createPartialSignature pre hash q ∈ tr

theorem signProtocol_nodup : signProtocol.Nodup := by decide

/-- A trace that runs the first `k ≤ 4` operations of the protocol, each but
the last returning `Ok`, is in order; it has no step on a pre-signature or a
partial signature. -/
theorem SignOrder.of_short {tr : List (SignEvent S)} (k : Nat)
    (hmap : tr.map SignEvent.op = signProtocol.take k) (hk : k ≤ 4)
    (hok : tr.dropLast.all SignEvent.ok = true) : SignOrder tr := by
  have hop {e : SignEvent S} (he : e ∈ tr) : e.op ∈ signProtocol.take 4 :=
    List.take_subset_take_left _ hk (hmap ▸ List.mem_map_of_mem _ he)
  exact {
    in_order := hmap ▸ List.take_prefix k signProtocol
    at_most_once := hmap ▸ (List.take_sublist k signProtocol).nodup signProtocol_nodup
    after_ok := List.all_eq_true.mp hok
    pre_from_round3 := fun _ _ _ h =>
      absurd (hop h) (by decide : SignOp.createPartialSignature ∉ signProtocol.take 4)
    one_digest := fun _ _ _ _ _ h _ =>
      absurd (hop h) (by decide : SignOp.createPartialSignature ∉ signProtocol.take 4)
    combine_own_partial := fun _ _ h =>
      absurd (hop h) (by decide : SignOp.combineSignatures ∉ signProtocol.take 4) }

/-- The two traces that reach `create_partial_signature`: it consumed the
pre-signature of `handle_msg3`, once, and the combination, if any, got the
partial signature it produced. -/
theorem SignOrder.of_signed (p : S.PreSignature) (hash : Bytes 32) (q : S.PartialSignature)
    (tail : List (SignEvent S)) (htail : tail = [] ∨ ∃ err, tail = [.combineSignatures q err]) :
    SignOrder ([.generateMsg1, .handleMsg1 none, .handleMsg2 none, .handleMsg3 (.ok p),
      .createPartialSignature p hash q] ++ tail) := by
  have hcps {pre hash' q'} (h : .createPartialSignature pre hash' q' ∈
      [.generateMsg1, .handleMsg1 none, .handleMsg2 none, .handleMsg3 (.ok p),
        .createPartialSignature p hash q] ++ tail) : pre = p ∧ hash' = hash ∧ q' = q := by
    rcases htail with rfl | ⟨err, rfl⟩ <;> simpa using h
  have hcomb {q' error} (h : .combineSignatures q' error ∈
      [.generateMsg1, .handleMsg1 none, .handleMsg2 none, .handleMsg3 (.ok p),
        .createPartialSignature p hash q] ++ tail) : q' = q := by
    rcases htail with rfl | ⟨err, rfl⟩ <;> simp at h
    exact h.1
  have hmap : ∃ k, (([.generateMsg1, .handleMsg1 none, .handleMsg2 none, .handleMsg3 (.ok p),
      .createPartialSignature p hash q] ++ tail : List (SignEvent S))).map SignEvent.op =
        signProtocol.take k := by
    rcases htail with rfl | ⟨err, rfl⟩
    · exact ⟨5, rfl⟩
    · exact ⟨6, rfl⟩
  obtain ⟨k, hk⟩ := hmap
  refine ⟨hk ▸ List.take_prefix k signProtocol,
    hk ▸ (List.take_sublist k signProtocol).nodup signProtocol_nodup, ?_, ?_, ?_, ?_⟩
  · rcases htail with rfl | ⟨err, rfl⟩ <;> exact List.all_eq_true.mp rfl
  · intro pre hash' q' h
    rw [(hcps h).1]
    simp
  · intro pre hash₁ hash₂ q₁ q₂ h₁ h₂
    obtain ⟨-, rfl, rfl⟩ := hcps h₁
    obtain ⟨-, rfl, rfl⟩ := hcps h₂
    exact ⟨rfl, rfl⟩
  · intro q' error h
    exact ⟨p, hash, by rw [hcomb h]; simp⟩

theorem liveTrace_order {round : Round S.PreSignature S.PartialSignature}
    {tr : List (SignEvent S)} (h : liveTrace round tr) : SignOrder tr := by
  cases round <;> simp only [liveTrace] at h
  case init => subst h; exact .of_short 0 rfl (by decide) rfl
  case waitMsg1 => subst h; exact .of_short 1 rfl (by decide) rfl
  case waitMsg2 => subst h; exact .of_short 2 rfl (by decide) rfl
  case waitMsg3 => subst h; exact .of_short 3 rfl (by decide) rfl
  case pre => subst h; exact .of_short 4 rfl (by decide) rfl
  case waitMsg4 q =>
    obtain ⟨p, hash, rfl⟩ := h
    exact .of_signed p hash q [] (.inl rfl)

theorem failedTrace_order {tr : List (SignEvent S)} (h : FailedTrace tr) : SignOrder tr := by
  obtain ⟨round, pre, hpre, ⟨rfl, rfl⟩ | ⟨e, hfail, rfl⟩⟩ := h
  · exact liveTrace_order hpre
  · cases hfail <;> simp only [liveTrace] at hpre <;> subst hpre
    · exact .of_short 2 rfl (by decide) rfl
    · exact .of_short 3 rfl (by decide) rfl
    · exact .of_short 4 rfl (by decide) rfl

/-- Every trace the invariant allows, live or released, is in order. -/
theorem SignInv.order {s : Option (SignSessionHandle S)} {tr : List (SignEvent S)}
    (h : SignInv s tr) : SignOrder tr := by
  have htrace {round : Round S.PreSignature S.PartialSignature} (h : TraceOf round tr) :
      SignOrder tr := by
    by_cases hf : round = .failed
    · subst hf
      exact failedTrace_order h
    · exact liveTrace_order ((traceOf_live hf).mp h)
  cases s with
  | some live => exact htrace h
  | none =>
      rcases h with ⟨round, h⟩ | ⟨q, pre, error, hpre, rfl⟩
      · exact htrace h
      · obtain ⟨p, hash, rfl⟩ := hpre
        exact .of_signed p hash q _ (.inr ⟨error, rfl⟩)

/-- Over every sequence of calls with any messages, digests and seeds, from
any session `dkls_sign_new` built, the engine is driven in protocol order, the
pre-signature is consumed once, and only this session's own partial signature
is combined; the steps are the engine operations themselves, each on the
state the previous one left. -/
theorem sign_engine_order {s : Option (SignSessionHandle S)} {tr : List (SignEvent S)}
    (h : SignReach s tr) : SignOrder tr ∧ ∃ st, EngineRun st s tr :=
  ⟨h.inv.order, h.engineRun⟩

theorem sign_engine_order_new :
    SignReach (some (SignSessionHandle.new (S := unitDsg) ())) [] ∧
      SignOrder (S := unitDsg) [] ∧
        ∃ st, EngineRun st (some (SignSessionHandle.new (S := unitDsg) ())) [] :=
  ⟨.new (S := unitDsg) (), sign_engine_order (.new (S := unitDsg) ())⟩

end DklsFfi.Sign
