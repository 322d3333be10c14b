import DklsFfi.Keygen.Protocol
import DklsFfi.Sign.Protocol

/-!
The round discipline shared by both session kinds: a call leaves a live
session in the same round, in the next round of the protocol after its engine
step returned `Ok`, or in `Failed`, and `Failed` is never left while the
handle lives. For sign sessions the `Finished` placeholder of `mem::replace`
is never the round of a live session. Each is read off the `Drives` summary
of one call (`Keygen.Refinement`, `Sign.Refinement`), which also says that
the step is the round's engine operation on the session's state and the
call's own batch, so no entry point is unfolded here.
-/

namespace DklsFfi

namespace Keygen

variable {D : Dkg}

/-- Where one call with the inbound batch `inbound` may leave a keygen session
`s` that lives on as `live`, having run the engine steps `events`: the move is
one the protocol allows on that batch, and its round is the same, the next
one or `Failed`. -/
structure RoundStep (s : KeygenSessionHandle D) (inbound : List Message)
    (events : List (KeygenEvent D)) (live : KeygenSessionHandle D) : Prop where
  drives : ∃ msgs, Drives s inbound (some live) events msgs
  forward : live.round = s.round ∨ live.round = .failed ∨
    ∃ e, Advances s.round e live.round ∧ e.ok = true ∧ events = [e]
  error_fails : ∀ e ∈ events, e.ok = false → live.round = .failed
  failed_stays : s.round = .failed → live.round = .failed

theorem Advances.ok {round next : Round D.Keyshare} {e : KeygenEvent D}
    (h : Advances round e next) : e.ok = true := by
  cases h <;> rfl

theorem Drives.roundStep {s live : KeygenSessionHandle D} {inbound : List Message}
    {events : List (KeygenEvent D)} {msgs : List Message}
    (hd : Drives s inbound (some live) events msgs) : RoundStep s inbound events live := by
  have hdrives : ∃ msgs, Drives s inbound (some live) events msgs := ⟨msgs, hd⟩
  cases hd with
  | stay => exact ⟨hdrives, .inl rfl, nofun, id⟩
  | abort _ => exact ⟨hdrives, .inr (.inl rfl), nofun, fun _ => rfl⟩
  | step hstep =>
      cases hstep with
      | advance hadv _ =>
          have hadv : Advances s.round _ _ := hadv
          refine ⟨hdrives, .inr (.inr ⟨_, hadv, hadv.ok, rfl⟩), ?_, fun hfailed => ?_⟩
          · rintro e he hfalse
            rw [List.mem_singleton.mp he, hadv.ok] at hfalse
            cases hfalse
          · rw [hfailed] at hadv
            nomatch hadv
      | fail _ _ => exact ⟨hdrives, .inr (.inl rfl), fun _ _ _ => rfl, fun _ => rfl⟩

theorem KeygenCall.apply_roundStep (c : KeygenCall) {s : KeygenSessionHandle D}
    {r : KeygenReply D} (hc : c.apply (some s) = .ok r) :
    ∀ live ∈ r.session, RoundStep s c.inbound r.events live := by
  intro live hlive
  obtain ⟨msgs, hd, -⟩ := c.apply_implements hc
  rw [Option.mem_def.mp hlive] at hd
  exact hd.roundStep

end Keygen

namespace Sign

variable {K : Type} {S : Dsg K}

/-- Where one call with the inbound batch `inbound` may leave a sign session
`s` that lives on as `live`: as for keygen, and never in `Finished`. -/
structure RoundStep (s : SignSessionHandle S) (inbound : List Message)
    (events : List (SignEvent S)) (live : SignSessionHandle S) : Prop where
  drives : ∃ msgs, Drives s inbound (some live) events msgs
  forward : live.round = s.round ∨ live.round = .failed ∨
    ∃ e, Advances s.round e live.round ∧ e.ok = true ∧ events = [e]
  error_fails : ∀ e ∈ events, e.ok = false → live.round = .failed
  failed_stays : s.round = .failed → live.round = .failed
  not_finished : live.round ≠ .finished

theorem Advances.ok {round next : Round S.PreSignature S.PartialSignature}
    {e : SignEvent S} (h : Advances round e next) : e.ok = true := by
  cases h <;> rfl

/-- No reachable live sign session is in the `Finished` placeholder. -/
theorem SignReach.not_finished {s : SignSessionHandle S} {tr : List (SignEvent S)}
    (h : SignReach (some s) tr) : s.round ≠ .finished := by
  intro hfin
  have hinv : TraceOf s.round tr := h.inv
  rw [hfin] at hinv
  exact hinv

theorem Drives.roundStep {s live : SignSessionHandle S} {inbound : List Message}
    {events : List (SignEvent S)} {msgs : List Message}
    (hd : Drives s inbound (some live) events msgs) (hfin : live.round ≠ .finished) :
    RoundStep s inbound events live := by
  have hdrives : ∃ msgs, Drives s inbound (some live) events msgs := ⟨msgs, hd⟩
  cases hd with
  | stay => exact ⟨hdrives, .inl rfl, nofun, id, hfin⟩
  | abort _ => exact ⟨hdrives, .inr (.inl rfl), nofun, fun _ => rfl, hfin⟩
  | step hstep =>
      cases hstep with
      | advance hadv _ =>
          refine ⟨hdrives, .inr (.inr ⟨_, hadv, hadv.ok, rfl⟩), ?_, fun hfailed => ?_, hfin⟩
          · rintro e he hfalse
            rw [List.mem_singleton.mp he, hadv.ok] at hfalse
            cases hfalse
          · rw [hfailed] at hadv
            nomatch hadv
      | fail _ _ => exact ⟨hdrives, .inr (.inl rfl), fun _ _ _ => rfl, fun _ => rfl, hfin⟩

theorem SignReach.roundStep {s : SignSessionHandle S} {tr : List (SignEvent S)}
    (h : SignReach (some s) tr) {c : SignCall} {r : SignReply S}
    (hc : c.apply (some s) = .ok r) : ∀ live ∈ r.session, RoundStep s c.inbound r.events live := by
  intro live hlive
  have hfin := (show SignReach (some live) (tr ++ r.events) from hlive ▸ .step c h hc).not_finished
  obtain ⟨msgs, hd, -⟩ := c.apply_implements hc
  rw [Option.mem_def.mp hlive] at hd
  exact hd.roundStep hfin

end Sign

/-- Every call on a reachable keygen or sign session leaves it, if it lives
on, after at most one protocol step on the call's batch: in the same round,
in the next round of the protocol after that round's engine operation ran on
the session's state and returned `Ok`, or in `Failed`; an engine error always
leaves `Failed`, and `Failed` is never left. No reachable live sign session,
before or after the call, is in the `Finished` placeholder. -/
theorem rounds_move_forward :
    (∀ (D : Dkg) (s : Keygen.KeygenSessionHandle D) tr, Keygen.KeygenReach (some s) tr →
      ∀ (c : Keygen.KeygenCall) r, c.apply (some s) = .ok r →
        ∀ live ∈ r.session, Keygen.RoundStep s c.inbound r.events live) ∧
    (∀ (K : Type) (S : Dsg K) (s : Sign.SignSessionHandle S) tr, Sign.SignReach (some s) tr →
      s.round ≠ .finished ∧
      ∀ (c : Sign.SignCall) r, c.apply (some s) = .ok r →
        ∀ live ∈ r.session, Sign.RoundStep s c.inbound r.events live) :=
  ⟨fun _ _ _ _ c _ hc => c.apply_roundStep hc,
    fun _ _ _ _ h => ⟨h.not_finished, fun _ _ hc => h.roundStep hc⟩⟩

theorem rounds_move_forward_new :
    (∀ (c : Keygen.KeygenCall) r,
      c.apply (some (Keygen.KeygenSessionHandle.new (D := unitDkg) () 3)) = .ok r →
        ∀ live ∈ r.session, Keygen.RoundStep (Keygen.KeygenSessionHandle.new (D := unitDkg) () 3)
          c.inbound r.events live) ∧
    (∀ (c : Sign.SignCall) r,
      c.apply (some (Sign.SignSessionHandle.new (S := unitDsg) ())) = .ok r →
        ∀ live ∈ r.session,
          Sign.RoundStep (Sign.SignSessionHandle.new (S := unitDsg) ()) c.inbound r.events live) :=
  ⟨rounds_move_forward.1 unitDkg _ [] (.new (D := unitDkg) () 3),
    (rounds_move_forward.2 Unit unitDsg _ [] (.new (S := unitDsg) ())).2⟩

end DklsFfi
