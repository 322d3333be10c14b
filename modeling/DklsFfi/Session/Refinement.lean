import DklsFfi.Keygen.Refinement
import DklsFfi.Sign.Refinement
import DklsFfi.Session.System

/-!
The wrapper refines the engine's protocol over whole runs. Each call on a
session is a stutter or one protocol step (`Keygen.Refinement`,
`Sign.Refinement`), so the calls a host makes on one handle run the protocol
from the session they were given. With the table's projection onto one handle
(`Session.System`), every session a host holds, after any interleaving of
calls on any handles, carries an engine state that an engine constructor
built and that only the protocol's steps have changed since, each run on the
state the previous one left: the wrapper never drops, forks or replays an
engine state.
-/

namespace DklsFfi

open Keygen Sign

variable {D : Dkg} {S : Dsg D.Keyshare}

/-- The calls a host makes on one keygen handle extend the protocol run of the
session they start from and keep its party count. -/
theorem Keygen.KeygenCall.runOn_runs {p : ProtocolState D} :
    ∀ (calls : List KeygenCall) {s s' : KeygenSessionHandle D} {tr : List (KeygenEvent D)},
      Runs p tr s.protocol → KeygenCall.runOn (some s) calls = .ok (some s') →
        ∃ tr', Runs p tr' s'.protocol ∧ s'.n = s.n
  | [], _, _, tr, hrun, h => by cases h; exact ⟨tr, hrun, rfl⟩
  | c :: cs, s, s', tr, hrun, h => by
      obtain ⟨r, hr, h⟩ := except_bind_eq_ok.mp h
      obtain ⟨msgs, hd, -⟩ := c.apply_implements hr
      cases hs : r.session with
      | none => rw [hs] at h; cases KeygenCall.runOn_none h
      | some s1 =>
          rw [hs] at hd h
          obtain ⟨hrun1, hn1⟩ := hd.runs hrun
          obtain ⟨tr', hrun', hn'⟩ := KeygenCall.runOn_runs cs hrun1 h
          exact ⟨tr', hrun', hn'.trans hn1⟩

/-- The calls a host makes on one sign handle extend the protocol run of the
session they start from. -/
theorem Sign.SignCall.runOn_runs {p : SignSessionHandle S} :
    ∀ (calls : List SignCall) {s s' : SignSessionHandle S} {tr : List (SignEvent S)},
      Runs p tr s → SignCall.runOn (some s) calls = .ok (some s') → ∃ tr', Runs p tr' s'
  | [], _, _, tr, hrun, h => by cases h; exact ⟨tr, hrun⟩
  | c :: cs, s, s', tr, hrun, h => by
      obtain ⟨r, hr, h⟩ := except_bind_eq_ok.mp h
      obtain ⟨msgs, hd, -⟩ := c.apply_implements hr
      cases hs : r.session with
      | none => rw [hs] at h; cases SignCall.runOn_none h
      | some s1 =>
          rw [hs] at hd h
          exact SignCall.runOn_runs cs (hd.runs hrun) h

end DklsFfi
