import DklsFfi.Keygen.Session

/-!
The commitments buffer of keygen round 3. Over a buffer of `n * 32` bytes,
`chunks_exact(32)` yields exactly `n` chunks of 32 bytes, so no `try_into`
reaches its `unwrap`, and the vector `handle_msg3` runs on is the buffer cut
into its `n` consecutive 32-byte commitments.
-/

namespace DklsFfi.Keygen

variable {D : Dkg}

/-- Converting slices that all have length `k` never panics and keeps them,
in order. -/
theorem mapM_unwrap_tryFrom {k : Nat} :
    ∀ chunks : List (List UInt8), (∀ c ∈ chunks, c.length = k) →
      ∃ cs : List (Bytes k), chunks.mapM (fun c => unwrap (Bytes.tryFrom k c)) = .ok cs ∧
        cs.map Bytes.toList = chunks
  | [], _ => ⟨[], rfl, rfl⟩
  | c :: chunks, h => by
      have hc : c.length = k := h c (List.mem_cons_self c chunks)
      obtain ⟨cs, hcs, hmap⟩ :=
        mapM_unwrap_tryFrom chunks fun c' hc' => h c' (List.mem_cons_of_mem c hc')
      refine ⟨⟨c, hc⟩ :: cs, ?_, by simp [hmap]⟩
      rw [List.mapM_cons, Bytes.tryFrom_of_length hc, hcs]
      rfl

/-- A buffer of `n * 32` bytes is cut into `n` commitments, the `i`-th being
bytes `32 * i` to `32 * i + 31`. -/
theorem collectCommitments_of_length {n : Nat} {bytes : List UInt8}
    (hlen : bytes.length = n * 32) :
    ∃ cs, collectCommitments bytes = .ok cs ∧
      cs.map Bytes.toList = (List.range n).map fun i => (bytes.drop (32 * i)).take 32 := by
  have hchunks := chunksExact_eq_map_range (by decide : 0 < 32) bytes
  rw [show bytes.length / 32 = n by omega] at hchunks
  have hsize : ∀ c ∈ chunksExact 32 bytes, c.length = 32 := by
    rw [hchunks]
    simp only [List.mem_map, List.mem_range]
    rintro c ⟨i, hi, rfl⟩
    simp only [List.length_take, List.length_drop]
    omega
  obtain ⟨cs, hcs, hmap⟩ := mapM_unwrap_tryFrom _ hsize
  exact ⟨cs, hcs, hmap.trans hchunks⟩

/-- Round 3 with a buffer it accepts: the commitments are collected, then the
generic helper runs `handle_msg3` on them. -/
theorem dklsKeygenHandleMessages_waitMsg3 {s : KeygenSessionHandle D}
    {msgs : Option (List Message)} {bytes : List UInt8} {seed : Option (List UInt8)}
    {entropy : Bytes 32} {errOut out : Bool} {cs : List (Bytes 32)}
    (hround : s.round = .waitMsg3) (hne : bytes ≠ []) (hlen : bytes.length = s.n * 32)
    (hcs : collectCommitments bytes = .ok cs) :
    dklsKeygenHandleMessages (some s) msgs (some bytes) seed entropy errOut out =
      (maybeSeededRng (seedSlice seed) entropy >>= fun rng => do
        let r ← handleMessages s msgs
          (fun st ms => match D.handleMsg3 st rng ms cs with
            | (st, result) => (st, result.map fun m => [m]))
          (KeygenMsg4.routing D) .waitMsg4 (.handleMsg3 cs)
        pure (finishRound r errOut out)) := by
  have hpos : s.n * 32 ≠ 0 := hlen ▸ mt List.length_eq_zero.mp hne
  simp only [dklsKeygenHandleMessages, hround, hlen, hpos, hcs, if_false, ne_eq,
    not_true_eq_false, except_ok_bind]

end DklsFfi.Keygen
