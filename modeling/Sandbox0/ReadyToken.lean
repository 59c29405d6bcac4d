-- The ready token of a REPL (`procd/pkg/process/repl`): which chunks of the output end an
-- occurrence of the token, and what is kept of the output between two chunks.
import Mathlib

namespace sandbox0.repl

open List

abbrev Bytes := List UInt8

structure REPL where
  readyToken : Bytes
  readyBuffer : Bytes

def tailForToken (data : Bytes) (tokenLen : Nat) : Bytes :=
  if tokenLen ≤ 1 ∨ data.length < tokenLen - 1 then data
  else data.drop (data.length - (tokenLen - 1))

def REPL.detectReadyToken (r : REPL) (data : Bytes) : Bool × REPL :=
  if r.readyToken = [] then (false, r)
  else if r.readyBuffer = [] then
    if r.readyToken <:+: data then (true, r)
    else (false, { r with readyBuffer := tailForToken data r.readyToken.length })
  else
    let combined := r.readyBuffer ++ data
    if r.readyToken <:+: combined then (true, { r with readyBuffer := [] })
    else (false, { r with readyBuffer := tailForToken combined r.readyToken.length })

def REPL.filterOutput (r : REPL) (data : Bytes) : Bool × REPL :=
  if data = [] then (false, r) else r.detectReadyToken data

/-- A byte of the chunk is the last one of an occurrence of the token. -/
def EndsIn (token past chunk : Bytes) : Prop :=
  ∃ n < chunk.length, token <:+ past ++ chunk.take (n + 1)

instance (token past chunk : Bytes) : Decidable (EndsIn token past chunk) :=
  inferInstanceAs (Decidable (∃ n < _, _))

/-- Every chunk is answered by whether an occurrence ends in it, and what is kept behind it
is shorter than the token. -/
def REPL.Finds (r : REPL) (past : Bytes) : List Bytes → Prop
  | [] => True
  | chunk :: chunks =>
    ((r.filterOutput chunk).1 = true ↔ EndsIn r.readyToken past chunk) ∧
      (r.filterOutput chunk).2.readyBuffer.length < r.readyToken.length ∧
      (r.filterOutput chunk).2.Finds (past ++ chunk) chunks

/-- Where an occurrence ends, one ends that starts behind the last chunk before in which one
ends (`since` are the bytes behind it), and a token of one byte is in every chunk. -/
def Apart (token past since : Bytes) : List Bytes → Prop
  | [] => True
  | chunk :: chunks =>
    if EndsIn token past chunk then
      EndsIn token since chunk ∧ Apart token (past ++ chunk) [] chunks
    else 2 ≤ token.length ∧ Apart token (past ++ chunk) (since ++ chunk) chunks

variable {token past since chunk buffer : Bytes}

lemma endsIn_concat (b : UInt8) :
    EndsIn token past (chunk ++ [b]) ↔ EndsIn token past chunk ∨
      token <:+ past ++ (chunk ++ [b]) := by
  unfold EndsIn
  rw [length_append, length_singleton, Nat.exists_lt_succ_right, take_of_length_le (by simp)]
  refine or_congr_left (exists_congr fun n => and_congr_right fun hn => ?_)
  rw [take_append_of_le_length hn]

lemma infix_append_iff : token <:+: past ++ chunk ↔ token <:+: past ∨ EndsIn token past chunk := by
  induction chunk using reverseRecOn with
  | nil => simp [EndsIn]
  | append_singleton chunk b ih =>
    rw [← append_assoc, infix_concat_iff, ih, endsIn_concat, append_assoc, or_comm, or_assoc]

lemma EndsIn.of_suffix (h : EndsIn token since chunk) (hsince : since <:+ past) :
    EndsIn token past chunk := by
  obtain ⟨n, hn, hsuffix⟩ := h
  exact ⟨n, hn, hsuffix.trans (suffix_append_self_iff.mpr hsince)⟩

lemma tailForToken_suffix {data : Bytes} {n : Nat} : tailForToken data n <:+ data := by
  unfold tailForToken
  split
  · exact suffix_rfl
  · exact drop_suffix _ _

-- for a token of one byte all of the output is kept
lemma length_tailForToken (data : Bytes) (n : Nat) :
    (tailForToken data n).length = if n ≤ 1 then data.length else min data.length (n - 1) := by
  unfold tailForToken
  split <;> split <;> (try rw [length_drop]) <;> omega

lemma tailForToken_append (n : Nat) :
    tailForToken (tailForToken since n ++ chunk) n = tailForToken (since ++ chunk) n := by
  have hsuffix : tailForToken (tailForToken since n ++ chunk) n <:+ since ++ chunk :=
    tailForToken_suffix.trans (suffix_append_self_iff.mpr tailForToken_suffix)
  have hlen : (tailForToken (tailForToken since n ++ chunk) n).length =
      (tailForToken (since ++ chunk) n).length := by
    simp only [length_tailForToken, length_append]
    split <;> omega
  exact (suffix_of_suffix_length_le hsuffix tailForToken_suffix hlen.le).eq_of_length hlen

/-- What is kept is enough to find an occurrence that ends in the next chunk. -/
lemma endsIn_tailForToken :
    EndsIn token (tailForToken since token.length) chunk ↔ EndsIn token since chunk := by
  refine ⟨fun h => h.of_suffix tailForToken_suffix, fun ⟨n, hn, hsuffix⟩ => ⟨n, hn, ?_⟩⟩
  refine suffix_of_suffix_length_le hsuffix (suffix_append_self_iff.mpr tailForToken_suffix) ?_
  have hlen := hsuffix.length_le
  rw [length_append, length_take] at hlen ⊢
  rw [length_tailForToken]
  split <;> omega

lemma filterOutput_eq (htoken : token ≠ []) (hchunk : chunk ≠ []) :
    REPL.filterOutput ⟨token, buffer⟩ chunk =
      if token <:+: buffer ++ chunk then (true, ⟨token, []⟩)
      else (false, ⟨token, tailForToken (buffer ++ chunk) token.length⟩) := by
  unfold REPL.filterOutput REPL.detectReadyToken
  rw [if_neg hchunk, if_neg htoken]
  split
  · rename_i hbuffer
    cases hbuffer
    rfl
  · rfl

lemma finds_iff_apart (htoken : token ≠ []) (hbuffer : tailForToken since token.length = buffer)
    (hfree : ¬ token <:+: since) (hsince : since <:+ past) {chunks : List Bytes}
    (hchunks : ∀ chunk ∈ chunks, chunk ≠ []) :
    REPL.Finds ⟨token, buffer⟩ past chunks ↔ Apart token past since chunks := by
  have hpos := length_pos_iff.mpr htoken
  induction chunks generalizing buffer past since with
  | nil => exact Iff.rfl
  | cons chunk chunks ih =>
    subst hbuffer
    obtain ⟨hchunk, hchunks⟩ := forall_mem_cons.mp hchunks
    have hfound : token <:+: tailForToken since token.length ++ chunk ↔
      EndsIn token since chunk := by
      rw [infix_append_iff, endsIn_tailForToken]
      exact or_iff_right fun hin => hfree (hin.trans tailForToken_suffix.isInfix)
    unfold REPL.Finds Apart
    rw [filterOutput_eq htoken hchunk, tailForToken_append]
    by_cases hends : EndsIn token since chunk
    · rw [if_pos (hfound.mpr hends), if_pos (hends.of_suffix hsince)]
      simp only [hends, hends.of_suffix hsince, length_nil, hpos, true_and]
      exact ih (by simp [tailForToken]) (by simpa using htoken) nil_suffix hchunks
    · rw [if_neg (hfound.not.mpr hends)]
      simp only [Bool.false_eq_true, false_iff, hends, false_and]
      by_cases hpast : EndsIn token past chunk
      · simp [hpast]
      · rw [if_neg hpast, length_tailForToken, length_append]
        simp only [hpast, not_false_eq_true, true_and]
        have hchunk := length_pos_iff.mpr hchunk
        refine and_congr (by split <;> omega)
          (ih rfl ?_ (suffix_append_self_iff.mpr hsince) hchunks)
        rw [infix_append_iff]
        exact not_or.mpr ⟨hfree, hends⟩

/-- The token is found wherever it falls exactly when its occurrences are apart. -/
theorem ready_token_is_found_iff {token : Bytes} {chunks : List Bytes} (htoken : token ≠ [])
    (hchunks : ∀ chunk ∈ chunks, chunk ≠ []) :
    REPL.Finds ⟨token, []⟩ [] chunks ↔ Apart token [] [] chunks :=
  finds_iff_apart htoken (by simp [tailForToken]) (by simpa using htoken) suffix_rfl hchunks

theorem ready_token_is_found_over_two_chunks : REPL.Finds ⟨[2, 3], []⟩ [] [[1, 2], [3]] :=
  (ready_token_is_found_iff (by decide) (by decide)).mpr (by simp only [Apart]; decide)

/-- An occurrence that overlaps the one before it is missed. -/
theorem overlapping_token_is_missed : ¬ REPL.Finds ⟨[1, 1], []⟩ [] [[1, 1], [1]] := by
  simp only [REPL.Finds]
  decide

end sandbox0.repl
