import Mathlib

/-!
# Byte streams

* `ByteStream σ` — a source that delivers its bytes in order, in chunks of its own choosing, and
  reports the end by an empty chunk.  `σ` is the state of the source, `pending` the bytes it has not
  delivered yet;
* `recvAll` — the loop that fills a buffer, however the bytes arrive;
* `recvAll_of_le`, `recvAll_of_lt` — it takes exactly the bytes asked for, or finds the end first;
* `ByteStream.cut` — the source that takes the size of each chunk from a list.
-/

set_option autoImplicit false

/-- A source of bytes.  A call asks for at most `n` bytes and gets some of those still to come. -/
structure ByteStream (σ : Type) where
  recv : σ → Nat → List UInt8 × σ
  pending : σ → List UInt8
  recv_pending : ∀ s n, 0 < n → pending s = (recv s n).1 ++ pending (recv s n).2
  recv_le : ∀ s n, 0 < n → (recv s n).1.length ≤ n
  recv_ne_nil : ∀ s n, 0 < n → pending s ≠ [] → (recv s n).1 ≠ []

namespace ByteStream

variable {σ : Type}

/-- Fill a buffer of `n` bytes: go on while bytes are missing, give up at an empty chunk. -/
def recvAll (src : ByteStream σ) (s : σ) (n : Nat) : Option (List UInt8) × σ :=
  if n = 0 then (some [], s)
  else
    match src.recv s n with
    | ([], s') => (none, s')
    | (b :: bs, s') =>
      match recvAll src s' (n - (b :: bs).length) with
      | (none, s'') => (none, s'')
      | (some rest, s'') => (some (b :: bs ++ rest), s'')
termination_by n
decreasing_by
  rw [List.length_cons]
  omega

/-- **Enough bytes are to come: the loop takes exactly these.** -/
theorem recvAll_of_le (src : ByteStream σ) (n : Nat) : ∀ s, n ≤ (src.pending s).length →
    ∃ s', src.recvAll s n = (some ((src.pending s).take n), s') ∧ src.pending s' = (src.pending s).drop n := by
  induction n using Nat.strong_induction_on with
  | _ n ih =>
    intro s hn
    unfold recvAll
    by_cases h0 : n = 0
    · subst h0
      exact ⟨s, by simp, by simp⟩
    rw [if_neg h0]
    have hpos : 0 < n := Nat.pos_of_ne_zero h0
    have hsplit := src.recv_pending s n hpos
    have hle := src.recv_le s n hpos
    have hne : (src.recv s n).1 ≠ [] := by
      refine src.recv_ne_nil s n hpos fun hnil => ?_
      rw [hnil, List.length_nil] at hn
      omega
    obtain ⟨chunk, s', hr⟩ : ∃ chunk s', src.recv s n = (chunk, s') := ⟨_, _, rfl⟩
    rw [hr] at hsplit hle hne ⊢
    cases chunk with
    | nil => exact absurd rfl hne
    | cons b bs =>
      simp only at hsplit hle ⊢
      have hlen : n - (b :: bs).length ≤ (src.pending s').length := by
        rw [hsplit, List.length_append] at hn
        omega
      -- the rest of the buffer is filled from the rest of the bytes
      obtain ⟨s'', hrec, hpend⟩ := ih (n - (b :: bs).length) (by rw [List.length_cons]; omega) s' hlen
      rw [hrec]
      refine ⟨s'', ?_, ?_⟩
      · rw [hsplit, List.take_append, List.take_of_length_le hle]
      · rw [hpend, hsplit, List.drop_append, List.drop_of_length_le hle, List.nil_append]

/-- **The source ends first: the loop has used it up and gives up.** -/
theorem recvAll_of_lt (src : ByteStream σ) (n : Nat) : ∀ s, (src.pending s).length < n →
    ∃ s', src.recvAll s n = (none, s') ∧ src.pending s' = [] := by
  induction n using Nat.strong_induction_on with
  | _ n ih =>
    intro s hn
    have hpos : 0 < n := by omega
    have hsplit := src.recv_pending s n hpos
    unfold recvAll
    rw [if_neg (Nat.pos_iff_ne_zero.mp hpos)]
    obtain ⟨chunk, s', hr⟩ : ∃ chunk s', src.recv s n = (chunk, s') := ⟨_, _, rfl⟩
    have hne := src.recv_ne_nil s n hpos
    rw [hr] at hsplit hne ⊢
    cases chunk with
    | nil =>
      have hnil : src.pending s = [] := by
        by_contra h
        exact hne h rfl
      refine ⟨s', rfl, ?_⟩
      rw [← hnil, hsplit]
      rfl
    | cons b bs =>
      simp only at hsplit ⊢
      have hlen : (src.pending s').length < n - (b :: bs).length := by
        rw [hsplit, List.length_append] at hn
        omega
      obtain ⟨s'', hrec, hpend⟩ := ih (n - (b :: bs).length) (by rw [List.length_cons]; omega) s' hlen
      rw [hrec]
      exact ⟨s'', rfl, hpend⟩

/-! ### A source for every way of cutting -/

/-- The source whose `i`-th chunk has the size the list gives, within what a call allows: at least one
    byte while there are some, at most as many as asked for.  Past the end of the list it delivers
    all it can. -/
def cut : ByteStream (List UInt8 × List Nat) where
  recv s n :=
    let size := max 1 (min (s.2.headD n) n)
    (s.1.take size, s.1.drop size, s.2.tail)
  pending s := s.1
  recv_pending s n _ := (List.take_append_drop _ s.1).symm
  recv_le s n hn := by
    simp only [List.length_take]
    omega
  recv_ne_nil s n _ h := by
    simp only [ne_eq, List.take_eq_nil_iff, not_or]
    exact ⟨by omega, h⟩

end ByteStream
