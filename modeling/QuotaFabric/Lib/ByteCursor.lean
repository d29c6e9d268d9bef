import QuotaFabric.Lib.ByteCodec

/-!
# Readers of a buffer in memory

A reader that holds a pointer to a buffer, its size and an offset, and loads bytes by index.

* `Cursor ε α` — such a reader: the indices it loads, in order, and its result with the offset it leaves, or
  an error.  A load outside the buffer is possible and yields anything; it is logged like any other;
* `need`, `load`, `advance` — the primitives; `word`, `chunk` — what is built from them;
* `Follows c p` — on every buffer, `c` loads inside the buffer only, and its outcome is that of the parser
  `p` on the bytes from the offset on.  One rule for each way to build a reader.
-/

set_option autoImplicit false

/-- A reader of a buffer. -/
structure Cursor (ε α : Type) where
  run : List UInt8 → Nat → List Nat × Except ε (α × Nat)

/-- Nothing is added by returning what was read. -/
theorem LogParser.bind_pure_self {ω ε α : Type} (p : LogParser ω ε α) : p >>= pure = p := by
  obtain ⟨run⟩ := p
  show LogParser.mk (fun bs => LogParser.andThen (run bs) pure) = ⟨run⟩
  congr 1
  funext bs
  unfold LogParser.andThen LogParser.prepend
  obtain ⟨w, r⟩ := run bs
  cases r with
  | error e => rfl
  | ok x => exact Prod.ext (List.append_nil w) rfl

namespace Cursor

variable {ω ε α β : Type}

/-- Go on with `f` after a result, keeping the indices; stop at an error. -/
def andThen (buf : List UInt8) (r : List Nat × Except ε (α × Nat)) (f : α → Cursor ε β) :
    List Nat × Except ε (β × Nat) :=
  match r.2 with
  | .error e => (r.1, .error e)
  | .ok (a, off) => (r.1 ++ ((f a).run buf off).1, ((f a).run buf off).2)

instance : Monad (Cursor ε) where
  pure a := ⟨fun _ off => ([], .ok (a, off))⟩
  bind c f := ⟨fun buf off => andThen buf (c.run buf off) f⟩

def fail (e : ε) : Cursor ε α := ⟨fun _ _ => ([], .error e)⟩

/-- Subtraction of 64-bit sizes. -/
def sizeSub (a b : Nat) : Nat := if b ≤ a then a - b else 2 ^ 64 + a - b

/-- Stop unless `n` bytes are left behind the offset. -/
def need (short : ε) (n : Nat) : Cursor ε Unit :=
  ⟨fun buf off => ([], if sizeSub buf.length off < n then .error short else .ok ((), off))⟩

/-- The byte `i` places behind the offset. -/
def load (i : Nat) : Cursor ε UInt8 := ⟨fun buf off => ([off + i], .ok (buf.getD (off + i) 0, off))⟩

def advance (n : Nat) : Cursor ε Unit := ⟨fun _ off => ([], .ok ((), off + n))⟩

/-- The loop that puts a word together from its lowest byte on: `n` bytes from place `i` on are to come. -/
def loadWord : Nat → Nat → Nat → Cursor ε Nat
  | 0, _, r => pure r
  | n + 1, i, r => do
    let b ← load i
    loadWord n (i + 1) (r ||| b.toNat <<< (8 * i))

/-- A little-endian word of `k` bytes. -/
def word (short : ε) (k : Nat) : Cursor ε Nat := do
  need short k
  let r ← loadWord k 0 0
  advance k
  pure r

/-- `n` bytes from place `i` on. -/
def loadBytes : Nat → Nat → Cursor ε (List UInt8)
  | 0, _ => pure []
  | n + 1, i => do
    let b ← load i
    let bs ← loadBytes n (i + 1)
    pure (b :: bs)

/-- The next `n` bytes. -/
def chunk (short : ε) (n : Nat) : Cursor ε (List UInt8) := do
  need short n
  let bs ← loadBytes n 0
  advance n
  pure bs

/-- Run a reader `n` times for its results. -/
def collect (c : Cursor ε α) : Nat → Cursor ε (List α)
  | 0 => pure []
  | n + 1 => do
    let a ← c
    let as ← collect c n
    pure (a :: as)

/-! ### Running -/

theorem run_bind (c : Cursor ε α) (f : α → Cursor ε β) (buf : List UInt8) (off : Nat) :
    (c >>= f).run buf off = andThen buf (c.run buf off) f := (rfl)

theorem run_bind_ok {c : Cursor ε α} (f : α → Cursor ε β) {buf : List UInt8} {off off' : Nat} {l : List Nat}
    {a : α} (h : c.run buf off = (l, .ok (a, off'))) :
    (c >>= f).run buf off = (l ++ ((f a).run buf off').1, ((f a).run buf off').2) := by
  rw [run_bind, h]
  rfl

/-- The byte in front of what is left. -/
theorem drop_eq_getD_cons {buf : List UInt8} {i : Nat} (h : i < buf.length) :
    buf.drop i = buf.getD i 0 :: buf.drop (i + 1) := by
  rw [List.drop_eq_getElem_cons h, List.getD_eq_getElem _ _ h]

theorem run_loadBytes {buf : List UInt8} {off : Nat} : ∀ n i, off + i + n ≤ buf.length →
    (loadBytes n i : Cursor ε _).run buf off =
      (List.range' (off + i) n, .ok ((buf.drop (off + i)).take n, off))
  | 0, i, _ => rfl
  | n + 1, i, h => by
    have hrest := run_loadBytes n (i + 1) (show off + (i + 1) + n ≤ buf.length by omega)
    rw [← Nat.add_assoc] at hrest
    have hload : (load i : Cursor ε _).run buf off = ([off + i], .ok (buf.getD (off + i) 0, off)) := rfl
    have hdrop := drop_eq_getD_cons (show off + i < buf.length by omega)
    rw [loadBytes, run_bind_ok _ hload, run_bind_ok _ hrest, hdrop]
    show ([off + i] ++ (List.range' (off + i + 1) n ++ []), _) = _
    rw [List.append_nil]
    rfl

/-- Put together from the lowest byte on, the bytes are those of a little-endian word. -/
theorem run_loadWord {buf : List UInt8} {off : Nat} : ∀ n i r, off + i + n ≤ buf.length → r < 2 ^ (8 * i) →
    (loadWord n i r : Cursor ε _).run buf off =
      (List.range' (off + i) n, .ok (r + 2 ^ (8 * i) * ofLE ((buf.drop (off + i)).take n), off))
  | 0, i, r, _, _ => by
    rw [List.take_zero, ofLE, Nat.mul_zero, Nat.add_zero]
    rfl
  | n + 1, i, r, h, hr => by
    have hload : (load i : Cursor ε _).run buf off = ([off + i], .ok (buf.getD (off + i) 0, off)) := rfl
    obtain ⟨b, hb⟩ : ∃ b, b = buf.getD (off + i) 0 := ⟨_, rfl⟩
    have hlt := b.toNat_lt
    have hpow : 2 ^ (8 * (i + 1)) = 2 ^ (8 * i) * 256 := by
      rw [Nat.mul_add, Nat.pow_add]
    -- the bits of a byte are above those put together so far
    have hor : r ||| b.toNat <<< (8 * i) = r + 2 ^ (8 * i) * b.toNat := by
      rw [Nat.or_comm, ← Nat.shiftLeft_add_eq_or_of_lt hr, Nat.shiftLeft_eq, Nat.add_comm,
        Nat.mul_comm (b.toNat)]
    have hr' : r + 2 ^ (8 * i) * b.toNat < 2 ^ (8 * (i + 1)) := by
      have hmul : 2 ^ (8 * i) * (b.toNat + 1) ≤ 2 ^ (8 * i) * 256 := Nat.mul_le_mul_left _ hlt
      rw [Nat.mul_add, Nat.mul_one] at hmul
      omega
    have hrest := run_loadWord n (i + 1) (r + 2 ^ (8 * i) * b.toNat)
      (show off + (i + 1) + n ≤ buf.length by omega) hr'
    rw [← Nat.add_assoc] at hrest
    have hdrop := drop_eq_getD_cons (show off + i < buf.length by omega)
    rw [← hb] at hload hdrop
    rw [← hor] at hrest
    have hsum : ∀ x, r + 2 ^ (8 * i) * b.toNat + 2 ^ (8 * (i + 1)) * x = r + 2 ^ (8 * i) * (b.toNat + 256 * x) := by
      intro x
      rw [hpow]
      ring
    rw [loadWord, run_bind_ok _ hload, hrest, hor, hdrop, List.take_succ_cons, ofLE, hsum]
    rfl

/-! ### Readers that do what a parser does -/

/-- An outcome with an offset and one with the bytes that are left. -/
def Agrees (buf : List UInt8) : Except ε (α × Nat) → Except ε (α × List UInt8) → Prop
  | .ok (a, off), .ok (b, rest) => a = b ∧ off ≤ buf.length ∧ rest = buf.drop off
  | .error e, .error e' => e = e'
  | _, _ => False

/-- From every offset within a buffer, `c` loads inside the buffer only, and does what `p` does on the bytes
    behind the offset. -/
def Follows (c : Cursor ε α) (p : LogParser ω ε α) : Prop :=
  ∀ buf off, off ≤ buf.length →
    (∀ i ∈ (c.run buf off).1, i < buf.length) ∧ Agrees buf (c.run buf off).2 (p.run (buf.drop off)).2

theorem follows_pure (a : α) : Follows (pure a : Cursor ε α) (pure a : LogParser ω ε α) :=
  fun _ _ h => ⟨fun _ hi => absurd hi List.not_mem_nil, rfl, h, rfl⟩

theorem follows_fail (e : ε) : Follows (fail e : Cursor ε α) (LogParser.fail e : LogParser ω ε α) :=
  fun _ _ _ => ⟨fun _ hi => absurd hi List.not_mem_nil, rfl⟩

theorem Follows.bind {c : Cursor ε α} {p : LogParser ω ε α} {g : α → Cursor ε β} {f : α → LogParser ω ε β}
    (hc : Follows c p) (hg : ∀ a, Follows (g a) (f a)) : Follows (c >>= g) (p >>= f) := by
  intro buf off hoff
  obtain ⟨hin, hag⟩ := hc buf off hoff
  rw [run_bind, LogParser.run_bind]
  unfold andThen LogParser.andThen
  cases hrc : (c.run buf off).2 with
  | error e =>
    rw [hrc] at hag
    cases hrp : (p.run (buf.drop off)).2 with
    | error e' =>
      rw [hrp] at hag
      exact ⟨hin, hag⟩
    | ok y =>
      rw [hrp] at hag
      exact hag.elim
  | ok x =>
    obtain ⟨a, mid⟩ := x
    rw [hrc] at hag
    cases hrp : (p.run (buf.drop off)).2 with
    | error e' =>
      rw [hrp] at hag
      exact hag.elim
    | ok y =>
      obtain ⟨a', rest⟩ := y
      rw [hrp] at hag
      obtain ⟨rfl, hmid, rfl⟩ := hag
      obtain ⟨hin', hag'⟩ := hg a buf mid hmid
      refine ⟨fun i hi => ?_, hag'⟩
      rcases List.mem_append.mp hi with hi | hi
      · exact hin i hi
      · exact hin' i hi

/-- The check in front of a block of loads. -/
theorem run_need (short : ε) (n : Nat) {buf : List UInt8} {off : Nat} (h : off ≤ buf.length) :
    (need short n : Cursor ε _).run buf off =
      ([], if (buf.drop off).length < n then .error short else .ok ((), off)) := by
  unfold need sizeSub
  simp only
  rw [if_pos h, List.length_drop]

/-- **A block of loads behind its check** stays inside the buffer. -/
theorem follows_block {short : ε} {n : Nat} {c : Cursor ε α} {g : List UInt8 → α}
    (hc : ∀ buf off, off + n ≤ buf.length →
      c.run buf off = (List.range' off n, .ok (g ((buf.drop off).take n), off))) :
    Follows (do need short n; let a ← c; advance n; pure a)
      (do let bs ← LogParser.takeBytes short n; pure (g bs) : LogParser ω ε α) := by
  intro buf off hoff
  have hneed := run_need short n hoff
  have htake : (LogParser.takeBytes short n : LogParser ω ε _).run (buf.drop off) =
      if (buf.drop off).length < n then ([], .error short)
      else ([], .ok ((buf.drop off).take n, (buf.drop off).drop n)) := rfl
  rw [run_bind, hneed, LogParser.run_bind, htake]
  by_cases hshort : (buf.drop off).length < n
  · rw [if_pos hshort, if_pos hshort]
    exact ⟨fun _ hi => absurd hi List.not_mem_nil, rfl⟩
  · rw [if_neg hshort, if_neg hshort]
    rw [List.length_drop] at hshort
    have hin : off + n ≤ buf.length := by omega
    show (∀ i ∈ ([] ++ ((c >>= fun a => do advance n; pure a).run buf off).1), i < buf.length) ∧
      Agrees buf ((c >>= fun a => do advance n; pure a).run buf off).2 _
    rw [run_bind_ok _ (hc buf off hin)]
    refine ⟨fun i hi => ?_, rfl, hin, ?_⟩
    · have hi' : i ∈ List.range' off n := by simpa [run_bind, advance, andThen, pure] using hi
      have hlt := (List.mem_range'_1.mp hi').2
      omega
    · rw [List.drop_drop]

theorem follows_chunk (short : ε) (n : Nat) :
    Follows (chunk short n) (LogParser.takeBytes short n : LogParser ω ε _) := by
  have hblock : Follows (chunk short n) ((LogParser.takeBytes short n : LogParser ω ε _) >>= pure) :=
    follows_block fun buf off h => run_loadBytes n 0 h
  rwa [LogParser.bind_pure_self] at hblock

theorem follows_word (short : ε) (k : Nat) : Follows (word short k) (LogParser.le short k : LogParser ω ε _) := by
  refine follows_block fun buf off h => ?_
  rw [run_loadWord k 0 0 h (by decide), Nat.add_zero, Nat.zero_add, Nat.mul_zero, Nat.pow_zero, Nat.one_mul]

theorem Follows.collect {c : Cursor ε α} {p : LogParser ω ε α} (h : Follows c p) :
    ∀ n, Follows (c.collect n) (p.collect n)
  | 0 => follows_pure _
  | n + 1 => h.bind fun _ => (Follows.collect h n).bind fun _ => follows_pure _

end Cursor
