import Mathlib

/-!
# Byte codecs

Fixed-width words, and parsers that read a byte string from the front.

* `toLE`, `ofLE` — a natural number as `k` little-endian bytes and back; `toBE`, `ofBE` — highest first;
* `field bs i k` — the big-endian word of `k` bytes at offset `i`;
* `LogParser ω ε α` — a parser that keeps a log of type `ω` besides its result.  The log survives a
  failure: what was logged before the failing read stays logged;
* `takeBytes`, `le`, `times`, `collect`, `emit`, `fail` — the primitives;
* `Reads p bs w a` — on `bs`, whatever follows, `p` yields `a`, logs `w` and stops after `bs`;
  `Reads.bind`, `Reads.times` — codecs compose;
* `ReadsIff p bs w a c` — `p` reads `bs` exactly where `c` holds, and fails elsewhere;
* `Yields p R Q` — what `p` can return, and what it can log, on any bytes.
-/

set_option autoImplicit false

/-! ## Little-endian words -/

/-- The `k` low bytes of `n`, lowest first. -/
def toLE : Nat → Nat → List UInt8
  | 0, _ => []
  | k + 1, n => UInt8.ofNat n :: toLE k (n / 256)

/-- The number whose bytes are given, lowest first. -/
def ofLE : List UInt8 → Nat
  | [] => 0
  | b :: bs => b.toNat + 256 * ofLE bs

@[simp] theorem length_toLE : ∀ k n : Nat, (toLE k n).length = k
  | 0, _ => rfl
  | k + 1, n => by rw [toLE, List.length_cons, length_toLE]

theorem ofLE_lt : ∀ bs : List UInt8, ofLE bs < 256 ^ bs.length
  | [] => by simp [ofLE]
  | b :: bs => by
    have hb := b.toNat_lt
    have hbs := ofLE_lt bs
    rw [ofLE, List.length_cons, pow_succ]
    omega

theorem ofLE_toLE : ∀ k n : Nat, ofLE (toLE k n) = n % 256 ^ k
  | 0, n => by simp [toLE, ofLE, Nat.mod_one]
  | k + 1, n => by
    have hlow : (UInt8.ofNat n).toNat = n % 256 := UInt8.toNat_ofNat'
    rw [toLE, ofLE, ofLE_toLE, hlow, pow_succ, mul_comm (256 ^ k) 256, Nat.mod_mul]

theorem ofLE_toLE_of_lt {k n : Nat} (h : n < 256 ^ k) : ofLE (toLE k n) = n := by
  rw [ofLE_toLE, Nat.mod_eq_of_lt h]

/-- Equally long byte strings with the same value are the same. -/
theorem ofLE_injective : ∀ {bs cs : List UInt8}, bs.length = cs.length → ofLE bs = ofLE cs → bs = cs
  | [], [], _, _ => rfl
  | [], _ :: _, h, _ => by cases h
  | _ :: _, [], h, _ => by cases h
  | b :: bs, c :: cs, hlen, h => by
    have hb := b.toNat_lt
    have hc := c.toNat_lt
    rw [ofLE, ofLE] at h
    have hhead : b = c := UInt8.toNat.inj (by omega)
    have htail : bs = cs := ofLE_injective (by simpa using hlen) (by omega)
    rw [hhead, htail]

/-! ## Big-endian words -/

/-- The `k` low bytes of `n`, highest first. -/
def toBE : Nat → Nat → List UInt8
  | 0, _ => []
  | k + 1, n => UInt8.ofNat (n / 256 ^ k) :: toBE k n

/-- The number whose bytes are given, highest first. -/
def ofBE (bs : List UInt8) : Nat := bs.foldl (fun r b => 256 * r + b.toNat) 0

/-- The big-endian word of `k` bytes at offset `i`. -/
def field (bs : List UInt8) (i k : Nat) : Nat := ofBE ((bs.drop i).take k)

@[simp] theorem length_toBE : ∀ k n : Nat, (toBE k n).length = k
  | 0, _ => rfl
  | k + 1, n => by rw [toBE, List.length_cons, length_toBE]

/-- The highest byte of a word comes last. -/
theorem toLE_succ_last : ∀ k n : Nat, toLE (k + 1) n = toLE k n ++ [UInt8.ofNat (n / 256 ^ k)]
  | 0, n => by simp [toLE]
  | k + 1, n => by
    have hdiv : n / 256 / 256 ^ k = n / 256 ^ (k + 1) := by
      rw [Nat.div_div_eq_div_mul, pow_succ, mul_comm (256 ^ k)]
    rw [toLE, toLE_succ_last k, toLE, List.cons_append, hdiv]

theorem toBE_eq_reverse : ∀ k n : Nat, toBE k n = (toLE k n).reverse
  | 0, _ => rfl
  | k + 1, n => by
    rw [toBE, toLE_succ_last, List.reverse_append, toBE_eq_reverse k n]
    rfl

theorem ofBE_eq_reverse (bs : List UInt8) : ofBE bs = ofLE bs.reverse := by
  induction bs using List.reverseRecOn with
  | nil => rfl
  | append_singleton bs b ih =>
    have hfold : ofBE (bs ++ [b]) = 256 * ofBE bs + b.toNat := by
      unfold ofBE
      rw [List.foldl_append]
      rfl
    rw [hfold, ih, List.reverse_append, List.reverse_singleton, List.singleton_append, ofLE]
    omega

theorem ofBE_lt (bs : List UInt8) : ofBE bs < 256 ^ bs.length := by
  rw [ofBE_eq_reverse, ← List.length_reverse]
  exact ofLE_lt _

theorem ofBE_toBE_of_lt {k n : Nat} (h : n < 256 ^ k) : ofBE (toBE k n) = n := by
  rw [ofBE_eq_reverse, toBE_eq_reverse, List.reverse_reverse, ofLE_toLE_of_lt h]

theorem toBE_ofBE (bs : List UInt8) : toBE bs.length (ofBE bs) = bs := by
  have hlen : (toLE bs.length (ofLE bs.reverse)).length = bs.reverse.length := by
    rw [length_toLE, List.length_reverse]
  have hval : ofLE (toLE bs.length (ofLE bs.reverse)) = ofLE bs.reverse := by
    apply ofLE_toLE_of_lt
    rw [← List.length_reverse]
    exact ofLE_lt _
  rw [toBE_eq_reverse, ofBE_eq_reverse, ofLE_injective hlen hval, List.reverse_reverse]

/-! ### Words at an offset -/

theorem field_lt (bs : List UInt8) (i k : Nat) : field bs i k < 256 ^ k := by
  refine lt_of_lt_of_le (ofBE_lt _) (Nat.pow_le_pow_right (by decide) ?_)
  rw [List.length_take]
  omega

/-- Where the word lies within the first `n` bytes, the others do not matter. -/
theorem field_take {bs : List UInt8} {i k n : Nat} (h : i + k ≤ n) : field (bs.take n) i k = field bs i k := by
  unfold field
  rw [List.drop_take, List.take_take, min_eq_left (by omega)]

theorem field_head {k n : Nat} (hn : n < 256 ^ k) (rest : List UInt8) : field (toBE k n ++ rest) 0 k = n := by
  unfold field
  rw [List.drop_zero, List.take_left' (length_toBE k n), ofBE_toBE_of_lt hn]

theorem drop_toBE_append {m i : Nat} (h : m ≤ i) (n : Nat) (rest : List UInt8) :
    (toBE m n ++ rest).drop i = rest.drop (i - m) := by
  rw [List.drop_append, List.drop_of_length_le (by rw [length_toBE]; exact h), length_toBE, List.nil_append]

theorem field_tail {m i : Nat} (h : m ≤ i) (n k : Nat) (rest : List UInt8) :
    field (toBE m n ++ rest) i k = field rest (i - m) k := by
  unfold field
  rw [drop_toBE_append h]

/-- A word that lies within the bytes is there in big-endian form. -/
theorem drop_eq_field {bs : List UInt8} {i k : Nat} (h : i + k ≤ bs.length) :
    bs.drop i = toBE k (field bs i k) ++ bs.drop (i + k) := by
  have hlen : ((bs.drop i).take k).length = k := by
    rw [List.length_take, List.length_drop]
    omega
  have hword : toBE k (field bs i k) = (bs.drop i).take k := by
    have h' := toBE_ofBE ((bs.drop i).take k)
    rw [hlen] at h'
    exact h'
  rw [hword, ← List.drop_drop, List.take_append_drop]

/-! ## Parsers with a log -/

/-- A parser: the log, and the result with the bytes it left, or an error. -/
structure LogParser (ω ε α : Type) where
  run : List UInt8 → List ω × Except ε (α × List UInt8)

namespace LogParser

variable {ω ε α β : Type}

/-- Put `w` in front of a log. -/
def prepend (w : List ω) (r : List ω × Except ε (α × List UInt8)) : List ω × Except ε (α × List UInt8) :=
  (w ++ r.1, r.2)

/-- Go on with `f` after a result, keeping the log; stop at an error. -/
def andThen (r : List ω × Except ε (α × List UInt8)) (f : α → LogParser ω ε β) :
    List ω × Except ε (β × List UInt8) :=
  match r.2 with
  | .error e => (r.1, .error e)
  | .ok (a, bs) => prepend r.1 ((f a).run bs)

instance : Monad (LogParser ω ε) where
  pure a := ⟨fun bs => ([], .ok (a, bs))⟩
  bind p f := ⟨fun bs => andThen (p.run bs) f⟩

/-- Fail with a message. -/
def fail (e : ε) : LogParser ω ε α := ⟨fun _ => ([], .error e)⟩

/-- Log one entry. -/
def emit (w : ω) : LogParser ω ε Unit := ⟨fun bs => ([w], .ok ((), bs))⟩

/-- The next `n` bytes, or `short`. -/
def takeBytes (short : ε) (n : Nat) : LogParser ω ε (List UInt8) :=
  ⟨fun bs => if bs.length < n then ([], .error short) else ([], .ok (bs.take n, bs.drop n))⟩

/-- A little-endian word of `k` bytes. -/
def le (short : ε) (k : Nat) : LogParser ω ε Nat := do
  let bs ← takeBytes short k
  pure (ofLE bs)

/-- Run a parser `n` times for its log. -/
def times (p : LogParser ω ε Unit) : Nat → LogParser ω ε Unit
  | 0 => pure ()
  | n + 1 => do
    p
    times p n

/-- Run a parser `n` times for its results. -/
def collect (p : LogParser ω ε α) : Nat → LogParser ω ε (List α)
  | 0 => pure []
  | n + 1 => do
    let a ← p
    let as ← collect p n
    pure (a :: as)

/-! ### Running -/

theorem run_pure (a : α) (bs : List UInt8) :
    (pure a : LogParser ω ε α).run bs = ([], .ok (a, bs)) := rfl

-- the parentheses keep `simp` from leaving whole reads to be unfolded by the kernel
theorem run_bind (p : LogParser ω ε α) (f : α → LogParser ω ε β) (bs : List UInt8) :
    (p >>= f).run bs = andThen (p.run bs) f := (rfl)

theorem andThen_ok_nil (a : α) (bs : List UInt8) (f : α → LogParser ω ε β) :
    andThen ([], .ok (a, bs)) f = (f a).run bs := (rfl)

theorem andThen_ok (w : List ω) (a : α) (bs : List UInt8) (f : α → LogParser ω ε β) :
    andThen (w, .ok (a, bs)) f = prepend w ((f a).run bs) := rfl

theorem run_emit (w : ω) (bs : List UInt8) :
    (emit w : LogParser ω ε Unit).run bs = ([w], .ok ((), bs)) := (rfl)

theorem andThen_error (w : List ω) (e : ε) (f : α → LogParser ω ε β) :
    andThen (w, .error e) f = (w, .error e) := rfl

theorem run_takeBytes_append {short : ε} {n : Nat} {bs : List UInt8} (h : bs.length = n)
    (rest : List UInt8) :
    (takeBytes short n : LogParser ω ε _).run (bs ++ rest) = ([], .ok (bs, rest)) := by
  show (if (bs ++ rest).length < n then _ else _) = _
  rw [if_neg (by rw [List.length_append]; omega), List.take_left' h, List.drop_left' h]

theorem run_le_append {short : ε} {k : Nat} {bs : List UInt8} (h : bs.length = k) (rest : List UInt8) :
    (le short k : LogParser ω ε _).run (bs ++ rest) = ([], .ok (ofLE bs, rest)) := by
  unfold le
  rw [run_bind, run_takeBytes_append h]
  rfl

theorem run_takeBytes_cases (short : ε) (k : Nat) (bs : List UInt8) :
    (takeBytes short k : LogParser ω ε _).run bs = ([], .error short) ∨
    ∃ hd rest, bs = hd ++ rest ∧ hd.length = k ∧
      (takeBytes short k : LogParser ω ε _).run bs = ([], .ok (hd, rest)) := by
  by_cases h : bs.length < k
  · left
    show (if bs.length < k then _ else _) = _
    rw [if_pos h]
  · right
    refine ⟨bs.take k, bs.drop k, (List.take_append_drop k bs).symm, ?_, ?_⟩
    · rw [List.length_take]; omega
    · show (if bs.length < k then _ else _) = _
      rw [if_neg h]

/-- A word is read from the front, unless too few bytes are left. -/
theorem run_le_cases (short : ε) (k : Nat) (bs : List UInt8) :
    (le short k : LogParser ω ε _).run bs = ([], .error short) ∨
    ∃ n rest, n < 256 ^ k ∧ bs = toLE k n ++ rest ∧
      (le short k : LogParser ω ε _).run bs = ([], .ok (n, rest)) := by
  unfold le
  rcases run_takeBytes_cases (ω := ω) short k bs with h | ⟨hd, rest, hbs, hlen, h⟩
  · left
    rw [run_bind, h]
    rfl
  · right
    have hlt : ofLE hd < 256 ^ k := by rw [← hlen]; exact ofLE_lt hd
    have hhd : toLE k (ofLE hd) = hd :=
      ofLE_injective (by rw [length_toLE, hlen]) (ofLE_toLE_of_lt hlt)
    refine ⟨ofLE hd, rest, hlt, by rw [hhd]; exact hbs, ?_⟩
    rw [run_bind, h]
    rfl

/-! ### Codecs -/

/-- On `bs`, whatever follows, `p` yields `a`, logs `w` and stops after `bs`. -/
def Reads (p : LogParser ω ε α) (bs : List UInt8) (w : List ω) (a : α) : Prop :=
  ∀ rest, p.run (bs ++ rest) = (w, .ok (a, rest))

theorem Reads.bind {p : LogParser ω ε α} {f : α → LogParser ω ε β} {bs cs : List UInt8} {w v : List ω}
    {a : α} {b : β} (hp : Reads p bs w a) (hf : Reads (f a) cs v b) :
    Reads (p >>= f) (bs ++ cs) (w ++ v) b := by
  intro rest
  rw [run_bind, List.append_assoc, hp, andThen_ok, hf]
  rfl

/-- Go on after what a codec reads. -/
theorem Reads.run_bind_append {p : LogParser ω ε α} {f : α → LogParser ω ε β} {bs : List UInt8} {w : List ω}
    {a : α} (hp : Reads p bs w a) (rest : List UInt8) :
    (p >>= f).run (bs ++ rest) = prepend w ((f a).run rest) := by
  rw [run_bind, hp, andThen_ok]

theorem reads_pure (a : α) : Reads (pure a : LogParser ω ε α) [] [] a := fun _ => rfl

/-- Items that are read one by one are read in a loop. -/
theorem Reads.times {p : LogParser ω ε Unit} {ι : Type} {enc : ι → List UInt8} {log : ι → List ω} :
    ∀ (items : List ι), (∀ i ∈ items, Reads p (enc i) (log i) ()) →
      Reads (p.times items.length) (items.flatMap enc) (items.flatMap log) ()
  | [], _ => reads_pure ()
  | i :: items, h => by
    rw [List.flatMap_cons, List.flatMap_cons]
    exact (h i List.mem_cons_self).bind
      (Reads.times items fun j hj => h j (List.mem_cons_of_mem i hj))

theorem run_collect_append {p : LogParser ω ε α} {enc : α → List UInt8}
    (h : ∀ a rest, p.run (enc a ++ rest) = ([], .ok (a, rest))) : ∀ (as : List α) (rest : List UInt8),
    (p.collect as.length).run (as.flatMap enc ++ rest) = ([], .ok (as, rest))
  | [], _ => rfl
  | a :: as, rest => by
    rw [List.length_cons, collect, List.flatMap_cons, List.append_assoc, run_bind, h, andThen_ok_nil,
      run_bind, run_collect_append h as rest]
    rfl

/-! ### Readers that can refuse -/

/-- Whatever follows `bs`, `p` fails. -/
def Fails (p : LogParser ω ε α) (bs : List UInt8) : Prop :=
  ∀ rest, ∃ w e, p.run (bs ++ rest) = (w, .error e)

/-- `p` reads `bs` where `c` holds, and fails on it where `c` does not. -/
structure ReadsIff (p : LogParser ω ε α) (bs : List UInt8) (w : List ω) (a : α) (c : Prop) : Prop where
  reads : c → Reads p bs w a
  fails : ¬ c → Fails p bs

theorem Fails.bind {p : LogParser ω ε α} {bs : List UInt8} (h : Fails p bs) (f : α → LogParser ω ε β)
    (cs : List UInt8) : Fails (p >>= f) (bs ++ cs) := by
  intro rest
  obtain ⟨w, e, he⟩ := h (cs ++ rest)
  rw [List.append_assoc, run_bind, he, andThen_error]
  exact ⟨w, e, rfl⟩

theorem Reads.fails_bind {p : LogParser ω ε α} {f : α → LogParser ω ε β} {bs cs : List UInt8} {w : List ω}
    {a : α} (hp : Reads p bs w a) (hf : Fails (f a) cs) : Fails (p >>= f) (bs ++ cs) := by
  intro rest
  obtain ⟨v, e, he⟩ := hf rest
  rw [List.append_assoc, hp.run_bind_append, he]
  exact ⟨w ++ v, e, rfl⟩

theorem ReadsIff.bind {p : LogParser ω ε α} {f : α → LogParser ω ε β} {bs cs : List UInt8}
    {w v : List ω} {a : α} {b : β} {c c' : Prop} (hp : ReadsIff p bs w a c)
    (hf : ReadsIff (f a) cs v b c') : ReadsIff (p >>= f) (bs ++ cs) (w ++ v) b (c ∧ c') where
  reads h := (hp.reads h.1).bind (hf.reads h.2)
  fails h := by
    by_cases hc : c
    · exact (hp.reads hc).fails_bind (hf.fails fun hc' => h ⟨hc, hc'⟩)
    · exact (hp.fails hc).bind f cs

/-- A loop over items each of which is read or refused. -/
theorem ReadsIff.times {p : LogParser ω ε Unit} {ι : Type} {enc : ι → List UInt8} {log : ι → List ω}
    {c : ι → Prop} : ∀ (items : List ι), (∀ i ∈ items, ReadsIff p (enc i) (log i) () (c i)) →
      ReadsIff (p.times items.length) (items.flatMap enc) (items.flatMap log) () (∀ i ∈ items, c i)
  | [], _ => ⟨fun _ => reads_pure (), fun h => absurd (fun _ hi => absurd hi List.not_mem_nil) h⟩
  | i :: items, h => by
    rw [List.flatMap_cons, List.flatMap_cons]
    have hstep := (h i List.mem_cons_self).bind (f := fun _ => p.times items.length)
      (ReadsIff.times items fun j hj => h j (List.mem_cons_of_mem i hj))
    simp only [List.forall_mem_cons]
    exact hstep

/-- On exactly `bs`, `p` logs `w` and reads to the end where `c` holds, and fails where it does not. -/
structure EndsIff (p : LogParser ω ε Unit) (bs : List UInt8) (w : List ω) (c : Prop) : Prop where
  ends : c → p.run bs = (w, .ok ((), []))
  fails : ¬ c → ∃ v e, p.run bs = (v, .error e)

theorem ReadsIff.endsIff {p : LogParser ω ε α} {q : LogParser ω ε Unit} {bs cs : List UInt8}
    {w v : List ω} {a : α} {c c' : Prop} (hp : ReadsIff p bs w a c) (hf : EndsIff q cs v c') :
    EndsIff (p >>= fun _ => q) (bs ++ cs) (w ++ v) (c ∧ c') where
  ends h := by
    rw [(hp.reads h.1).run_bind_append, hf.ends h.2]
    rfl
  fails h := by
    by_cases hc : c
    · obtain ⟨u, e, he⟩ := hf.fails fun hc' => h ⟨hc, hc'⟩
      rw [(hp.reads hc).run_bind_append, he]
      exact ⟨w ++ u, e, rfl⟩
    · obtain ⟨u, e, he⟩ := hp.fails hc cs
      rw [run_bind, he, andThen_error]
      exact ⟨u, e, rfl⟩

theorem EndsIff.congr {p : LogParser ω ε Unit} {bs : List UInt8} {w : List ω} {c c' : Prop}
    (h : EndsIff p bs w c) (hc : c ↔ c') : EndsIff p bs w c' :=
  ⟨fun h' => h.ends (hc.mpr h'), fun h' => h.fails fun hn => h' (hc.mp hn)⟩

/-- A codec that never refuses. -/
theorem Reads.readsIff {p : LogParser ω ε α} {bs : List UInt8} {w : List ω} {a : α}
    (h : Reads p bs w a) : ReadsIff p bs w a True :=
  ⟨fun _ => h, fun hc => absurd trivial hc⟩

/-! ### What a reader can yield -/

/-- Every result of `p` satisfies `Q`, and everything it logs, also when it fails, satisfies `R`. -/
def Yields (p : LogParser ω ε α) (R : ω → Prop) (Q : α → Prop) : Prop :=
  ∀ bs, (∀ x ∈ (p.run bs).1, R x) ∧ ∀ a rest, (p.run bs).2 = .ok (a, rest) → Q a

section Yields

variable {R : ω → Prop} {Q : α → Prop} {Q' : β → Prop}

theorem yields_pure {a : α} (h : Q a) : Yields (pure a : LogParser ω ε α) R Q := by
  refine fun bs => ⟨fun x hx => absurd hx List.not_mem_nil, fun b rest hb => ?_⟩
  cases hb
  exact h

theorem yields_fail (e : ε) : Yields (fail e : LogParser ω ε α) R Q :=
  fun _ => ⟨fun _ hx => absurd hx List.not_mem_nil, fun _ _ h => by cases h⟩

theorem yields_emit {w : ω} (h : R w) : Yields (emit w : LogParser ω ε Unit) R fun _ => True := by
  refine fun bs => ⟨fun x hx => ?_, fun _ _ _ => trivial⟩
  rw [List.mem_singleton.mp hx]
  exact h

theorem yields_takeBytes (short : ε) (n : Nat) :
    Yields (takeBytes short n : LogParser ω ε _) R fun bs => bs.length = n := by
  intro bs
  rcases run_takeBytes_cases (ω := ω) short n bs with h | ⟨hd, rest, -, hlen, h⟩
  · rw [h]
    exact ⟨fun _ hx => absurd hx List.not_mem_nil, fun _ _ h => by cases h⟩
  · rw [h]
    refine ⟨fun _ hx => absurd hx List.not_mem_nil, fun a r ha => ?_⟩
    cases ha
    exact hlen

theorem Yields.bind {p : LogParser ω ε α} {f : α → LogParser ω ε β} (hp : Yields p R Q)
    (hf : ∀ a, Q a → Yields (f a) R Q') : Yields (p >>= f) R Q' := by
  intro bs
  obtain ⟨hlog, hres⟩ := hp bs
  rw [run_bind]
  cases hr : (p.run bs).2 with
  | error e =>
    have hrun : p.run bs = ((p.run bs).1, .error e) := Prod.ext rfl hr
    rw [hrun, andThen_error]
    exact ⟨hlog, fun _ _ h => by cases h⟩
  | ok x =>
    obtain ⟨a, rest⟩ := x
    have hrun : p.run bs = ((p.run bs).1, .ok (a, rest)) := Prod.ext rfl hr
    obtain ⟨hlog', hres'⟩ := hf a (hres a rest hr) rest
    rw [hrun, andThen_ok]
    refine ⟨fun x hx => ?_, hres'⟩
    rcases List.mem_append.mp hx with hx | hx
    · exact hlog x hx
    · exact hlog' x hx

theorem Yields.mono {p : LogParser ω ε α} {R' : ω → Prop} (hp : Yields p R Q) (h : ∀ x, R x → R' x) :
    Yields p R' Q :=
  fun bs => ⟨fun x hx => h x ((hp bs).1 x hx), (hp bs).2⟩

theorem yields_le (short : ε) (k : Nat) :
    Yields (le short k : LogParser ω ε _) R fun n => n < 256 ^ k := by
  refine (yields_takeBytes short k).bind fun bs hbs => yields_pure ?_
  rw [← hbs]
  exact ofLE_lt bs

theorem Yields.times {p : LogParser ω ε Unit} (hp : Yields p R fun _ => True) :
    ∀ n, Yields (p.times n) R fun _ => True
  | 0 => yields_pure trivial
  | n + 1 => hp.bind fun _ _ => Yields.times hp n

theorem Yields.collect {p : LogParser ω ε α} (hp : Yields p R Q) :
    ∀ n, Yields (p.collect n) R fun as => as.length = n
  | 0 => yields_pure rfl
  | n + 1 => hp.bind fun _ _ => (Yields.collect hp n).bind fun as has => yields_pure (by simp [has])

end Yields

end LogParser
