import QuotaFabric.Lib.ByteCodec

/-!
# Where a parser stands

* `Steady p` — what `p` reads does not depend on the bytes behind it;
* `Needs p bs V` — `p` reads `bs` whole or refuses it, whatever follows, and refuses every proper prefix;
* `Gives p bs Q` — if `p` succeeds on `bs`, its result and the bytes it leaves satisfy `Q`; one rule for
  each way to build a parser;
* `FieldShape`, `skip` — how many bytes a field takes, told from its first bytes, and the bytes behind a
  sequence of fields;
* `Lays p fs V` — where `p` succeeds it has read fields of the shapes `fs`, and `V` relates its result to
  the bytes it started from.  `Lays.step` walks through a parser field by field.
-/

set_option autoImplicit false

namespace LogParser

variable {ω ε α β : Type}

/-! ## Independence of what follows -/

/-- Bytes behind those that were read are left alone. -/
def Steady (p : LogParser ω ε α) : Prop :=
  ∀ bs w a rest, p.run bs = (w, .ok (a, rest)) → ∀ s, p.run (bs ++ s) = (w, .ok (a, rest ++ s))

theorem steady_pure (a : α) : Steady (pure a : LogParser ω ε α) := by
  intro bs w b rest h s
  cases h
  rfl

theorem steady_fail (e : ε) : Steady (fail e : LogParser ω ε α) := by
  intro bs w a rest h
  cases h

/-- A sequence that succeeds consists of two steps that do. -/
theorem run_bind_ok {p : LogParser ω ε α} {f : α → LogParser ω ε β} {bs : List UInt8} {w : List ω} {b : β}
    {rest : List UInt8} (h : (p >>= f).run bs = (w, .ok (b, rest))) :
    ∃ w₁ a mid w₂, p.run bs = (w₁, .ok (a, mid)) ∧ (f a).run mid = (w₂, .ok (b, rest)) ∧ w = w₁ ++ w₂ := by
  rw [run_bind] at h
  obtain ⟨w₁, r, hr⟩ : ∃ w₁ r, p.run bs = (w₁, r) := ⟨_, _, rfl⟩
  rw [hr] at h
  cases r with
  | error e =>
    rw [andThen_error] at h
    cases h
  | ok x =>
    obtain ⟨a, mid⟩ := x
    rw [andThen_ok] at h
    obtain ⟨w₂, r₂, hr₂⟩ : ∃ w₂ r₂, (f a).run mid = (w₂, r₂) := ⟨_, _, rfl⟩
    rw [hr₂] at h
    cases h
    exact ⟨w₁, a, mid, w₂, hr, hr₂, rfl⟩

theorem Steady.bind {p : LogParser ω ε α} {f : α → LogParser ω ε β} (hp : Steady p)
    (hf : ∀ a, Steady (f a)) : Steady (p >>= f) := by
  intro bs w b rest h s
  obtain ⟨w₁, a, mid, w₂, h₁, h₂, rfl⟩ := run_bind_ok h
  rw [run_bind, hp bs w₁ a mid h₁ s, andThen_ok, hf a mid w₂ b rest h₂ s]
  rfl

theorem steady_takeBytes (short : ε) (n : Nat) : Steady (takeBytes short n : LogParser ω ε _) := by
  intro bs w a rest h s
  rcases run_takeBytes_cases (ω := ω) short n bs with hr | ⟨hd, tl, rfl, hlen, hr⟩
  · rw [hr] at h
    cases h
  · rw [hr] at h
    cases h
    rw [List.append_assoc, run_takeBytes_append hlen]

theorem steady_le (short : ε) (k : Nat) : Steady (le short k : LogParser ω ε _) :=
  (steady_takeBytes short k).bind fun _ => steady_pure _

theorem Steady.collect {p : LogParser ω ε α} (hp : Steady p) : ∀ n, Steady (p.collect n)
  | 0 => steady_pure _
  | n + 1 => hp.bind fun _ => (Steady.collect hp n).bind fun _ => steady_pure _

/-! ## What a success leaves -/

/-- If `p` succeeds on `bs`, its result and the bytes it leaves satisfy `Q`. -/
def Gives (p : LogParser ω ε α) (bs : List UInt8) (Q : α → List UInt8 → Prop) : Prop :=
  ∀ w a rest, p.run bs = (w, .ok (a, rest)) → Q a rest

section Gives

variable {bs : List UInt8} {Q : α → List UInt8 → Prop}

theorem gives_pure {a : α} (h : Q a bs) : Gives (pure a : LogParser ω ε α) bs Q := by
  intro w b rest hr
  cases hr
  exact h

theorem gives_fail (e : ε) : Gives (fail e : LogParser ω ε α) bs Q := by
  intro w a rest h
  cases h

theorem Gives.bind {p : LogParser ω ε α} {f : α → LogParser ω ε β} {Q : β → List UInt8 → Prop}
    (h : Gives p bs fun a mid => Gives (f a) mid Q) : Gives (p >>= f) bs Q := by
  intro w b rest hr
  obtain ⟨w₁, a, mid, w₂, h₁, h₂, -⟩ := run_bind_ok hr
  exact h w₁ a mid h₁ w₂ b rest h₂

theorem gives_takeBytes (short : ε) (n : Nat) {Q : List UInt8 → List UInt8 → Prop}
    (h : n ≤ bs.length → Q (bs.take n) (bs.drop n)) : Gives (takeBytes short n : LogParser ω ε _) bs Q := by
  intro w a rest hr
  rcases run_takeBytes_cases (ω := ω) short n bs with hn | ⟨hd, tl, rfl, hlen, hn⟩
  · rw [hn] at hr
    cases hr
  · rw [hn] at hr
    cases hr
    have h' := h (by rw [List.length_append]; omega)
    rw [List.take_left' hlen, List.drop_left' hlen] at h'
    exact h'

theorem gives_le (short : ε) (k : Nat) {Q : Nat → List UInt8 → Prop}
    (h : k ≤ bs.length → Q (ofLE (bs.take k)) (bs.drop k)) : Gives (le short k : LogParser ω ε _) bs Q :=
  (gives_takeBytes short k fun hk => gives_pure (h hk)).bind

end Gives

/-! ## Input that ends too early -/

/-- Whatever follows `bs`, `p` fails or leaves just that, with a result that satisfies `V`; of `bs` cut short
    it makes nothing. -/
structure Needs (p : LogParser ω ε α) (bs : List UInt8) (V : α → Prop) : Prop where
  spans : ∀ rest, Gives p (bs ++ rest) fun a mid => mid = rest ∧ V a
  cut : ∀ c, c <+: bs → c ≠ bs → ∃ w e, p.run c = (w, .error e)

section Needs

variable {bs cs : List UInt8} {V : α → Prop} {W : β → Prop}

theorem needs_pure {a : α} (h : V a) : Needs (pure a : LogParser ω ε α) [] V where
  spans _ := gives_pure ⟨rfl, h⟩
  cut _ hc hne := absurd (List.prefix_nil.mp hc) hne

theorem needs_fail (e : ε) (bs : List UInt8) (V : α → Prop) : Needs (fail e : LogParser ω ε α) bs V where
  spans _ := gives_fail e
  cut _ _ _ := ⟨[], e, rfl⟩

/-- **A cut falls into the first part or into the second.** -/
theorem Needs.bind {p : LogParser ω ε α} {f : α → LogParser ω ε β} (hp : Needs p bs V)
    (hf : ∀ a, V a → Needs (f a) cs W) : Needs (p >>= f) (bs ++ cs) W where
  spans rest := by
    rw [List.append_assoc]
    refine Gives.bind fun w a mid hr => ?_
    obtain ⟨rfl, hV⟩ := hp.spans (cs ++ rest) w a mid hr
    exact (hf a hV).spans rest
  cut c hc hne := by
    by_cases hbs : bs <+: c
    · -- the first part is there, the second is cut
      obtain ⟨c', rfl⟩ := hbs
      have hc' : c' <+: cs := (List.prefix_append_right_inj bs).mp hc
      have hne' : c' ≠ cs := fun h => hne (by rw [h])
      rw [run_bind]
      obtain ⟨w, r, hr⟩ : ∃ w r, p.run (bs ++ c') = (w, r) := ⟨_, _, rfl⟩
      cases r with
      | error e => exact ⟨w, e, by rw [hr]; rfl⟩
      | ok x =>
        obtain ⟨a, mid⟩ := x
        obtain ⟨rfl, hV⟩ := hp.spans c' w a mid hr
        obtain ⟨w', e, he⟩ := (hf a hV).cut mid hc' hne'
        exact ⟨w ++ w', e, by rw [hr, andThen_ok, he]; rfl⟩
    · have hshort : c <+: bs :=
        (List.prefix_or_prefix_of_prefix hc (List.prefix_append bs cs)).resolve_right hbs
      have hne' : c ≠ bs := by
        rintro rfl
        exact hbs List.prefix_rfl
      obtain ⟨w, e, he⟩ := hp.cut c hshort hne'
      exact ⟨w, e, by rw [run_bind, he]; rfl⟩

/-- A result computed from what was read. -/
theorem Needs.map {p : LogParser ω ε α} (hp : Needs p bs V) {g : α → β} (h : ∀ a, V a → W (g a)) :
    Needs (p >>= fun a => pure (g a)) bs W := by
  have hbind : Needs (p >>= fun a => pure (g a)) (bs ++ []) W := hp.bind fun a hV => needs_pure (h a hV)
  rwa [List.append_nil] at hbind

theorem needs_takeBytes (short : ε) {n : Nat} (h : bs.length = n) :
    Needs (takeBytes short n : LogParser ω ε _) bs fun a => a = bs where
  spans rest := gives_takeBytes short n fun _ => ⟨List.drop_left' h, List.take_left' h⟩
  cut c hc hne := by
    have hlt : c.length < n := by
      have hle := hc.length_le
      have hneq : c.length ≠ bs.length := fun hlen => hne (hc.eq_of_length hlen)
      omega
    refine ⟨[], short, ?_⟩
    show (if c.length < n then _ else _) = _
    rw [if_pos hlt]

theorem needs_le (short : ε) {k : Nat} (h : bs.length = k) :
    Needs (le short k : LogParser ω ε _) bs fun n => n = ofLE bs :=
  (needs_takeBytes short h).map fun _ ha => congrArg ofLE ha

/-- Items that are read one by one. -/
theorem Needs.collect {ι : Type} {p : LogParser ω ε α} {enc : ι → List UInt8} {value : ι → α → Prop}
    (h : ∀ i, Needs p (enc i) (value i)) : ∀ items : List ι,
      Needs (p.collect items.length) (items.flatMap enc) fun _ => True
  | [] => needs_pure trivial
  | i :: items => by
    rw [List.flatMap_cons]
    exact (h i).bind fun _ _ => (Needs.collect h items).map fun _ _ => trivial

end Needs

end LogParser

/-! ## Layouts -/

/-- The shape of a field: how many bytes it takes can be told from its first ones. -/
inductive FieldShape where
  | fixed (n : Nat)
  /-- A little-endian count of `k` bytes, and that many items of `m` bytes. -/
  | counted (k m : Nat)
  /-- A byte, and `n` more if it is not zero. -/
  | flagged (n : Nat)
  deriving DecidableEq

namespace FieldShape

/-- The size of the field in front of `bs`. -/
def size : FieldShape → List UInt8 → Nat
  | fixed n, _ => n
  | counted k m, bs => k + m * ofLE (bs.take k)
  | flagged n, bs => if ofLE (bs.take 1) = 0 then 1 else 1 + n

/-- What is left of `bs` behind a sequence of fields. -/
def skip : List FieldShape → List UInt8 → List UInt8
  | [], bs => bs
  | f :: fs, bs => skip fs (bs.drop (f.size bs))

theorem skip_append : ∀ (fs gs : List FieldShape) (bs : List UInt8), skip (fs ++ gs) bs = skip gs (skip fs bs)
  | [], _, _ => rfl
  | f :: fs, gs, bs => skip_append fs gs (bs.drop (f.size bs))

end FieldShape

namespace LogParser

open FieldShape

variable {ω ε α β : Type}

/-- Where `p` succeeds it has read fields of the shapes `fs`, with a result that `V` relates to the bytes. -/
def Lays (p : LogParser ω ε α) (fs : List FieldShape) (V : α → List UInt8 → Prop) : Prop :=
  ∀ bs, Gives p bs fun a rest => rest = skip fs bs ∧ V a bs

/-- Behind the fields `fs` of `bs`, `p` reads its own and the rest goes on behind these. -/
theorem Lays.step {p : LogParser ω ε α} {f : α → LogParser ω ε β} {fs gs : List FieldShape}
    {V : α → List UInt8 → Prop} {bs : List UInt8} {Q : β → List UInt8 → Prop} (hp : Lays p gs V)
    (h : ∀ a, V a (skip fs bs) → Gives (f a) (skip (fs ++ gs) bs) Q) : Gives (p >>= f) (skip fs bs) Q := by
  refine Gives.bind fun w a mid hr => ?_
  obtain ⟨hmid, hV⟩ := hp _ w a mid hr
  rw [hmid, ← skip_append]
  exact h a hV

theorem lays_le (short : ε) (k : Nat) :
    Lays (le short k : LogParser ω ε _) [.fixed k] fun n bs => n = ofLE (bs.take k) :=
  fun _ => gives_le short k fun _ => ⟨rfl, rfl⟩

/-- The first fields of `bs` are the parser's own. -/
theorem Lays.first {p : LogParser ω ε α} {f : α → LogParser ω ε β} {gs : List FieldShape}
    {V : α → List UInt8 → Prop} {bs : List UInt8} {Q : β → List UInt8 → Prop} (hp : Lays p gs V)
    (h : ∀ a, V a bs → Gives (f a) (skip gs bs) Q) : Gives (p >>= f) bs Q :=
  show Gives (p >>= f) (skip [] bs) Q from hp.step h

/-- A result computed from what was read. -/
theorem Lays.map {p : LogParser ω ε α} {fs : List FieldShape} {V : α → List UInt8 → Prop} (hp : Lays p fs V)
    {g : α → β} {W : β → List UInt8 → Prop} (h : ∀ a bs, V a bs → W (g a) bs) :
    Lays (p >>= fun a => pure (g a)) fs W :=
  fun bs => Lays.first hp fun a hV => gives_pure ⟨rfl, h a bs hV⟩

end LogParser
