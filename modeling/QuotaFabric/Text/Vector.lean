import QuotaFabric.Core.Resource
import QuotaFabric.Lib.Numerals

/-!
# Resource vectors as text

Model of `parse_resource_dimension` (`resource_dimension.cpp`) and `ResourceVector::parse`
(`resource_vector.cpp`), the reading side of `ResourceVector.toStr`.

* `stoll` — `std::stoll` in base ten: it skips white space, takes a sign, reads digits and leaves
  the rest of the string alone; `none` is either exception;
* `parseToken`, `parseLoop`, `parse` — the scan for commas and equals signs.

A token the parser accepts is an `Item`: a dimension and a `Literal`, the parts `stoll` sees.

Principal results: `parse_vectorText` — a text made of accepted items is parsed, with a comma at
the end or without; `parse_eq_some` — and nothing else is.
-/

set_option autoImplicit false

namespace QuotaFabric

/-! ## Dimension names -/

open ResourceDimension in
/-- The table of `parse_resource_dimension`. -/
def resourceDimensionTable : List (Str × ResourceDimension) :=
  [(text "accelerator_vram_bytes", acceleratorVRAM),
   (text "pageable_host_ram_bytes", pageableHostRAM),
   (text "pinned_host_ram_bytes", pinnedHostRAM),
   (text "kv_cache_bytes", kvCacheBytes),
   (text "tensor_state_bytes", tensorStateBytes),
   (text "persistent_cache_bytes", persistentCacheBytes),
   (text "model_residency_bytes", modelResidencyBytes),
   (text "adapter_residency_bytes", adapterResidencyBytes),
   (text "accelerator_compute_ms", acceleratorComputeTime),
   (text "accelerator_execution_slots", acceleratorExecutionSlots),
   (text "concurrent_sequences", concurrentSequences),
   (text "concurrent_requests", concurrentRequests),
   (text "transfer_bytes", transferBytes),
   (text "transfer_bandwidth_bytes_per_sec", transferBandwidth),
   (text "storage_bandwidth_bytes_per_sec", storageBandwidth),
   (text "persistent_storage_bytes", persistentStorageBytes),
   (text "compilation_cache_bytes", compilationCacheBytes)]

def parseResourceDimension (name : Str) : Option ResourceDimension := resourceDimensionTable.lookup name

/-! ## `std::stoll` -/

/-- `std::isspace` in the C locale. -/
def isSpace (c : UInt8) : Bool := c == 32 || (decide (9 ≤ c) && decide (c ≤ 13))

def isDigit (c : UInt8) : Bool := decide ('0'.toUInt8 ≤ c) && decide (c ≤ '9'.toUInt8)

/-- The number a string of decimal digits stands for. -/
def decimal (digits : Str) : Nat := numeral 10 (digits.map fun c => c.toNat - '0'.toNat)

inductive Sign where
  | none
  | plus
  | minus
  deriving DecidableEq

def Sign.bytes : Sign → Str
  | .none => []
  | .plus => ['+'.toUInt8]
  | .minus => ['-'.toUInt8]

/-- A string as `strtoll` sees it: white space, a sign, digits, and what it leaves unread. -/
structure Literal where
  space : Str
  sign : Sign
  digits : Str
  junk : Str
  deriving DecidableEq

/-- The sign at the front, and what follows it. -/
def takeSign : Str → Sign × Str
  | [] => (.none, [])
  | c :: cs => if c = '-'.toUInt8 then (.minus, cs) else if c = '+'.toUInt8 then (.plus, cs) else (.none, c :: cs)

namespace Literal

def scan (s : Str) : Literal :=
  let (sign, rest) := takeSign (s.dropWhile isSpace)
  ⟨s.takeWhile isSpace, sign, rest.takeWhile isDigit, rest.dropWhile isDigit⟩

def bytes (l : Literal) : Str := l.space ++ (l.sign.bytes ++ (l.digits ++ l.junk))

def value (l : Literal) : Int := if l.sign = .minus then -(decimal l.digits) else decimal l.digits

end Literal

/-- `std::stoll`: no digits is `invalid_argument`, more than 64 bits `out_of_range`. -/
def stoll (s : Str) : Option Int :=
  let l := Literal.scan s
  if l.digits = [] then none
  else if INT64_MIN ≤ l.value ∧ l.value ≤ INT64_MAX then some l.value
  else none

/-! ## The parser -/

namespace ResourceVector

def comma : UInt8 := ','.toUInt8

def equals : UInt8 := '='.toUInt8

/-- One token of `parse`, stored into `r`. -/
def parseToken (r : ResourceVector) (tok : Str) : Option ResourceVector :=
  if equals ∉ tok then none
  else
    match parseResourceDimension (tok.takeWhile (· != equals)) with
    | none => none
    | some d =>
      match stoll ((tok.dropWhile (· != equals)).drop 1) with
      | none => none
      | some val => if val < 0 then none else if (set r d val).1 then some (set r d val).2 else none

/-- The loop of `parse` on the text from `pos` on; each round takes at least one character. -/
def parseLoop : Nat → Str → ResourceVector → Option ResourceVector
  | _, [], r => some r
  | 0, _ :: _, r => some r
  | fuel + 1, c :: cs, r =>
    match parseToken r ((c :: cs).takeWhile (· != comma)) with
    | none => none
    | some r =>
      match (c :: cs).dropWhile (· != comma) with
      | [] => some r
      | _ :: rest => parseLoop fuel rest r

def parse (text : Str) : Option ResourceVector := parseLoop text.length text SparseVec.empty

example : parse (text "kv_cache_bytes=3,transfer_bytes=0") =
    some ((SparseVec.empty.put .kvCacheBytes 3).put .transferBytes 0) := by decide +kernel

example : parse (text "kv_cache_bytes=-3") = none := by decide +kernel

end ResourceVector

/-! ## What the parts read -/

/-- Each name is in the table under its dimension, and has neither separator in it. -/
theorem resourceDimension_names (d : ResourceDimension) :
    parseResourceDimension (resourceDimensionName d) = some d ∧
      ResourceVector.equals ∉ resourceDimensionName d ∧ ResourceVector.comma ∉ resourceDimensionName d := by
  revert d
  decide +kernel

theorem parseResourceDimension_name (d : ResourceDimension) :
    parseResourceDimension (resourceDimensionName d) = some d :=
  (resourceDimension_names d).1

/-- **A name is read as the dimension that prints it, and as nothing else.** -/
theorem parseResourceDimension_eq_some_iff {name : Str} {d : ResourceDimension} :
    parseResourceDimension name = some d ↔ name = resourceDimensionName d := by
  constructor
  · intro h
    obtain ⟨pre, post, heq, -⟩ := List.lookup_eq_some_iff.mp h
    have hmem : (name, d) ∈ resourceDimensionTable := by rw [heq]; simp
    have htable : ∀ p ∈ resourceDimensionTable, p.1 = resourceDimensionName p.2 := by decide +kernel
    exact htable _ hmem
  · rintro rfl
    exact parseResourceDimension_name d

theorem resourceDimensionName_injective : Function.Injective resourceDimensionName := by
  intro d e h
  have hd := parseResourceDimension_name d
  rw [h, parseResourceDimension_name] at hd
  exact (Option.some.inj hd).symm

theorem equals_notMem_name (d : ResourceDimension) : ResourceVector.equals ∉ resourceDimensionName d :=
  (resourceDimension_names d).2.1

theorem comma_notMem_name (d : ResourceDimension) : ResourceVector.comma ∉ resourceDimensionName d :=
  (resourceDimension_names d).2.2

theorem not_isSpace_of_isDigit {c : UInt8} (h : isDigit c = true) : isSpace c = false := by
  unfold isDigit at h
  unfold isSpace
  simp only [Bool.and_eq_true, decide_eq_true_eq, UInt8.le_iff_toNat_le] at h
  have hlow : 48 ≤ c.toNat := h.1
  simp only [Bool.or_eq_false_iff, beq_eq_false_iff_ne, Bool.and_eq_false_iff, decide_eq_false_iff_not,
    UInt8.le_iff_toNat_le, ne_eq]
  refine ⟨?_, Or.inr ?_⟩
  · rintro rfl
    revert hlow
    decide
  · change ¬c.toNat ≤ 13
    omega

namespace Literal

/-- A literal whose parts are where `strtoll` finds them. -/
structure Readable (l : Literal) : Prop where
  space : ∀ c ∈ l.space, isSpace c = true
  digits_ne : l.digits ≠ []
  digits : ∀ c ∈ l.digits, isDigit c = true
  junk : ∀ c ∈ l.junk.head?, isDigit c = false

theorem takeSign_bytes : ∀ s : Str, (takeSign s).1.bytes ++ (takeSign s).2 = s
  | [] => rfl
  | c :: cs => by
    rw [takeSign]
    split
    · rename_i h
      rw [h]
      rfl
    · split
      · rename_i h
        rw [h]
        rfl
      · rfl

/-- The parts together are the string. -/
theorem bytes_scan (s : Str) : (scan s).bytes = s := by
  unfold scan bytes
  simp only [List.takeWhile_append_dropWhile, takeSign_bytes]

theorem readable_scan {s : Str} (h : (scan s).digits ≠ []) : (scan s).Readable where
  space := fun c hc => List.mem_takeWhile_imp hc
  digits_ne := h
  digits := fun c hc => List.mem_takeWhile_imp hc
  junk := by
    intro c hc
    have hhead : ((takeSign (s.dropWhile isSpace)).2.dropWhile isDigit).head? = some c := hc
    have hstop := List.head?_dropWhile_not isDigit (takeSign (s.dropWhile isSpace)).2
    rw [hhead] at hstop
    exact hstop

/-- **A readable literal is scanned into its parts.** -/
theorem scan_bytes {l : Literal} (h : l.Readable) : scan l.bytes = l := by
  obtain ⟨d, ds, hds⟩ : ∃ d ds, l.digits = d :: ds := List.exists_cons_of_ne_nil h.digits_ne
  have hd : isDigit d = true := h.digits d (by rw [hds]; exact List.mem_cons_self)
  -- what follows the white space starts with a sign or a digit, and neither is white space
  have hstop : ∀ c ∈ (l.sign.bytes ++ (l.digits ++ l.junk)).head?, isSpace c = false := by
    intro c hc
    rw [hds] at hc
    cases hs : l.sign with
    | none =>
      rw [hs] at hc
      obtain rfl : d = c := by simpa [Sign.bytes] using hc
      exact not_isSpace_of_isDigit hd
    | plus =>
      rw [hs] at hc
      obtain rfl : '+'.toUInt8 = c := by simpa [Sign.bytes] using hc
      decide
    | minus =>
      rw [hs] at hc
      obtain rfl : '-'.toUInt8 = c := by simpa [Sign.bytes] using hc
      decide
  have hsign : takeSign (l.sign.bytes ++ (l.digits ++ l.junk)) = (l.sign, l.digits ++ l.junk) := by
    cases hs : l.sign with
    | none =>
      have hminus : d ≠ '-'.toUInt8 := by rintro rfl; revert hd; decide
      have hplus : d ≠ '+'.toUInt8 := by rintro rfl; revert hd; decide
      rw [hds]
      simp only [Sign.bytes, List.nil_append, List.cons_append, takeSign, if_neg hminus, if_neg hplus]
    | plus => rfl
    | minus => rfl
  unfold scan bytes
  rw [takeWhile_run h.space hstop, dropWhile_run h.space hstop, hsign]
  simp only [takeWhile_run h.digits h.junk, dropWhile_run h.digits h.junk]

end Literal

/-- **On a readable literal `stoll` is its value**, where that fits in 64 bits. -/
theorem stoll_bytes {l : Literal} (h : l.Readable) :
    stoll l.bytes = if INT64_MIN ≤ l.value ∧ l.value ≤ INT64_MAX then some l.value else none := by
  unfold stoll
  simp only [Literal.scan_bytes h, if_neg h.digits_ne]

theorem stoll_eq_some {s : Str} {v : Int} (h : stoll s = some v) :
    ∃ l : Literal, l.Readable ∧ l.bytes = s ∧ l.value = v ∧ v ≤ INT64_MAX := by
  unfold stoll at h
  simp only at h
  split at h
  · cases h
  · rename_i hne
    split at h
    · rename_i hfit
      obtain rfl := Option.some.inj h
      exact ⟨_, Literal.readable_scan hne, Literal.bytes_scan s, rfl, hfit.2⟩
    · cases h

/-! ## Tokens -/

/-- A dimension and the literal of its amount. -/
structure Item where
  dim : ResourceDimension
  amount : Literal
  deriving DecidableEq

namespace Item

open ResourceVector

def bytes (i : Item) : Str := resourceDimensionName i.dim ++ equals :: i.amount.bytes

/-- What the parser accepts as one token. -/
structure Accepted (i : Item) : Prop where
  readable : i.amount.Readable
  nonneg : 0 ≤ i.amount.value
  fits : i.amount.value ≤ INT64_MAX
  comma : comma ∉ i.amount.bytes

/-- Digits, and nothing else around them. -/
def Plain (i : Item) : Prop := i.amount.space = [] ∧ i.amount.sign = .none ∧ i.amount.junk = []

theorem equals_mem_bytes (i : Item) : equals ∈ i.bytes := by simp [bytes]

theorem Accepted.comma_notMem {i : Item} (h : i.Accepted) : ResourceVector.comma ∉ i.bytes := by
  unfold bytes
  rw [List.mem_append, List.mem_cons]
  rintro (hname | heq | hbytes)
  · exact comma_notMem_name i.dim hname
  · revert heq
    decide
  · exact h.comma hbytes

theorem takeWhile_bytes (i : Item) : i.bytes.takeWhile (· != equals) = resourceDimensionName i.dim :=
  takeWhile_run (bne_of_notMem (equals_notMem_name i.dim)) (by simp)

theorem dropWhile_bytes (i : Item) : i.bytes.dropWhile (· != equals) = equals :: i.amount.bytes :=
  dropWhile_run (bne_of_notMem (equals_notMem_name i.dim)) (by simp)

/-- An accepted item is determined by its text. -/
theorem bytes_injective {i j : Item} (hi : i.Accepted) (hj : j.Accepted) (h : i.bytes = j.bytes) : i = j := by
  have hname := takeWhile_bytes i
  have hrest := dropWhile_bytes i
  rw [h, takeWhile_bytes] at hname
  rw [h, dropWhile_bytes] at hrest
  have hdim : i.dim = j.dim := (resourceDimensionName_injective hname).symm
  have hamount : i.amount = j.amount := by
    have hbytes : j.amount.bytes = i.amount.bytes := (List.cons.inj hrest).2
    rw [← Literal.scan_bytes hi.readable, ← Literal.scan_bytes hj.readable, hbytes]
  cases i
  cases j
  cases hdim
  cases hamount
  rfl

end Item

namespace ResourceVector

/-- An accepted item is stored. -/
theorem parseToken_bytes (r : ResourceVector) {i : Item} (h : i.Accepted) :
    parseToken r i.bytes = some (r.put i.dim i.amount.value) := by
  have hread : stoll i.amount.bytes = some i.amount.value := by
    have hmin : INT64_MIN ≤ 0 := by decide
    rw [stoll_bytes h.readable, if_pos ⟨hmin.trans h.nonneg, h.fits⟩]
  have hneg : ¬i.amount.value < 0 := not_lt.mpr h.nonneg
  unfold parseToken
  rw [if_neg (not_not.mpr i.equals_mem_bytes), i.takeWhile_bytes, i.dropWhile_bytes,
    parseResourceDimension_name, List.drop_one, List.tail_cons, hread]
  simp only [set, if_neg hneg, ↓reduceIte]

/-- **What the parser stores comes from an accepted item.** -/
theorem parseToken_eq_some {r r' : ResourceVector} {tok : Str} (hcomma : comma ∉ tok)
    (h : parseToken r tok = some r') :
    ∃ i : Item, i.Accepted ∧ i.bytes = tok ∧ r' = r.put i.dim i.amount.value := by
  unfold parseToken at h
  split at h
  · cases h
  · rename_i heq
    split at h
    · cases h
    · rename_i d hd
      split at h
      · cases h
      · rename_i val hval
        split at h
        · cases h
        · rename_i hneg
          simp only [set, if_neg hneg, ↓reduceIte, Option.some.injEq] at h
          obtain ⟨l, hread, hbytes, rfl, hfit⟩ := stoll_eq_some hval
          have hname := parseResourceDimension_eq_some_iff.mp hd
          have hrest : tok.dropWhile (· != equals) = equals :: l.bytes := by
            rw [dropWhile_ne_of_mem (not_not.mp heq), hbytes]
          have htok : tok = resourceDimensionName d ++ equals :: l.bytes := by
            rw [← hname, ← hrest, List.takeWhile_append_dropWhile]
          refine ⟨⟨d, l⟩, ⟨hread, not_lt.mp hneg, hfit, ?_⟩, htok.symm, h.symm⟩
          intro hmem
          exact hcomma (htok ▸ by simp [hmem])

/-! ## The loop -/

/-- The tokens the loop of `parse` visits: what stands between commas, less an empty last piece. -/
def tokens (text : Str) : List Str :=
  if (text.splitOn comma).getLast? = some [] then (text.splitOn comma).dropLast else text.splitOn comma

theorem tokens_of_notMem {text : Str} (h : comma ∉ text) (hne : text ≠ []) : tokens text = [text] := by
  unfold tokens
  rw [List.splitOn_eq_singleton h, if_neg (by simpa using hne)]

theorem tokens_append {tok rest : Str} (h : comma ∉ tok) : tokens (tok ++ comma :: rest) = tok :: tokens rest := by
  obtain ⟨p, ps, hps⟩ := List.exists_cons_of_ne_nil (List.splitOn_ne_nil comma rest)
  unfold tokens
  rw [List.splitOn_append_cons_self_of_not_mem h, hps, List.getLast?_cons_cons]
  split <;> rfl

/-- **The loop is a fold over the tokens**: it never runs out of rounds. -/
theorem parseLoop_eq : ∀ (fuel : Nat) (text : Str) (r : ResourceVector), text.length ≤ fuel →
    parseLoop fuel text r = (tokens text).foldlM parseToken r
  | fuel, [], r, _ => by cases fuel <;> rfl
  | 0, _ :: _, _, h => by simp at h
  | fuel + 1, c :: cs, r, h => by
    rw [parseLoop]
    by_cases hmem : comma ∈ c :: cs
    · have hdrop := dropWhile_ne_of_mem hmem
      have hsplit := List.takeWhile_append_dropWhile (p := (· != comma)) (l := c :: cs)
      have hfree : comma ∉ (c :: cs).takeWhile (· != comma) := fun hin => by
        simpa using List.mem_takeWhile_imp hin
      have htokens := @tokens_append _ (((c :: cs).dropWhile (· != comma)).drop 1) hfree
      have hlen : (((c :: cs).dropWhile (· != comma)).drop 1).length ≤ fuel := by
        have hle := (List.dropWhile_suffix (· != comma) (l := c :: cs)).length_le
        rw [List.length_drop]
        omega
      rw [← hdrop, hsplit] at htokens
      rw [htokens, List.foldlM_cons, hdrop]
      cases parseToken r ((c :: cs).takeWhile (· != comma)) with
      | none => rfl
      | some r' => exact parseLoop_eq fuel _ r' hlen
    · have hall := bne_of_notMem hmem
      rw [tokens_of_notMem hmem (List.cons_ne_nil c cs), List.takeWhile_eq_self_iff.mpr hall,
        List.dropWhile_eq_nil_iff.mpr hall, List.foldlM_cons]
      cases parseToken r (c :: cs) <;> rfl

theorem parse_eq (text : Str) : parse text = (tokens text).foldlM parseToken SparseVec.empty :=
  parseLoop_eq _ text _ (le_refl _)

/-! ## The accepted texts -/

def store (r : ResourceVector) (i : Item) : ResourceVector := r.put i.dim i.amount.value

/-- The items, joined by commas; `trailing` puts one more at the end. -/
def vectorText (items : List Item) (trailing : Bool) : Str :=
  [comma].intercalate (items.map Item.bytes ++ if trailing then [[]] else [])

theorem splitOn_vectorText {items : List Item} (h : ∀ i ∈ items, i.Accepted) (hne : items ≠ [])
    (trailing : Bool) : (vectorText items trailing).splitOn comma =
      items.map Item.bytes ++ if trailing then [[]] else [] := by
  refine List.splitOn_intercalate comma (fun p hp => ?_) (by simp [hne])
  rcases List.mem_append.mp hp with hp | hp
  · obtain ⟨i, hi, rfl⟩ := List.mem_map.mp hp
    exact (h i hi).comma_notMem
  · cases trailing with
    | false => simp at hp
    | true =>
      obtain rfl := List.mem_singleton.mp hp
      exact List.not_mem_nil

theorem tokens_vectorText {items : List Item} (h : ∀ i ∈ items, i.Accepted) (hne : items ≠ [])
    (trailing : Bool) : tokens (vectorText items trailing) = items.map Item.bytes := by
  unfold tokens
  rw [splitOn_vectorText h hne]
  cases trailing with
  | true => simp
  | false =>
    have hlast : (items.map Item.bytes).getLast? ≠ some [] := by
      intro hlast
      obtain ⟨i, -, hnil⟩ := List.mem_map.mp (List.mem_of_getLast? hlast)
      have heq := i.equals_mem_bytes
      rw [hnil] at heq
      cases heq
    rw [if_neg Bool.false_ne_true, List.append_nil, if_neg hlast]

theorem map_bytes_injective : ∀ {items items' : List Item}, (∀ i ∈ items, i.Accepted) →
    (∀ i ∈ items', i.Accepted) → items.map Item.bytes = items'.map Item.bytes → items = items'
  | [], [], _, _, _ => rfl
  | [], _ :: _, _, _, heq => by cases heq
  | _ :: _, [], _, _, heq => by cases heq
  | i :: items, j :: items', h, h', heq => by
    obtain ⟨hhead, htail⟩ := List.cons.inj heq
    rw [Item.bytes_injective (h i List.mem_cons_self) (h' j List.mem_cons_self) hhead,
      map_bytes_injective (fun k hk => h k (List.mem_cons_of_mem i hk))
        (fun k hk => h' k (List.mem_cons_of_mem j hk)) htail]

/-- The text determines the items and the comma at the end. -/
theorem vectorText_injective {items items' : List Item} {t t' : Bool} (h : ∀ i ∈ items, i.Accepted)
    (h' : ∀ i ∈ items', i.Accepted) (hne : items ≠ []) (hne' : items' ≠ [])
    (heq : vectorText items t = vectorText items' t') : items = items' ∧ t = t' := by
  have htokens := tokens_vectorText h hne t
  rw [heq, tokens_vectorText h' hne' t'] at htokens
  have hitems : items = items' := map_bytes_injective h h' htokens.symm
  refine ⟨hitems, ?_⟩
  subst hitems
  have hsplit := splitOn_vectorText h hne t
  rw [heq, splitOn_vectorText h hne t'] at hsplit
  have hlast := List.append_cancel_left hsplit
  cases t <;> cases t' <;> simp_all

theorem foldlM_bytes : ∀ (items : List Item) (r : ResourceVector), (∀ i ∈ items, i.Accepted) →
    (items.map Item.bytes).foldlM parseToken r = some (items.foldl store r)
  | [], _, _ => rfl
  | i :: items, r, h => by
    rw [List.map_cons, List.foldlM_cons, parseToken_bytes r (h i List.mem_cons_self)]
    exact foldlM_bytes items _ fun j hj => h j (List.mem_cons_of_mem i hj)

theorem foldlM_eq_some : ∀ (toks : List Str) (r r' : ResourceVector), (∀ tok ∈ toks, comma ∉ tok) →
    toks.foldlM parseToken r = some r' →
    ∃ items : List Item, (∀ i ∈ items, i.Accepted) ∧ items.map Item.bytes = toks ∧ r' = items.foldl store r
  | [], r, r', _, h => ⟨[], by simp, rfl, (Option.some.inj h).symm⟩
  | tok :: toks, r, r', hfree, h => by
    rw [List.foldlM_cons] at h
    obtain ⟨r₁, htok, hrest⟩ := Option.bind_eq_some_iff.mp h
    obtain ⟨i, hi, rfl, rfl⟩ := parseToken_eq_some (hfree tok List.mem_cons_self) htok
    obtain ⟨items, hitems, rfl, rfl⟩ := foldlM_eq_some toks _ r'
      (fun t ht => hfree t (List.mem_cons_of_mem _ ht)) hrest
    refine ⟨i :: items, fun j hj => ?_, rfl, rfl⟩
    rcases List.mem_cons.mp hj with rfl | hj
    · exact hi
    · exact hitems j hj

/-- **Accepted items are parsed**, with a comma at the end or without. -/
theorem parse_vectorText {items : List Item} (h : ∀ i ∈ items, i.Accepted) {trailing : Bool}
    (hne : trailing = true → items ≠ []) :
    parse (vectorText items trailing) = some (items.foldl store SparseVec.empty) := by
  by_cases hnil : items = []
  · subst hnil
    have ht : trailing = false := by
      cases trailing with
      | false => rfl
      | true => exact absurd rfl (hne rfl)
    rw [ht]
    rfl
  · rw [parse_eq, tokens_vectorText h hnil, foldlM_bytes items _ h]

/-- **What is parsed is a list of accepted items.** -/
theorem parse_eq_some {text : Str} {r : ResourceVector} (h : parse text = some r) :
    ∃ (items : List Item) (trailing : Bool), (∀ i ∈ items, i.Accepted) ∧ (trailing = true → items ≠ []) ∧
      text = vectorText items trailing := by
  rw [parse_eq] at h
  have hpieces : [comma].intercalate (text.splitOn comma) = text := List.intercalate_splitOn comma
  have hfree : ∀ tok ∈ text.splitOn comma, comma ∉ tok := fun tok htok => notMem_of_mem_splitOn htok
  by_cases hlast : (text.splitOn comma).getLast? = some []
  · have htokens : tokens text = (text.splitOn comma).dropLast := by
      unfold tokens
      rw [if_pos hlast]
    obtain ⟨items, hitems, hbytes, -⟩ := foldlM_eq_some _ _ _
      (fun tok htok => hfree tok (List.mem_of_mem_dropLast (htokens ▸ htok))) h
    have hsplit : text.splitOn comma = items.map Item.bytes ++ [[]] := by
      rw [hbytes, htokens]
      exact (List.dropLast_append_getLast? [] hlast).symm
    by_cases hnil : items = []
    · subst hnil
      refine ⟨[], false, hitems, by simp, ?_⟩
      rw [← hpieces, hsplit]
      rfl
    · refine ⟨items, true, hitems, fun _ => hnil, ?_⟩
      rw [← hpieces, hsplit]
      rfl
  · have htokens : tokens text = text.splitOn comma := by
      unfold tokens
      rw [if_neg hlast]
    obtain ⟨items, hitems, hbytes, -⟩ := foldlM_eq_some _ _ _
      (fun tok htok => hfree tok (htokens ▸ htok)) h
    refine ⟨items, false, hitems, by simp, ?_⟩
    rw [← hpieces, ← htokens, ← hbytes]
    simp [vectorText]

end ResourceVector

end QuotaFabric
