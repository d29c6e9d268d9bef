import QuotaFabric.Core.Records
import QuotaFabric.Lib.Numerals

/-!
# Identities as text

Model of `detail::hex_digit` and `StrongId::from_hex` (`core/ids.hpp`), the reading side of
`StrongId.toHex`.

* `fromHexLoop` — the loop over the 32 digits, the first sixteen into the high word;
* `shiftIn` — four bits a digit into one word: reading a numeral in base 16;
* `toHex_eq` — what `to_hex` prints, as the base-16 digits of both words.

Principal result: `hex_round_trip` — every id reads back, a string of 32 digits prints back in
lower case with or without its prefix, and everything else reads as the null id.
-/

set_option autoImplicit false

namespace QuotaFabric

/-- `detail::hex_digit`: the value of a digit, `-1` for any other character. -/
def hexDigit (c : UInt8) : Int :=
  if '0'.toUInt8 ≤ c ∧ c ≤ '9'.toUInt8 then (c.toNat : Int) - '0'.toNat
  else if 'a'.toUInt8 ≤ c ∧ c ≤ 'f'.toUInt8 then 10 + ((c.toNat : Int) - 'a'.toNat)
  else if 'A'.toUInt8 ≤ c ∧ c ≤ 'F'.toUInt8 then 10 + ((c.toNat : Int) - 'A'.toNat)
  else -1

namespace StrongId

variable {tag : IdTag}

/-- The loop of `from_hex` over the remaining digits, from position `i` on. -/
def fromHexLoop : Str → Nat → UInt64 → UInt64 → StrongId tag
  | [], _, hi, lo => ⟨hi, lo⟩
  | c :: cs, i, hi, lo =>
    if hexDigit c < 0 then {}
    else if i < 16 then fromHexLoop cs (i + 1) ((hi <<< 4) ||| UInt64.ofNat (hexDigit c).toNat) lo
    else fromHexLoop cs (i + 1) hi ((lo <<< 4) ||| UInt64.ofNat (hexDigit c).toNat)

/-- `hex.starts_with("0x") || hex.starts_with("0X")`. -/
def hasHexPrefix (hex : Str) : Bool := (text "0x").isPrefixOf hex || (text "0X").isPrefixOf hex

/-- `hex.remove_prefix(2)` after either prefix. -/
def withoutPrefix (hex : Str) : Str := if hasHexPrefix hex then hex.drop 2 else hex

def fromHex (hex : Str) : StrongId tag :=
  if (withoutPrefix hex).length ≠ 32 then {} else fromHexLoop (withoutPrefix hex) 0 0 0

end StrongId

/-! ## What the text form is -/

/-- The character `to_hex` prints for a digit. -/
def hexChar (x : Nat) : UInt8 := (text "0123456789abcdef").getD x 0

/-- A hexadecimal digit, in any case. -/
def IsHexDigit (c : UInt8) : Prop :=
  ('0'.toUInt8 ≤ c ∧ c ≤ '9'.toUInt8) ∨ ('a'.toUInt8 ≤ c ∧ c ≤ 'f'.toUInt8) ∨
    ('A'.toUInt8 ≤ c ∧ c ≤ 'F'.toUInt8)

/-- A string of 32 hexadecimal digits, in any case. -/
def IsHexId (s : Str) : Prop := s.length = 32 ∧ ∀ c ∈ s, IsHexDigit c

/-- Lower case of an ASCII character. -/
def toLower (c : UInt8) : UInt8 := if 'A'.toUInt8 ≤ c ∧ c ≤ 'Z'.toUInt8 then c + 32 else c

instance (c : UInt8) : Decidable (IsHexDigit c) := by unfold IsHexDigit; infer_instance

instance (s : Str) : Decidable (IsHexId s) := by unfold IsHexId; infer_instance

/-! ## One digit -/

/-- A fact about bytes, checked value by value. -/
theorem forall_byte {P : UInt8 → Prop} (h : ∀ n < 256, P (UInt8.ofNat n)) (c : UInt8) : P c := by
  have hc := h c.toNat c.toNat_lt
  rwa [UInt8.ofNat_toNat] at hc

/-- What `hex_digit` is on each of the 256 characters. -/
theorem hexDigit_table : ∀ n < 256, (hexDigit (UInt8.ofNat n) < 0 ↔ ¬IsHexDigit (UInt8.ofNat n)) ∧
    (hexDigit (UInt8.ofNat n)).toNat < 16 ∧
    (IsHexDigit (UInt8.ofNat n) → hexChar (hexDigit (UInt8.ofNat n)).toNat = toLower (UInt8.ofNat n)) := by
  decide +kernel

theorem hexDigit_neg_iff : ∀ c : UInt8, hexDigit c < 0 ↔ ¬IsHexDigit c :=
  forall_byte fun n hn => (hexDigit_table n hn).1

theorem hexDigit_lt : ∀ c : UInt8, (hexDigit c).toNat < 16 :=
  forall_byte fun n hn => (hexDigit_table n hn).2.1

theorem hexChar_hexDigit : ∀ {c : UInt8}, IsHexDigit c → hexChar (hexDigit c).toNat = toLower c :=
  fun {c} => forall_byte (P := fun c => IsHexDigit c → hexChar (hexDigit c).toNat = toLower c)
    (fun n hn => (hexDigit_table n hn).2.2) c

/-- What `to_hex` writes for each of the 16 values. -/
theorem hexChar_table : ∀ x < 16, hexDigit (hexChar x) = x ∧ IsHexDigit (hexChar x) := by decide +kernel

theorem hexDigit_hexChar {x : Nat} (hx : x < 16) : hexDigit (hexChar x) = x := (hexChar_table x hx).1

theorem isHexDigit_hexChar {x : Nat} (hx : x < 16) : IsHexDigit (hexChar x) := (hexChar_table x hx).2

/-! ## One word -/

/-- Four bits a digit into a word: what the loop does to `hi` and to `lo`. -/
def shiftIn (w : UInt64) (xs : List Nat) : UInt64 :=
  xs.foldl (fun w x => (w <<< 4) ||| UInt64.ofNat x) w

/-- The digits of a string, as `hex_digit` reads them. -/
def nibbles (s : Str) : List Nat := s.map fun c => (hexDigit c).toNat

theorem nibbles_lt {s : Str} : ∀ x ∈ nibbles s, x < 16 := by
  intro x hx
  obtain ⟨c, -, rfl⟩ := List.mem_map.mp hx
  exact hexDigit_lt c

theorem toNat_shiftIn_one (w : UInt64) {x : Nat} (hx : x < 16) :
    ((w <<< 4) ||| UInt64.ofNat x).toNat = (16 * w.toNat + x) % 2 ^ 64 := by
  have hlow : (UInt64.ofNat x).toNat = x := by
    rw [UInt64.toNat_ofNat', Nat.mod_eq_of_lt (by omega)]
  -- the shifted word is a multiple of sixteen, so the digit falls into free bits
  have hshift : (w <<< 4).toNat = (w.toNat % 2 ^ 60) <<< 4 := by
    rw [UInt64.toNat_shiftLeft, Nat.shiftLeft_eq, Nat.shiftLeft_eq]
    change w.toNat * 2 ^ 4 % 2 ^ 64 = w.toNat % 2 ^ 60 * 2 ^ 4
    omega
  rw [UInt64.toNat_or, hlow, hshift, ← Nat.shiftLeft_add_eq_or_of_lt (by omega), Nat.shiftLeft_eq]
  omega

/-- **Shifting digits in reads a numeral.** -/
theorem toNat_shiftIn (xs : List Nat) (h : ∀ x ∈ xs, x < 16) :
    (shiftIn 0 xs).toNat = numeral 16 xs % 2 ^ 64 := by
  induction xs using List.reverseRecOn with
  | nil => rfl
  | append_singleton xs x ih =>
    have hx := h x (by simp)
    have hstep : shiftIn 0 (xs ++ [x]) = (shiftIn 0 xs <<< 4) ||| UInt64.ofNat x := by
      unfold shiftIn
      rw [List.foldl_append]
      rfl
    rw [hstep, toNat_shiftIn_one _ hx, ih fun y hy => h y (by simp [hy]), numeral_snoc]
    omega

/-- Sixteen digits fill a word exactly. -/
theorem digitsOf_shiftIn {xs : List Nat} (hlen : xs.length = 16) (h : ∀ x ∈ xs, x < 16) :
    digitsOf 16 16 (shiftIn 0 xs).toNat = xs := by
  have hlt : numeral 16 xs < 2 ^ 64 := by
    have := numeral_lt xs h
    rw [hlen] at this
    exact this
  have hback := digitsOf_numeral xs h
  rw [hlen] at hback
  rw [toNat_shiftIn xs h, Nat.mod_eq_of_lt hlt, hback]

/-- The digits of a word shift back into it. -/
theorem shiftIn_digitsOf (w : UInt64) : shiftIn 0 (digitsOf 16 16 w.toNat) = w := by
  apply UInt64.toNat_inj.mp
  have hw := w.toNat_lt
  rw [toNat_shiftIn _ (digitsOf_lt (by decide) 16 _), numeral_digitsOf]
  omega

/-! ## The loop -/

namespace StrongId

variable {tag : IdTag}

/-- From the sixteenth digit on, the low word takes them in. -/
theorem fromHexLoop_low : ∀ (cs : Str) (i : Nat) (hi lo : UInt64), 16 ≤ i → (∀ c ∈ cs, IsHexDigit c) →
    (fromHexLoop cs i hi lo : StrongId tag) = ⟨hi, shiftIn lo (nibbles cs)⟩
  | [], _, _, _, _, _ => rfl
  | c :: cs, i, hi, lo, hi16, hdig => by
    have hc : ¬hexDigit c < 0 := fun h => (hexDigit_neg_iff c).mp h (hdig c List.mem_cons_self)
    rw [fromHexLoop, if_neg hc, if_neg (by omega),
      fromHexLoop_low cs (i + 1) _ _ (by omega) fun x hx => hdig x (List.mem_cons_of_mem c hx)]
    rfl

/-- Before it, the high word does. -/
theorem fromHexLoop_high : ∀ (as cs : Str) (i : Nat) (hi lo : UInt64), i + as.length ≤ 16 →
    (∀ c ∈ as, IsHexDigit c) → (fromHexLoop (as ++ cs) i hi lo : StrongId tag) =
      fromHexLoop cs (i + as.length) (shiftIn hi (nibbles as)) lo
  | [], _, _, _, _, _, _ => rfl
  | c :: as, cs, i, hi, lo, hlen, hdig => by
    have hc : ¬hexDigit c < 0 := fun h => (hexDigit_neg_iff c).mp h (hdig c List.mem_cons_self)
    rw [List.length_cons] at hlen
    rw [List.cons_append, fromHexLoop, if_neg hc, if_pos (by omega),
      fromHexLoop_high as cs (i + 1) _ _ (by omega) fun x hx => hdig x (List.mem_cons_of_mem c hx),
      List.length_cons, show i + 1 + as.length = i + (as.length + 1) by omega]
    rfl

/-- One character that is no digit ends the loop with the null id. -/
theorem fromHexLoop_bad : ∀ (cs : Str) (i : Nat) (hi lo : UInt64), (∃ c ∈ cs, ¬IsHexDigit c) →
    (fromHexLoop cs i hi lo : StrongId tag) = {}
  | [], _, _, _, h => by simp at h
  | c :: cs, i, hi, lo, h => by
    rw [fromHexLoop]
    by_cases hc : IsHexDigit c
    · have hrest : ∃ x ∈ cs, ¬IsHexDigit x := by
        obtain ⟨x, hx, hbad⟩ := h
        rcases List.mem_cons.mp hx with rfl | hx
        · exact absurd hc hbad
        · exact ⟨x, hx, hbad⟩
      rw [if_neg fun h => (hexDigit_neg_iff c).mp h hc]
      split
      · exact fromHexLoop_bad cs _ _ _ hrest
      · exact fromHexLoop_bad cs _ _ _ hrest
    · rw [if_pos ((hexDigit_neg_iff c).mpr hc)]

/-- **The loop over 32 digits**: sixteen into each word. -/
theorem fromHexLoop_eq {s : Str} (h : IsHexId s) : (fromHexLoop s 0 0 0 : StrongId tag) =
    ⟨shiftIn 0 (nibbles (s.take 16)), shiftIn 0 (nibbles (s.drop 16))⟩ := by
  have hlen : (s.take 16).length = 16 := by rw [List.length_take, h.1]; rfl
  have hhigh : (fromHexLoop (s.take 16 ++ s.drop 16) 0 0 0 : StrongId tag) =
      fromHexLoop (s.drop 16) (0 + (s.take 16).length) (shiftIn 0 (nibbles (s.take 16))) 0 :=
    fromHexLoop_high _ _ 0 0 0 (by omega) fun c hc => h.2 c (List.mem_of_mem_take hc)
  rw [List.take_append_drop] at hhigh
  rw [hhigh, hlen, fromHexLoop_low _ _ _ _ (by omega) fun c hc => h.2 c (List.mem_of_mem_drop hc)]

/-! ## Printing -/

/-- `to_hex` prints the base-16 digits of both words. -/
theorem toHex_eq (id : StrongId tag) :
    id.toHex = (digitsOf 16 16 id.hi.toNat ++ digitsOf 16 16 id.lo.toNat).map hexChar := by
  have hword : ∀ w : UInt64, ((List.range 16).map fun j =>
      (text "0123456789abcdef").getD ((w >>> UInt64.ofNat ((15 - j) * 4)) &&& 0xF).toNat 0) =
        (digitsOf 16 16 w.toNat).map hexChar := by
    intro w
    rw [digitsOf_eq_map, List.map_map]
    apply List.map_congr_left
    intro j hj
    have hj := List.mem_range.mp hj
    have hshift : ((w >>> UInt64.ofNat ((15 - j) * 4)) &&& 0xF).toNat =
        w.toNat / 16 ^ (16 - 1 - j) % 16 := by
      have hk : (UInt64.ofNat ((15 - j) * 4)).toNat % 64 = 4 * (16 - 1 - j) := by
        rw [UInt64.toNat_ofNat']
        omega
      rw [UInt64.toNat_and, UInt64.toNat_shiftRight, hk, Nat.shiftRight_eq_div_pow, pow_mul]
      exact Nat.and_two_pow_sub_one_eq_mod _ 4
    rw [hshift]
    rfl
  unfold toHex
  rw [List.map_append, ← hword, ← hword]

theorem isHexId_toHex (id : StrongId tag) : IsHexId id.toHex := by
  rw [toHex_eq]
  refine ⟨by simp, fun c hc => ?_⟩
  obtain ⟨x, hx, rfl⟩ := List.mem_map.mp hc
  apply isHexDigit_hexChar
  rcases List.mem_append.mp hx with hx | hx
  · exact digitsOf_lt (by decide) 16 _ x hx
  · exact digitsOf_lt (by decide) 16 _ x hx

/-! ## Reading -/

/-- What may stand before the digits. -/
def hexPrefixes : List Str := [[], text "0x", text "0X"]

theorem text_prefixes :
    text "0x" = ['0'.toUInt8, 'x'.toUInt8] ∧ text "0X" = ['0'.toUInt8, 'X'.toUInt8] := by decide +kernel

/-- The prefix is never taken off 32 digits: `x` is none. -/
theorem not_hasHexPrefix {s : Str} (h : IsHexId s) : hasHexPrefix s = false := by
  have hx : ∀ p : Str, (∃ c ∈ p, ¬IsHexDigit c) → p.isPrefixOf s = false := by
    rintro p ⟨c, hc, hbad⟩
    by_contra hpre
    obtain ⟨rest, rfl⟩ : p <+: s := by simpa using hpre
    exact hbad (h.2 c (List.mem_append_left rest hc))
  unfold hasHexPrefix
  rw [text_prefixes.1, text_prefixes.2, hx _ ⟨'x'.toUInt8, by decide, by decide⟩,
    hx _ ⟨'X'.toUInt8, by decide, by decide⟩]
  rfl

theorem withoutPrefix_append {pre s : Str} (hpre : pre ∈ hexPrefixes) (h : IsHexId s) :
    withoutPrefix (pre ++ s) = s := by
  unfold withoutPrefix
  simp only [hexPrefixes, List.mem_cons, List.not_mem_nil, or_false] at hpre
  obtain rfl | rfl | rfl := hpre
  · rw [List.nil_append, not_hasHexPrefix h]
    rfl
  all_goals
    unfold hasHexPrefix
    rw [text_prefixes.1, text_prefixes.2]
    rfl

/-- What is taken off is one of the prefixes. -/
theorem exists_prefix (s : Str) : ∃ pre ∈ hexPrefixes, s = pre ++ withoutPrefix s := by
  have hcut : ∀ p : Str, p.length = 2 → p.isPrefixOf s = true → s = p ++ s.drop 2 := by
    intro p hp hstart
    obtain ⟨rest, rfl⟩ : p <+: s := by simpa using hstart
    rw [List.drop_left' hp]
  unfold withoutPrefix hasHexPrefix
  by_cases hx : (text "0x").isPrefixOf s = true
  · refine ⟨text "0x", by simp [hexPrefixes], ?_⟩
    simp only [hx, Bool.true_or, ↓reduceIte]
    exact hcut _ (congrArg List.length text_prefixes.1) hx
  · by_cases hX : (text "0X").isPrefixOf s = true
    · refine ⟨text "0X", by simp [hexPrefixes], ?_⟩
      simp only [hX, Bool.or_true, ↓reduceIte]
      exact hcut _ (congrArg List.length text_prefixes.2) hX
    · refine ⟨[], by simp [hexPrefixes], ?_⟩
      simp only [hx, hX, Bool.or_self, Bool.false_eq_true, ↓reduceIte, List.nil_append]

/-- With any of the prefixes, the loop sees the digits only. -/
theorem fromHex_append {pre s : Str} (hpre : pre ∈ hexPrefixes) (h : IsHexId s) :
    (fromHex (pre ++ s) : StrongId tag) = fromHexLoop s 0 0 0 := by
  unfold fromHex
  rw [withoutPrefix_append hpre h, if_neg (not_not.mpr h.1)]

/-- Printed digits read back. -/
theorem fromHexLoop_toHex (id : StrongId tag) : fromHexLoop id.toHex 0 0 0 = id := by
  have hback : ∀ xs : List Nat, (∀ x ∈ xs, x < 16) → nibbles (xs.map hexChar) = xs := by
    intro xs hxs
    unfold nibbles
    rw [List.map_map]
    refine (List.map_congr_left fun x hx => ?_).trans (List.map_id xs)
    rw [Function.comp_apply, hexDigit_hexChar (hxs x hx)]
    rfl
  have hlen := length_digitsOf (b := 16) 16 id.hi.toNat
  have htake : (id.toHex).take 16 = (digitsOf 16 16 id.hi.toNat).map hexChar := by
    rw [toHex_eq, List.map_append, List.take_left' (by rw [List.length_map, hlen])]
  have hdrop : (id.toHex).drop 16 = (digitsOf 16 16 id.lo.toNat).map hexChar := by
    rw [toHex_eq, List.map_append, List.drop_left' (by rw [List.length_map, hlen])]
  rw [fromHexLoop_eq (isHexId_toHex id), htake, hdrop, hback _ (digitsOf_lt (by decide) 16 _),
    hback _ (digitsOf_lt (by decide) 16 _), shiftIn_digitsOf, shiftIn_digitsOf]

/-- Digits print back in lower case. -/
theorem toHex_fromHexLoop {s : Str} (h : IsHexId s) :
    (fromHexLoop s 0 0 0 : StrongId tag).toHex = s.map toLower := by
  have hlow : (nibbles s).map hexChar = s.map toLower := by
    unfold nibbles
    rw [List.map_map]
    exact List.map_congr_left fun c hc => hexChar_hexDigit (h.2 c hc)
  have htake : (nibbles (s.take 16)).length = 16 := by
    unfold nibbles
    rw [List.length_map, List.length_take, h.1]
    rfl
  have hdrop : (nibbles (s.drop 16)).length = 16 := by
    unfold nibbles
    rw [List.length_map, List.length_drop, h.1]
  have hsplit : nibbles (s.take 16) ++ nibbles (s.drop 16) = nibbles s := by
    unfold nibbles
    rw [← List.map_append, List.take_append_drop]
  rw [fromHexLoop_eq h, toHex_eq, digitsOf_shiftIn htake nibbles_lt, digitsOf_shiftIn hdrop nibbles_lt,
    hsplit, hlow]

/-- Anything else reads as the null id. -/
theorem fromHex_of_no_digits {s : Str} (h : ∀ pre ∈ hexPrefixes, ∀ t, IsHexId t → s ≠ pre ++ t) :
    (fromHex s : StrongId tag) = {} := by
  obtain ⟨pre, hmem, heq⟩ := exists_prefix s
  have hno : ¬IsHexId (withoutPrefix s) := fun hid => h pre hmem _ hid heq
  unfold fromHex
  split
  · rfl
  · rename_i hlen
    apply fromHexLoop_bad
    by_contra hall
    push Not at hall
    exact hno ⟨not_not.mp hlen, hall⟩

/-- **Identities survive their text form**: every id reads back; 32 digits, in any case and with or
    without a prefix, print back in lower case; every other string reads as the null id. -/
theorem hex_round_trip :
    (∀ id : StrongId tag, fromHex id.toHex = id) ∧
    (∀ pre ∈ hexPrefixes, ∀ s, IsHexId s → (fromHex (pre ++ s) : StrongId tag).toHex = s.map toLower) ∧
    ∀ s, (∀ pre ∈ hexPrefixes, ∀ t, IsHexId t → s ≠ pre ++ t) → (fromHex s : StrongId tag) = {} := by
  refine ⟨fun id => ?_, fun pre hpre s h => ?_, fun s h => fromHex_of_no_digits h⟩
  · have hloop : (fromHex ([] ++ id.toHex) : StrongId tag) = fromHexLoop id.toHex 0 0 0 :=
      fromHex_append (by simp [hexPrefixes]) (isHexId_toHex id)
    rw [List.nil_append] at hloop
    rw [hloop, fromHexLoop_toHex]
  · rw [fromHex_append hpre h, toHex_fromHexLoop h]

/-- A prefixed spelling in mixed case, across the word boundary. -/
theorem hex_round_trip_mixed :
    (fromHex (text "0X" ++ text "00000000000000Fe1Cd00000000000aB") : TenantId).toHex =
      (text "00000000000000Fe1Cd00000000000aB").map toLower :=
  hex_round_trip.2.1 _ (by simp [hexPrefixes]) _ (by decide +kernel)

end StrongId

end QuotaFabric
