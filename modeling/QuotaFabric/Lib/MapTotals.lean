import Mathlib

/-!
# Finite maps with an iteration order, and totals over them

A hash map is an association list with distinct keys (`AList`).  The order in which a loop
visits it is not part of the map: an `IterOrder` is any function that permutes the entries.

* `emplace`, `modify`, `mapVals` — insertion that keeps an existing entry, update of one entry
  in place, update of every entry in place; `forall_lookup_*` — what is true of all entries stays
  true;
* `SameWhere` — two maps with the same entries of some kind, with one lemma for each way a map changes;
* `total m f` — the sum of `f` over the entries, in any commutative monoid, with one lemma for
  each way a map changes (`total_insert`, `total_erase`, `total_modify`, `total_mapVals`);
* `sum_filter_run` — a guarded sum taken in any iteration order is a `total`;
* `total_comm` — totals over two maps may be exchanged;
* `total_key` — at most one entry has a given key.
-/

set_option autoImplicit false

/-- A finite map from `K` to `V`. -/
abbrev UMap (K V : Type) := AList fun _ : K => V

/-- The order in which one loop visits the entries of a hash map: some permutation of them. -/
structure IterOrder (α : Type) where
  run : List α → List α
  perm : ∀ l, (run l).Perm l

namespace IterOrder

instance {α : Type} : Inhabited (IterOrder α) := ⟨⟨id, fun l => List.Perm.refl l⟩⟩

instance {α : Type} : CoeFun (IterOrder α) fun _ => List α → List α := ⟨IterOrder.run⟩

theorem mem_run {α : Type} (ord : IterOrder α) {l : List α} {x : α} : x ∈ ord l ↔ x ∈ l :=
  (ord.perm l).mem_iff

end IterOrder

namespace AList

variable {K V M : Type}

/-- Apply `f` to every value, keeping keys and order. -/
def mapVals (f : K → V → V) (m : UMap K V) : UMap K V :=
  ⟨m.entries.map fun e => ⟨e.1, f e.1 e.2⟩, m.nodupKeys.map₂ f m.entries⟩

/-- Sum of `f` over the entries of a map. -/
def total [AddCommMonoid M] (m : UMap K V) (f : K → V → M) : M := (m.entries.map fun e => f e.1 e.2).sum

section Total

variable [AddCommMonoid M]

@[simp] theorem total_empty (f : K → V → M) : total (∅ : UMap K V) f = 0 := rfl

theorem total_mapVals (f : K → V → V) (g : K → V → M) (m : UMap K V) :
    total (mapVals f m) g = total m fun k v => g k (f k v) := by
  unfold total mapVals
  rw [List.map_map]; rfl

theorem total_add (m : UMap K V) (f g : K → V → M) :
    (total m fun k v => f k v + g k v) = total m f + total m g := by
  unfold total
  exact List.sum_map_add

theorem total_map_hom {N : Type} [AddCommMonoid N] (φ : M →+ N) (m : UMap K V) (f : K → V → M) :
    φ (total m f) = total m fun k v => φ (f k v) := by
  unfold total
  rw [map_list_sum, List.map_map]; rfl

/-- Totals over two maps may be exchanged. -/
theorem total_comm {K' V' : Type} (m : UMap K V) (m' : UMap K' V') (f : K → V → K' → V' → M) :
    (total m fun k v => total m' fun k' v' => f k v k' v') =
      total m' fun k' v' => total m fun k v => f k v k' v' := by
  unfold total
  induction m.entries with
  | nil => simp
  | cons e l ih =>
    simp only [List.map_cons, List.sum_cons, ih]
    rw [← List.sum_map_add]

/-- A guarded sum, taken in any iteration order, is a total. -/
theorem sum_filter_run (ord : IterOrder (Σ _ : K, V)) (m : UMap K V) (p : K → V → Bool)
    (f : K → V → M) :
    (((ord m.entries).filter fun e => p e.1 e.2).map fun e => f e.1 e.2).sum =
      total m fun k v => if p k v then f k v else 0 := by
  have hp := (((ord.perm m.entries).filter fun e => p e.1 e.2).map fun e => f e.1 e.2).sum_eq
  rw [hp]
  unfold total
  induction m.entries with
  | nil => rfl
  | cons e l ih =>
    cases h : p e.1 e.2 <;> simp [h, ih]

end Total

/-! ## Lookup and update -/

variable [DecidableEq K]

theorem lookup_eq_some_iff {m : UMap K V} {a : K} {b : V} :
    m.lookup a = some b ↔ (⟨a, b⟩ : Σ _ : K, V) ∈ m.entries :=
  mem_lookup_iff

theorem lookup_of_mem_entries {m : UMap K V} {e : Σ _ : K, V} (h : e ∈ m.entries) :
    m.lookup e.1 = some e.2 :=
  lookup_eq_some_iff.mpr h

theorem forall_lookup_iff {m : UMap K V} {p : K → V → Prop} :
    (∀ a b, m.lookup a = some b → p a b) ↔ ∀ e ∈ m.entries, p e.1 e.2 :=
  ⟨fun h e he => h e.1 e.2 (lookup_of_mem_entries he),
    fun h a b hab => h ⟨a, b⟩ (lookup_eq_some_iff.mp hab)⟩

/-- A property of all entries can be checked entry by entry. -/
instance decidableForallLookup {m : UMap K V} {p : K → V → Prop} [∀ a b, Decidable (p a b)] :
    Decidable (∀ a b, m.lookup a = some b → p a b) :=
  decidable_of_iff _ forall_lookup_iff.symm

/-- Maps with the same contents have the same entries, up to their order. -/
theorem entries_perm {m m' : UMap K V} (h : ∀ a, m'.lookup a = m.lookup a) : m'.entries.Perm m.entries := by
  apply List.lookup_ext m'.nodupKeys m.nodupKeys
  intro a b
  have ha : m'.entries.dlookup a = m.entries.dlookup a := h a
  rw [ha]

theorem mem_of_lookup {m : UMap K V} {a : K} {b : V} (h : m.lookup a = some b) : a ∈ m :=
  lookup_isSome.mp (by rw [h]; rfl)

theorem exists_lookup_of_mem {m : UMap K V} {a : K} (h : a ∈ m) : ∃ b, m.lookup a = some b :=
  Option.isSome_iff_exists.mp (lookup_isSome.mpr h)

/-- Insert unless the key is already there. -/
def emplace (a : K) (b : V) (m : UMap K V) : UMap K V := if a ∈ m then m else insert a b m

theorem emplace_of_notMem {a : K} {b : V} {m : UMap K V} (h : a ∉ m) :
    emplace a b m = insert a b m := if_neg h

/-- An entry that is entered and erased leaves no trace. -/
theorem erase_insert_of_notMem {a : K} {m : UMap K V} (h : a ∉ m) (b : V) :
    (m.insert a b).erase a = m := by
  apply AList.ext
  show List.kerase a (m.insert a b).entries = m.entries
  rw [entries_insert_of_notMem h]
  exact List.kerase_cons_eq rfl

/-- Update the value stored under `a`, in place. -/
def modify (a : K) (f : V → V) (m : UMap K V) : UMap K V :=
  mapVals (fun k v => if k = a then f v else v) m

theorem lookup_mapVals (f : K → V → V) (m : UMap K V) (a : K) :
    (mapVals f m).lookup a = (m.lookup a).map (f a) :=
  List.dlookup_map₂ a

theorem mem_mapVals {f : K → V → V} {m : UMap K V} {a : K} : a ∈ mapVals f m ↔ a ∈ m := by
  rw [← lookup_isSome, ← lookup_isSome, lookup_mapVals, Option.isSome_map]

theorem lookup_modify_self (a : K) (f : V → V) (m : UMap K V) :
    (modify a f m).lookup a = (m.lookup a).map f := by
  rw [modify, lookup_mapVals]; simp

theorem lookup_modify_ne {a k : K} (f : V → V) (m : UMap K V) (h : k ≠ a) :
    (modify a f m).lookup k = m.lookup k := by
  rw [modify, lookup_mapVals]; simp [h]

theorem mem_modify {a k : K} {f : V → V} {m : UMap K V} : k ∈ modify a f m ↔ k ∈ m := mem_mapVals

theorem modify_congr {a : K} {f g : V → V} {m : UMap K V} (h : ∀ b, m.lookup a = some b → f b = g b) :
    modify a f m = modify a g m := by
  apply AList.ext
  apply List.map_congr_left
  intro e he
  by_cases hk : e.1 = a
  · obtain ⟨k, v⟩ := e
    subst hk
    simp [h v (lookup_of_mem_entries he)]
  · simp [hk]

/-- An update that stores the value already there leaves the map as it is. -/
theorem modify_eq_self {a : K} {f : V → V} {m : UMap K V} (h : ∀ b, m.lookup a = some b → f b = b) :
    modify a f m = m := by
  rw [modify_congr (g := id) h]
  apply AList.ext
  change m.entries.map _ = m.entries
  simp

/-- An update of a missing key does nothing. -/
theorem modify_of_lookup_none {a : K} {m : UMap K V} (f : V → V) (h : m.lookup a = none) :
    modify a f m = m :=
  modify_eq_self fun b hb => by rw [h] at hb; cases hb

/-- An update of an entry that is then erased leaves no trace. -/
theorem erase_modify (a : K) (f : V → V) (m : UMap K V) : (modify a f m).erase a = m.erase a := by
  apply AList.ext
  change List.kerase a (m.entries.map fun e => ⟨e.1, if e.1 = a then f e.2 else e.2⟩) =
    List.kerase a m.entries
  have hnd := m.nodupKeys
  generalize m.entries = l at hnd ⊢
  induction l with
  | nil => rfl
  | cons e l ih =>
    obtain ⟨hne, hnd'⟩ := List.nodupKeys_cons.mp hnd
    by_cases he : e.1 = a
    · rw [List.map_cons, List.kerase_cons_eq (by exact he.symm), List.kerase_cons_eq he.symm]
      conv_rhs => rw [← List.map_id l]
      apply List.map_congr_left
      intro e' he'
      have hk : e'.1 ≠ a := by
        rintro rfl
        exact hne (by rw [he]; exact List.mem_keys_of_mem he')
      simp [hk]
    · rw [List.map_cons, List.kerase_cons_ne (by exact fun h => he h.symm),
        List.kerase_cons_ne (fun h => he h.symm), ih hnd']
      simp [he]

/-! ## Properties of all entries of a changed map -/

section Forall

variable {p : K → V → Prop} {m : UMap K V}

theorem forall_lookup_insert {k : K} {v : V} (h : ∀ a b, m.lookup a = some b → p a b) (hv : p k v) :
    ∀ a b, (m.insert k v).lookup a = some b → p a b := by
  intro a b hab
  by_cases hk : a = k
  · subst hk
    rw [lookup_insert] at hab
    cases hab
    exact hv
  · rw [lookup_insert_ne hk] at hab
    exact h a b hab

theorem forall_lookup_emplace {k : K} {v : V} (h : ∀ a b, m.lookup a = some b → p a b) (hv : p k v) :
    ∀ a b, (m.emplace k v).lookup a = some b → p a b := by
  unfold emplace
  split
  · exact h
  · exact forall_lookup_insert h hv

theorem forall_lookup_mapVals {f : K → V → V} (h : ∀ a b, m.lookup a = some b → p a b)
    (hf : ∀ a b, p a b → p a (f a b)) : ∀ a b, (m.mapVals f).lookup a = some b → p a b := by
  intro a b hab
  rw [lookup_mapVals] at hab
  obtain ⟨b₀, hb₀, rfl⟩ := Option.map_eq_some_iff.mp hab
  exact hf a b₀ (h a b₀ hb₀)

theorem forall_lookup_modify {k : K} {f : V → V} (h : ∀ a b, m.lookup a = some b → p a b)
    (hf : ∀ b, p k b → p k (f b)) : ∀ a b, (m.modify k f).lookup a = some b → p a b := by
  refine forall_lookup_mapVals h fun a b hab => ?_
  split
  · rename_i hk; subst hk; exact hf b hab
  · exact hab

theorem forall_lookup_erase {k : K} (h : ∀ a b, m.lookup a = some b → p a b) :
    ∀ a b, (m.erase k).lookup a = some b → p a b := by
  intro a b hab
  by_cases hk : a = k
  · subst hk
    rw [lookup_erase] at hab; cases hab
  · rw [lookup_erase_ne hk] at hab
    exact h a b hab

end Forall

/-! ## Entries of one kind -/

/-- The entries that satisfy `P` are the same in both maps. -/
def SameWhere (P : V → Prop) (m m' : UMap K V) : Prop :=
  ∀ a b, P b → (m'.lookup a = some b ↔ m.lookup a = some b)

section SameWhere

variable {P : V → Prop} {m : UMap K V}

theorem SameWhere.refl (P : V → Prop) (m : UMap K V) : SameWhere P m m := fun _ _ _ => Iff.rfl

theorem SameWhere.trans {m' m'' : UMap K V} (h : SameWhere P m m') (h' : SameWhere P m' m'') :
    SameWhere P m m'' :=
  fun a b hb => (h' a b hb).trans (h a b hb)

theorem sameWhere_insert {k : K} {v : V} (hk : k ∉ m) (hv : ¬ P v) : SameWhere P m (m.insert k v) := by
  intro a b hb
  by_cases hak : a = k
  · subst hak
    rw [lookup_insert, lookup_eq_none.mpr hk]
    refine ⟨fun h => ?_, fun h => (by cases h)⟩
    cases h
    exact absurd hb hv
  · rw [lookup_insert_ne hak]

/-- An update in place that leaves the entries with `P` alone and makes no new ones. -/
theorem sameWhere_mapVals {f : K → V → V}
    (h : ∀ a b, m.lookup a = some b → f a b = b ∨ (¬ P b ∧ ¬ P (f a b))) :
    SameWhere P m (m.mapVals f) := by
  intro a b hb
  rw [lookup_mapVals, Option.map_eq_some_iff]
  constructor
  · rintro ⟨b₀, hb₀, rfl⟩
    rcases h a b₀ hb₀ with hsame | ⟨-, hno⟩
    · rw [hsame]; exact hb₀
    · exact absurd hb hno
  · intro hab
    rcases h a b hab with hsame | ⟨hno, -⟩
    · exact ⟨b, hab, hsame⟩
    · exact absurd hb hno

theorem sameWhere_modify {k : K} {f : V → V} (h : ∀ b, m.lookup k = some b → ¬ P b ∧ ¬ P (f b)) :
    SameWhere P m (m.modify k f) := by
  refine sameWhere_mapVals fun a b hab => ?_
  by_cases hak : a = k
  · subst hak
    rw [if_pos rfl]
    exact Or.inr (h b hab)
  · rw [if_neg hak]
    exact Or.inl rfl

theorem sameWhere_erase {k : K} (h : ∀ b, m.lookup k = some b → ¬ P b) : SameWhere P m (m.erase k) := by
  intro a b hb
  by_cases hak : a = k
  · subst hak
    rw [lookup_erase]
    exact ⟨fun hc => (by cases hc), fun hab => absurd hb (h b hab)⟩
  · rw [lookup_erase_ne hak]

end SameWhere

/-! ## Totals of a changed map -/

section Changed

variable [AddCommMonoid M]

theorem total_insert {a : K} {m : UMap K V} (b : V) (f : K → V → M) (h : a ∉ m) :
    total (insert a b m) f = f a b + total m f := by
  unfold total
  rw [entries_insert_of_notMem h, List.map_cons, List.sum_cons]

/-- The entry under `a`, and the others. -/
theorem entries_perm_erase {a : K} {b : V} {m : UMap K V} (h : m.lookup a = some b) :
    m.entries.Perm (⟨a, b⟩ :: (m.erase a).entries) := by
  obtain ⟨b', l₁, l₂, -, hm, he⟩ := List.exists_of_kerase (mem_of_lookup h)
  have hb : b' = b := by
    have hmem : (⟨a, b'⟩ : Σ _ : K, V) ∈ m.entries := by rw [hm]; simp
    have h' := lookup_of_mem_entries hmem
    rw [h] at h'
    exact (Option.some.inj h').symm
  subst hb
  change m.entries.Perm (⟨a, b'⟩ :: List.kerase a m.entries)
  rw [he, hm]
  exact List.perm_middle

theorem total_erase {a : K} {b : V} {m : UMap K V} (f : K → V → M) (h : m.lookup a = some b) :
    total m f = f a b + total (m.erase a) f := by
  have hp := (entries_perm_erase h).map fun e => f e.1 e.2
  exact hp.sum_eq

theorem total_congr {m : UMap K V} {f g : K → V → M}
    (h : ∀ a b, m.lookup a = some b → f a b = g a b) : total m f = total m g := by
  unfold total
  congr 1
  apply List.map_congr_left
  intro e he
  exact h e.1 e.2 (lookup_of_mem_entries he)

/-- Two maps that have the same entries where `p` holds have the same sum over these. -/
theorem total_guard_congr {m m' : UMap K V} {p p' : K → V → Bool} {f : K → V → M}
    (h : ∀ a b, (m'.lookup a = some b ∧ p' a b = true) ↔ (m.lookup a = some b ∧ p a b = true)) :
    (total m' fun k v => if p' k v then f k v else 0) = total m fun k v => if p k v then f k v else 0 := by
  have hnd : ∀ m : UMap K V, m.entries.Nodup := fun m => .of_map _ m.nodupKeys
  have hperm : (m'.entries.filter fun e => p' e.1 e.2).Perm (m.entries.filter fun e => p e.1 e.2) := by
    refine (List.perm_ext_iff_of_nodup ((hnd m').filter _) ((hnd m).filter _)).mpr fun e => ?_
    rw [List.mem_filter, List.mem_filter, ← lookup_eq_some_iff, ← lookup_eq_some_iff]
    exact h e.1 e.2
  have hsum := (hperm.map fun e => f e.1 e.2).sum_eq
  have hid : ∀ l : List (Σ _ : K, V), (default : IterOrder (Σ _ : K, V)) l = l := fun _ => rfl
  rw [← sum_filter_run default m', ← sum_filter_run default m, hid, hid]
  exact hsum

/-- A total depends on the contents of the map only. -/
theorem total_of_lookup {m m' : UMap K V} (h : ∀ a, m'.lookup a = m.lookup a) (f : K → V → M) :
    total m' f = total m f := by
  have hperm := (entries_perm h).map fun e => f e.1 e.2
  exact hperm.sum_eq

theorem total_eq_zero {m : UMap K V} {f : K → V → M} (h : ∀ a b, m.lookup a = some b → f a b = 0) :
    total m f = 0 := by
  rw [total_congr h]
  unfold total
  simp

/-- A changed entry trades its old contribution for its new one. -/
theorem total_modify {a : K} {b : V} {m : UMap K V} (u : V → V) (f : K → V → M)
    (h : m.lookup a = some b) : total (modify a u m) f + f a b = f a (u b) + total m f := by
  have hrest : (total (m.erase a) fun k v => f k (if k = a then u v else v)) = total (m.erase a) f := by
    apply total_congr
    intro k v hk
    have hne : k ≠ a := by
      rintro rfl
      rw [lookup_erase] at hk; cases hk
    rw [if_neg hne]
  rw [modify, total_mapVals, total_erase _ h, hrest, total_erase f h, if_pos rfl]
  abel

/-- An update that keeps an entry's contribution keeps the total. -/
theorem total_modify_same {a : K} {m : UMap K V} {u : V → V} {f : K → V → M}
    (h : ∀ b, m.lookup a = some b → f a (u b) = f a b) : total (modify a u m) f = total m f := by
  rw [modify, total_mapVals]
  apply total_congr
  intro k v hk
  by_cases hka : k = a
  · subst hka
    rw [if_pos rfl]
    exact h v hk
  · rw [if_neg hka]

/-- At most one entry has a given key. -/
theorem total_key (m : UMap K V) (a : K) (f : V → M) :
    (total m fun k v => if k = a then f v else 0) = ((m.lookup a).map f).getD 0 := by
  have hne : ∀ m' : UMap K V, m'.lookup a = none →
      (total m' fun k v => if k = a then f v else 0) = 0 := by
    intro m' h
    apply total_eq_zero
    intro k v hk
    rw [if_neg]
    rintro rfl
    rw [h] at hk; cases hk
  cases h : m.lookup a with
  | none => exact hne m h
  | some b =>
    rw [total_erase _ h, if_pos rfl, hne _ (lookup_erase a m), add_zero]; rfl

end Changed

/-! ## Totals of integers -/

theorem total_nonneg {m : UMap K V} {f : K → V → Int}
    (h : ∀ a b, m.lookup a = some b → 0 ≤ f a b) : 0 ≤ total m f := by
  unfold total
  apply List.sum_nonneg
  intro x hx
  obtain ⟨e, he, rfl⟩ := List.mem_map.mp hx
  exact h e.1 e.2 (lookup_of_mem_entries he)

theorem total_le_total {m : UMap K V} {f g : K → V → Int}
    (h : ∀ a b, m.lookup a = some b → f a b ≤ g a b) : total m f ≤ total m g := by
  unfold total
  apply List.sum_le_sum
  intro e he
  exact h e.1 e.2 (lookup_of_mem_entries he)

end AList
