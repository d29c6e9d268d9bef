import QuotaFabric.Lib.MapTotals

/-!
# Maps whose entries stay

`Persists R m m'` says that every entry of `m` is still in `m'`, with a value that `R` allows it to have
become.  What only adds keys, or changes values within `R`, keeps this.
-/

set_option autoImplicit false

namespace AList

variable {K V : Type} [DecidableEq K] {R : V → V → Prop} {m m' m'' : UMap K V}

/-- Every entry of `m` is in `m'`, with a value its own may have become. -/
def Persists (R : V → V → Prop) (m m' : UMap K V) : Prop :=
  ∀ k v, m.lookup k = some v → ∃ v', m'.lookup k = some v' ∧ R v v'

theorem Persists.refl (hR : ∀ v, R v v) (m : UMap K V) : Persists R m m := fun _ v h => ⟨v, h, hR v⟩

theorem Persists.of_eq (hR : ∀ v, R v v) (h : m' = m) : Persists R m m' := h ▸ .refl hR m

theorem Persists.trans (hR : ∀ u v w, R u v → R v w → R u w) (h : Persists R m m') (h' : Persists R m' m'') :
    Persists R m m'' := by
  intro k v hv
  obtain ⟨v', hv', h1⟩ := h k v hv
  obtain ⟨v'', hv'', h2⟩ := h' k v' hv'
  exact ⟨v'', hv'', hR v v' v'' h1 h2⟩

theorem persists_emplace (hR : ∀ v, R v v) (k : K) (v : V) : Persists R m (m.emplace k v) := by
  unfold emplace
  split
  · exact .refl hR m
  · rename_i hk
    intro a b hb
    refine ⟨b, ?_, hR b⟩
    rw [lookup_insert_ne]
    · exact hb
    · rintro rfl
      exact hk (mem_of_lookup hb)

theorem persists_mapVals {f : K → V → V} (h : ∀ k v, m.lookup k = some v → R v (f k v)) :
    Persists R m (m.mapVals f) := by
  intro k v hv
  refine ⟨f k v, ?_, h k v hv⟩
  rw [lookup_mapVals, hv]
  rfl

theorem persists_modify (hR : ∀ v, R v v) {k : K} {f : V → V} (h : ∀ v, m.lookup k = some v → R v (f v)) :
    Persists R m (m.modify k f) := by
  intro a v hv
  by_cases ha : a = k
  · subst ha
    refine ⟨f v, ?_, h v hv⟩
    rw [lookup_modify_self, hv]
    rfl
  · refine ⟨v, ?_, hR v⟩
    rw [lookup_modify_ne _ _ ha]
    exact hv

end AList
