import QuotaFabric.Lib.MapTotals

/-!
# Double-entry records

Two maps that record the same facts from two sides: every entry of the first names, by `link`, an
entry of the second that agrees with it, no two entries name the same one, and every entry of the
second is named.

* `Linked.insert` — a fact entered on both sides;
* `Linked.modify` — a fact changed on both sides;
* `total_insert_both`, `total_modify_both` — as long as both sides weigh a fact alike, the totals
  of the two maps move together.
-/

set_option autoImplicit false

variable {K₁ K₂ A B : Type} [DecidableEq K₁] [DecidableEq K₂]

/-- The entries of `m₁` and of `m₂` are the two sides of the same facts. -/
structure Linked (link : A → K₂) (Agrees : A → B → Prop) (m₁ : UMap K₁ A) (m₂ : UMap K₂ B) : Prop where
  pair : ∀ k a, m₁.lookup k = some a → ∃ b, m₂.lookup (link a) = some b ∧ Agrees a b
  distinct : ∀ k a k' a', m₁.lookup k = some a → m₁.lookup k' = some a' → link a = link a' → k = k'
  named : ∀ j b, m₂.lookup j = some b → ∃ k a, m₁.lookup k = some a ∧ link a = j

namespace Linked

open AList

variable {link : A → K₂} {Agrees : A → B → Prop} {m₁ : UMap K₁ A} {m₂ : UMap K₂ B}

theorem empty : Linked link Agrees (∅ : UMap K₁ A) (∅ : UMap K₂ B) :=
  ⟨fun k a h => (by cases h), fun k a k' a' h => (by cases h), fun j b h => (by cases h)⟩

/-- A fact entered on both sides, under new keys. -/
theorem insert (h : Linked link Agrees m₁ m₂) {k : K₁} {a : A} {b : B} (hk : k ∉ m₁)
    (hlink : link a ∉ m₂) (hR : Agrees a b) : Linked link Agrees (m₁.insert k a) (m₂.insert (link a) b) where
  pair k' a' h' := by
    by_cases hk' : k' = k
    · subst hk'
      rw [lookup_insert] at h'
      cases h'
      exact ⟨b, lookup_insert m₂, hR⟩
    · rw [lookup_insert_ne hk'] at h'
      obtain ⟨b', hb', hR'⟩ := h.pair k' a' h'
      refine ⟨b', ?_, hR'⟩
      rw [lookup_insert_ne]
      · exact hb'
      · intro heq
        rw [heq] at hb'
        exact hlink (mem_of_lookup hb')
  distinct k₁ a₁ k₂ a₂ h₁ h₂ heq := by
    -- an old entry never names the new key
    have hold : ∀ k' a', m₁.lookup k' = some a' → link a' ≠ link a := by
      intro k' a' h' heq'
      obtain ⟨b', hb', -⟩ := h.pair k' a' h'
      rw [heq'] at hb'
      exact hlink (mem_of_lookup hb')
    by_cases hk₁ : k₁ = k <;> by_cases hk₂ : k₂ = k
    · exact hk₁.trans hk₂.symm
    · subst hk₁
      rw [lookup_insert] at h₁
      rw [lookup_insert_ne hk₂] at h₂
      cases h₁
      exact absurd heq.symm (hold k₂ a₂ h₂)
    · subst hk₂
      rw [lookup_insert] at h₂
      rw [lookup_insert_ne hk₁] at h₁
      cases h₂
      exact absurd heq (hold k₁ a₁ h₁)
    · rw [lookup_insert_ne hk₁] at h₁
      rw [lookup_insert_ne hk₂] at h₂
      exact h.distinct k₁ a₁ k₂ a₂ h₁ h₂ heq
  named j b' h' := by
    by_cases hj : j = link a
    · exact ⟨k, a, lookup_insert m₁, hj.symm⟩
    · rw [lookup_insert_ne hj] at h'
      obtain ⟨k', a', ha', hl'⟩ := h.named j b' h'
      refine ⟨k', a', ?_, hl'⟩
      rw [lookup_insert_ne]
      · exact ha'
      · rintro rfl; exact hk (mem_of_lookup ha')

/-- A fact changed on both sides. -/
theorem modify (h : Linked link Agrees m₁ m₂) {k : K₁} {a : A} (ha : m₁.lookup k = some a)
    {f : A → A} {g : B → B} (hlink : link (f a) = link a)
    (hR : ∀ b, Agrees a b → Agrees (f a) (g b)) :
    Linked link Agrees (m₁.modify k f) (m₂.modify (link a) g) := by
  -- an entry after the change comes from one with the same link
  have hback : ∀ k' a', (m₁.modify k f).lookup k' = some a' →
      ∃ a₀, m₁.lookup k' = some a₀ ∧ link a' = link a₀ ∧ (k' = k → a' = f a) ∧ (k' ≠ k → a' = a₀) := by
    intro k' a' h'
    by_cases hk : k' = k
    · subst hk
      rw [lookup_modify_self, ha] at h'
      cases h'
      exact ⟨a, ha, hlink, fun _ => rfl, fun hne => absurd rfl hne⟩
    · rw [lookup_modify_ne f m₁ hk] at h'
      exact ⟨a', h', rfl, fun heq => absurd heq hk, fun _ => rfl⟩
  constructor
  · intro k' a' h'
    obtain ⟨a₀, h₀, hl, hself, hne⟩ := hback k' a' h'
    obtain ⟨b, hb, hRb⟩ := h.pair k' a₀ h₀
    by_cases hk : k' = k
    · subst hk
      rw [ha] at h₀
      cases h₀
      refine ⟨g b, ?_, ?_⟩
      · rw [hl, lookup_modify_self, hb]; rfl
      · rw [hself rfl]; exact hR b hRb
    · refine ⟨b, ?_, ?_⟩
      · rw [hl, lookup_modify_ne]
        · exact hb
        · exact fun heq => hk (h.distinct k' a₀ k a h₀ ha heq)
      · rw [hne hk]; exact hRb
  · intro k₁ a₁ k₂ a₂ h₁ h₂ heq
    obtain ⟨c₁, hc₁, hl₁, -, -⟩ := hback k₁ a₁ h₁
    obtain ⟨c₂, hc₂, hl₂, -, -⟩ := hback k₂ a₂ h₂
    exact h.distinct k₁ c₁ k₂ c₂ hc₁ hc₂ (by rw [← hl₁, ← hl₂]; exact heq)
  · intro j b h'
    have hj : j ∈ m₂ := mem_modify.mp (mem_of_lookup h')
    obtain ⟨b₀, hb₀⟩ := exists_lookup_of_mem hj
    obtain ⟨k', a', ha', hl'⟩ := h.named j b₀ hb₀
    by_cases hk : k' = k
    · subst hk
      rw [ha] at ha'
      cases ha'
      refine ⟨k', f a, ?_, hlink.trans hl'⟩
      rw [lookup_modify_self, ha]; rfl
    · exact ⟨k', a', by rw [lookup_modify_ne f m₁ hk]; exact ha', hl'⟩

end Linked

/-! ## Balance -/

namespace AList

variable {M : Type} [AddCommGroup M] {m₁ : UMap K₁ A} {m₂ : UMap K₂ B} {w₁ : K₁ → A → M} {w₂ : K₂ → B → M}

theorem total_insert_both {k : K₁} {j : K₂} {a : A} {b : B} (hk : k ∉ m₁) (hj : j ∉ m₂)
    (hw : w₁ k a = w₂ j b) (h : total m₁ w₁ = total m₂ w₂) :
    total (m₁.insert k a) w₁ = total (m₂.insert j b) w₂ := by
  rw [total_insert a w₁ hk, total_insert b w₂ hj, hw, h]

theorem total_modify_both {k : K₁} {j : K₂} {a : A} {b : B} {f : A → A} {g : B → B}
    (hk : m₁.lookup k = some a) (hj : m₂.lookup j = some b) (hw : w₁ k a = w₂ j b)
    (hw' : w₁ k (f a) = w₂ j (g b)) (h : total m₁ w₁ = total m₂ w₂) :
    total (m₁.modify k f) w₁ = total (m₂.modify j g) w₂ := by
  have h1 := total_modify f w₁ hk
  have h2 := total_modify g w₂ hj
  rw [hw, hw', h, ← h2] at h1
  exact add_right_cancel h1

end AList
