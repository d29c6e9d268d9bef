import QuotaFabric.Text.Vector

/-!
# What the vector parser accepts

`ResourceVector::parse` is meant to accept a comma-separated list of `name=digits`.

* `IsVectorText` — that grammar; `isVectorText_iff` says it of items: all plain, no name twice;
* `IsSloppyText` — what else is accepted: a comma at the end, a name that occurs twice, white space
  or a sign before the digits, anything after them.

Principal result: `parse_accepts_only_grammar_iff` — the parser keeps to the grammar on exactly the
texts that are not sloppy.
-/

set_option autoImplicit false

namespace QuotaFabric

namespace ResourceVector

/-- A comma-separated list of `name=digits`: each name at most once, each amount a decimal literal
    of at most `INT64_MAX` with nothing else around it. -/
def IsVectorText (s : Str) : Prop :=
  ∃ fields : List (ResourceDimension × Str), (fields.map Prod.fst).Nodup ∧
    (∀ f ∈ fields, f.2 ≠ [] ∧ (∀ c ∈ f.2, isDigit c = true) ∧ (decimal f.2 : Int) ≤ INT64_MAX) ∧
    s = [comma].intercalate (fields.map fun f => resourceDimensionName f.1 ++ equals :: f.2)

/-- A list of items that `stoll` can read, with a comma at the end, a name that occurs twice, or
    white space, a sign or unread characters around the digits of some amount. -/
def IsSloppyText (s : Str) : Prop :=
  ∃ (items : List Item) (trailing : Bool), items ≠ [] ∧ (∀ i ∈ items, i.Accepted) ∧
    s = vectorText items trailing ∧
    (trailing = true ∨ ¬(items.map Item.dim).Nodup ∨ ∃ i ∈ items, ¬i.Plain)

/-- The item of a field of the grammar. -/
def fieldItem (f : ResourceDimension × Str) : Item := ⟨f.1, ⟨[], .none, f.2, []⟩⟩

theorem comma_not_isDigit : isDigit comma = false := by decide

theorem fieldItem_accepted {f : ResourceDimension × Str} (hne : f.2 ≠ [])
    (hdig : ∀ c ∈ f.2, isDigit c = true) (hfit : (decimal f.2 : Int) ≤ INT64_MAX) :
    (fieldItem f).Accepted where
  readable := ⟨by simp [fieldItem], hne, hdig, by simp [fieldItem]⟩
  nonneg := Int.natCast_nonneg _
  fits := hfit
  comma := by
    intro hmem
    have hin : comma ∈ f.2 := by simpa [fieldItem, Literal.bytes, Sign.bytes] using hmem
    have := hdig _ hin
    rw [comma_not_isDigit] at this
    cases this

theorem bytes_fieldItem (f : ResourceDimension × Str) :
    (fieldItem f).bytes = resourceDimensionName f.1 ++ equals :: f.2 := by
  simp [fieldItem, Item.bytes, Literal.bytes, Sign.bytes]

/-- **The grammar in terms of items**: all plain, no name twice, no comma at the end. -/
theorem isVectorText_iff {s : Str} : IsVectorText s ↔ ∃ items : List Item, (∀ i ∈ items, i.Accepted) ∧
    (∀ i ∈ items, i.Plain) ∧ (items.map Item.dim).Nodup ∧ s = vectorText items false := by
  constructor
  · rintro ⟨fields, hnodup, hfields, rfl⟩
    refine ⟨fields.map fieldItem, ?_, ?_, ?_, ?_⟩
    · intro i hi
      obtain ⟨f, hf, rfl⟩ := List.mem_map.mp hi
      obtain ⟨hne, hdig, hfit⟩ := hfields f hf
      exact fieldItem_accepted hne hdig hfit
    · intro i hi
      obtain ⟨f, -, rfl⟩ := List.mem_map.mp hi
      exact ⟨rfl, rfl, rfl⟩
    · rw [List.map_map]
      exact hnodup
    · have hbytes : (fields.map fieldItem).map Item.bytes =
          fields.map fun f => resourceDimensionName f.1 ++ equals :: f.2 := by
        rw [List.map_map]
        exact List.map_congr_left fun f _ => bytes_fieldItem f
      simp [vectorText, ← hbytes]
  · rintro ⟨items, hacc, hplain, hnodup, rfl⟩
    -- the digits of a plain item are its whole literal
    have hitem : ∀ i ∈ items, fieldItem (i.dim, i.amount.digits) = i := by
      rintro ⟨d, sp, sg, ds, jk⟩ hi
      obtain ⟨rfl, rfl, rfl⟩ := hplain _ hi
      rfl
    have hvalue : ∀ i ∈ items, i.amount.value = decimal i.amount.digits := by
      intro i hi
      unfold Literal.value
      rw [if_neg (by rw [(hplain i hi).2.1]; decide)]
    refine ⟨items.map fun i => (i.dim, i.amount.digits), ?_, ?_, ?_⟩
    · rw [List.map_map]
      exact hnodup
    · intro f hf
      obtain ⟨i, hi, rfl⟩ := List.mem_map.mp hf
      have h := hacc i hi
      exact ⟨h.readable.digits_ne, h.readable.digits, hvalue i hi ▸ h.fits⟩
    · have hbytes : items.map Item.bytes = (items.map fun i => (i.dim, i.amount.digits)).map
          fun f => resourceDimensionName f.1 ++ equals :: f.2 := by
        rw [List.map_map]
        refine List.map_congr_left fun i hi => ?_
        rw [Function.comp_apply, ← bytes_fieldItem, hitem i hi]
      simp [vectorText, hbytes]

theorem vectorText_ne_nil {items : List Item} (h : ∀ i ∈ items, i.Accepted) (hne : items ≠ [])
    (trailing : Bool) : vectorText items trailing ≠ [] := by
  intro hnil
  have htokens := tokens_vectorText h hne trailing
  rw [hnil] at htokens
  exact hne (List.map_eq_nil_iff.mp htokens.symm)

/-- A sloppy text is parsed. -/
theorem IsSloppyText.parse_isSome {s : Str} (h : IsSloppyText s) : (parse s).isSome = true := by
  obtain ⟨items, trailing, hne, hacc, rfl, -⟩ := h
  rw [parse_vectorText hacc fun _ => hne]
  rfl

/-- And it is not in the grammar. -/
theorem IsSloppyText.not_isVectorText {s : Str} (h : IsSloppyText s) : ¬IsVectorText s := by
  obtain ⟨items, trailing, hne, hacc, hs, hslop⟩ := h
  intro hgram
  obtain ⟨items', hacc', hplain, hnodup, hs'⟩ := isVectorText_iff.mp hgram
  have hne' : items' ≠ [] := by
    rintro rfl
    exact vectorText_ne_nil hacc hne trailing (hs.symm.trans hs')
  obtain ⟨rfl, rfl⟩ := vectorText_injective hacc hacc' hne hne' (hs.symm.trans hs')
  obtain htrail | hdup | ⟨i, hi, hnot⟩ := hslop
  · cases htrail
  · exact hdup hnodup
  · exact hnot (hplain i hi)

/-- **Where the parser accepts its grammar only**: on every text but the sloppy ones. -/
theorem parse_accepts_only_grammar_iff (s : Str) :
    ((parse s).isSome = true → IsVectorText s) ↔ ¬IsSloppyText s := by
  constructor
  · intro h hsloppy
    exact hsloppy.not_isVectorText (h hsloppy.parse_isSome)
  · intro hclean hsome
    obtain ⟨r, hr⟩ := Option.isSome_iff_exists.mp hsome
    obtain ⟨items, trailing, hacc, hne, rfl⟩ := parse_eq_some hr
    by_cases hnil : items = []
    · subst hnil
      have ht : trailing = false := by
        cases trailing with
        | false => rfl
        | true => exact absurd rfl (hne rfl)
      subst ht
      exact isVectorText_iff.mpr ⟨[], by simp, by simp, by simp, rfl⟩
    · have hno := fun hslop => hclean ⟨items, trailing, hnil, hacc, rfl, hslop⟩
      have ht : trailing = false := by simpa using fun ht => hno (Or.inl ht)
      have hnodup : (items.map Item.dim).Nodup := by
        by_contra hdup
        exact hno (Or.inr (Or.inl hdup))
      have hplain : ∀ i ∈ items, i.Plain := by
        by_contra hnot
        push Not at hnot
        exact hno (Or.inr (Or.inr hnot))
      subst ht
      exact isVectorText_iff.mpr ⟨items, hacc, hplain, hnodup, rfl⟩

/-- A unit suffix is left unread: `16GiB` is sixteen. -/
theorem parse_accepts_unit_suffix :
    ¬((parse (text "accelerator_vram_bytes=16GiB")).isSome = true →
      IsVectorText (text "accelerator_vram_bytes=16GiB")) := by
  have hsloppy : IsSloppyText (text "accelerator_vram_bytes=16GiB") := by
    refine ⟨[⟨.acceleratorVRAM, ⟨[], .none, text "16", text "GiB"⟩⟩], false, by simp, ?_, by decide +kernel,
      Or.inr (Or.inr ⟨_, List.mem_singleton_self _, fun h => ?_⟩)⟩
    · intro i hi
      obtain rfl := List.mem_singleton.mp hi
      exact ⟨⟨by simp, by decide +kernel, by decide +kernel, by decide +kernel⟩, by decide +kernel,
        by decide +kernel, by decide +kernel⟩
    · have hjunk : text "GiB" ≠ [] := by decide +kernel
      exact hjunk h.2.2
  exact fun h => hsloppy.not_isVectorText (h hsloppy.parse_isSome)

end ResourceVector

end QuotaFabric
