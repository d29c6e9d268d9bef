import QuotaFabric.Text.Vector

/-!
# Printed vectors read back

* `text_ofList` — an ASCII literal is one byte a character;
* `showAmount_natCast` — an amount is printed as the decimal digits of its value;
* `printedItems` — the items `to_string` prints, one for each dimension present, in order.

Principal result: `parse_toStr` — the text of a vector with non-negative amounts is parsed as that
vector, explicit zeros and unset dimensions included.
-/

set_option autoImplicit false

namespace QuotaFabric

/-! ## Bytes of a literal -/

theorem toList_loop_eq (bs : ByteArray) : ∀ (i : Nat) (r : List UInt8),
    ByteArray.toList.loop bs i r = r.reverse ++ bs.data.toList.drop i := by
  intro i r
  fun_induction ByteArray.toList.loop bs i r with
  | case1 i r h ih =>
    have hlen : i < bs.data.toList.length := h
    have hget : bs.get! i = bs.data.toList[i] := by
      change bs.data[i]! = _
      rw [getElem!_pos bs.data i h]
      rfl
    rw [ih, List.drop_eq_getElem_cons hlen, hget]
    simp
  | case2 i r h =>
    have hlen : bs.data.toList.length ≤ i := not_lt.mp h
    rw [List.drop_eq_nil_of_le hlen, List.append_nil]

theorem utf8Encode_ascii : ∀ l : List Char, (∀ c ∈ l, c.toNat < 128) →
    l.utf8Encode.data.toList = l.map fun c => UInt8.ofNat c.toNat
  | [], _ => rfl
  | c :: l, h => by
    have hc := h c List.mem_cons_self
    have hsize : c.utf8Size = 1 := Char.utf8Size_eq_one_iff.mpr (by
      rw [UInt32.le_iff_toNat_le]
      change c.toNat ≤ 127
      omega)
    rw [List.utf8Encode_cons, ByteArray.toList_data_append,
      utf8Encode_ascii l fun x hx => h x (List.mem_cons_of_mem c hx), List.utf8Encode_singleton,
      List.toList_data_toByteArray, String.utf8EncodeChar_eq_singleton hsize]
    rfl

/-- ASCII characters are one byte each. -/
theorem text_ofList {l : List Char} (h : ∀ c ∈ l, c.toNat < 128) :
    text (String.ofList l) = l.map fun c => UInt8.ofNat c.toNat := by
  unfold text ByteArray.toList
  rw [toList_loop_eq, List.reverse_nil, List.nil_append, List.drop_zero]
  exact (congrArg (fun b => b.data.toList) String.toByteArray_ofList).trans (utf8Encode_ascii l h)

namespace ResourceVector

/-! ## Amounts -/

theorem digit_bounds {n : Nat} {c : Char} (hc : c ∈ Nat.toDigits 10 n) : 48 ≤ c.toNat ∧ c.toNat ≤ 57 :=
  Char.isDigit_iff_toNat.mp (Nat.isDigit_of_mem_toDigits (by decide) (by decide) hc)

/-- A non-negative amount is printed as its decimal digits. -/
theorem showAmount_natCast (n : Nat) :
    showAmount n = (Nat.toDigits 10 n).map fun c => UInt8.ofNat c.toNat := by
  have hrepr : toString (n : Int) = String.ofList (Nat.toDigits 10 n) := rfl
  unfold showAmount
  rw [hrepr, text_ofList fun c hc => by have := digit_bounds hc; omega]

theorem isDigit_of_mem_showAmount {n : Nat} : ∀ b ∈ showAmount n, isDigit b = true := by
  intro b hb
  rw [showAmount_natCast] at hb
  obtain ⟨c, hc, rfl⟩ := List.mem_map.mp hb
  obtain ⟨hlow, hhigh⟩ := digit_bounds hc
  have hval : (UInt8.ofNat c.toNat).toNat = c.toNat := by
    rw [UInt8.toNat_ofNat']
    omega
  unfold isDigit
  simp only [Bool.and_eq_true, decide_eq_true_eq, UInt8.le_iff_toNat_le, hval]
  exact ⟨hlow, hhigh⟩

theorem decimal_showAmount (n : Nat) : decimal (showAmount n) = n := by
  have hval : (Nat.toDigits 10 n).map (fun c => (UInt8.ofNat c.toNat).toNat - '0'.toNat) =
      (Nat.toDigits 10 n).map fun c => c.toNat - 48 := by
    refine List.map_congr_left fun c hc => ?_
    have hc := digit_bounds hc
    rw [UInt8.toNat_ofNat', Nat.mod_eq_of_lt (by omega)]
    rfl
  unfold decimal
  rw [showAmount_natCast, List.map_map]
  exact (congrArg (numeral 10) hval).trans (numeral_toDigits n)

theorem showAmount_ne_nil (n : Nat) : showAmount n ≠ [] := by
  rw [showAmount_natCast]
  simp

/-! ## Vectors -/

/-- The item printed for a dimension. -/
def printedItem (v : ResourceVector) (d : ResourceDimension) : Item :=
  ⟨d, ⟨[], .none, showAmount (v.get d), []⟩⟩

def printedItems (v : ResourceVector) : List Item :=
  (allResourceDimensions.filter fun d => v.present d).map (printedItem v)

theorem value_printedItem {v : ResourceVector} {d : ResourceDimension} (h : 0 ≤ v.get d) :
    (printedItem v d).amount.value = v.get d := by
  obtain ⟨n, hn⟩ := Int.eq_ofNat_of_zero_le h
  change (decimal (showAmount (v.get d)) : Int) = v.get d
  rw [hn, decimal_showAmount]

theorem printedItem_accepted {v : ResourceVector} (hv : Valid v) (d : ResourceDimension) :
    (printedItem v d).Accepted := by
  obtain ⟨n, hn⟩ := Int.eq_ofNat_of_zero_le (hv d).1
  have hdig : ∀ b ∈ showAmount (v.get d), isDigit b = true := by
    rw [hn]
    exact isDigit_of_mem_showAmount
  refine ⟨⟨by simp [printedItem], ?_, hdig, by simp [printedItem]⟩, ?_, ?_, ?_⟩
  · change showAmount (v.get d) ≠ []
    rw [hn]
    exact showAmount_ne_nil n
  · rw [value_printedItem (hv d).1]
    exact (hv d).1
  · rw [value_printedItem (hv d).1]
    exact (hv d).2
  · intro hmem
    have hin : comma ∈ showAmount (v.get d) := by
      simpa [printedItem, Literal.bytes, Sign.bytes] using hmem
    have := hdig _ hin
    revert this
    decide

/-- `to_string` prints a text of the accepted kind. -/
theorem toStr_eq (v : ResourceVector) : toStr v = vectorText (printedItems v) false := by
  have hcomma : text "," = [comma] := by decide +kernel
  have hequals : text "=" = [equals] := by decide +kernel
  have hbytes : (printedItems v).map Item.bytes =
      (allResourceDimensions.filter fun d => v.present d).map fun d =>
        resourceDimensionName d ++ text "=" ++ showAmount (v.get d) := by
    unfold printedItems
    rw [List.map_map]
    refine List.map_congr_left fun d _ => ?_
    rw [hequals]
    simp [printedItem, Item.bytes, Literal.bytes, Sign.bytes]
  unfold toStr vectorText
  rw [hcomma, hbytes, if_neg Bool.false_ne_true, List.append_nil]

/-- Storing the amount of each listed dimension. -/
theorem cell_foldl_store {v : ResourceVector} (hv : NonNeg v) : ∀ (ds : List ResourceDimension)
    (r : ResourceVector) (e : ResourceDimension), ((ds.map (printedItem v)).foldl store r).cell e =
      if e ∈ ds then some (v.get e) else r.cell e
  | [], _, _ => rfl
  | d :: ds, r, e => by
    rw [List.map_cons, List.foldl_cons, cell_foldl_store hv ds]
    unfold store
    rw [value_printedItem (hv d)]
    by_cases hds : e ∈ ds
    · rw [if_pos hds, if_pos (List.mem_cons_of_mem d hds)]
    · by_cases hed : e = d
      · subst hed
        rw [if_neg hds, if_pos List.mem_cons_self]
        simp [printedItem, SparseVec.put]
      · rw [if_neg hds, if_neg (by simp [hed, hds])]
        simp [printedItem, SparseVec.put, hed]

theorem foldl_printedItems {v : ResourceVector} (hv : NonNeg v) :
    (printedItems v).foldl store SparseVec.empty = v := by
  ext1
  funext e
  unfold printedItems
  rw [cell_foldl_store hv]
  by_cases he : v.present e = true
  · rw [if_pos (List.mem_filter.mpr ⟨mem_allResourceDimensions e, he⟩)]
    exact (SparseVec.cell_of_present he).symm
  · have hnone : v.cell e = none := by simpa [SparseVec.present] using he
    rw [if_neg fun hmem => he (List.mem_filter.mp hmem).2, hnone]
    rfl

/-- **Printed vectors read back**, in values and in presence. -/
theorem parse_toStr {v : ResourceVector} (hv : Valid v) : parse (toStr v) = some v := by
  have hacc : ∀ i ∈ printedItems v, i.Accepted := by
    intro i hi
    obtain ⟨d, -, rfl⟩ := List.mem_map.mp hi
    exact printedItem_accepted hv d
  rw [toStr_eq, parse_vectorText hacc (by simp), foldl_printedItems hv.nonNeg]

/-- An explicit zero is read back as one. -/
theorem parse_toStr_zero : parse (toStr ((SparseVec.empty.put .kvCacheBytes 0).put .transferBytes 4096)) =
    some ((SparseVec.empty.put .kvCacheBytes 0).put .transferBytes 4096) :=
  parse_toStr (by decide)

end ResourceVector

end QuotaFabric
