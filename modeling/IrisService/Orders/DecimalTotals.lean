import IrisService.Orders.LineHandlers
import IrisService.Python.Decimal

/-! `order/totals.py` and `_recompute_order_total`, in the arithmetic of `Decimal`.

The prices have two decimals and a total is below `10 ** 10`, so neither a product nor a partial sum comes near the 28
digits of the context: both functions compute the exact total, and what holds of the exact total holds of them. -/

namespace IrisService.Orders
open ReadCommitted Decimal

/-- What the total reads of an `OrderLine`. -/
structure PricedLine where
  unitPriceAtOrder : Decimal
  quantity : Int
  deriving DecidableEq, Repr

/-- `compute_total` -/
def computeTotal : Option (List PricedLine) → StateM Bool Decimal
  | none => pure (ofInt 0)
  | some [] => pure (ofInt 0)
  | some lines => sum (lines.map fun line => line.unitPriceAtOrder.mul (ofInt line.quantity)) (ofInt 0)

/-- The total that `_recompute_order_total` stores. -/
def recomputeOrderTotal (lines : List PricedLine) : StateM Bool Decimal :=
  sum (lines.map fun line => line.unitPriceAtOrder.mulInt line.quantity) (ofInt 0)

/-! ### The exact total -/

namespace PricedLine

/-- A NUMERIC(12, 2) price that is not negative, however it is written, and a positive INTEGER quantity. -/
structure InColumns (line : PricedLine) : Prop where
  decimals : -2 ≤ line.unitPriceAtOrder.exponent
  price_nonneg : 0 ≤ line.unitPriceAtOrder.value
  price_lt : line.unitPriceAtOrder.value < 10 ^ 10
  quantity_pos : 0 < line.quantity
  quantity_lt : line.quantity < 2 ^ 31

/-- The exact product of price and quantity. -/
def product (line : PricedLine) : Decimal := line.unitPriceAtOrder.mulExact (ofInt line.quantity)

/-- The line with `k` times its quantity. -/
def times (k : Int) (line : PricedLine) : PricedLine := { line with quantity := line.quantity * k }

/-- Price times quantity, as a number. -/
def amount (line : PricedLine) : ℚ := line.unitPriceAtOrder.value * line.quantity

variable {line : PricedLine}

@[simp] theorem value_product (line : PricedLine) : line.product.value = line.amount := by simp [product, amount]

@[simp] theorem exponent_product (line : PricedLine) : line.product.exponent = line.unitPriceAtOrder.exponent := by
  simp [product]

theorem product_times (k : Int) (line : PricedLine) : (line.times k).product = line.product.mulExact (ofInt k) :=
  ext_value (by simp [times]) (by simp [times, amount, mul_assoc])

theorem InColumns.amount_nonneg (h : line.InColumns) : 0 ≤ line.amount :=
  mul_nonneg h.price_nonneg (by exact_mod_cast h.quantity_pos.le)

end PricedLine

/-- The exact total of the lines, in the arithmetic of `Decimal`. -/
def exactTotal (lines : List PricedLine) : Decimal := sumExact (lines.map PricedLine.product)

/-- The sum of the amounts, as a number. -/
def amountOf (lines : List PricedLine) : ℚ := (lines.map PricedLine.amount).sum

/-- The lines are within their columns, and their total within the column of the order. -/
structure Fits (lines : List PricedLine) : Prop where
  columns : ∀ line ∈ lines, line.InColumns
  total : amountOf lines < 10 ^ 10

section Totals
variable {lines lines' before after : List PricedLine} {line : PricedLine} {d : Decimal}

theorem value_exactTotal (lines : List PricedLine) : (exactTotal lines).value = amountOf lines := by
  rw [exactTotal, value_sumExact, List.map_map, amountOf]
  congr 2
  exact funext PricedLine.value_product

theorem amountOf_append (before after : List PricedLine) :
    amountOf (before ++ after) = amountOf before + amountOf after := by
  rw [amountOf, List.map_append, List.sum_append, amountOf, amountOf]

theorem amountOf_nonneg (h : ∀ line ∈ lines, line.InColumns) : 0 ≤ amountOf lines := by
  refine List.sum_nonneg fun amount hmem => ?_
  obtain ⟨line, hline, rfl⟩ := List.mem_map.mp hmem
  exact (h line hline).amount_nonneg

theorem Fits.init (h : Fits (before ++ after)) : Fits before := by
  have hbefore : ∀ line ∈ before, line.InColumns := fun line hmem => h.columns line (List.mem_append_left _ hmem)
  have hafter : 0 ≤ amountOf after := amountOf_nonneg fun line hmem => h.columns line (List.mem_append_right _ hmem)
  have htotal := h.total
  rw [amountOf_append] at htotal
  exact ⟨hbefore, by linarith⟩

theorem Fits.perm (h : Fits lines) (hperm : lines.Perm lines') : Fits lines' := by
  refine ⟨fun line hmem => h.columns line (hperm.mem_iff.mpr hmem), ?_⟩
  have hsum : amountOf lines = amountOf lines' := (hperm.map PricedLine.amount).sum_eq
  exact hsum ▸ h.total

theorem Fits.tail (h : Fits (before ++ after)) : Fits after := (h.perm List.perm_append_comm).init

theorem exponent_exactTotal (h : ∀ line ∈ lines, line.InColumns) : -2 ≤ (exactTotal lines).exponent := by
  refine le_exponent_sumExact (by norm_num) fun term hmem => ?_
  obtain ⟨line, hline, rfl⟩ := List.mem_map.mp hmem
  rw [PricedLine.exponent_product]
  exact (h line hline).decimals

/-! ### No rounding -/

/-- A number of cents in the range of the column has at most twelve digits. -/
theorem short_of_total (hexp : -2 ≤ d.exponent) (hnonneg : 0 ≤ d.value) (hlt : d.value < 10 ^ 10) :
    d.coefficient.natAbs < 10 ^ prec := by
  have hshort : d.coefficient.natAbs < 10 ^ (10 + 2) := natAbs_coefficient_lt hexp (by rwa [abs_of_nonneg hnonneg])
  exact hshort.trans (by norm_num [prec])

theorem Fits.short (h : Fits lines) : (exactTotal lines).coefficient.natAbs < 10 ^ prec := by
  refine short_of_total (exponent_exactTotal h.columns) ?_ ?_
  · rw [value_exactTotal]
    exact amountOf_nonneg h.columns
  · rw [value_exactTotal]
    exact h.total

/-- The product of a line is a total of its own. -/
theorem Fits.mul_eq (h : Fits lines) (hmem : line ∈ lines) :
    line.unitPriceAtOrder.mul (ofInt line.quantity) = pure line.product := by
  obtain ⟨before, after, rfl⟩ := List.append_of_mem hmem
  have hcolumns := h.columns line hmem
  have hone : Fits [line] := (List.append_cons before line after ▸ h).init.tail
  have hamount : amountOf [line] = line.amount := by simp [amountOf]
  refine fix_eq (short_of_total ?_ ?_ ?_)
  · exact (line.exponent_product ▸ hcolumns.decimals : -2 ≤ line.product.exponent)
  · exact (line.value_product ▸ hcolumns.amount_nonneg : 0 ≤ line.product.value)
  · exact (line.value_product ▸ hamount ▸ hone.total : line.product.value < 10 ^ 10)

theorem exactTotal_concat (lines : List PricedLine) (line : PricedLine) :
    exactTotal (lines ++ [line]) = (exactTotal lines).addExact line.product := by
  rw [exactTotal, List.map_append, List.map_singleton, sumExact_concat, exactTotal]

/-- The next partial sum. -/
theorem Fits.add_product (h : Fits (lines ++ [line])) :
    (exactTotal lines).add line.product = pure (exactTotal (lines ++ [line])) := by
  rw [exactTotal_concat]
  exact fix_eq (exactTotal_concat lines line ▸ h.short)

/-- The totals of two parts add up. -/
theorem Fits.add_eq (h : Fits (before ++ after)) :
    (exactTotal before).add (exactTotal after) = pure (exactTotal (before ++ after)) := by
  have happend : exactTotal (before ++ after) = (exactTotal before).addExact (exactTotal after) := by
    rw [exactTotal, List.map_append, sumExact_append, exactTotal, exactTotal]
  rw [happend]
  exact fix_eq (happend ▸ h.short)

theorem Fits.sum_eq (h : Fits lines) :
    sum (lines.map fun line => line.unitPriceAtOrder.mul (ofInt line.quantity)) (ofInt 0) = pure (exactTotal lines) := by
  have hterms : (lines.map fun line => line.unitPriceAtOrder.mul (ofInt line.quantity)) =
      (lines.map PricedLine.product).map pure := by
    rw [List.map_map]
    exact List.map_congr_left fun line hmem => h.mul_eq hmem
  rw [hterms]
  refine Decimal.sum_eq fun terms term rest hsplit => ?_
  obtain ⟨before, after, rfl, rfl, hafter⟩ := List.map_eq_append_iff.mp hsplit
  obtain ⟨line, after, rfl, rfl, rfl⟩ := List.map_eq_cons_iff.mp hafter
  have hpart : Fits (before ++ [line]) := (List.append_cons before line after ▸ h).init
  have hshort := hpart.short
  rwa [exactTotal, List.map_append] at hshort

theorem computeTotal_eq_sum (lines : List PricedLine) : computeTotal (some lines) =
    sum (lines.map fun line => line.unitPriceAtOrder.mul (ofInt line.quantity)) (ofInt 0) := by
  cases lines <;> rfl

/-- The two functions take the same products in the same order. -/
theorem recomputeOrderTotal_eq (lines : List PricedLine) : recomputeOrderTotal lines = computeTotal (some lines) :=
  (computeTotal_eq_sum lines).symm

theorem Fits.computeTotal_eq (h : Fits lines) : computeTotal (some lines) = pure (exactTotal lines) := by
  rw [computeTotal_eq_sum, h.sum_eq]

/-! ### Laws of the exact total -/

/-- The total is a number of cents that the column holds. -/
theorem Fits.cents (h : Fits lines) :
    ∃ cents : Nat, fitsNumeric cents = true ∧ (exactTotal lines).value = (cents : ℚ) / 100 := by
  have hvalue := rescaled_mul (exponent_exactTotal h.columns)
  have hnonneg := amountOf_nonneg h.columns
  have htotal := h.total
  rw [← value_exactTotal] at hnonneg htotal
  have hcents : ((exactTotal lines).rescaled (-2) : ℚ) = (exactTotal lines).value * 100 := by
    rw [← hvalue, mul_assoc]
    norm_num
  have hcents_nonneg : 0 ≤ (exactTotal lines).rescaled (-2) := by
    have hcast : (0 : ℚ) ≤ ((exactTotal lines).rescaled (-2) : ℚ) := by linarith
    exact_mod_cast hcast
  obtain ⟨cents, heq⟩ := Int.eq_ofNat_of_zero_le hcents_nonneg
  rw [heq] at hcents
  have hlt : (cents : ℚ) < 10 ^ 12 := by
    rw [Int.cast_natCast] at hcents
    linarith
  refine ⟨cents, decide_eq_true (by exact_mod_cast hlt), ?_⟩
  rw [eq_div_iff (by norm_num), ← hcents, Int.cast_natCast]

theorem exactTotal_perm (h : lines.Perm lines') : exactTotal lines = exactTotal lines' :=
  sumExact_perm (h.map PricedLine.product)

theorem exactTotal_times (k : Int) (lines : List PricedLine) :
    exactTotal (lines.map (·.times k)) = (exactTotal lines).mulExact (ofInt k) := by
  have hterms : (lines.map (·.times k)).map PricedLine.product =
      (lines.map PricedLine.product).map (·.mulExact (ofInt k)) := by
    rw [List.map_map, List.map_map]
    exact List.map_congr_left fun line _ => line.product_times k
  rw [exactTotal, hterms, sumExact_mul, exactTotal]

theorem Fits.times_eq {k : Int} (h : Fits (lines.map (·.times k))) :
    (exactTotal lines).mul (ofInt k) = pure (exactTotal (lines.map (·.times k))) := by
  rw [exactTotal_times]
  exact fix_eq (exactTotal_times k lines ▸ h.short)

end Totals

/-! ### The rows -/

/-- A row of `order_line` as its columns are read. -/
def pricedLine (row : OrderLine) : PricedLine := ⟨⟨row.unitPriceAtOrder, -2⟩, row.quantity⟩

theorem amount_pricedLine (row : OrderLine) :
    (pricedLine row).amount = ((row.unitPriceAtOrder * row.quantity : Nat) : ℚ) / 100 := by
  simp only [PricedLine.amount, pricedLine, value]
  push_cast
  norm_num
  ring

theorem amountOf_pricedLine (v : View Row) (orderId : Nat) :
    amountOf ((linesOf v orderId).map fun l => pricedLine l.2) = (recomputedTotal v orderId : ℚ) / 100 := by
  unfold amountOf recomputedTotal
  rw [List.map_map]
  induction linesOf v orderId with
  | nil => simp
  | cons l lines ih =>
    rw [List.map_cons, List.sum_cons, ih, List.map_cons, List.sum_cons, Function.comp_apply, amount_pricedLine]
    push_cast
    ring

theorem inColumns_pricedLine {row : OrderLine} (hprice : fitsNumeric row.unitPriceAtOrder = true)
    (hquantity : fitsInteger row.quantity = true) (hpos : 0 < row.quantity) : (pricedLine row).InColumns := by
  have hcents : row.unitPriceAtOrder < 10 ^ 12 := of_decide_eq_true hprice
  have hunits : row.quantity < 2 ^ 31 := of_decide_eq_true hquantity
  have hint : (row.quantity : Int) < 2 ^ 31 := by exact_mod_cast hunits
  have hvalue : (pricedLine row).unitPriceAtOrder.value = (row.unitPriceAtOrder : ℚ) / 100 := by
    simp only [pricedLine, value]
    norm_num
    ring
  have hcast : (row.unitPriceAtOrder : ℚ) < 10 ^ 12 := by exact_mod_cast hcents
  refine ⟨le_refl _, ?_, ?_, Int.natCast_pos.mpr hpos, hint⟩
  · rw [hvalue]
    positivity
  · rw [hvalue]
    linarith

/-- The total in cents, which the handlers store, is the one that the arithmetic of `Decimal` gives. -/
theorem recomputedTotal_decimal {v : View Row} {orderId : Nat} (htotal : fitsNumeric (recomputedTotal v orderId) = true)
    (hlines : ∀ l ∈ linesOf v orderId,
      fitsNumeric l.2.unitPriceAtOrder = true ∧ fitsInteger l.2.quantity = true ∧ 0 < l.2.quantity) :
    ∃ total, recomputeOrderTotal ((linesOf v orderId).map fun l => pricedLine l.2) = pure total ∧
      total.value = (recomputedTotal v orderId : ℚ) / 100 := by
  have hfits : Fits ((linesOf v orderId).map fun l => pricedLine l.2) := by
    refine ⟨fun line hmem => ?_, ?_⟩
    · obtain ⟨l, hl, rfl⟩ := List.mem_map.mp hmem
      obtain ⟨hprice, hquantity, hpos⟩ := hlines l hl
      exact inColumns_pricedLine hprice hquantity hpos
    · have hcents : recomputedTotal v orderId < 10 ^ 12 := of_decide_eq_true htotal
      have hcast : (recomputedTotal v orderId : ℚ) < 10 ^ 12 := by exact_mod_cast hcents
      rw [amountOf_pricedLine]
      linarith
  refine ⟨_, (recomputeOrderTotal_eq _).trans hfits.computeTotal_eq, ?_⟩
  rw [value_exactTotal, amountOf_pricedLine]

/-! ### The laws of the total -/

/-- Lines within their columns, with a total within its column: every product and every partial sum is exact, the two
    functions agree, and the total is additive, does not depend on the order of the lines, grows with the quantities
    and is a number of cents. -/
theorem total_arithmetic (lines : List PricedLine) (h : Fits lines) :
    computeTotal (some lines) = pure (exactTotal lines) ∧ (exactTotal lines).value = amountOf lines ∧
    (∀ before line after, lines = before ++ line :: after →
      line.unitPriceAtOrder.mul (ofInt line.quantity) = pure line.product ∧
      (exactTotal before).add line.product = pure (exactTotal (before ++ [line]))) ∧
    recomputeOrderTotal lines = computeTotal (some lines) ∧
    (∀ before after, lines = before ++ after → computeTotal (some lines) = do
      let left ← computeTotal (some before)
      let right ← computeTotal (some after)
      left.add right) ∧
    (∀ lines', lines.Perm lines' → computeTotal (some lines') = computeTotal (some lines)) ∧
    (∀ k : Int, 0 < k → Fits (lines.map (·.times k)) → computeTotal (some (lines.map (·.times k))) = do
      let total ← computeTotal (some lines)
      total.mul (ofInt k)) ∧
    0 ≤ (exactTotal lines).value ∧
    ∃ cents : Nat, fitsNumeric cents = true ∧ (exactTotal lines).value = (cents : ℚ) / 100 := by
  refine ⟨h.computeTotal_eq, value_exactTotal lines, ?_, recomputeOrderTotal_eq lines, ?_, ?_, ?_, ?_, h.cents⟩
  · rintro before line after rfl
    have hpart : Fits (before ++ [line]) := (List.append_cons before line after ▸ h).init
    exact ⟨h.mul_eq (List.mem_append_right _ List.mem_cons_self), hpart.add_product⟩
  · rintro before after rfl
    rw [h.computeTotal_eq, h.init.computeTotal_eq, h.tail.computeTotal_eq, pure_bind, pure_bind, h.add_eq]
  · intro lines' hperm
    rw [(h.perm hperm).computeTotal_eq, h.computeTotal_eq, exactTotal_perm hperm]
  · intro k _ hk
    rw [h.computeTotal_eq, hk.computeTotal_eq, pure_bind, hk.times_eq]
  · rw [value_exactTotal]
    exact amountOf_nonneg h.columns

/-- Three of one product and two of another. -/
theorem total_of_basket : computeTotal (some [⟨⟨1999, -2⟩, 3⟩, ⟨⟨500, -2⟩, 2⟩]) = pure ⟨6997, -2⟩ ∧
    recomputeOrderTotal [⟨⟨1999, -2⟩, 3⟩, ⟨⟨500, -2⟩, 2⟩] = pure ⟨6997, -2⟩ := by
  have hfits : Fits [⟨⟨1999, -2⟩, 3⟩, ⟨⟨500, -2⟩, 2⟩] := by
    refine ⟨fun line hmem => ?_, ?_⟩
    · rcases List.mem_pair.mp hmem with rfl | rfl
      · exact ⟨by norm_num, by norm_num [value], by norm_num [value], by norm_num, by norm_num⟩
      · exact ⟨by norm_num, by norm_num [value], by norm_num [value], by norm_num, by norm_num⟩
    · norm_num [amountOf, PricedLine.amount, value]
  obtain ⟨htotal, -, -, hsame, -⟩ := total_arithmetic _ hfits
  have hexact : exactTotal [⟨⟨1999, -2⟩, 3⟩, ⟨⟨500, -2⟩, 2⟩] = ⟨6997, -2⟩ := by decide
  rw [hsame, htotal, hexact]
  exact ⟨rfl, rfl⟩

end IrisService.Orders
