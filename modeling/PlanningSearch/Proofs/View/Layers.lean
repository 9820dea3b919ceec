import PlanningSearch.Proofs.View.StableSort
import PlanningSearch.Text.Collation

/-!
How the rows shown depend on the history of a view. Filtering anew sorts all rows by the active
order; choosing another order sorts the rows as they stand, so that rows which tie keep the order
they had. So the rows shown are sorted by all the orders since they were last filtered anew, of
which the latest counts most. As long as these are of one column they amount to the active order,
and the rows shown depend on nothing but all rows, the filters and that order.
-/

namespace PlanningSearch

variable {t : Table}

namespace SortOrder

variable [Text.Order]

theorem compare_swap (o : SortOrder t) (a b : Row t) : o.compare a b = (o.compare b a).swap := by
  unfold compare
  rw [Text.collate_swap (a.text o.column)]
  cases o.descending <;> rfl

theorem compare_self (o : SortOrder t) (a : Row t) : o.compare a a = .eq := by
  have hswap := o.compare_swap a a
  cases h : o.compare a a <;> simp [h] at hswap ⊢

def compareAll (orders : List (SortOrder t)) (a b : Row t) : Ordering :=
  match orders with
  | [] => .eq
  | o :: orders => (o.compare a b).then (compareAll orders a b)

theorem compareAll_swap (orders : List (SortOrder t)) (a b : Row t) :
    compareAll orders a b = (compareAll orders b a).swap := by
  induction orders with
  | nil => rfl
  | cons o orders ih => rw [compareAll, compareAll, Ordering.swap_then, ← o.compare_swap, ← ih]

theorem compareAll_self (orders : List (SortOrder t)) (a : Row t) :
    compareAll orders a a = .eq := by
  induction orders with
  | nil => rfl
  | cons o orders ih => rw [compareAll, o.compare_self, ih]; rfl

def tiesAll (orders : List (SortOrder t)) (a b : Row t) : Bool := compareAll orders a b == .eq

theorem tiesAll_self (orders : List (SortOrder t)) (a : Row t) : tiesAll orders a a = true :=
  beq_iff_eq.mpr (compareAll_self orders a)

theorem filter_tiesAll_cons (o : SortOrder t) (orders : List (SortOrder t)) (r : Row t)
    (rows : List (Row t)) :
    rows.filter (tiesAll (o :: orders) r) =
      (rows.filter (tiesAll orders r)).filter (o.ties r) := by
  rw [List.filter_filter]
  refine List.filter_congr fun a _ => ?_
  rw [Bool.eq_iff_iff, Bool.and_eq_true]
  simp only [tiesAll, ties, beq_iff_eq, compareAll, Ordering.then_eq_eq]

/-- The second list is the first one sorted stably by several orders, the first of which counts
most. -/
structure SortedBy (orders : List (SortOrder t)) (rows sorted : List (Row t)) : Prop where
  perm : sorted.Perm rows
  pairwise : sorted.Pairwise fun a b => compareAll orders a b ≠ .gt
  stable : ∀ r, sorted.filter (tiesAll orders r) = rows.filter (tiesAll orders r)

theorem eq_of_sorted {orders : List (SortOrder t)} {xs ys : List (Row t)} (hperm : xs.Perm ys)
    (hxs : xs.Pairwise fun a b => compareAll orders a b ≠ .gt)
    (hys : ys.Pairwise fun a b => compareAll orders a b ≠ .gt)
    (hties : ∀ r, xs.filter (tiesAll orders r) = ys.filter (tiesAll orders r)) : xs = ys := by
  induction xs generalizing ys with
  | nil => exact hperm.nil_eq
  | cons x xs ih =>
    cases ys with
    | nil => exact absurd hperm.length_eq nofun
    | cons y ys =>
      rw [List.pairwise_cons] at hxs hys
      -- each head comes before the other one, so they tie, and ties stand alike in both lists
      have hhead : x = y := by
        rcases List.mem_cons.mp (hperm.subset List.mem_cons_self) with hx | hx
        · exact hx
        rcases List.mem_cons.mp (hperm.symm.subset List.mem_cons_self) with hy | hy
        · exact hy.symm
        have hle := hxs.1 y hy
        have hge := hys.1 x hx
        rw [compareAll_swap] at hge
        have htie : tiesAll orders x y = true := by
          rw [tiesAll]
          cases h : compareAll orders x y <;> simp_all
        have hfirst := hties x
        rw [List.filter_cons_of_pos (tiesAll_self orders x), List.filter_cons_of_pos htie]
          at hfirst
        exact (List.cons.inj hfirst).1
      subst hhead
      refine congrArg (x :: ·) (ih (List.perm_cons x |>.mp hperm) hxs.2 hys.2 fun r => ?_)
      have hrest := hties r
      rw [List.filter_cons, List.filter_cons] at hrest
      split at hrest
      · exact (List.cons.inj hrest).2
      · exact hrest

namespace SortedBy

variable {orders : List (SortOrder t)} {rows sorted sorted' : List (Row t)}

theorem unique (h : SortedBy orders rows sorted) (h' : SortedBy orders rows sorted') :
    sorted = sorted' :=
  eq_of_sorted (h.perm.trans h'.perm.symm) h.pairwise h'.pairwise fun r =>
    (h.stable r).trans (h'.stable r).symm

theorem refl (rows : List (Row t)) : SortedBy [] rows rows where
  perm := .refl rows
  pairwise := List.pairwise_of_forall fun _ _ => nofun
  stable _ := rfl

/-- In a list sorted by one order, the rows that it leaves tied decide whether the list is sorted by
further orders behind it. -/
theorem pairwise_cons_of_ties {o : SortOrder t} {xs : List (Row t)}
    (hxs : xs.Pairwise fun a b => o.compare a b ≠ .gt)
    (hties : ∀ r, (xs.filter (o.ties r)).Pairwise fun a b => compareAll orders a b ≠ .gt) :
    xs.Pairwise fun a b => compareAll (o :: orders) a b ≠ .gt := by
  induction xs with
  | nil => exact .nil
  | cons x xs ih =>
    rw [List.pairwise_cons] at hxs ⊢
    refine ⟨fun y hy => ?_, ih hxs.2 fun r => ?_⟩
    · have hself : o.ties x x = true := beq_iff_eq.mpr (o.compare_self x)
      have hgroup := hties x
      rw [List.filter_cons_of_pos hself, List.pairwise_cons] at hgroup
      rw [compareAll]
      cases hxy : o.compare x y with
      | lt => exact nofun
      | gt => exact absurd hxy (hxs.1 y hy)
      | eq => exact hgroup.1 y (List.mem_filter.mpr ⟨hy, beq_iff_eq.mpr hxy⟩)
    · exact (hties r).sublist ((List.sublist_cons_self x xs).filter _)

theorem sort (h : SortedBy orders rows sorted) (o : SortOrder t) :
    SortedBy (o :: orders) rows (SortOrder.sort (some o) sorted) where
  perm := (sort_perm (some o) sorted).trans h.perm
  pairwise := by
    refine pairwise_cons_of_ties (o.sort_pairwise sorted) fun r => ?_
    rw [o.filter_ties_sort]
    exact h.pairwise.filter _
  stable r := by
    rw [filter_tiesAll_cons, filter_tiesAll_cons, List.filter_comm, o.filter_ties_sort,
      List.filter_comm, h.stable]

theorem sort_anew (order : Option (SortOrder t)) (rows : List (Row t)) :
    SortedBy order.toList rows (SortOrder.sort order rows) := by
  cases order with
  | none => exact refl rows
  | some o => exact (refl rows).sort o

end SortedBy

theorem sort_pair (o : SortOrder t) (a b : Row t) :
    sort (some o) [a, b] = if o.le a b then [a, b] else [b, a] := by
  simp [sort, List.mergeSort, List.MergeSort.Internal.splitInTwo, List.merge]

def OneColumn (orders : List (SortOrder t)) : Prop :=
  ∀ o ∈ orders, ∀ o' ∈ orders, o.column = o'.column

instance (orders : List (SortOrder t)) : Decidable (OneColumn orders) :=
  inferInstanceAs (Decidable (∀ o ∈ orders, ∀ o' ∈ orders, o.column = o'.column))

theorem compare_eq_iff_collate (o : SortOrder t) (a b : Row t) :
    o.compare a b = .eq ↔ Text.collate (a.text o.column) (b.text o.column) = .eq := by
  unfold compare
  cases o.descending <;> cases Text.collate (a.text o.column) (b.text o.column) <;> decide

theorem OneColumn.compareAll_cons {o : SortOrder t} {orders : List (SortOrder t)}
    (h : OneColumn (o :: orders)) (a b : Row t) :
    compareAll (o :: orders) a b = o.compare a b := by
  have htied : o.compare a b = .eq → compareAll orders a b = .eq := by
    intro hab
    have hcolumn : ∀ o' ∈ orders, o'.compare a b = .eq := fun o' ho' => by
      rw [compare_eq_iff_collate] at hab ⊢
      rwa [← h o List.mem_cons_self o' (List.mem_cons_of_mem _ ho')]
    clear h
    induction orders with
    | nil => rfl
    | cons o' orders ih =>
      obtain ⟨hfirst, hrest⟩ := List.forall_mem_cons.mp hcolumn
      rw [compareAll, hfirst, ih hrest]
      rfl
  rw [compareAll]
  cases hab : o.compare a b with
  | lt => rfl
  | gt => rfl
  | eq => exact htied hab

theorem SortedBy.of_oneColumn {orders : List (SortOrder t)} {rows sorted : List (Row t)}
    (h : SortedBy orders rows sorted) (hcolumn : OneColumn orders) :
    SortedBy orders.head?.toList rows sorted := by
  cases orders with
  | nil => exact h
  | cons o orders =>
    have hsame : compareAll (o :: orders) = compareAll [o] := by
      funext a b
      rw [hcolumn.compareAll_cons, compareAll, compareAll]
      cases o.compare a b <;> rfl
    have hties : tiesAll (o :: orders) = tiesAll [o] := by
      funext a b
      rw [tiesAll, tiesAll, hsame]
    exact ⟨h.perm, hsame ▸ h.pairwise, hties ▸ h.stable⟩

end SortOrder

namespace View

def passing (v : View t) : List (Row t) :=
  v.all.filter fun r => decide (∀ f ∈ v.filters, f.keeps r = true)

theorem filter_passes (v : View t) : v.all.filter (passes v.filters) = v.passing := by
  refine List.filter_congr fun r _ => ?_
  rw [Bool.eq_iff_iff, passes, List.all_eq_true, decide_eq_true_eq]

/-- What an action makes of the orders by which the rows shown were sorted since they were last
filtered anew, the latest first. -/
def layer (v : View t) (past : List (SortOrder t)) : Action t → List (SortOrder t)
  | .sortBy name =>
    match t.resolve? name with
    | some c => SortOrder.choose v.order c :: past
    | none => past
  | .goTo _ | .setPerPage _ => past
  | .load _ _ | .clear | .filterContaining _ | .filterExactly _ | .setFilters _ | .clearFilters =>
    v.order.toList

section

variable [Text.Order]

def layers (v : View t) (past : List (SortOrder t)) : List (Action t) → List (SortOrder t)
  | [] => past
  | a :: actions => (v.act a).layers (v.layer past a) actions

structure Layered (v : View t) (orders : List (SortOrder t)) : Prop where
  active : orders.head? = v.order
  sorted : SortOrder.SortedBy orders v.passing v.shown

theorem refresh_layered (v : View t) :
    ({ v.refresh with page := 1 } : View t).Layered v.order.toList where
  active := by
    change v.order.toList.head? = v.order
    cases v.order <;> rfl
  sorted := by
    change SortOrder.SortedBy v.order.toList v.passing v.refresh.shown
    rw [← filter_passes]
    exact .sort_anew v.order _

variable {v : View t} {past : List (SortOrder t)}

theorem act_layered (h : v.Layered past) (a : Action t) : (v.act a).Layered (v.layer past a) := by
  cases a with
  | load rows fits => exact refresh_layered { v with all := rows }
  | clear => exact refresh_layered { v with all := [] }
  | filterContaining wanted => exact refresh_layered { v with filters := _ }
  | filterExactly wanted => exact refresh_layered { v with filters := _ }
  | setFilters filters => exact refresh_layered { v with filters := filters }
  | clearFilters => exact refresh_layered { v with filters := [] }
  | sortBy name =>
    simp only [act, layer, sortBy]
    cases t.resolve? name with
    | none => exact h
    | some c => exact ⟨rfl, h.sorted.sort _⟩
  | goTo page => exact ⟨h.active, h.sorted⟩
  | setPerPage perPage => exact ⟨h.active, h.sorted⟩

theorem run_layered (h : v.Layered past) (actions : List (Action t)) :
    (v.run actions).Layered (v.layers past actions) := by
  induction actions generalizing v past with
  | nil => exact h
  | cons a actions ih => exact ih (act_layered h a)

theorem start_layered (perPage : UInt64) : (start perPage : View t).Layered [] where
  active := rfl
  sorted := .refl []

theorem Layered.shown_eq (h : v.Layered past) (hcolumn : SortOrder.OneColumn past) :
    v.shown = SortOrder.sort v.order v.passing := by
  have hlatest := h.sorted.of_oneColumn hcolumn
  rw [h.active] at hlatest
  exact hlatest.unique (.sort_anew v.order v.passing)

/-- After any operations on a new view, the rows shown are those that pass all filters, sorted stably
by the orders since they were last filtered anew, the latest first; so all rows, the filters and
these orders determine them. As long as the orders are of one column, the rows shown are the stable
sort by the active order, setting the same filters again leaves them in place, and two views with
the same rows, filters and active order show the same. -/
theorem shown_determined (perPage perPage' : UInt64) (actions actions' : List (Action t)) :
    let v := (start perPage).run actions
    let orders := (start perPage).layers [] actions
    let v' := (start perPage').run actions'
    let orders' := (start perPage').layers [] actions'
    SortOrder.SortedBy orders v.passing v.shown ∧
    (v.all = v'.all → v.filters = v'.filters → orders = orders' → v.shown = v'.shown) ∧
    (SortOrder.OneColumn orders →
      v.shown = SortOrder.sort v.order v.passing ∧ (v.setFilters v.filters).shown = v.shown) ∧
    (SortOrder.OneColumn orders → SortOrder.OneColumn orders' → v.all = v'.all →
      v.filters = v'.filters → v.order = v'.order → v.shown = v'.shown) := by
  intro v orders v' orders'
  have h : v.Layered orders := run_layered (start_layered perPage) actions
  have h' : v'.Layered orders' := run_layered (start_layered perPage') actions'
  have hpassing (hall : v.all = v'.all) (hfilters : v.filters = v'.filters) :
      v.passing = v'.passing := by
    rw [passing, passing, hall, hfilters]
  refine ⟨h.sorted, fun hall hfilters horders => ?_, fun hcolumn => ?_, ?_⟩
  · have hsorted := h'.sorted
    rw [← horders, ← hpassing hall hfilters] at hsorted
    exact h.sorted.unique hsorted
  · have hshown : v.shown = SortOrder.sort v.order v.passing := h.shown_eq hcolumn
    refine ⟨hshown, ?_⟩
    rw [hshown, ← filter_passes]
    rfl
  · intro hcolumn hcolumn' hall hfilters horder
    rw [h.shown_eq hcolumn, h'.shown_eq hcolumn', hpassing hall hfilters, horder]

end

theorem shown_determined_of_one_column :
    let row (id level : String) : Row .channel := ⟨#v[id, "", level]⟩
    let load : Action .channel :=
      .load [row "C1" "Store", row "C2" "Region", row "C3" "store"] (by decide)
    let v : View .channel := (start 5).run [load, .sortBy "Level", .sortBy " level "]
    let v' : View .channel := (start 2).run [.clearFilters, .sortBy "LEVEL", .sortBy "Level", load]
    SortOrder.OneColumn ((start 5).layers [] [load, .sortBy "Level", .sortBy " level "]) ∧
    v.order = some ⟨⟨2, by decide⟩, true⟩ ∧ v.shown = v'.shown ∧
    (v.setFilters v.filters).shown = v.shown := by
  intro row load v v'
  have hcolumn :
      SortOrder.OneColumn ((start 5).layers [] [load, .sortBy "Level", .sortBy " level "]) := by
    decide
  have hdetermined := shown_determined 5 2 [load, .sortBy "Level", .sortBy " level "]
    [.clearFilters, .sortBy "LEVEL", .sortBy "Level", load]
  exact ⟨hcolumn, by decide, hdetermined.2.2.2 hcolumn (by decide) rfl rfl (by decide),
    (hdetermined.2.2.1 hcolumn).2⟩

/-- Two rows with equal descriptions are sorted by their levels and then by their descriptions. They
stay in the order of their levels until the same filter is set again. -/
theorem ties_keep_order_of_earlier_column :
    let row (id level : String) : Row .channel := ⟨#v[id, "Main", level]⟩
    let load : Action .channel := .load [row "C1" "Store", row "C2" "Region"] (by decide)
    let filter : Action .channel := .filterContaining [("ChannelDescr", "main")]
    let v : View .channel := (start 5).run [load, filter, .sortBy "Level", .sortBy "ChannelDescr"]
    let v' : View .channel :=
      (start 5).run [load, filter, .sortBy "Level", .sortBy "ChannelDescr", filter]
    v.all = v'.all ∧ v.filters = v'.filters ∧ v.order = v'.order ∧
    v.shown = [row "C2" "Region", row "C1" "Store"] ∧
    v'.shown = [row "C1" "Store", row "C2" "Region"] := by
  intro row load filter v v'
  let rows := [row "C1" "Store", row "C2" "Region"]
  let level : SortOrder .channel := ⟨⟨2, by decide⟩, false⟩
  let descr : SortOrder .channel := ⟨⟨1, by decide⟩, false⟩
  have hlayered : SortOrder.sort (some descr) (SortOrder.sort (some level) rows) =
      [row "C2" "Region", row "C1" "Store"] := by
    rw [SortOrder.sort_pair, if_neg (by decide +kernel), SortOrder.sort_pair]
    decide +kernel
  have hanew : SortOrder.sort (some descr) rows = rows := by
    rw [SortOrder.sort_pair]
    decide +kernel
  let loaded : View .channel := ⟨rows, rows, [⟨some descr.column, "main", .contains⟩], 1, 5, none⟩
  have hloaded : (start 5).run [load, filter] = loaded := by decide
  have hv : v = { loaded with
      shown := SortOrder.sort (some descr) (SortOrder.sort (some level) rows)
      order := some descr } := by
    have hlevel : Table.channel.resolve? "Level" = some level.column := by decide
    have hdescr : Table.channel.resolve? "ChannelDescr" = some descr.column := by decide
    change ((start 5).run [load, filter]).run [.sortBy "Level", .sortBy "ChannelDescr"] = _
    rw [hloaded]
    simp only [run, List.foldl, act, sortBy, hlevel, hdescr]
    rfl
  have hv' : v' = { loaded with
      shown := SortOrder.sort (some descr) rows
      order := some descr } := by
    have hpassing : rows.filter (passes loaded.filters) = rows := by decide
    have hfilters : [("ChannelDescr", "main")].filterMap (fun w => Filter.containing? w.1 w.2) =
        loaded.filters := by decide
    change v.act filter = _
    rw [hv]
    simp only [filter, act, filterContaining, setFilters, refresh, hfilters]
    change View.mk rows (SortOrder.sort (some descr) (rows.filter (passes loaded.filters)))
      loaded.filters 1 5 (some descr) = _
    rw [hpassing]
  rw [hv, hv', hlayered, hanew]
  exact ⟨rfl, rfl, rfl, rfl, rfl⟩

end View

end PlanningSearch
