import SpacewayScenarios.Regex.Basic

/-!
# Matches are local

A match at the front of a text only reads the characters it consumes. **Locality**
(`results_append_filter`) makes this exact for the list of successes: the matches at the
front of `xs ++ t` that end inside `xs` are the matches at the front of `xs`, in the same
backtracking order. Everything the scripts' reads have in common follows from it:

* every match of `xs` is one of `xs ++ t` (`mem_results_append`), so what `re.search` finds
  it keeps finding as the log grows (`search_isSome_append`);
* a match of `xs ++ t` that `xs` lacks runs into `t` (`length_lt_of_results_nil`);
* `re.search` finds literal text exactly where it occurs (`search_lit_isSome_iff`).
-/

namespace SpacewayScenarios.Re

/-! ### Runs of a class -/

theorem run_le_length (k : CharClass) (xs : List Char) : run k xs ≤ xs.length :=
  (List.takeWhile_prefix _).length_le

/-- A run at the front of `xs ++ t`, cut at the end of `xs`, is the run at the front of `xs`. -/
theorem min_run_append (k : CharClass) (xs t : List Char) :
    min (run k (xs ++ t)) xs.length = run k xs := by
  unfold run
  rw [List.takeWhile_append]
  split_ifs with h
  · simp [h]
  · exact min_eq_left (List.takeWhile_prefix _).length_le

/-- The first `run k xs` characters of `xs` are in class `k`. -/
theorem getElem?_of_lt_run {k : CharClass} {xs : List Char} {i : Nat} (h : i < run k xs) :
    ∃ c, xs[i]? = some c ∧ k.test c = true := by
  have hi : i < (xs.takeWhile k.test).length := h
  refine ⟨(xs.takeWhile k.test)[i], ?_, List.mem_takeWhile_imp (List.getElem_mem hi)⟩
  rw [(List.takeWhile_prefix k.test).getElem hi]
  exact List.getElem?_eq_getElem _

private theorem filter_map_range {β : Type} (f : Nat → β) (p : β → Bool) (n : Nat)
    (hp : ∀ i, p (f i) = decide (i < n)) :
    ∀ R, ((List.range R).map f).filter p = (List.range (min R n)).map f
  | 0 => by simp
  | R + 1 => by
    rw [List.range_succ, List.map_append, List.filter_append, filter_map_range f p n hp R]
    by_cases h : R < n
    · rw [min_eq_left (by omega : R + 1 ≤ n), min_eq_left h.le, List.range_succ]; simp [hp, h]
    · rw [min_eq_right (by omega : n ≤ R + 1), min_eq_right (by omega : n ≤ R)]; simp [hp, h]

private theorem flatMap_ite_nil {α β : Type} (l : List α) (p : α → Bool) (g : α → List β) :
    l.flatMap (fun a => if p a then g a else []) = (l.filter p).flatMap g := by
  induction l with
  | nil => rfl
  | cons a l ih => by_cases h : p a <;> simp [List.filter_cons, h, ih]

/-! ### What a match consumes -/

@[simp] theorem mem_results_seq {a b : Re} {xs : List Char} {m : Nat × Option (List Char)} :
    m ∈ (seq a b).results xs ↔
      ∃ ma ∈ a.results xs, ∃ mb ∈ b.results (xs.drop ma.1), (ma.1 + mb.1, mb.2.or ma.2) = m := by
  simp [results]

/-- A match never consumes more than its input. -/
theorem fst_le_length : ∀ (r : Re) (xs : List Char), ∀ m ∈ r.results xs, m.1 ≤ xs.length
  | lit s, xs, m, h => by
    simp only [results] at h; split at h <;> simp_all [List.isPrefixOf_iff_prefix, List.IsPrefix.length_le]
  | rep k n, xs, m, h => by simp only [results] at h; split at h <;> simp_all
  | plus k, xs, m, h | plusLazy k, xs, m, h | star k, xs, m, h => by
    simp [results] at h; obtain ⟨i, hi, rfl⟩ := h; have := run_le_length k xs; simp; omega
  | opt k, [], m, h => by simp only [results] at h; split at h <;> simp_all
  | opt k, x :: xs, m, h => by
    simp only [results] at h
    split at h <;> simp only [List.mem_cons, List.mem_singleton, List.not_mem_nil, or_false] at h <;>
      rcases h with rfl | rfl <;> simp
  | seq a b, xs, m, h => by
    obtain ⟨ma, ha, mb, hb, rfl⟩ := mem_results_seq.mp h
    have h1 := fst_le_length a xs ma ha
    have h2 := fst_le_length b _ mb hb
    simp only [List.length_drop] at h2; simp only; omega
  | alt a b, xs, m, h => by
    simp only [results, List.mem_append] at h
    exact h.elim (fst_le_length a xs m) (fst_le_length b xs m)
  | group a, xs, m, h => by
    simp only [results, List.mem_map] at h
    obtain ⟨m', h', rfl⟩ := h; exact fst_le_length a xs m' h'


/-! ### Locality -/

private theorem isPrefixOf_append {s xs t : List Char} (h : s.length ≤ xs.length) :
    s.isPrefixOf (xs ++ t) = s.isPrefixOf xs := by
  rw [Bool.eq_iff_iff, List.isPrefixOf_iff_prefix, List.isPrefixOf_iff_prefix,
    List.prefix_iff_eq_take, List.prefix_iff_eq_take, List.take_append_of_le_length h]

/-- **Locality**: the matches at the front of `xs ++ t` that end inside `xs` are the matches
at the front of `xs`, in the same order. -/
theorem results_append_filter (r : Re) (xs t : List Char) :
    (r.results (xs ++ t)).filter (fun m => decide (m.1 ≤ xs.length)) = r.results xs := by
  induction r generalizing xs with
  | lit s =>
    simp only [results]
    by_cases hs : s.length ≤ xs.length
    · rw [isPrefixOf_append hs]; split <;> simp [hs]
    · have : ¬ s <+: xs := fun h => hs h.length_le
      split <;> simp_all [List.isPrefixOf_iff_prefix]
  | rep k n =>
    simp only [results]
    by_cases hn : n ≤ xs.length
    · have hn' : n ≤ (xs ++ t).length := by simp only [List.length_append]; omega
      rw [List.take_append_of_le_length hn]
      split_ifs <;> simp_all
    · split_ifs <;> simp_all
  | plus k =>
    simp only [results, List.filter_reverse]
    rw [filter_map_range _ _ xs.length (fun i => by simp only [decide_eq_decide]; omega),
      min_run_append]
  | plusLazy k =>
    simp only [results]
    rw [filter_map_range _ _ xs.length (fun i => by simp only [decide_eq_decide]; omega),
      min_run_append]
  | star k =>
    simp only [results, List.filter_reverse]
    rw [filter_map_range _ _ (xs.length + 1) (fun i => by simp only [decide_eq_decide]; omega),
      Nat.succ_min_succ, min_run_append]
  | opt k =>
    cases xs with
    | nil => simp only [results]; split <;> simp
    | cons x xs => simp only [results, List.cons_append, List.head?_cons]; split <;> simp
  | seq a b iha ihb =>
    simp only [results, List.filter_flatMap]
    rw [← iha xs, ← flatMap_ite_nil]
    refine List.flatMap_congr fun ma hma => ?_
    split_ifs with h <;> simp only [decide_eq_true_eq] at h
    · rw [List.drop_append_of_le_length h, List.filter_map, ← ihb (xs.drop ma.1)]
      congr 1
      exact List.filter_congr fun mb _ => by
        simp only [Function.comp, List.length_drop, decide_eq_decide]; omega
    · rw [List.filter_eq_nil_iff]
      simp only [List.mem_map]
      rintro _ ⟨mb, _, rfl⟩
      simp only [decide_eq_true_eq]; omega
  | alt a b iha ihb => simp only [results, List.filter_append, iha, ihb]
  | group a iha =>
    simp only [results, List.filter_map, Function.comp_def, iha]
    refine List.map_congr_left fun m hm => ?_
    rw [List.take_append_of_le_length (fst_le_length a xs m hm)]

/-- A match at the front of `xs` is still one at the front of `xs ++ t`. -/
theorem mem_results_append {r : Re} {xs t : List Char} {m : Nat × Option (List Char)}
    (h : m ∈ r.results xs) : m ∈ r.results (xs ++ t) := by
  rw [← results_append_filter r xs t] at h
  exact List.mem_of_mem_filter h

theorem results_append_ne_nil {r : Re} {xs : List Char} (t : List Char)
    (h : r.results xs ≠ []) : r.results (xs ++ t) ≠ [] := by
  obtain ⟨m, l, hm⟩ := List.exists_cons_of_ne_nil h
  exact List.ne_nil_of_mem (mem_results_append (hm ▸ List.mem_cons_self m l))


/-- A match at the front of `xs ++ t` that is not one of `xs` runs past the end of `xs`. -/
theorem length_lt_of_results_nil {r : Re} {xs t : List Char} {m : Nat × Option (List Char)}
    (h : r.results xs = []) (hm : m ∈ r.results (xs ++ t)) : xs.length < m.1 := by
  by_contra hlt
  have : m ∈ r.results xs := by
    rw [← results_append_filter r xs t]; exact List.mem_filter.mpr ⟨hm, by simpa using hlt⟩
  simp [h] at this

/-! ### Search -/

/-- Where `r` matches at the front, `re.search` returns that position's first result. -/
theorem search_of_ne_nil {r : Re} {xs : List Char} (h : r.results xs ≠ []) :
    r.search xs = (r.results xs).head?.map Prod.snd := by
  cases xs with
  | nil => rfl
  | cons x xs =>
    obtain ⟨m, l, hm⟩ := List.exists_cons_of_ne_nil h
    simp [search, hm]

theorem search_cons_of_nil {r : Re} {x : Char} {xs : List Char}
    (h : r.results (x :: xs) = []) : r.search (x :: xs) = r.search xs := by
  simp [search, h]

/-- `re.search` finds something exactly when `r` matches at the front of some suffix. -/
theorem search_isSome_iff (r : Re) (xs : List Char) :
    (r.search xs).isSome ↔ ∃ q, q <:+ xs ∧ r.results q ≠ [] := by
  induction xs with
  | nil => cases h : r.results [] <;> simp [search, h]
  | cons x xs ih =>
    by_cases h : r.results (x :: xs) = []
    · simp only [search_cons_of_nil h, ih, List.suffix_cons_iff]
      constructor
      · rintro ⟨q, hq, hr⟩; exact ⟨q, .inr hq, hr⟩
      · rintro ⟨q, rfl | hq, hr⟩
        · exact absurd h hr
        · exact ⟨q, hq, hr⟩
    · obtain ⟨m, l, hm⟩ := List.exists_cons_of_ne_nil h
      simp only [search_of_ne_nil h, hm, List.head?_cons, Option.map_some', Option.isSome_some,
        true_iff]
      exact ⟨x :: xs, List.suffix_refl _, h⟩

/-- What `re.search` returns is the group of a match at the front of some suffix. -/
theorem exists_of_search_eq_some {r : Re} {xs : List Char} {g : Option (List Char)}
    (h : r.search xs = some g) : ∃ q, q <:+ xs ∧ ∃ m ∈ r.results q, m.2 = g := by
  induction xs with
  | nil =>
    cases hr : r.results [] with
    | nil => simp [search, hr] at h
    | cons m l => exact ⟨[], List.suffix_refl _, m, by simp [hr], by simpa [search, hr] using h⟩
  | cons x xs ih =>
    cases hr : r.results (x :: xs) with
    | nil =>
      obtain ⟨q, hq, hm⟩ := ih (by simpa [search, hr] using h)
      exact ⟨q, hq.trans (List.suffix_cons x xs), hm⟩
    | cons m l => exact ⟨x :: xs, List.suffix_refl _, m, by simp [hr], by simpa [search, hr] using h⟩

/-- What `re.search` finds in `xs` it still finds in `xs ++ t`. -/
theorem search_isSome_append {r : Re} {xs : List Char} (t : List Char)
    (h : (r.search xs).isSome) : (r.search (xs ++ t)).isSome := by
  obtain ⟨q, ⟨u, rfl⟩, hq⟩ := (search_isSome_iff r xs).mp h
  exact (search_isSome_iff r _).mpr
    ⟨q ++ t, ⟨u, by rw [List.append_assoc]⟩, results_append_ne_nil t hq⟩

/-- `re.search` of literal text finds it exactly when the text occurs. -/
theorem search_lit_isSome_iff (s xs : List Char) : ((lit s).search xs).isSome ↔ s <:+: xs := by
  simp only [search_isSome_iff, results, List.infix_iff_prefix_suffix]
  refine exists_congr fun q => ?_
  split <;> simp_all [List.isPrefixOf_iff_prefix, and_comm]

end SpacewayScenarios.Re
