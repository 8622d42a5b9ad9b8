import SpacewayScenarios.Regex.Locality

/-!
# First matches that survive appends

`find_in_log` re-reads a log that only grows, and returns group 1 of the first match.
Appending text can change that value in two ways only, and this module gives each a
name:

* an earlier start position could gain a match that runs into the appended text. A
  pattern **cannot straddle** (`NoStraddle`) when this never happens while a later
  position already matches inside the old text; then the first matching position stays
  where it was (`search_append_of_noStraddle`);
* the first result at that position could change, as the greedy `(\w+)` grows with the
  text after it. It **stays** (`FirstStays`) when the results come shortest first
  (`Ordered`) or all carry the same group (`OneGroup`).

Together the two give `search_append_eq`. Fixed-width patterns cannot straddle
(`noStraddle_of_width`), nor can the lazy `P.+?D` with a fixed-width tail
(`noStraddle_lazy`) or a label followed by a greedy run (`noStraddle_lit_plus`).
-/

namespace SpacewayScenarios.Re

/-- No earlier start position gains a match that reaches appended text, while a later
position matches inside the old text. -/
def NoStraddle (r : Re) : Prop :=
  ∀ u q t : List Char, u ≠ [] → r.results (u ++ q) = [] → r.results q ≠ [] →
    r.results (u ++ q ++ t) = []

/-- The first result at a matching position keeps its group when text is appended. -/
def FirstStays (r : Re) : Prop :=
  ∀ q t : List Char, r.results q ≠ [] →
    (r.results (q ++ t)).head?.map Prod.snd = (r.results q).head?.map Prod.snd

/-- Results come shortest first, as for a lazy quantifier. -/
def Ordered (r : Re) : Prop := ∀ xs, (r.results xs).Pairwise fun m m' => m.1 ≤ m'.1

/-- All results at one position carry the same group. -/
def OneGroup (r : Re) : Prop := ∀ xs, ∀ m ∈ r.results xs, ∀ m' ∈ r.results xs, m.2 = m'.2

/-- Every result consumes exactly `n` characters. -/
def Width (r : Re) (n : Nat) : Prop := ∀ xs, ∀ m ∈ r.results xs, m.1 = n

section

variable {r : Re} {xs : List Char} {g : Option (List Char)}

/-- Every capture of a match has `n` characters. -/
def Captures (r : Re) (n : Nat) : Prop :=
  ∀ xs, ∀ m ∈ r.results xs, ∀ g, m.2 = some g → g.length = n

/-! ### The first matching position -/

/-- A pattern that cannot straddle finds its first match of `xs ++ t` at the position of the
first match of `xs`, a suffix `q` of `xs`. -/
theorem search_append_of_noStraddle (t : List Char) (hr : NoStraddle r)
    (h : r.search xs = some g) :
    ∃ q, q <:+ xs ∧ (r.results q).head?.map Prod.snd = some g ∧
      r.search (xs ++ t) = (r.results (q ++ t)).head?.map Prod.snd := by
  induction xs with
  | nil =>
    have hne : r.results [] ≠ [] := by rintro h0; simp [search, h0] at h
    exact ⟨[], List.suffix_refl _, h, search_of_ne_nil (results_append_ne_nil t hne)⟩
  | cons x xs ih =>
    by_cases h0 : r.results (x :: xs) = []
    · rw [search_cons_of_nil h0] at h
      obtain ⟨q, ⟨v, rfl⟩, hq, hs⟩ := ih h
      have hq' : r.results q ≠ [] := by rintro h1; simp [h1] at hq
      have hnil := hr (x :: v) q t (List.cons_ne_nil _ _) h0 hq'
      refine ⟨q, ⟨x :: v, rfl⟩, hq, ?_⟩
      rw [List.cons_append, search_cons_of_nil (by simpa using hnil), hs]
    · exact ⟨x :: xs, List.suffix_refl _, (search_of_ne_nil h0).symm.trans h,
        search_of_ne_nil (results_append_ne_nil t h0)⟩

/-- **Stability**: a pattern that cannot straddle and whose first result stays extracts the
same group from `xs ++ t` as from `xs`. -/
theorem search_append_eq (t : List Char) (h1 : NoStraddle r) (h2 : FirstStays r)
    (h : r.search xs = some g) : r.search (xs ++ t) = some g := by
  obtain ⟨q, -, hq, hs⟩ := search_append_of_noStraddle t h1 h
  rw [hs, h2 q t (by rintro h0; simp [h0] at hq), hq]

/-! ### First results that stay -/

theorem firstStays_of_ordered (hr : Ordered r) : FirstStays r := by
  intro q t hq
  obtain ⟨m, l, hm⟩ := List.exists_cons_of_ne_nil hq
  have hmem : m ∈ r.results (q ++ t) := mem_results_append (hm ▸ List.mem_cons_self m l)
  obtain ⟨m', l', hm'⟩ := List.exists_cons_of_ne_nil (List.ne_nil_of_mem hmem)
  have hle : m'.1 ≤ m.1 := by
    rw [hm'] at hmem
    rcases List.mem_cons.mp hmem with rfl | h
    · exact le_rfl
    · have hp : (m' :: l').Pairwise fun m m' => m.1 ≤ m'.1 := hm' ▸ hr (q ++ t)
      exact List.rel_of_pairwise_cons hp h
  have hq' := fst_le_length r q m (hm ▸ List.mem_cons_self m l)
  have hloc := results_append_filter r q t
  rw [hm', hm, List.filter_cons_of_pos (by simp only [decide_eq_true_eq]; omega)] at hloc
  rw [hm', hm, (List.cons.inj hloc).1]; rfl

theorem firstStays_of_oneGroup (hr : OneGroup r) : FirstStays r := by
  intro q t hq
  obtain ⟨m, l, hm⟩ := List.exists_cons_of_ne_nil hq
  have hmem : m ∈ r.results (q ++ t) := mem_results_append (hm ▸ List.mem_cons_self m l)
  obtain ⟨m', l', hm'⟩ := List.exists_cons_of_ne_nil (List.ne_nil_of_mem hmem)
  have := hr (q ++ t) m' (hm' ▸ List.mem_cons_self m' l') m hmem
  simp [hm, hm', this]

/-! ### Widths and orders of the building blocks -/

theorem width_lit (s : List Char) : Width (lit s) s.length := by
  intro xs m h; simp only [results] at h; split at h <;> simp_all

theorem width_rep (k : CharClass) (n : Nat) : Width (rep k n) n := by
  intro xs m h; simp only [results] at h; split at h <;> simp_all

theorem Width.seq {a b : Re} {na nb : Nat} (ha : Width a na) (hb : Width b nb) :
    Width (seq a b) (na + nb) := by
  intro xs m h
  obtain ⟨ma, hma, mb, hmb, rfl⟩ := mem_results_seq.mp h
  rw [ha xs ma hma, hb _ mb hmb]

theorem Width.group {a : Re} {n : Nat} (ha : Width a n) : Width (group a) n := by
  intro xs m h
  simp only [results, List.mem_map] at h
  obtain ⟨m', h', rfl⟩ := h
  exact ha xs m' h'

theorem Width.ordered {n : Nat} (h : Width r n) : Ordered r := fun xs =>
  List.pairwise_of_forall_mem_list fun a ha b hb => by rw [h xs a ha, h xs b hb]

theorem ordered_plusLazy (k : CharClass) : Ordered (plusLazy k) := fun _ =>
  List.pairwise_map.mpr ((List.pairwise_lt_range _).imp fun h => Nat.succ_le_succ h.le)

/-- A literal, then an ordered pattern: the literal has at most one result. -/
theorem Ordered.lit_seq {b : Re} (s : List Char) (hb : Ordered b) : Ordered (seq (lit s) b) := by
  intro xs
  simp only [results]
  split
  · simp only [List.flatMap_cons, List.flatMap_nil, List.append_nil]
    exact List.pairwise_map.mpr ((hb _).imp fun h => Nat.add_le_add_left h _)
  · simp

/-- An ordered pattern, then a fixed-width one. -/
theorem Ordered.seq_width {a b : Re} {n : Nat} (ha : Ordered a) (hb : Width b n) :
    Ordered (seq a b) := by
  intro xs
  have key : ∀ ma ma' : Nat × Option (List Char), ma.1 ≤ ma'.1 →
      ∀ x ∈ (b.results (xs.drop ma.1)).map (fun mb => (ma.1 + mb.1, mb.2.or ma.2)),
      ∀ y ∈ (b.results (xs.drop ma'.1)).map (fun mb => (ma'.1 + mb.1, mb.2.or ma'.2)),
      x.1 ≤ y.1 := by
    intro ma ma' hle x hx y hy
    simp only [List.mem_map] at hx hy
    obtain ⟨mb, hmb, rfl⟩ := hx
    obtain ⟨mb', hmb', rfl⟩ := hy
    simp only [hb _ mb hmb, hb _ mb' hmb']; omega
  exact List.pairwise_flatMap.mpr ⟨fun ma _ => List.pairwise_of_forall_mem_list
    (key ma ma le_rfl), (ha xs).imp fun hle => key _ _ hle⟩

theorem Ordered.group {a : Re} (ha : Ordered a) : Ordered (group a) := fun xs =>
  List.pairwise_map.mpr (ha xs)

/-! ### Captures -/

theorem captures_lit (s : List Char) (n : Nat) : Captures (lit s) n := by
  intro xs m h g hg; simp only [results] at h; split at h <;> simp_all

theorem captures_plusLazy (k : CharClass) (n : Nat) : Captures (plusLazy k) n := by
  intro xs m h g hg; simp only [results, List.mem_map] at h; obtain ⟨_, _, rfl⟩ := h; simp at hg

theorem captures_group_rep (k : CharClass) (n : Nat) : Captures (group (rep k n)) n := by
  intro xs m h g hg
  simp only [results, List.mem_map] at h
  obtain ⟨m', h', rfl⟩ := h
  split at h' <;> rename_i hc
  · simp only [List.mem_singleton] at h'
    subst h'
    simp only [Option.some.injEq] at hg
    subst hg
    simp [hc.1]
  · simp at h'

theorem Captures.seq {a b : Re} {n : Nat} (ha : Captures a n) (hb : Captures b n) :
    Captures (seq a b) n := by
  intro xs m h g hg
  obtain ⟨ma, hma, mb, hmb, rfl⟩ := mem_results_seq.mp h
  cases hmb2 : mb.2 with
  | none => simp only [hmb2, Option.none_or] at hg; exact ha _ ma hma g hg
  | some g' =>
    simp only [hmb2, Option.or_some, Option.some.injEq] at hg
    subst hg
    exact hb _ mb hmb _ hmb2

theorem length_of_search_eq_some {n : Nat} (hr : Captures r n) {g : List Char}
    (h : r.search xs = some (some g)) : g.length = n := by
  obtain ⟨q, -, m, hm, hg⟩ := exists_of_search_eq_some h
  exact hr q m hm g hg

/-! ### Patterns that cannot straddle -/

theorem noStraddle_of_width {n : Nat} (hr : Width r n) : NoStraddle r := by
  intro u q t hu h0 hq
  by_contra hne
  obtain ⟨m, hm⟩ := List.exists_mem_of_ne_nil _ hne
  obtain ⟨mq, hmq⟩ := List.exists_mem_of_ne_nil _ hq
  have h1 := length_lt_of_results_nil h0 hm
  have h2 := fst_le_length r q mq hmq
  have hu' : 0 < u.length := List.length_pos.mpr hu
  rw [hr _ m hm, List.length_append] at h1
  rw [hr _ mq hmq] at h2
  omega

theorem mem_results_lazy {P : List Char} {k : CharClass} {D : Re} {ys : List Char}
    {m : Nat × Option (List Char)} :
    m ∈ (seq (lit P) (seq (plusLazy k) D)).results ys ↔
      P <+: ys ∧ ∃ i < run k (ys.drop P.length), ∃ md ∈ D.results (ys.drop (P.length + (i + 1))),
        m = (P.length + (i + 1 + md.1), md.2) := by
  simp only [mem_results_seq, results]
  split <;> simp_all [List.isPrefixOf_iff_prefix]
  constructor
  · rintro ⟨_, b, ⟨i, hi, a, hmd, rfl⟩, rfl⟩; exact ⟨i, hi, a, b, hmd, rfl⟩
  · rintro ⟨i, hi, a, b, hmd, rfl⟩; exact ⟨_, b, ⟨i, hi, a, hmd, rfl⟩, rfl⟩

/-- The lazy `P.+?D` with a fixed-width tail `D`: a match that ran into appended text would
span the tail of the later match inside the text, and stopping the lazy run there gives a
match that ends inside the text. -/
theorem noStraddle_lazy {P : List Char} {k : CharClass} {D : Re} {n : Nat} (hD : Width D n) :
    NoStraddle (seq (lit P) (seq (plusLazy k) D)) := by
  intro u q t hu h0 hq
  by_contra hne
  obtain ⟨m, hm⟩ := List.exists_mem_of_ne_nil _ hne
  obtain ⟨mq, hmq⟩ := List.exists_mem_of_ne_nil _ hq
  have hlt := length_lt_of_results_nil h0 hm
  have hle := fst_le_length _ q mq hmq
  obtain ⟨hP, i, hi, md, hmd, rfl⟩ := mem_results_lazy.mp hm
  obtain ⟨-, i', -, md', hmd', rfl⟩ := mem_results_lazy.mp hmq
  rw [hD _ md hmd] at hlt
  rw [hD _ md' hmd'] at hle
  simp only [List.length_append] at hlt hle
  have hshort : (P.length + (u.length + i' + 1 + md'.1), md'.2) ∈
      (seq (lit P) (seq (plusLazy k) D)).results (u ++ q ++ t) := by
    refine mem_results_lazy.mpr ⟨hP, u.length + i', by omega, md', ?_, rfl⟩
    rw [show P.length + (u.length + i' + 1) = u.length + (P.length + (i' + 1)) by omega,
      List.append_assoc, List.drop_append, List.drop_append_of_le_length (by omega)]
    exact mem_results_append hmd'
  have := length_lt_of_results_nil h0 hshort
  simp only [List.length_append, hD _ md' hmd'] at this
  omega

theorem mem_results_token {P : List Char} {k : CharClass} {ys : List Char}
    {m : Nat × Option (List Char)} :
    m ∈ (seq (lit P) (group (plus k))).results ys ↔
      P <+: ys ∧ ∃ i < run k (ys.drop P.length),
        m = (P.length + (i + 1), some ((ys.drop P.length).take (i + 1))) := by
  simp only [mem_results_seq, results]
  split <;> simp_all [List.isPrefixOf_iff_prefix]
  exact exists_congr fun i => and_congr_right fun _ => eq_comm

/-- A label followed by a greedy run: the later match inside the text shows that the label
fits there, so a straddling match would already have its one-character version inside. -/
theorem noStraddle_lit_plus (P : List Char) (k : CharClass) :
    NoStraddle (seq (lit P) (group (plus k))) := by
  intro u q t hu h0 hq
  by_contra hne
  obtain ⟨m, hm⟩ := List.exists_mem_of_ne_nil _ hne
  obtain ⟨mq, hmq⟩ := List.exists_mem_of_ne_nil _ hq
  have hle := fst_le_length _ q mq hmq
  obtain ⟨hP, i, hi, rfl⟩ := mem_results_token.mp hm
  obtain ⟨-, i', -, rfl⟩ := mem_results_token.mp hmq
  have := length_lt_of_results_nil h0 (mem_results_token.mpr ⟨hP, 0, by omega, rfl⟩)
  have hu' : 0 < u.length := List.length_pos.mpr hu
  simp only [List.length_append] at this hle
  omega

/-- The greedy `P(\w+)` extracts the whole run after the label. -/
theorem head_results_token {P : List Char} {k : CharClass} {ys : List Char}
    (h : (seq (lit P) (group (plus k))).results ys ≠ []) :
    ((seq (lit P) (group (plus k))).results ys).head?.map Prod.snd =
      some (some ((ys.drop P.length).takeWhile k.test)) := by
  simp only [results] at h ⊢
  split at h
  · obtain ⟨n, hn⟩ : ∃ n, run k (ys.drop P.length) = n + 1 := by
      cases hr : run k (ys.drop P.length) <;> simp_all
    rename_i hP
    simp only [List.isPrefixOf_iff_prefix] at hP
    simp [hP, hn, List.range_succ]
    rw [← hn]
    exact (List.prefix_iff_eq_take.mp (List.takeWhile_prefix _)).symm
  · exact absurd rfl h

theorem takeWhile_prefix_append (p : Char → Bool) (l t : List Char) :
    l.takeWhile p <+: (l ++ t).takeWhile p := by
  rw [List.takeWhile_append]
  split_ifs with h
  · rw [(List.takeWhile_prefix p).eq_of_length h]; exact List.prefix_append _ _
  · exact List.prefix_refl _

/-- The greedy `P(\w+)` extracts from `xs ++ t` the value it extracted from `xs`, extended by
the word characters appended right after it, if any. -/
theorem search_append_token {P : List Char} {k : CharClass} {v : List Char} (t : List Char)
    (h : (seq (lit P) (group (plus k))).search xs = some (some v)) :
    ∃ w, (seq (lit P) (group (plus k))).search (xs ++ t) = some (some (v ++ w)) := by
  obtain ⟨q, -, hq, hs⟩ := search_append_of_noStraddle t (noStraddle_lit_plus P k) h
  have hne : (seq (lit P) (group (plus k))).results q ≠ [] := by rintro h0; simp [h0] at hq
  obtain ⟨m, hm⟩ := List.exists_mem_of_ne_nil _ hne
  have hlen : P.length ≤ q.length := (mem_results_token.mp hm).1.length_le
  obtain rfl : (q.drop P.length).takeWhile k.test = v := by
    simpa [head_results_token hne] using hq
  obtain ⟨w, hw⟩ := takeWhile_prefix_append k.test (q.drop P.length) t
  refine ⟨w, ?_⟩
  rw [hs, head_results_token (results_append_ne_nil t hne), List.drop_append_of_le_length hlen,
    ← hw]

end

end SpacewayScenarios.Re
