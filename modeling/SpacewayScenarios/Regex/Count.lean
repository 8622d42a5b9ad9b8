import SpacewayScenarios.Regex.Basic

/-!
# Counting the matches of a literal

The scenarios count decrypted messages as `len(re.findall(r'Decrypted MLS message', content))`.
`re.findall` collects the leftmost non-overlapping matches: after each match the scan
resumes where it ended (`Re.countFrom`). For a literal that overlaps no shifted copy of
itself (**border-free**, `BorderFree`), that skip never passes over an occurrence, and the
count is the number of positions where the literal occurs (`countFrom_lit_eq`). Positions
of `c` and of `t` stay positions of `c ++ t` (`occurrences_append`), so such a count is
**superadditive**: the count of a log is at least the count of its first part plus the
count of what was appended (`countFrom_lit_append`).
-/

namespace SpacewayScenarios.Re

/-- The number of positions of `xs` where `s` occurs. -/
def occurrences (s : List Char) : List Char → Nat
  | [] => 0
  | x :: xs => (if s.isPrefixOf (x :: xs) then 1 else 0) + occurrences s xs

/-- No proper suffix of `s` is a prefix of it, so two occurrences of `s` never overlap. -/
def BorderFree (s : List Char) : Prop :=
  ∀ j ∈ List.range s.length, 0 < j → (s.drop j).isPrefixOf s = false

instance (s : List Char) : Decidable (BorderFree s) :=
  inferInstanceAs (Decidable (∀ j ∈ List.range s.length, 0 < j → (s.drop j).isPrefixOf s = false))

theorem occurrences_append (s c t : List Char) :
    occurrences s c + occurrences s t ≤ occurrences s (c ++ t) := by
  induction c with
  | nil => simp [occurrences]
  | cons x c ih =>
    simp only [occurrences, List.cons_append]
    have : s.isPrefixOf (x :: c) = true → s.isPrefixOf (x :: (c ++ t)) = true := by
      simp only [List.isPrefixOf_iff_prefix]
      exact fun h => h.trans (List.prefix_append (x :: c) t)
    split_ifs <;> simp_all <;> omega

/-- Skipping `k` characters is counting from the `k`-th. -/
theorem countFrom_eq_drop (r : Re) : ∀ k xs, r.countFrom k xs = r.countFrom 0 (xs.drop k)
  | 0, _ => rfl
  | _ + 1, [] => by simp [countFrom]
  | k + 1, _ :: xs => by rw [countFrom, countFrom_eq_drop r k xs, List.drop_succ_cons]

/-- Where no position below `n` holds an occurrence, dropping `n` characters loses none. -/
theorem occurrences_drop {s : List Char} :
    ∀ n xs, (∀ i < n, s.isPrefixOf (xs.drop i) = false) →
      occurrences s xs = occurrences s (xs.drop n)
  | 0, _, _ => rfl
  | _ + 1, [], _ => rfl
  | n + 1, x :: xs, h => by
    have h0 := h 0 (Nat.succ_pos n)
    simp only [List.drop_zero] at h0
    rw [occurrences, h0, if_neg Bool.false_ne_true, Nat.zero_add, List.drop_succ_cons]
    exact occurrences_drop n xs fun i hi => by simpa using h (i + 1) (by omega)

/-- Two occurrences of a border-free `s` are at least `s.length` apart. -/
theorem isPrefixOf_drop_eq_false {s y : List Char} (hs : BorderFree s) (h : s <+: y) {j : Nat}
    (hj : 0 < j) (hjs : j < s.length) : s.isPrefixOf (y.drop j) = false := by
  rw [Bool.eq_false_iff]
  intro hd
  rw [List.isPrefixOf_iff_prefix] at hd
  have hb : s.drop j <+: s := by
    have e : s.drop j = (y.drop j).take (s.length - j) := by
      conv_lhs => rw [List.prefix_iff_eq_take.mp h]
      rw [List.drop_take]
    rw [e]
    exact List.prefix_of_prefix_length_le (List.take_prefix _ _) hd
      (by simp only [List.length_take, List.length_drop]; omega)
  have := hs j (List.mem_range.mpr hjs) hj
  rw [List.isPrefixOf_iff_prefix.mpr hb] at this
  exact Bool.noConfusion this

/-- For a nonempty border-free literal, `len(re.findall(s, xs))` counts the positions where
`s` occurs. -/
theorem countFrom_lit_eq {s : List Char} (hs : BorderFree s) (hne : s ≠ []) :
    ∀ xs, (lit s).countFrom 0 xs = occurrences s xs
  | [] => rfl
  | x :: xs => by
    by_cases h : s.isPrefixOf (x :: xs)
    · have hlen : 0 < s.length := List.length_pos.mpr hne
      have hskip : occurrences s xs = occurrences s (xs.drop (s.length - 1)) :=
        occurrences_drop _ xs fun i hi => by
          simpa using isPrefixOf_drop_eq_false hs (List.isPrefixOf_iff_prefix.mp h)
            (Nat.succ_pos i) (by omega)
      rw [countFrom, results, if_pos h, occurrences, if_pos h, List.head?_cons]
      dsimp only
      rw [countFrom_eq_drop, countFrom_lit_eq hs hne, hskip, Nat.add_comm]
    · rw [countFrom, results, if_neg h, occurrences, if_neg h, List.head?_nil,
        countFrom_lit_eq hs hne xs, Nat.zero_add]
termination_by xs => xs.length
decreasing_by all_goals simp_wf <;> omega

/-- **Superadditivity**: a border-free literal occurs in `c ++ t` at least as often as in `c` and
`t` together. -/
theorem countFrom_lit_append {s : List Char} (hs : BorderFree s) (hne : s ≠ []) (c t : List Char) :
    (lit s).countFrom 0 c + (lit s).countFrom 0 t ≤ (lit s).countFrom 0 (c ++ t) := by
  simp only [countFrom_lit_eq hs hne, occurrences_append]

end SpacewayScenarios.Re
