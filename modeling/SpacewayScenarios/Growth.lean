import SpacewayScenarios.Facts
import SpacewayScenarios.Regex.Stable
import SpacewayScenarios.Regex.Count

/-!
# Facts only grow with the log

Every instance's log is append-only (`Script.wp_log_grows`), and every later read of it
sees an extension of what an earlier read saw. This module says what each kind of fact the
scripts take from a log does under such an extension:

* **checks stay true**: what `check_log` found it finds again (`found_append`), plain text
  stays in (`occursIn_append`), and decrypt counts only grow, by at least the count of
  what was appended (`decrypts_append`);
* **extracted ids stay**: for the id patterns the first match, and with it the extracted
  value, is fixed once it appears (`firstGroup_append`), while the two greedy token
  patterns `(\w+)` can only extend it (`firstGroup_token_append`). Both come from
  `Re.NoStraddle` and `Re.FirstStays`, established here family by family: the lazy
  `Created <noun>: .+? \((id)\)`, the fixed-width patterns, and the listing rows, whose
  entries are shorter than an id.
-/

namespace SpacewayScenarios

open Re

/-! ### Checks stay true -/

theorem found_append {pattern : Re} {content : List Char} (t : List Char)
    (h : found pattern content = true) : found pattern (content ++ t) = true :=
  search_isSome_append t h

/-- A plain-text pattern is found exactly when the text occurs. -/
theorem found_text (s : String) (content : List Char) :
    found (Pat.text s) content = occursIn s content := by
  rw [Bool.eq_iff_iff, found, occursIn, decide_eq_true_iff]
  exact search_lit_isSome_iff _ _

theorem occursIn_append {s : String} {content : List Char} (t : List Char)
    (h : occursIn s content = true) : occursIn s (content ++ t) = true :=
  decide_eq_true ((of_decide_eq_true h).trans (List.infix_append [] content t))

theorem found_mono {pattern : Re} {c c' : List Char} (h : c <+: c')
    (hf : found pattern c = true) : found pattern c' = true := by
  obtain ⟨t, rfl⟩ := h
  exact found_append t hf

/-- What a pattern finds in a piece of the log it finds in the log. -/
theorem found_infix {pattern : Re} {l c : List Char} (h : l <:+: c)
    (hf : found pattern l = true) : found pattern c = true := by
  obtain ⟨u, v, rfl⟩ := h
  obtain ⟨q, hq, hr⟩ := (search_isSome_iff _ _).mp (found_append v hf)
  exact (search_isSome_iff _ _).mpr
    ⟨q, hq.trans (by rw [List.append_assoc]; exact List.suffix_append u (l ++ v)), hr⟩

theorem borderFree_decryptMarker : BorderFree "Decrypted MLS message".toList := by decide

/-- **The decrypt count counts every marker**: the marker overlaps no shifted copy of itself,
so `len(re.findall(r'Decrypted MLS message', content))`, which resumes its scan after each
match, is the number of positions of the log where the marker starts. -/
theorem decrypts_eq_occurrences (content : List Char) :
    decrypts content = Re.occurrences "Decrypted MLS message".toList content :=
  countFrom_lit_eq borderFree_decryptMarker (by decide) content

/-- **Decrypt counts are superadditive**: a log counts at least the decrypt markers of its
first part and of what was appended. -/
theorem decrypts_append (c t : List Char) : decrypts c + decrypts t ≤ decrypts (c ++ t) :=
  countFrom_lit_append borderFree_decryptMarker (by decide) c t

theorem decrypts_le_append (c t : List Char) : decrypts c ≤ decrypts (c ++ t) :=
  (Nat.le_add_right _ _).trans (decrypts_append c t)

theorem decrypts_mono {c c' : List Char} (h : c <+: c') : decrypts c ≤ decrypts c' := by
  obtain ⟨t, rfl⟩ := h
  exact decrypts_le_append c t

/-! ### Listing rows -/

/-- A character inside a run of spaces is not a hex digit. -/
theorem hex_test_eq_false_of_lt_run {xs : List Char} {q : Nat} {c : Char}
    (hq : q < run .space xs) (hc : xs[q]? = some c) : CharClass.hex.test c = false := by
  obtain ⟨c', hc', hs⟩ := getElem?_of_lt_run hq
  rw [hc] at hc'
  cases hc'
  exact CharClass.hex_test_eq_false_of_space hs

theorem listingRow_facts {e : Re} {ys : List Char} {m : Nat × Option (List Char)}
    (h : m ∈ (Pat.listingRow e).results ys) :
    (∀ i < 16, ∃ c, ys[i]? = some c ∧ CharClass.hex.test c = true) ∧
    ∃ a b, ∃ me ∈ e.results (ys.drop (19 + a + b)),
      m = (19 + a + b + me.1, me.2.or (some (ys.take 16))) ∧
      ∀ p, 16 ≤ p → p < 19 + a + b → ∀ c, ys[p]? = some c → CharClass.hex.test c = false := by
  simp only [Pat.listingRow, mem_results_seq] at h
  obtain ⟨m0, h0, m1, ⟨m2, h2, m3, ⟨m4, h4, m5, ⟨m6, h6, me, hme, rfl⟩, rfl⟩, rfl⟩, rfl⟩ := h
  simp [results] at h0 h2 h4 h6
  obtain ⟨_, ⟨⟨hlen, hhex⟩, rfl⟩, rfl⟩ := h0
  obtain ⟨a, ha, rfl⟩ := h2
  obtain ⟨hdash, rfl⟩ := h4
  obtain ⟨b, hb, rfl⟩ := h6
  simp only [List.drop_drop] at ha hdash hb hme
  refine ⟨fun i hi => ?_, a, b, me, by rwa [show 19 + a + b = 16 + (a + 1) + 1 + (b + 1) by omega],
    by simp; omega, fun p hp1 hp2 c hc => ?_⟩
  · have hi' : i < (ys.take 16).length := by simp; omega
    refine ⟨(ys.take 16)[i], ?_, hhex _ (List.getElem_mem hi')⟩
    rw [List.getElem_take]; exact List.getElem?_eq_getElem _
  · rcases (by omega : p < 17 + a ∨ p = 17 + a ∨ 18 + a ≤ p) with hp | rfl | hp
    · refine hex_test_eq_false_of_lt_run (show p - 16 < run .space (ys.drop 16) by omega) ?_
      rwa [List.getElem?_drop, show 16 + (p - 16) = p by omega]
    · obtain ⟨r, hr⟩ := hdash
      have h1 := congrArg (·[0]?) hr
      simp only [List.getElem?_drop, List.singleton_append, List.getElem?_cons_zero,
        Nat.add_zero, show 16 + (a + 1) = 17 + a by omega, hc, Option.some.injEq] at h1
      rw [← h1]; rfl
    · refine hex_test_eq_false_of_lt_run
        (show p - (18 + a) < run .space (ys.drop (16 + (a + 1) + 1)) by omega) ?_
      rwa [List.getElem?_drop, show 16 + (a + 1) + 1 + (p - (18 + a)) = p by omega]

/-- An entry of a listing row that captures nothing and is shorter than an id. -/
def ShortEntry (e : Re) : Prop := ∀ xs, ∀ m ∈ e.results xs, m.1 < 16 ∧ m.2 = none

theorem shortEntry_lit {s : List Char} (h : s.length < 16) : ShortEntry (.lit s) := by
  intro xs m hm
  simp only [results] at hm
  split at hm <;> simp_all

theorem shortEntry_quoted {k k' : CharClass} {s : List Char} (h : s.length + 2 < 16) :
    ShortEntry (.seq (.opt k) (.seq (.lit s) (.opt k'))) := by
  intro xs m hm
  simp only [mem_results_seq] at hm
  obtain ⟨m0, h0, m1, ⟨m2, h2, m3, h3, rfl⟩, rfl⟩ := hm
  have e0 : m0.1 ≤ 1 ∧ m0.2 = none := by
    simp only [results] at h0; split at h0 <;> simp at h0 <;> rcases h0 with rfl | rfl <;> simp
  have e3 : m3.1 ≤ 1 ∧ m3.2 = none := by
    simp only [results] at h3; split at h3 <;> simp at h3 <;> rcases h3 with rfl | rfl <;> simp
  have e2 : m2 = (s.length, none) := by
    simp only [results] at h2; split at h2 <;> simp_all
  subst e2
  simp only [e0.2, e3.2, Option.or_none, and_true]
  omega

/-- A listing row whose entry is shorter than an id cannot straddle: the sixteen hex digits of
the later row would have to lie in the earlier row's spaces and dash, where no hex digit is. -/
theorem noStraddle_listingRow {e : Re} (he : ShortEntry e) : NoStraddle (Pat.listingRow e) := by
  intro u q t hu h0 hq
  by_contra hne
  obtain ⟨m, hm⟩ := List.exists_mem_of_ne_nil _ hne
  obtain ⟨mq, hmq⟩ := List.exists_mem_of_ne_nil _ hq
  have hlt := length_lt_of_results_nil h0 hm
  have hle := fst_le_length _ q mq hmq
  obtain ⟨-, a, b, me, hme, rfl, hnot⟩ := listingRow_facts hm
  obtain ⟨hhex, a', b', me', -, rfl, -⟩ := listingRow_facts hmq
  have he' := (he _ me hme).1
  have hj : 0 < u.length := List.length_pos.mpr hu
  simp only [List.length_append] at hlt hle
  obtain ⟨c, hc, hhc⟩ := hhex (max u.length 16 - u.length) (by omega)
  have hpos : (u ++ q ++ t)[max u.length 16]? = some c := by
    rw [List.append_assoc, List.getElem?_append_right (by omega),
      List.getElem?_append_left (by omega), hc]
  have := hnot _ (by omega) (by omega) c hpos
  rw [hhc] at this
  exact Bool.noConfusion this

/-- Every match of a row carries the row's id. -/
theorem oneGroup_listingRow {e : Re} (he : ShortEntry e) : OneGroup (Pat.listingRow e) := by
  intro xs m hm m' hm'
  obtain ⟨-, a, b, me, hme, rfl, -⟩ := listingRow_facts hm
  obtain ⟨-, a', b', me', hme', rfl, -⟩ := listingRow_facts hm'
  simp [(he _ me hme).2, (he _ me' hme').2]

/-! ### Extracted ids stay -/

/-- A pattern whose extracted value is fixed once it appears. -/
def Keeps (pattern : Re) : Prop := NoStraddle pattern ∧ FirstStays pattern

theorem firstGroup_append {pattern : Re} (hp : Keeps pattern) {s : List Char} (t : List Char)
    {v : String} (h : firstGroup pattern s = some v) : firstGroup pattern (s ++ t) = some v := by
  simp only [firstGroup, Option.map_eq_some', Option.bind_eq_some, id] at h ⊢
  obtain ⟨g, ⟨o, hs, rfl⟩, rfl⟩ := h
  exact ⟨_, ⟨_, search_append_eq t hp.1 hp.2 hs, rfl⟩, rfl⟩

theorem keeps_createdId (noun : String) : Keeps (Pat.createdId noun) := by
  have hD := (width_lit " (".toList).seq ((width_rep .hex 16).group.seq (width_lit [')']))
  exact ⟨noStraddle_lazy hD,
    firstStays_of_ordered (Ordered.lit_seq _ ((ordered_plusLazy _).seq_width hD))⟩

theorem keeps_of_width {pattern : Re} {n : Nat} (h : Width pattern n) : Keeps pattern :=
  ⟨noStraddle_of_width h, firstStays_of_ordered h.ordered⟩

theorem keeps_createdNamedSpace (name : String) : Keeps (Pat.createdNamedSpace name) :=
  keeps_of_width ((width_lit _).seq ((width_rep .hex 16).group.seq (width_lit [')'])))

theorem keeps_labelled (label : String) (n : Nat) : Keeps (Pat.labelled label n) :=
  keeps_of_width ((width_lit _).seq (width_rep .hex n).group)

theorem keeps_listingRow {e : Re} (he : ShortEntry e) : Keeps (Pat.listingRow e) :=
  ⟨noStraddle_listingRow he, firstStays_of_oneGroup (oneGroup_listingRow he)⟩

/-- The greedy token patterns: the value extracted later extends the one extracted now. -/
theorem firstGroup_token_append (label : String) {s : List Char} (t : List Char) {v : String}
    (h : firstGroup (Pat.tokenAfter label) s = some v) :
    ∃ w, firstGroup (Pat.tokenAfter label) (s ++ t) = some (v ++ w) := by
  simp only [firstGroup, Option.map_eq_some', Option.bind_eq_some, id] at h ⊢
  obtain ⟨g, ⟨o, hs, rfl⟩, rfl⟩ := h
  obtain ⟨w, hw⟩ := search_append_token t hs
  exact ⟨⟨w⟩, _, ⟨_, hw, rfl⟩, rfl⟩

/-- A token missing from a later read was missing from every earlier one. -/
theorem firstGroup_token_eq_none {label : String} {s s' : List Char} (h : s <+: s')
    (h' : firstGroup (Pat.tokenAfter label) s' = none) : firstGroup (Pat.tokenAfter label) s = none := by
  cases hs : firstGroup (Pat.tokenAfter label) s with
  | none => rfl
  | some v =>
    obtain ⟨t, rfl⟩ := h
    obtain ⟨u, hu⟩ := firstGroup_token_append label t hs
    simp [hu] at h'

/-- A token found in a read is found in every later read. -/
theorem isSome_firstGroup_token_mono {label : String} {s s' : List Char} (h : s <+: s')
    (hs : (firstGroup (Pat.tokenAfter label) s).isSome = true) :
    (firstGroup (Pat.tokenAfter label) s').isSome = true := by
  cases h' : firstGroup (Pat.tokenAfter label) s' with
  | none => rwa [firstGroup_token_eq_none h h'] at hs
  | some _ => rfl

/-! ### What an extracted id says about the log -/

theorem captures_createdId (noun : String) : Captures (Pat.createdId noun) 16 :=
  (captures_lit _ _).seq ((captures_plusLazy _ _).seq
    ((captures_lit _ _).seq ((captures_group_rep _ _).seq (captures_lit _ _))))

theorem captures_createdNamedSpace (name : String) : Captures (Pat.createdNamedSpace name) 16 :=
  (captures_lit _ _).seq ((captures_group_rep _ _).seq (captures_lit _ _))

/-- A short id extracted by a pattern with a sixteen-digit group is never empty. -/
theorem firstGroup_ne_empty {pattern : Re} (hp : Captures pattern 16) {c : List Char} {v : String}
    (h : firstGroup pattern c = some v) : v ≠ "" := by
  simp only [firstGroup, Option.map_eq_some', Option.bind_eq_some, id] at h
  obtain ⟨g, ⟨o, hs, rfl⟩, rfl⟩ := h
  have hlen := length_of_search_eq_some hp hs
  intro h0
  have := congrArg String.length h0
  simp only [String.length, List.length_nil] at this
  omega

/-- A line extracted by a pattern that starts with literal text contains that text. -/
theorem infix_of_firstGroup {P : List Char} {b : Re} {c : List Char} {v : String}
    (h : firstGroup (.seq (.lit P) b) c = some v) : P <:+: c := by
  simp only [firstGroup, Option.map_eq_some', Option.bind_eq_some, id] at h
  obtain ⟨g, ⟨o, hs, rfl⟩, rfl⟩ := h
  obtain ⟨q, hq, m, hm, -⟩ := exists_of_search_eq_some hs
  obtain ⟨ma, hma, -, -, -⟩ := mem_results_seq.mp hm
  simp only [results] at hma
  split at hma
  · rename_i hP
    exact (List.isPrefixOf_iff_prefix.mp hP).isInfix.trans hq.isInfix
  · simp at hma

/-- The patterns the scripts pass to `find_in_log` whose extracted value is fixed once its line
has appeared: the created-space and created-thread ids, the named-space ids of
test-space-modes, the full space id, the user id, and the channel and thread rows. -/
def idPatterns : List Re :=
  [Pat.createdSpace, Pat.createdThread, Pat.createdNamedSpace "LightweightTest",
    Pat.createdNamedSpace "ExplicitMLS", Pat.fullSpaceId, Pat.userId, Pat.channelRow "general",
    Pat.threadRow "Kick Test", Pat.threadRow "Bidir Test", Pat.threadRow "E2EE Test"]

/-- The patterns the scripts pass to `find_in_log` that end in the greedy `(\w+)`. -/
def tokenPatterns : List Re := [Pat.inviteCode, Pat.peerId]

theorem keeps_of_mem_idPatterns {pattern : Re} (h : pattern ∈ idPatterns) : Keeps pattern := by
  simp only [idPatterns, List.mem_cons, List.mem_singleton, List.not_mem_nil, or_false] at h
  rcases h with rfl | rfl | rfl | rfl | rfl | rfl | rfl | rfl | rfl | rfl
  · exact keeps_createdId _
  · exact keeps_createdId _
  · exact keeps_createdNamedSpace _
  · exact keeps_createdNamedSpace _
  · exact keeps_labelled _ _
  · exact keeps_labelled _ _
  all_goals first
    | exact keeps_listingRow (shortEntry_lit (by decide))
    | exact keeps_listingRow (shortEntry_quoted (by decide))

/-- **What `find_in_log` extracts from an append-only log**: for the id patterns the value
extracted from `s` is extracted again from every extension `s ++ t`; for the two token
patterns the later value extends the earlier one. -/
theorem findInLog_append (s t : List Char) (v : String) :
    (∀ pattern ∈ idPatterns, firstGroup pattern s = some v →
      firstGroup pattern (s ++ t) = some v) ∧
    (∀ pattern ∈ tokenPatterns, firstGroup pattern s = some v →
      ∃ w, firstGroup pattern (s ++ t) = some (v ++ w)) := by
  refine ⟨fun pattern hp h => firstGroup_append (keeps_of_mem_idPatterns hp) t h,
    fun pattern hp h => ?_⟩
  simp only [tokenPatterns, List.mem_cons, List.mem_singleton, List.not_mem_nil, or_false] at hp
  rcases hp with rfl | rfl <;> exact firstGroup_token_append _ t h

theorem findInLog_append_witness :
    firstGroup Pat.createdSpace "Created space: kick-test (0123456789abcdef)".toList =
        some "0123456789abcdef" ∧
      firstGroup Pat.createdSpace
        ("Created space: kick-test (0123456789abcdef)".toList ++ "\nCreated space: x (fedcba9876543210)".toList) =
        some "0123456789abcdef" :=
  ⟨by decide, (findInLog_append _ _ _).1 _ (by simp [idPatterns]) (by decide)⟩

/-- A read that lands while `Peer ID: 12D3KooW...` is being written extracts a truncated
token, which the next read extends. -/
theorem peerId_read_grows :
    firstGroup Pat.peerId "Peer ID: 12D3".toList = some "12D3" ∧
      firstGroup Pat.peerId ("Peer ID: 12D3".toList ++ "KooW".toList) = some "12D3KooW" := by
  decide

end SpacewayScenarios
