import SpacewayScenarios.Regex.Locality
import SpacewayScenarios.Facts

/-!
# What a pattern means

`Re.results` is the backtracking engine of Python's `re` on the scripts' fragment: it lists
the matches at the front of a text **in the order the engine tries them**. What a pattern
matches, that order apart, is a regular language with one capture (`Re.Accepts`): a literal
is itself, `k{n}` is `n` characters of class `k`, `k+` and `k+?` one or more, `k*` any
number and `k?` at most one, a concatenation splits the text, and the group captures what
its body matched.

The engine **refines** this meaning exactly: the matches it lists at the front of `xs` are
the prefixes of `xs` the pattern accepts, each with its capture (`mem_results_iff`), one
direction per constructor (`accepts_of_mem_results`, `mem_results_of_accepts`). So

* `check_log` answers whether the pattern accepts some piece of the log (`found_iff`);
* what `find_in_log` returns is the capture of a piece of the log the pattern accepts
  (`exists_accepts_of_firstGroup`).
-/

namespace SpacewayScenarios

namespace Re

/-- The declarative meaning of a pattern: `r` matches the whole of `x`, with group 1
capturing `g`, or `g = none` when the match does not pass through the group. -/
def Accepts : Re → List Char → Option (List Char) → Prop
  | lit s, x, g => x = s ∧ g = none
  | rep k n, x, g => x.length = n ∧ x.all k.test ∧ g = none
  | plus k, x, g | plusLazy k, x, g => 0 < x.length ∧ x.all k.test ∧ g = none
  | star k, x, g => x.all k.test ∧ g = none
  | opt k, x, g => x.length ≤ 1 ∧ x.all k.test ∧ g = none
  | seq a b, x, g => ∃ x₁ x₂ g₁ g₂, x = x₁ ++ x₂ ∧ Accepts a x₁ g₁ ∧ Accepts b x₂ g₂ ∧ g = g₂.or g₁
  | alt a b, x, g => Accepts a x g ∨ Accepts b x g
  | group a, x, g => (∃ g', Accepts a x g') ∧ g = some x

/-! ### The engine's matches are accepted -/

/-- The first `i ≤ run k xs` characters of `xs` are in class `k`. -/
theorem all_take_of_le_run {k : CharClass} {xs : List Char} {i : Nat} (h : i ≤ run k xs) :
    (xs.take i).all k.test := by
  have hp : xs.take i <+: xs.takeWhile k.test :=
    List.prefix_of_prefix_length_le (List.take_prefix i xs) (List.takeWhile_prefix _)
      (by simp only [List.length_take, run] at h ⊢; omega)
  exact List.all_eq_true.2 fun c hc => List.mem_takeWhile_imp (hp.subset hc)

/-- A class run at the front of `x ++ t` covers `x` when every character of `x` is in the
class. -/
theorem length_le_run {k : CharClass} {x : List Char} (hx : x.all k.test) (t : List Char) :
    x.length ≤ run k (x ++ t) := by
  have h := min_run_append k x t
  have hx' : run k x = x.length := by
    simp only [run, List.takeWhile_eq_self_iff.mpr (by simpa using hx)]
  omega

/-- **Soundness of the engine**: every match it lists at the front of `xs` consumes a prefix
of `xs` that the pattern accepts, with the match's capture. -/
theorem accepts_of_mem_results :
    ∀ (r : Re) (xs : List Char), ∀ m ∈ r.results xs, m.1 ≤ xs.length ∧ r.Accepts (xs.take m.1) m.2
  | lit s, xs, m, h => by
    simp only [results] at h
    split at h <;> simp only [List.mem_singleton, List.not_mem_nil] at h
    rename_i hs
    subst h
    have hs := List.isPrefixOf_iff_prefix.mp hs
    exact ⟨hs.length_le, (List.prefix_iff_eq_take.mp hs).symm, rfl⟩
  | rep k n, xs, m, h => by
    simp only [results] at h
    split at h <;> simp only [List.mem_singleton, List.not_mem_nil] at h
    rename_i hn
    subst h
    exact ⟨hn.1, by simp [hn.1], hn.2, rfl⟩
  | plus k, xs, m, h | plusLazy k, xs, m, h => by
    simp only [results, List.mem_reverse, List.mem_map, List.mem_range] at h
    obtain ⟨i, hi, rfl⟩ := h
    have hle := run_le_length k xs
    exact ⟨by omega, by simp; omega, all_take_of_le_run (by omega), rfl⟩
  | star k, xs, m, h => by
    simp only [results, List.mem_reverse, List.mem_map, List.mem_range] at h
    obtain ⟨i, hi, rfl⟩ := h
    have hle := run_le_length k xs
    exact ⟨by omega, all_take_of_le_run (by omega), rfl⟩
  | opt k, xs, m, h => by
    simp only [results] at h
    split at h
    · rename_i hk
      cases xs with
      | nil => simp at hk
      | cons c cs =>
        simp only [List.head?_cons, Option.any_some] at hk
        simp only [List.mem_cons, List.mem_singleton, List.not_mem_nil, or_false] at h
        rcases h with rfl | rfl <;> simp [Accepts, hk]
    · simp only [List.mem_singleton] at h
      subst h
      simp [Accepts]
  | seq a b, xs, m, h => by
    obtain ⟨ma, ha, mb, hb, rfl⟩ := mem_results_seq.mp h
    obtain ⟨hla, hacc⟩ := accepts_of_mem_results a xs ma ha
    obtain ⟨hlb, hbcc⟩ := accepts_of_mem_results b _ mb hb
    simp only [List.length_drop] at hlb
    exact ⟨by simp only; omega, _, _, _, _, List.take_add .., hacc, hbcc, rfl⟩
  | alt a b, xs, m, h => by
    simp only [results, List.mem_append] at h
    rcases h with h | h
    · exact (accepts_of_mem_results a xs m h).imp_right .inl
    · exact (accepts_of_mem_results b xs m h).imp_right .inr
  | group a, xs, m, h => by
    simp only [results, List.mem_map] at h
    obtain ⟨m', h', rfl⟩ := h
    obtain ⟨hl, hacc⟩ := accepts_of_mem_results a xs m' h'
    exact ⟨hl, ⟨_, hacc⟩, rfl⟩

/-! ### Every accepted prefix is among the engine's matches -/

/-- **Completeness of the engine**: a piece `x` the pattern accepts is a match at the front of
`x ++ t`, whatever follows it, with its capture. -/
theorem mem_results_of_accepts :
    ∀ (r : Re) (x : List Char) (g : Option (List Char)), r.Accepts x g →
      ∀ t, (x.length, g) ∈ r.results (x ++ t)
  | lit s, x, g, ⟨hx, hg⟩, t => by
    subst hx hg
    simp [results, List.isPrefixOf_iff_prefix]
  | rep k n, x, g, ⟨hn, hx, hg⟩, t => by
    subst hn hg
    simp [results, hx]
  | plus k, x, g, ⟨hn, hx, hg⟩, t | plusLazy k, x, g, ⟨hn, hx, hg⟩, t => by
    subst hg
    have := length_le_run hx t
    simp only [results, List.mem_reverse, List.mem_map, List.mem_range, Prod.mk.injEq, and_true]
    exact ⟨x.length - 1, by omega, by omega⟩
  | star k, x, g, ⟨hx, hg⟩, t => by
    subst hg
    have := length_le_run hx t
    simp only [results, List.mem_reverse, List.mem_map, List.mem_range, Prod.mk.injEq, and_true]
    exact ⟨x.length, by omega, rfl⟩
  | opt k, x, g, ⟨hn, hx, hg⟩, t => by
    subst hg
    match x, hn, hx with
    | [], _, _ => simp only [results]; split <;> simp
    | [c], _, hc => simp_all [results]
  | seq a b, _, _, ⟨x₁, x₂, g₁, g₂, rfl, h₁, h₂, rfl⟩, t => by
    rw [List.append_assoc]
    refine mem_results_seq.mpr ⟨_, mem_results_of_accepts a x₁ g₁ h₁ (x₂ ++ t), (x₂.length, g₂),
      ?_, by simp⟩
    simpa using mem_results_of_accepts b x₂ g₂ h₂ t
  | alt a b, x, g, h, t => by
    simp only [results, List.mem_append]
    exact h.imp (mem_results_of_accepts a x g · t) (mem_results_of_accepts b x g · t)
  | group a, x, _, ⟨⟨g', h⟩, rfl⟩, t => by
    simp only [results, List.mem_map]
    exact ⟨_, mem_results_of_accepts a x g' h t, by simp⟩

/-- **The engine refines the meaning**: its matches at the front of `xs` are exactly the
prefixes of `xs` that the pattern accepts, each with its capture. -/
theorem mem_results_iff (r : Re) (xs : List Char) (n : Nat) (g : Option (List Char)) :
    (n, g) ∈ r.results xs ↔ n ≤ xs.length ∧ r.Accepts (xs.take n) g := by
  refine ⟨accepts_of_mem_results r xs _, fun ⟨hn, h⟩ => ?_⟩
  have := mem_results_of_accepts r _ g h (xs.drop n)
  rwa [List.take_append_drop, List.length_take, min_eq_left hn] at this

end Re

/-! ### What the helpers compute -/

/-- `check_log` finds the pattern exactly when it accepts some piece of the log. -/
theorem found_iff (pattern : Re) (c : List Char) :
    found pattern c = true ↔ ∃ x g, x <:+: c ∧ pattern.Accepts x g := by
  rw [found, Re.search_isSome_iff]
  constructor
  · rintro ⟨q, hq, hne⟩
    obtain ⟨m, hm⟩ := List.exists_mem_of_ne_nil _ hne
    obtain ⟨-, h⟩ := Re.accepts_of_mem_results pattern q m hm
    exact ⟨_, _, (List.take_prefix _ _).isInfix.trans hq.isInfix, h⟩
  · rintro ⟨x, g, ⟨u, t, rfl⟩, h⟩
    exact ⟨x ++ t, ⟨u, (List.append_assoc _ _ _).symm⟩,
      List.ne_nil_of_mem (Re.mem_results_of_accepts pattern x g h t)⟩

/-- What `find_in_log` returns is the capture of a piece of the log the pattern accepts. -/
theorem exists_accepts_of_firstGroup {pattern : Re} {c : List Char} {v : String}
    (h : firstGroup pattern c = some v) : ∃ x, x <:+: c ∧ pattern.Accepts x (some v.toList) := by
  simp only [firstGroup, Option.map_eq_some', Option.bind_eq_some, id] at h
  obtain ⟨g, ⟨o, hs, rfl⟩, rfl⟩ := h
  obtain ⟨q, hq, m, hm, hg⟩ := Re.exists_of_search_eq_some hs
  obtain ⟨-, hacc⟩ := Re.accepts_of_mem_results pattern q m hm
  exact ⟨_, (List.take_prefix _ _).isInfix.trans hq.isInfix, hg ▸ hacc⟩


/-! ### Parts that capture nothing -/

namespace Re

/-- The pattern captures nothing, whatever it matches. -/
def Free (r : Re) : Prop := ∀ y g, r.Accepts y g → g = none

theorem free_lit (s : List Char) : Free (lit s) := fun _ _ h => h.2

theorem free_plus (k : CharClass) : Free (plus k) := fun _ _ h => h.2.2

theorem free_plusLazy (k : CharClass) : Free (plusLazy k) := fun _ _ h => h.2.2

theorem free_opt (k : CharClass) : Free (opt k) := fun _ _ h => h.2.2

theorem Free.seq {a b : Re} (ha : Free a) (hb : Free b) : Free (seq a b) := by
  rintro _ _ ⟨_, _, _, _, rfl, h₁, h₂, rfl⟩
  rw [ha _ _ h₁, hb _ _ h₂]
  rfl

/-- A part in front that captures nothing leaves the capture to what follows it. -/
theorem accepts_seq_of_free {a b : Re} (ha : Free a) {x : List Char} {g : Option (List Char)} :
    (seq a b).Accepts x g ↔ ∃ y z, x = y ++ z ∧ (∃ g', a.Accepts y g') ∧ b.Accepts z g := by
  constructor
  · rintro ⟨y, z, g₁, g₂, rfl, h₁, h₂, rfl⟩
    obtain rfl := ha y g₁ h₁
    exact ⟨y, z, rfl, ⟨_, h₁⟩, by simpa using h₂⟩
  · rintro ⟨y, z, rfl, ⟨g', h₁⟩, h₂⟩
    obtain rfl := ha y g' h₁
    exact ⟨y, z, none, g, rfl, h₁, h₂, by simp⟩

/-- A part behind that captures nothing leaves the capture to what precedes it. -/
theorem accepts_seq_of_free_right {a b : Re} (hb : Free b) {x : List Char}
    {g : Option (List Char)} :
    (seq a b).Accepts x g ↔ ∃ y z, x = y ++ z ∧ a.Accepts y g ∧ ∃ g', b.Accepts z g' := by
  constructor
  · rintro ⟨y, z, g₁, g₂, rfl, h₁, h₂, rfl⟩
    obtain rfl := hb z g₂ h₂
    exact ⟨y, z, rfl, by simpa using h₁, _, h₂⟩
  · rintro ⟨y, z, rfl, h₁, g', h₂⟩
    obtain rfl := hb z g' h₂
    exact ⟨y, z, g, none, rfl, h₁, h₂, by simp⟩

theorem accepts_group_rep {k : CharClass} {n : Nat} {x : List Char} {g : Option (List Char)} :
    (group (rep k n)).Accepts x g ↔ (x.length = n ∧ x.all k.test) ∧ g = some x := by
  simp [Accepts]

theorem accepts_group_plus {k : CharClass} {x : List Char} {g : Option (List Char)} :
    (group (plus k)).Accepts x g ↔ (0 < x.length ∧ x.all k.test) ∧ g = some x := by
  simp [Accepts]

/-- What `"?` matches: nothing or one double quote. -/
theorem eq_nil_or_quote_of_accepts {q : List Char} {g : Option (List Char)}
    (h : (opt (.lit '"')).Accepts q g) : q = [] ∨ q = ['"'] := by
  obtain ⟨hl, hall, -⟩ := h
  match q, hl, hall with
  | [], _, _ => exact .inl rfl
  | [c], _, hc => exact .inr (by simpa [CharClass.test] using hc)

end Re

/-! ### What the scripts' patterns extract -/

/-- `v` is `n` lowercase hex digits, what `([0-9a-f]{n})` captures. -/
def HexDigits (n : Nat) (v : List Char) : Prop := v.length = n ∧ v.all CharClass.hex.test

/-- `s` is a nonempty run of class `k`, what `k+` matches. -/
def RunOf (k : CharClass) (s : List Char) : Prop := 0 < s.length ∧ s.all k.test

open Re

theorem createdId_printed {noun : String} {c : List Char} {v : String}
    (h : firstGroup (Pat.createdId noun) c = some v) : HexDigits 16 v.toList ∧
      ∃ name, RunOf .dot name ∧
        ("Created " ++ noun ++ ": ").toList ++ name ++ " (".toList ++ v.toList ++ [')'] <:+: c := by
  obtain ⟨_, hx, h₀⟩ := exists_accepts_of_firstGroup h
  obtain ⟨_, _, rfl, ⟨_, rfl, -⟩, h₁⟩ := (accepts_seq_of_free (free_lit _)).1 h₀
  obtain ⟨name, _, rfl, ⟨_, hname⟩, h₂⟩ := (accepts_seq_of_free (free_plusLazy _)).1 h₁
  obtain ⟨_, _, rfl, ⟨_, rfl, -⟩, h₃⟩ := (accepts_seq_of_free (free_lit _)).1 h₂
  obtain ⟨_, _, rfl, h₄, _, rfl, -⟩ := (accepts_seq_of_free_right (free_lit _)).1 h₃
  obtain ⟨hid, hv⟩ := accepts_group_rep.1 h₄
  obtain rfl := Option.some.inj hv
  exact ⟨hid, name, ⟨hname.1, hname.2.1⟩, by simpa only [List.append_assoc] using hx⟩

theorem createdNamedSpace_printed {name : String} {c : List Char} {v : String}
    (h : firstGroup (Pat.createdNamedSpace name) c = some v) : HexDigits 16 v.toList ∧
      ("Created space: " ++ name ++ " (").toList ++ v.toList ++ [')'] <:+: c := by
  obtain ⟨_, hx, h₀⟩ := exists_accepts_of_firstGroup h
  obtain ⟨_, _, rfl, ⟨_, rfl, -⟩, h₁⟩ := (accepts_seq_of_free (free_lit _)).1 h₀
  obtain ⟨_, _, rfl, h₂, _, rfl, -⟩ := (accepts_seq_of_free_right (free_lit _)).1 h₁
  obtain ⟨hid, hv⟩ := accepts_group_rep.1 h₂
  obtain rfl := Option.some.inj hv
  exact ⟨hid, by simpa only [List.append_assoc] using hx⟩

theorem labelled_printed {label : String} {n : Nat} {c : List Char} {v : String}
    (h : firstGroup (Pat.labelled label n) c = some v) :
    HexDigits n v.toList ∧ label.toList ++ v.toList <:+: c := by
  obtain ⟨_, hx, h₀⟩ := exists_accepts_of_firstGroup h
  obtain ⟨_, _, rfl, ⟨_, rfl, -⟩, h₁⟩ := (accepts_seq_of_free (free_lit _)).1 h₀
  obtain ⟨hid, hv⟩ := accepts_group_rep.1 h₁
  obtain rfl := Option.some.inj hv
  exact ⟨hid, hx⟩

theorem tokenAfter_printed {label : String} {c : List Char} {v : String}
    (h : firstGroup (Pat.tokenAfter label) c = some v) :
    RunOf .word v.toList ∧ label.toList ++ v.toList <:+: c := by
  obtain ⟨_, hx, h₀⟩ := exists_accepts_of_firstGroup h
  obtain ⟨_, _, rfl, ⟨_, rfl, -⟩, h₁⟩ := (accepts_seq_of_free (free_lit _)).1 h₀
  obtain ⟨hid, hv⟩ := accepts_group_plus.1 h₁
  obtain rfl := Option.some.inj hv
  exact ⟨hid, hx⟩

/-- A listing row whose entry captures nothing: the id, a run of spaces, a dash, a run of
spaces and a piece the entry accepts. -/
theorem listingRow_printed {entry : Re} (he : Free entry) {c : List Char} {v : String}
    (h : firstGroup (Pat.listingRow entry) c = some v) : HexDigits 16 v.toList ∧
      ∃ s₁ s₂ y, RunOf .space s₁ ∧ RunOf .space s₂ ∧ (∃ g, entry.Accepts y g) ∧
        v.toList ++ s₁ ++ '-' :: s₂ ++ y <:+: c := by
  obtain ⟨_, hx, h₀⟩ := exists_accepts_of_firstGroup h
  obtain ⟨_, _, rfl, h₁, _, h₂⟩ := (accepts_seq_of_free_right
    ((free_plus _).seq ((free_lit _).seq ((free_plus _).seq he)))).1 h₀
  obtain ⟨hid, hv⟩ := accepts_group_rep.1 h₁
  obtain rfl := Option.some.inj hv
  obtain ⟨s₁, _, rfl, ⟨_, hs₁⟩, h₃⟩ := (accepts_seq_of_free (free_plus _)).1 h₂
  obtain ⟨_, _, rfl, ⟨_, rfl, -⟩, h₄⟩ := (accepts_seq_of_free (free_lit _)).1 h₃
  obtain ⟨s₂, y, rfl, ⟨_, hs₂⟩, hy⟩ := (accepts_seq_of_free (free_plus _)).1 h₄
  exact ⟨hid, s₁, s₂, y, ⟨hs₁.1, hs₁.2.1⟩, ⟨hs₂.1, hs₂.2.1⟩, ⟨_, hy⟩,
    by simpa only [List.append_assoc, List.cons_append, List.singleton_append] using hx⟩

/-- **What `find_in_log` extracts was printed in the pattern's form**: every value the
scripts' patterns extract from a log is a piece of that log in the form the pattern
describes. The short ids of created spaces and threads and of listing rows are sixteen
lowercase hex digits, printed in the creation line or in a row with the channel's name or
the thread's title; the full space id and the user ids are the hex digits printed after
their label; the invite code and the peer id are runs of word characters printed after
theirs. -/
theorem extracted_ids_printed (c : List Char) (v : String) :
    (∀ noun, firstGroup (Pat.createdId noun) c = some v → HexDigits 16 v.toList ∧
      ∃ name, RunOf .dot name ∧
        ("Created " ++ noun ++ ": ").toList ++ name ++ " (".toList ++ v.toList ++ [')'] <:+: c) ∧
    (∀ name, firstGroup (Pat.createdNamedSpace name) c = some v → HexDigits 16 v.toList ∧
      ("Created space: " ++ name ++ " (").toList ++ v.toList ++ [')'] <:+: c) ∧
    (∀ label n, firstGroup (Pat.labelled label n) c = some v →
      HexDigits n v.toList ∧ label.toList ++ v.toList <:+: c) ∧
    (∀ label, firstGroup (Pat.tokenAfter label) c = some v →
      RunOf .word v.toList ∧ label.toList ++ v.toList <:+: c) ∧
    (∀ name, firstGroup (Pat.channelRow name) c = some v → HexDigits 16 v.toList ∧
      ∃ s₁ s₂, RunOf .space s₁ ∧ RunOf .space s₂ ∧
        v.toList ++ s₁ ++ '-' :: s₂ ++ name.toList <:+: c) ∧
    (∀ title, firstGroup (Pat.threadRow title) c = some v → HexDigits 16 v.toList ∧
      ∃ s₁ s₂ q₁ q₂, RunOf .space s₁ ∧ RunOf .space s₂ ∧ (q₁ = [] ∨ q₁ = ['"']) ∧
        (q₂ = [] ∨ q₂ = ['"']) ∧
        v.toList ++ s₁ ++ '-' :: s₂ ++ q₁ ++ title.toList ++ q₂ <:+: c) := by
  refine ⟨fun _ => createdId_printed, fun _ => createdNamedSpace_printed,
    fun _ _ => labelled_printed, fun _ => tokenAfter_printed, fun _ h => ?_, fun _ h => ?_⟩
  · obtain ⟨hid, s₁, s₂, _, h₁, h₂, ⟨_, rfl, -⟩, hx⟩ := listingRow_printed (free_lit _) h
    exact ⟨hid, s₁, s₂, h₁, h₂, hx⟩
  · obtain ⟨hid, s₁, s₂, _, h₁, h₂, ⟨_, hy⟩, hx⟩ :=
      listingRow_printed ((free_opt _).seq ((free_lit _).seq (free_opt _))) h
    obtain ⟨q₁, _, rfl, ⟨_, hq₁⟩, hy⟩ := (accepts_seq_of_free (free_opt _)).1 hy
    obtain ⟨_, q₂, rfl, ⟨_, rfl, -⟩, hq₂⟩ := (accepts_seq_of_free (free_lit _)).1 hy
    exact ⟨hid, s₁, s₂, q₁, q₂, h₁, h₂, eq_nil_or_quote_of_accepts hq₁,
      eq_nil_or_quote_of_accepts hq₂, by simpa only [List.append_assoc] using hx⟩

end SpacewayScenarios
