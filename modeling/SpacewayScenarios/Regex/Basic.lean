import Mathlib.Data.List.Infix

/-!
# The pattern language of the scenario scripts

Every fact a scenario script reads from an engine's log goes through Python's `re`:
`find_in_log` returns group 1 of `re.search`, `check_log` whether `re.search` found
anything, and the decrypt counts are `len(re.findall(...))`. The patterns use a small
fragment of the syntax: literal text; the classes `[0-9a-f]`, `\w`, `\s` and `.`; the
quantifiers `{n}`, `+`, `+?`, `*` and `?`, each on a single class; alternation; and one
capturing group. `Re` is that fragment.

`Re.results r xs` lists **every** way `r` can match at the front of `xs`, in the order
Python's backtracking engine tries them: greedy quantifiers longest first, lazy ones
shortest first, the left alternative before the right. A result is the number of
characters consumed together with the text of group 1, when the match went through the
group. `re.search` keeps the first result at the first position where the list is
nonempty (`Re.search`), and `re.findall` collects the leftmost non-overlapping matches
(`Re.countFrom`).

Python's `\s` on `str` patterns matches the characters of `str.isspace()`, and so does the
model (`pySpaces`). Python's `\w` matches every Unicode letter and digit and `_`; the model's
`\w` is ASCII letters and digits and `_`, and leaves out the other Unicode letters and digits.
-/

namespace SpacewayScenarios

/-- A one-character class of the pattern fragment. -/
inductive CharClass where
  /-- The character itself, as in `\(`, `-` or `"`. -/
  | lit (c : Char)
  /-- Lowercase hex digits `[0-9a-f]`. -/
  | hex
  /-- Word characters `\w`, here ASCII letters and digits and `_`. -/
  | word
  /-- Whitespace `\s`. -/
  | space
  /-- Any character but a newline, `.`. -/
  | dot
  deriving DecidableEq, Repr

/-- The characters Python's `\s` matches in a `str` pattern: those of `str.isspace()`, the
Unicode whitespace. -/
def pySpaces : List Char :=
  ['\t', '\n', '\x0b', '\x0c', '\r', '\x1c', '\x1d', '\x1e', '\x1f', ' ', '\x85', '\xa0',
    '\u1680', '\u2000', '\u2001', '\u2002', '\u2003', '\u2004', '\u2005', '\u2006', '\u2007',
    '\u2008', '\u2009', '\u200a', '\u2028', '\u2029', '\u202f', '\u205f', '\u3000']

/-- Membership of a character in a class. -/
def CharClass.test : CharClass → Char → Bool
  | lit c, d => d == c
  | hex, d => d.isDigit || decide ('a' ≤ d ∧ d ≤ 'f')
  | word, d => d.isAlphanum || d == '_'
  | space, d => pySpaces.contains d
  | dot, d => d != '\n'

/-- A whitespace character is no hex digit. -/
theorem CharClass.hex_test_eq_false_of_space {c : Char} (h : CharClass.space.test c = true) :
    CharClass.hex.test c = false := by
  have hall : ∀ d ∈ pySpaces, CharClass.hex.test d = false := by decide
  exact hall c (by simpa [CharClass.test] using h)

/-- The regular-expression fragment of the scripts' patterns. -/
inductive Re where
  /-- A run of literal characters. -/
  | lit (s : List Char)
  /-- Exactly `n` characters of class `k`, `k{n}`. -/
  | rep (k : CharClass) (n : Nat)
  /-- Greedy `k+`. -/
  | plus (k : CharClass)
  /-- Lazy `k+?`. -/
  | plusLazy (k : CharClass)
  /-- Greedy `k*`. -/
  | star (k : CharClass)
  /-- Greedy `k?`. -/
  | opt (k : CharClass)
  /-- Concatenation. -/
  | seq (a b : Re)
  /-- Alternation `a|b`. -/
  | alt (a b : Re)
  /-- The capturing group 1. -/
  | group (a : Re)
  deriving DecidableEq, Repr

namespace Re

/-- The length of the longest run of class-`k` characters at the front of `xs`. -/
def run (k : CharClass) (xs : List Char) : Nat := (xs.takeWhile k.test).length

/-- Every match of `r` at the front of `xs`, in backtracking order: the number of
characters consumed, and group 1's text when the match went through the group. -/
def results : Re → List Char → List (Nat × Option (List Char))
  | lit s, xs => if s.isPrefixOf xs then [(s.length, none)] else []
  | rep k n, xs => if n ≤ xs.length ∧ (xs.take n).all k.test then [(n, none)] else []
  | plus k, xs => ((List.range (run k xs)).map fun i => (i + 1, none)).reverse
  | plusLazy k, xs => (List.range (run k xs)).map fun i => (i + 1, none)
  | star k, xs => ((List.range (run k xs + 1)).map fun i => (i, none)).reverse
  | opt k, xs => if xs.head?.any k.test then [(1, none), (0, none)] else [(0, none)]
  | seq a b, xs => (results a xs).flatMap fun m =>
      (results b (xs.drop m.1)).map fun m' => (m.1 + m'.1, m'.2.or m.2)
  | alt a b, xs => results a xs ++ results b xs
  | group a, xs => (results a xs).map fun m => (m.1, some (xs.take m.1))

/-- Python's `re.search`: the first result at the first start position where `r` matches; the
value is that result's group 1. -/
def search (r : Re) : List Char → Option (Option (List Char))
  | [] => (results r []).head?.map Prod.snd
  | x :: xs =>
    match (results r (x :: xs)).head? with
    | some m => some m.2
    | none => search r xs

/-- The leftmost non-overlapping matches from `xs` on, while `skip` characters of the
previous match remain to be passed over: `len(re.findall(r, s))` is `countFrom r 0 s`
for the patterns the scripts count, none of which matches the empty string. -/
def countFrom (r : Re) : Nat → List Char → Nat
  | _, [] => 0
  | k + 1, _ :: xs => countFrom r k xs
  | 0, x :: xs =>
    match (results r (x :: xs)).head? with
    | some m => countFrom r (m.1 - 1) xs + 1
    | none => countFrom r 0 xs

end Re

end SpacewayScenarios
